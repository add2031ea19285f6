/-
Offsets in a document and the faults of reading it. Every reader that loading a dump relies on either
gives a result or a fault of the families that mean a malformed dump, with one exception: an infinite
number has no whole part. Such a number only matters where offsets are read, as one of the two items
of a `range` or as a `start` or `end`; and what a reader takes out of a document has no infinite
offset that the document has not.
-/
import CatchAudit.Document.Access
import CatchAudit.Dump.Load
import CatchAudit.Proofs.Outcome

namespace CatchAudit

namespace Document

def IsInfinite : Document → Prop
  | .float (.infinite _) => True
  | _ => False

/-- Somewhere in the document an object gives an infinite number as an offset. -/
inductive HasInfiniteOffset : Document → Prop
  | range {members : List (String × Document)} {a b : Document} :
    memberOf? "range" members = some (.list [a, b]) → a.IsInfinite ∨ b.IsInfinite →
      HasInfiniteOffset (.object members)
  | bound {members : List (String × Document)} {name : String} {d : Document} :
    name = "start" ∨ name = "end" → memberOf? name members = some d → d.IsInfinite →
      HasInfiniteOffset (.object members)
  | member {members : List (String × Document)} {name : String} {d : Document} :
    (name, d) ∈ members → HasInfiniteOffset d → HasInfiniteOffset (.object members)
  | item {items : List Document} {d : Document} :
    d ∈ items → HasInfiniteOffset d → HasInfiniteOffset (.list items)

/-- If `d` has an infinite offset, so has `root`. -/
def Below (root d : Document) : Prop := d.HasInfiniteOffset → root.HasInfiniteOffset

end Document

/-- The fault makes a dump malformed, or it is about an infinite number, and `root` has one for an offset. -/
def Fault.Expected (root : Document) (f : Fault) : Prop :=
  Dump.isMalformation f.family = true ∨ f = .infinityToInteger ∧ root.HasInfiniteOffset

namespace Document

variable {root d : Document}

theorem below_self : root.Below root := id

theorem below_null : root.Below .null := by
  intro h
  cases h

theorem below_text (s : String) : root.Below (.text s) := by
  intro h
  cases h

theorem below_empty : root.Below (.list []) := by
  intro h
  cases h with
  | item hmem _ => cases hmem

theorem Below.of_mem {members : List (String × Document)} {name : String} (h : root.Below (.object members))
    (hmem : (name, d) ∈ members) : root.Below d := fun hd => h (.member hmem hd)

theorem Below.of_item {items : List Document} (h : root.Below (.list items)) (hmem : d ∈ items) : root.Below d :=
  fun hd => h (.item hmem hd)

/-! ## Members and items -/

theorem get_answers (name : String) (h : root.Below d) : Answers (Fault.Expected root) root.Below (d.get name) := by
  cases d with
  | object members =>
    show root.Below ((memberOf? name members).getD .null)
    rcases hm : memberOf? name members with _ | m
    · exact below_null
    · exact h.of_mem (mem_of_memberOf? hm)
  | _ => exact .inl rfl

theorem getD_answers (name : String) (h : root.Below d) :
    Answers (Fault.Expected root) root.Below (d.getD name (.list [])) := by
  cases d with
  | object members =>
    show root.Below ((memberOf? name members).getD (.list []))
    rcases hm : memberOf? name members with _ | m
    · exact below_empty
    · exact h.of_mem (mem_of_memberOf? hm)
  | _ => exact .inl rfl

theorem iterate_answers (h : root.Below d) :
    Answers (Fault.Expected root) (fun items => ∀ d ∈ items, root.Below d) d.iterate := by
  cases d with
  | list items => exact fun d hd => h.of_item hd
  | text s =>
    intro d hd
    obtain ⟨c, -, rfl⟩ := List.mem_map.1 hd
    exact below_text _
  | object members =>
    intro d hd
    obtain ⟨m, -, rfl⟩ := List.mem_map.1 hd
    exact below_text _
  | _ => exact .inl rfl

theorem asKey_answers : Answers (Fault.Expected root) (fun _ => True) d.asKey := by
  cases d with
  | list items => exact .inl rfl
  | object members => exact .inl rfl
  | _ => trivial

theorem require_answers (name : String) : Answers (Fault.Expected root) (fun _ => True) (d.require name) := by
  cases d with
  | object members =>
    rcases hm : memberOf? name members with _ | m <;> simp only [require, hm]
    · exact .inl rfl
    · trivial
  | _ => exact .inl rfl

/-! ## Offsets -/

theorem toInteger_answers (h : d.IsInfinite → root.HasInfiniteOffset) :
    Answers (Fault.Expected root) (fun _ => True) d.toInteger := by
  cases d with
  | float x =>
    cases x with
    | nan => exact .inl rfl
    -- the one fault of another family
    | infinite negative => exact .inr ⟨rfl, h trivial⟩
    | finite negative mantissa exponent => trivial
  | text s =>
    rcases hi : Text.integer s.toList with (_ | digits) | i <;> simp only [toInteger, hi]
    · exact .inl rfl
    · exact .inl rfl
    · trivial
  | int i => trivial
  | bool b => trivial
  | _ => exact .inl rfl

/-- Of all `contents?`, only the items of a list can be numbers. -/
theorem eq_list_of_contents? {items : List Document} (h : d.contents? = some items)
    (hinf : ∃ x ∈ items, x.IsInfinite) : d = .list items := by
  obtain ⟨x, hx, hxi⟩ := hinf
  cases d with
  | list own => cases h; rfl
  | text s =>
    cases h
    obtain ⟨c, -, rfl⟩ := List.mem_map.1 hx
    cases hxi
  | object members =>
    cases h
    obtain ⟨m, -, rfl⟩ := List.mem_map.1 hx
    cases hxi
  | _ => cases h

theorem pair_answers :
    Answers (Fault.Expected root) (fun p => p.1.IsInfinite ∨ p.2.IsInfinite → d = .list [p.1, p.2]) d.pair := by
  unfold pair
  rcases hc : d.contents? with _ | _ | ⟨a, _ | ⟨b, _ | ⟨c, rest⟩⟩⟩
  · exact .inl rfl
  · exact .inl rfl
  · exact .inl rfl
  · rintro (h | h)
    · exact eq_list_of_contents? hc ⟨a, by simp, h⟩
    · exact eq_list_of_contents? hc ⟨b, by simp, h⟩
  · exact .inl rfl

/-- Two offsets, the second read after the first. -/
theorem offsets_answers {a b : Document} (h : a.IsInfinite ∨ b.IsInfinite → root.HasInfiniteOffset) :
    Answers (Fault.Expected root) (fun _ => True) (do
      let start ← a.toInteger
      let stop ← b.toInteger
      return (⟨start, stop⟩ : Span)) :=
  (toInteger_answers fun ha => h (.inl ha)).bind fun _ _ =>
    (toInteger_answers fun hb => h (.inr hb)).bind fun _ _ => trivial

end Document

end CatchAudit
