/-
What the members of a document hold. A reader that succeeds gives the member itself, or its default
when there is none, so that the result of a successful reading is a plain function of the document.
-/
import CatchAudit.Document.Access
import CatchAudit.Dump.Build
import CatchAudit.Proofs.Outcome

namespace CatchAudit

namespace Document

/-- A member, null when there is none. -/
def memberD (d : Document) (name : String) : Document := (d.member? name).getD .null

/-- What a member holds: the items of a list, the characters of a text, the names of an object. -/
def holdings (d : Document) (name : String) : List Document := ((d.member? name).bind contents?).getD []

variable {d x : Document} {name : String}

theorem get_ok (h : d.get name = .ok x) : x = d.memberD name := by
  cases d with
  | object members => cases h; rfl
  | _ => cases h

theorem items_ok {xs : List Document} (h : Dump.items d name = .ok xs) : xs = d.holdings name := by
  obtain ⟨y, hy, h⟩ := bind_ok h
  cases d with
  | object members =>
    cases hy
    unfold holdings iterate at *
    rcases hm : memberOf? name members with _ | y
    · rw [hm] at h
      cases h
      simp [member?, hm]
    · rw [hm] at h
      rcases hc : y.contents? with _ | items <;> simp only [Option.getD_some, hc] at h
      · cases h
      · cases h
        simp [member?, hm, hc]
  | _ => cases hy

/-- Neither a text nor a name holds anything. -/
@[simp] theorem memberD_text (s name : String) : (Document.text s).memberD name = .null := rfl

/-! ## Sizes -/

theorem size_pos (d : Document) : 0 < d.size := by
  cases d <;> simp [size]

theorem sizeItems_eq_sum : ∀ items : List Document, sizeItems items = (items.map size).sum
  | [] => rfl
  | d :: rest => by simp [sizeItems, sizeItems_eq_sum rest]

theorem size_le_sizeMembers : ∀ {members : List (String × Document)}, memberOf? name members = some d →
    d.size ≤ sizeMembers members
  | [], h => by cases h
  | (key, e) :: rest, h => by
    unfold memberOf? at h
    unfold sizeMembers
    split at h
    · cases h
      omega
    · have := size_le_sizeMembers h
      omega

theorem size_member_lt (h : d.member? name = some x) : x.size < d.size := by
  cases d with
  | object members =>
    have := size_le_sizeMembers h
    simp only [size]
    omega
  | _ => cases h

end Document

end CatchAudit
