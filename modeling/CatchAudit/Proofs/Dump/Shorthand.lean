/-
Which place a reference means. A dump names nodes by kind and span, and several nodes may share both: a
wrapper and what it wraps, or the key and the value of a property that is written once for both. The places
are gone through in pre-order, and what is known of a key may be replaced more than once on the way. In the
end the first place that is no shorthand key is meant, or the last one if all of them are shorthand keys.
Hence the value of a shorthand property is never mistaken for its key, wherever the two stand.
-/
import CatchAudit.Proofs.Analysis.Enclosure
import CatchAudit.Proofs.Dump.Lookup

namespace CatchAudit

/-! ## Keys of shorthand properties -/

namespace Place

/-- The property is written once for its key `k` and for `v`, which is its value or, where the value has a
default, the target of that. -/
structure Shorthand (property k v : Place) : Prop where
  isProperty : property.node.isKind "Property" = true
  shorthand : ∃ x, property.field "shorthand" = .ok x ∧ x.truthy = true
  key : property.field "key" = .ok (.place k)
  value : property.field "value" = .ok (.place v) ∨
    ∃ w, property.field "value" = .ok (.place w) ∧ w.node.isKind "AssignmentPattern" = true ∧
      w.field "left" = .ok (.place v)

variable {property k v : Place}

theorem Shorthand.isShorthandKey_key (h : property.Shorthand k v) : k.isShorthandKey = true := by
  obtain ⟨x, hx, htruthy⟩ := h.shorthand
  unfold isShorthandKey
  simp [parent?_of_field h.key, h.isProperty, operand?_of_field hx, htruthy, operand?_of_field h.key,
    Operand.isPlace, same]

/-- The value of a `Shorthand` property stands in another field than the key, and the target of a default in no
property at all. -/
theorem Shorthand.isShorthandKey_value (h : property.Shorthand k v) : v.isShorthandKey = false := by
  unfold isShorthandKey
  rcases h.value with hv | ⟨w, -, hpattern, hv⟩
  · obtain ⟨-, n, rfl⟩ := field_place hv
    obtain ⟨-, m, rfl⟩ := field_place h.key
    have hother : (property.child ⟨"key", none⟩ m).same (property.child ⟨"value", none⟩ n) = false := by
      simp [same, address, child]
    simp [parent?_of_field hv, operand?_of_field h.key, Operand.isPlace, hother]
  · have hkind : w.node.isKind "Property" = false := by
      unfold Node.isKind Document.isText at hpattern ⊢
      split at hpattern
      · simp_all
      · cases hpattern
    simp [parent?_of_field hv, hkind]

theorem Shorthand.value_mem_walk {program : Node} (h : property.Shorthand k v)
    (hproperty : property ∈ (root program).walk) : v ∈ (root program).walk := by
  rw [mem_walk] at hproperty ⊢
  rcases h.value with hv | ⟨w, hw, -, hv⟩
  · exact hproperty.child (field_place hv).1
  · exact (hproperty.child (field_place hw).1).child (field_place hv).1

end Place

namespace Dump

variable {places : List Place} {key : NodeKey} {p : Place} {d : Document}

/-! ## What a key means -/

/-- The place that is meant where these places, in pre-order, have the kind and the span: the first one that
is no shorthand key; if all are, the last one. -/
def meant (holders : List Place) : Option Place :=
  (holders.find? fun p => !p.isShorthandKey).or holders.getLast?

/-- A key has no place that is `meant` only if no place has it. -/
theorem meant_filter_eq_none_iff {test : Place → Bool} :
    meant (places.filter test) = none ↔ ∀ p ∈ places, test p = false := by
  unfold meant
  rw [Option.or_eq_none_iff, List.getLast?_eq_none_iff, List.filter_eq_nil_iff]
  constructor
  · rintro ⟨-, h⟩ p hp
    simpa using h p hp
  · intro h
    have hnone : places.filter test = [] := List.filter_eq_nil_iff.2 fun p hp => by simp [h p hp]
    exact ⟨by rw [hnone]; rfl, fun p hp => by simp [h p hp]⟩

/-- One more place replaces a `meant` place that is a shorthand key, and nothing else. -/
theorem meant_concat (holders : List Place) (p : Place) :
    meant (holders ++ [p]) = match meant holders with
      | none => some p
      | some q => if q.isShorthandKey then some p else some q := by
  unfold meant
  rw [List.find?_append, List.getLast?_concat]
  cases hplain : holders.find? fun q => !q.isShorthandKey with
  | some q =>
    have hq : q.isShorthandKey = false := by simpa using List.find?_some hplain
    simp [hq]
  | none =>
    -- all that came before are shorthand keys, so that `p` is meant in either case
    have hall : ∀ q ∈ holders, q.isShorthandKey = true := by simpa using List.find?_eq_none.1 hplain
    have hp : ([p].find? fun q => !q.isShorthandKey).or (some p) = some p := by
      cases h : p.isShorthandKey <;> simp [h]
    rw [Option.none_or, Option.none_or, hp]
    cases hlast : holders.getLast? with
    | none => rfl
    | some q =>
      have hq := hall q (List.mem_of_getLast? hlast)
      simp [hq]

/-- The invariant of the walk: what `lookup` knows of a key is what is `meant` among the places seen so far. -/
theorem lookup_eq_meant (places : List Place) (key : NodeKey) :
    lookup places key = meant (places.filter fun p => p.key.agrees key) := by
  induction places using List.reverseRecOn with
  | nil => rfl
  | append_singleton seen p ih =>
    have hstep : lookup (seen ++ [p]) key = keep key (lookup seen key) p := List.foldl_concat ..
    rw [hstep, ih, List.filter_append]
    unfold keep
    cases hagrees : p.key.agrees key with
    | false => simp [hagrees]
    | true =>
      have hlast : [p].filter (fun p => p.key.agrees key) = [p] := by simp [hagrees]
      rw [hlast, if_pos rfl]
      refine Eq.trans ?_ (meant_concat _ p).symm
      cases meant (seen.filter fun p => p.key.agrees key) <;> rfl

/-- Where one of the places is no shorthand key, none of the shorthand keys is `meant`. -/
theorem exists_meant_of_mem {holders : List Place} (hp : p ∈ holders) (hplain : p.isShorthandKey = false) :
    ∃ q, meant holders = some q ∧ q.isShorthandKey = false := by
  have hsome : (holders.find? fun q => !q.isShorthandKey).isSome = true := by
    rw [List.find?_isSome]
    exact ⟨p, hp, by simp [hplain]⟩
  obtain ⟨q, hq⟩ := Option.isSome_iff_exists.1 hsome
  refine ⟨q, ?_, by simpa using List.find?_some hq⟩
  unfold meant
  rw [hq, Option.some_or]

/-! ## References -/

/-- The reference gives this kind and this span, and the kind is fit for a key. -/
structure Gives (d : Document) (key : NodeKey) : Prop where
  kind : d.member? "type" = some key.kind
  range : ∃ range a b, d.member? "range" = some range ∧ range.pair = .ok (a, b) ∧
    a.toInteger = .ok key.span.start ∧ b.toInteger = .ok key.span.stop
  fit : key.kind.asKey = .ok key.kind

theorem Gives.resolve_eq (h : Gives d key) (places : List Place) : resolve places d = .ok (lookup places key) := by
  obtain ⟨range, a, b, hrange, hpair, hstart, hstop⟩ := h.range
  rw [resolve_of_parts h.kind hrange]
  simp only [hpair, hstart, hstop, h.fit, bind, Except.bind, pure, Except.pure]

/-- By `resolve` a reference gives the place that is `meant`: the first one of its kind and span that is no shorthand
key, or the last one if all are shorthand keys, and nothing only if there is none. If it gives the kind and the span
of the value of a `Shorthand` property, it does not mean the key. -/
theorem resolve_eq_meant (program : Node) (hd : Gives d key) :
    resolve (Place.root program).walk d =
        .ok (meant ((Place.root program).walk.filter fun p => p.key.agrees key)) ∧
      (resolve (Place.root program).walk d = .ok none ↔
        ∀ p ∈ (Place.root program).walk, p.key.agrees key = false) ∧
      ∀ property ∈ (Place.root program).walk, ∀ k v, property.Shorthand k v → v.key.agrees key = true →
        ∃ p, resolve (Place.root program).walk d = .ok (some p) ∧ p.isShorthandKey = false ∧ p ≠ k := by
  have hresolve := hd.resolve_eq (Place.root program).walk
  rw [lookup_eq_meant] at hresolve
  refine ⟨hresolve, ?_, fun property hproperty k v hshort hv => ?_⟩
  · rw [hresolve, Except.ok.injEq, meant_filter_eq_none_iff]
  · have hmem : v ∈ (Place.root program).walk.filter fun p => p.key.agrees key :=
      List.mem_filter.2 ⟨hshort.value_mem_walk hproperty, hv⟩
    obtain ⟨p, hmeant, hplain⟩ := exists_meant_of_mem hmem hshort.isShorthandKey_value
    refine ⟨p, by rw [hresolve, hmeant], hplain, ?_⟩
    rintro rfl
    rw [hshort.isShorthandKey_key] at hplain
    cases hplain

/-! ## A sample

The expression `({e});`, in which the key of the property is visited before its value. -/

namespace Shorthand.Sample

def e : Node := .plain "Identifier" 2 3 [("name", .data (.text "e"))]

def property : Node := .plain "Property" 2 3 [("shorthand", .data (.bool true)), ("key", .node e), ("value", .node e)]

def tree : Node :=
  .plain "Program" 0 6 [("body", .list [.node (.plain "ExpressionStatement" 0 6
    [("expression", .node (.plain "ObjectExpression" 1 4 [("properties", .list [.node property])]))])])]

def reference : Document := .object [("type", .text "Identifier"), ("range", .list [.int 2, .int 3])]

end Shorthand.Sample

open Shorthand.Sample in
/-- In `tree` the `reference` to the name at 2 means the value, place number 5, and not the key, place number 4. -/
theorem resolve_eq_meant_sample :
    Gives reference ⟨.text "Identifier", ⟨2, 3⟩⟩ ∧
      (Place.nth tree 3).Shorthand (.nth tree 4) (.nth tree 5) ∧
      resolve (Place.root tree).walk reference = .ok (some (.nth tree 5)) ∧
      Place.nth tree 5 ≠ Place.nth tree 4 := by
  have hgives : Gives reference ⟨.text "Identifier", ⟨2, 3⟩⟩ :=
    ⟨rfl, ⟨_, .int 2, .int 3, rfl, rfl, rfl, rfl⟩, rfl⟩
  have hshort : (Place.nth tree 3).Shorthand (.nth tree 4) (.nth tree 5) :=
    ⟨rfl, ⟨.data (.bool true), rfl, rfl⟩, rfl, .inl rfl⟩
  obtain ⟨hresolve, -, hshorthand⟩ := resolve_eq_meant tree hgives
  have hvalue : resolve (Place.root tree).walk reference = .ok (some (.nth tree 5)) := hresolve
  have hproperty : Place.nth tree 3 ∈ (Place.root tree).walk := Place.nth_mem_walk (by decide)
  obtain ⟨p, hp, -, hne⟩ := hshorthand _ hproperty _ _ hshort rfl
  cases hvalue.symm.trans hp
  exact ⟨hgives, hshort, hvalue, hne⟩

end Dump

end CatchAudit
