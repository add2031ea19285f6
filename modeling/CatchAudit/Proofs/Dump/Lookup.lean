/-
Resolving references to nodes. A reference is an object with a kind and a range; it resolves to a place
of that kind and span, and it fails to resolve only if there is none. Of several such places the
first one that is no shorthand key is meant.
-/
import CatchAudit.Dump.Resolve
import CatchAudit.Proofs.Document.Key
import CatchAudit.Proofs.Document.Members

namespace CatchAudit

namespace Dump

variable {places : List Place} {key : NodeKey} {p : Place} {d : Document}

/-! ## Keys -/

/-- Once `keep` knows a place that is no shorthand key, it stays. -/
theorem foldl_keep_of_not_shorthand (hp : p.isShorthandKey = false) :
    ∀ places : List Place, places.foldl (keep key) (some p) = some p
  | [] => rfl
  | q :: rest => by
    have hkeep : keep key (some p) q = some p := by
      unfold keep
      split
      · simp [hp]
      · rfl
    rw [List.foldl_cons, hkeep, foldl_keep_of_not_shorthand hp rest]

/-- What `keep` knows in the end was known before, or is one of the places seen. -/
theorem foldl_keep_some : ∀ {places : List Place} {known : Option Place}, places.foldl (keep key) known = some p →
    known = some p ∨ p ∈ places ∧ p.key.agrees key = true
  | [], known, h => .inl h
  | q :: rest, known, h => by
    rw [List.foldl_cons] at h
    rcases foldl_keep_some h with hkeep | ⟨hmem, hkey⟩
    · unfold keep at hkeep
      split at hkeep
      · next hagrees =>
        have hcases : known = some p ∨ q = p := by
          cases known with
          | none => exact .inr (Option.some.inj hkeep)
          | some r =>
            dsimp only at hkeep
            split at hkeep
            · exact .inr (Option.some.inj hkeep)
            · exact .inl hkeep
        rcases hcases with hknown | rfl
        · exact .inl hknown
        · exact .inr ⟨List.mem_cons_self .., hagrees⟩
      · exact .inl hkeep
    · exact .inr ⟨List.mem_cons_of_mem _ hmem, hkey⟩

theorem mem_of_lookup (h : lookup places key = some p) : p ∈ places ∧ p.key.agrees key = true := by
  rcases foldl_keep_some h with h | h
  · cases h
  · exact h

theorem foldl_keep_isSome : ∀ {places : List Place} {known : Option Place},
    known.isSome = true ∨ (∃ q ∈ places, q.key.agrees key = true) →
    (places.foldl (keep key) known).isSome = true
  | [], known, h => by
    rcases h with h | ⟨q, hq, -⟩
    · exact h
    · cases hq
  | q :: rest, known, h => by
    rw [List.foldl_cons]
    apply foldl_keep_isSome
    by_cases hagrees : q.key.agrees key = true
    · left
      unfold keep
      rw [if_pos hagrees]
      cases known with
      | none => rfl
      | some r => dsimp only; split <;> rfl
    · rcases h with h | ⟨r, hr, hkey⟩
      · left
        unfold keep
        rwa [if_neg hagrees]
      · rcases List.mem_cons.1 hr with rfl | hr
        · exact absurd hkey hagrees
        · exact .inr ⟨r, hr, hkey⟩

/-- By `lookup` a key means some place exactly when a place has that key. -/
theorem lookup_isSome_iff : (lookup places key).isSome = true ↔ ∃ p ∈ places, p.key.agrees key = true := by
  constructor
  · intro h
    obtain ⟨p, hp⟩ := Option.isSome_iff_exists.1 h
    exact ⟨p, mem_of_lookup hp⟩
  · exact fun h => foldl_keep_isSome (.inr h)

/-! ## References -/

/-- The reference gives the kind and the span of the place. -/
def Means (d : Document) (p : Place) : Prop :=
  ∃ kind range a b, d.member? "type" = some kind ∧ d.member? "range" = some range ∧ range.pair = .ok (a, b) ∧
    a.toInteger = .ok p.node.span.start ∧ b.toInteger = .ok p.node.span.stop ∧ p.node.kind.equal kind = true

/-- The place that a reference resolves to, by `resolve`. -/
def target? (places : List Place) (d : Document) : Option Place :=
  match resolve places d with
  | .ok found => found
  | .error _ => none

theorem resolve_ok {found : Option Place} (h : resolve places d = .ok found) : target? places d = found := by
  unfold target?
  rw [h]

theorem agrees_iff {a b : NodeKey} : a.agrees b = true ↔ a.span = b.span ∧ a.kind.equal b.kind = true := by
  unfold NodeKey.agrees
  rw [Bool.and_eq_true, beq_iff_eq]

theorem resolve_of_missing (h : d.member? "type" = none ∨ d.member? "range" = none) : resolve places d = .ok none := by
  unfold resolve
  rcases h with h | h <;> rw [h]
  rcases d.member? "type" with _ | kind <;> rfl

/-- By `resolve`, a reference with a kind and a range is looked up, once all of it can be read. -/
theorem resolve_of_parts {kind range : Document} (hkind : d.member? "type" = some kind)
    (hrange : d.member? "range" = some range) :
    resolve places d = (do
      let (a, b) ← range.pair
      let start ← a.toInteger
      let stop ← b.toInteger
      let kind ← kind.asKey
      return lookup places ⟨kind, ⟨start, stop⟩⟩) := by
  unfold resolve
  rw [hkind, hrange]

/-- The `target?` of a reference is one of the places, and has the kind and span that it gives. -/
theorem mem_of_target? (h : target? places d = some p) : p ∈ places ∧ Means d p := by
  unfold target? at h
  rcases hr : resolve places d with f | found <;> rw [hr] at h
  · cases h
  · dsimp only at h
    subst h
    unfold resolve at hr
    split at hr
    · next kind range hkind hrange =>
      obtain ⟨⟨a, b⟩, hpair, hr⟩ := bind_ok hr
      obtain ⟨start, hstart, hr⟩ := bind_ok hr
      obtain ⟨stop, hstop, hr⟩ := bind_ok hr
      obtain ⟨kind', hkey, hr⟩ := bind_ok hr
      have hkind' : kind' = kind := (Document.keyValue?_of_asKey hkey).1
      rw [hkind'] at hr
      obtain ⟨hmem, hagrees⟩ := mem_of_lookup (Except.ok.inj hr)
      obtain ⟨hspan, hequal⟩ := agrees_iff.1 hagrees
      refine ⟨hmem, kind, range, a, b, hkind, hrange, hpair, ?_, ?_, hequal⟩
      · rw [hstart, ← show p.node.span.start = start from congrArg Span.start hspan]
      · rw [hstop, ← show p.node.span.stop = stop from congrArg Span.stop hspan]
    · cases hr

theorem asKey_of_checkKinds : ∀ {places : List Place}, checkKinds places = .ok () → ∀ p ∈ places,
    p.node.kind.asKey = .ok p.node.kind
  | [], _, p, hp => by cases hp
  | q :: rest, h, p, hp => by
    obtain ⟨kind, hq, h⟩ := bind_ok h
    rcases List.mem_cons.1 hp with rfl | hp
    · rw [hq, (Document.keyValue?_of_asKey hq).1]
    · exact asKey_of_checkKinds h p hp

/-- Where all kinds are fit for keys, by `checkKinds`, a reference has a `target?` exactly when it gives the kind and
the span of some place. -/
theorem target?_isSome_iff (hkinds : checkKinds places = .ok ()) :
    (target? places d).isSome = true ↔ ∃ p ∈ places, Means d p := by
  constructor
  · intro h
    obtain ⟨p, hp⟩ := Option.isSome_iff_exists.1 h
    exact ⟨p, mem_of_target? hp⟩
  · rintro ⟨p, hp, kind, range, a, b, hkind, hrange, hpair, hstart, hstop, hequal⟩
    have hpkey := asKey_of_checkKinds hkinds p hp
    -- a kind that equals one fit for a key is fit for a key itself
    have hkey : kind.asKey = .ok kind := by
      obtain ⟨-, k, hk⟩ := Document.keyValue?_of_asKey hpkey
      exact Document.asKey_of_keyValue? ((Document.equal_iff_of_keyValue? hk).1 hequal)
    have hresolve : resolve places d = .ok (lookup places ⟨kind, p.node.span⟩) := by
      simp only [resolve, hkind, hrange, hpair, hstart, hstop, hkey, bind, Except.bind, pure, Except.pure]
    rw [resolve_ok hresolve]
    exact lookup_isSome_iff.2 ⟨p, hp, agrees_iff.2 ⟨rfl, hequal⟩⟩

end Dump

end CatchAudit
