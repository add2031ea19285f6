/-
Values on their way outwards. A function is kept for later exactly if the first decisive step on the way out
of it keeps it, every place up to the end of this step lying inside the right-hand side by its span; steps
before the decisive one hand the value on. Only a step that the walk comes to can make it fail. With a wider
right-hand side the walk comes to the same steps and perhaps to more of them, so that what is kept within a
right-hand side is kept within every wider one.
-/
import CatchAudit.Analysis.Closure
import CatchAudit.Proofs.Analysis.Escape

namespace CatchAudit

namespace ClosureShape

/-- The `ClosureShape`s that hand the value on outwards. -/
def passing : List ClosureShape := [.sequenceLast, .transparent]

/-- The `ClosureShape`s that keep the value for later. -/
def keeping : List ClosureShape := [.callArgument, .assigned, .taggedTemplate, .yielded, .statement]

end ClosureShape

namespace Place

variable {p f r r' : Place} {n : Node} {frame : Frame} {rest : List Frame} {k : Nat} {x : Except Fault ClosureShape}

/-! ## Steps of the walk -/

/-- The shape of step number `i` on the way outwards, if there is such a step. -/
def shapeAt? (p : Place) (i : Nat) : Option (Except Fault ClosureShape) :=
  match p.chain[i]?, p.chain[i + 1]? with
  | some child, some parent => some (closureShape child parent)
  | _, _ => none

/-- Within `r`, the walk outwards from `p` comes to step number `k`, and this step has the shape `x` or fails: all
places up to its end lie inside, and the steps before it hand the value on. -/
structure ComesTo (r p : Place) (k : Nat) (x : Except Fault ClosureShape) : Prop where
  inside : ∀ i ≤ k, ∃ q, p.chain[i + 1]? = some q ∧ r.contains q = true
  passed : ∀ i < k, ∃ shape ∈ ClosureShape.passing, p.shapeAt? i = some (.ok shape)
  step : p.shapeAt? k = some x

theorem getElem?_chain_zero (p : Place) : p.chain[0]? = some p := by
  obtain ⟨n, _ | ⟨frame, rest⟩⟩ := p <;> rfl

theorem getElem?_chain_succ (i : Nat) :
    (chain ⟨n, frame :: rest⟩)[i + 1]? = (chain ⟨frame.parent, rest⟩)[i]? := rfl

theorem shapeAt?_zero :
    shapeAt? ⟨n, frame :: rest⟩ 0 = some (closureShape ⟨n, frame :: rest⟩ ⟨frame.parent, rest⟩) := by
  unfold shapeAt?
  rw [getElem?_chain_zero, getElem?_chain_succ, getElem?_chain_zero]

/-- No step leads out of the root. -/
theorem not_comesTo_root : ¬ ComesTo r ⟨n, []⟩ k x := by
  rintro ⟨hinside, -, -⟩
  obtain ⟨q, hq, -⟩ := hinside 0 (Nat.zero_le k)
  cases hq

theorem comesTo_zero_iff : ComesTo r ⟨n, frame :: rest⟩ 0 x ↔
    r.contains ⟨frame.parent, rest⟩ = true ∧ closureShape ⟨n, frame :: rest⟩ ⟨frame.parent, rest⟩ = x := by
  constructor
  · rintro ⟨hinside, -, hstep⟩
    obtain ⟨q, hq, hcontains⟩ := hinside 0 le_rfl
    rw [getElem?_chain_succ, getElem?_chain_zero] at hq
    rw [shapeAt?_zero] at hstep
    cases hq
    exact ⟨hcontains, Option.some.inj hstep⟩
  · rintro ⟨hcontains, hstep⟩
    refine ⟨fun i hi => ?_, fun i hi => absurd hi (Nat.not_lt_zero i), by rw [shapeAt?_zero, hstep]⟩
    cases Nat.le_zero.1 hi
    exact ⟨_, getElem?_chain_zero ⟨frame.parent, rest⟩, hcontains⟩

theorem comesTo_succ_iff : ComesTo r ⟨n, frame :: rest⟩ (k + 1) x ↔
    r.contains ⟨frame.parent, rest⟩ = true ∧
      (∃ shape ∈ ClosureShape.passing,
        closureShape ⟨n, frame :: rest⟩ ⟨frame.parent, rest⟩ = .ok shape) ∧
      ComesTo r ⟨frame.parent, rest⟩ k x := by
  constructor
  · rintro ⟨hinside, hpassed, hstep⟩
    obtain ⟨q, hq, hcontains⟩ := hinside 0 (Nat.zero_le _)
    obtain ⟨shape, hshape, hfirst⟩ := hpassed 0 (Nat.succ_pos k)
    rw [getElem?_chain_succ, getElem?_chain_zero] at hq
    rw [shapeAt?_zero] at hfirst
    cases hq
    refine ⟨hcontains, ⟨shape, hshape, Option.some.inj hfirst⟩, fun i hi => ?_, fun i hi => ?_, hstep⟩
    · exact hinside (i + 1) (Nat.succ_le_succ hi)
    · exact hpassed (i + 1) (Nat.succ_lt_succ hi)
  · rintro ⟨hcontains, ⟨shape, hshape, hfirst⟩, hinside, hpassed, hstep⟩
    refine ⟨fun i hi => ?_, fun i hi => ?_, hstep⟩
    · cases i with
      | zero => exact ⟨_, getElem?_chain_zero ⟨frame.parent, rest⟩, hcontains⟩
      | succ i => exact hinside i (Nat.le_of_succ_le_succ hi)
    · cases i with
      | zero => exact ⟨shape, hshape, by rw [shapeAt?_zero, hfirst]⟩
      | succ i => exact hpassed i (Nat.lt_of_succ_lt_succ hi)

/-- The walk `ComesTo` a step of this kind: it is the first one, or the first one is `passing` and the walk from the
parent comes to it. -/
theorem exists_comesTo_iff : (∃ k, ComesTo r ⟨n, frame :: rest⟩ k x) ↔
    r.contains ⟨frame.parent, rest⟩ = true ∧
      (closureShape ⟨n, frame :: rest⟩ ⟨frame.parent, rest⟩ = x ∨
        (∃ shape ∈ ClosureShape.passing,
          closureShape ⟨n, frame :: rest⟩ ⟨frame.parent, rest⟩ = .ok shape) ∧
        ∃ k, ComesTo r ⟨frame.parent, rest⟩ k x) := by
  constructor
  · rintro ⟨_ | k, h⟩
    · obtain ⟨hcontains, hstep⟩ := comesTo_zero_iff.1 h
      exact ⟨hcontains, .inl hstep⟩
    · obtain ⟨hcontains, hfirst, h⟩ := comesTo_succ_iff.1 h
      exact ⟨hcontains, .inr ⟨hfirst, k, h⟩⟩
  · rintro ⟨hcontains, hstep | ⟨hfirst, k, h⟩⟩
    · exact ⟨0, comesTo_zero_iff.2 ⟨hcontains, hstep⟩⟩
    · exact ⟨k + 1, comesTo_succ_iff.2 ⟨hcontains, hfirst, h⟩⟩

/-- A wider right-hand side holds the walk up no earlier. -/
theorem ComesTo.widen (h : ComesTo r p k x) (hwider : r'.contains r = true) : ComesTo r' p k x := by
  refine ⟨fun i hi => ?_, h.passed, h.step⟩
  obtain ⟨q, hq, hcontains⟩ := h.inside i hi
  exact ⟨q, hq, contains_trans hwider hcontains⟩

/-! ## What the walk answers -/

theorem storableFrom_cons : storableFrom (.place r) n (frame :: rest) =
    if r.contains ⟨frame.parent, rest⟩ = true then
      closureShape ⟨n, frame :: rest⟩ ⟨frame.parent, rest⟩ >>= fun shape =>
        match shape.verdict? with
        | some kept => .ok kept
        | none => storableFrom (.place r) frame.parent rest
    else .ok false := rfl

theorem storableFrom_eq_true_iff {frames : List Frame} : storableFrom (.place r) n frames = .ok true ↔
    ∃ shape ∈ ClosureShape.keeping, ∃ k, ComesTo r ⟨n, frames⟩ k (.ok shape) := by
  induction frames generalizing n with
  | nil =>
    refine iff_of_false (by rintro ⟨⟩) ?_
    rintro ⟨shape, -, k, h⟩
    exact not_comesTo_root h
  | cons frame rest ih =>
    simp only [exists_comesTo_iff, storableFrom_cons]
    cases hcontains : r.contains ⟨frame.parent, rest⟩ with
    | false => simp
    | true =>
      rcases hfirst : closureShape ⟨n, frame :: rest⟩ ⟨frame.parent, rest⟩ with e | first
      · simp [bind, Except.bind]
      · -- a decisive shape settles it here, the others leave it to the walk from the parent
        cases first <;>
          simp [ClosureShape.verdict?, ClosureShape.keeping, ClosureShape.passing, bind, Except.bind, ih]

/-- `storableFrom` fails where the walk `ComesTo` a step that fails, and nowhere else. -/
theorem storableFrom_eq_error_iff {frames : List Frame} {e : Fault} : storableFrom (.place r) n frames = .error e ↔
    ∃ k, ComesTo r ⟨n, frames⟩ k (.error e) := by
  induction frames generalizing n with
  | nil =>
    refine iff_of_false (by rintro ⟨⟩) ?_
    rintro ⟨k, h⟩
    exact not_comesTo_root h
  | cons frame rest ih =>
    rw [exists_comesTo_iff, storableFrom_cons]
    cases hcontains : r.contains ⟨frame.parent, rest⟩ with
    | false => simp
    | true =>
      rcases hfirst : closureShape ⟨n, frame :: rest⟩ ⟨frame.parent, rest⟩ with e' | first
      · simp [bind, Except.bind]
      · cases first <;> simp [ClosureShape.verdict?, ClosureShape.passing, bind, Except.bind, ih]

theorem isStorable_eq_true_iff : f.isStorable (.place r) = .ok true ↔
    ∃ shape ∈ ClosureShape.keeping, ∃ k, ComesTo r f k (.ok shape) := storableFrom_eq_true_iff

theorem isStorable_succeeds_iff : Succeeds (f.isStorable (.place r)) ↔ ∀ k e, ¬ ComesTo r f k (.error e) := by
  constructor
  · rintro ⟨kept, h⟩ k e hstep
    have herror : f.isStorable (.place r) = .error e := storableFrom_eq_error_iff.2 ⟨k, hstep⟩
    rw [h] at herror
    cases herror
  · intro h
    cases hanswer : f.isStorable (.place r) with
    | ok kept => exact succeeds_ok kept
    | error e =>
      obtain ⟨k, hstep⟩ := storableFrom_eq_error_iff.1 hanswer
      exact absurd hstep (h k e)

/-- What `isStorable` finds kept within a right-hand side is kept within a wider one. -/
theorem isStorable_widen (hwider : r'.contains r = true) (h : f.isStorable (.place r) = .ok true) :
    f.isStorable (.place r') = .ok true := by
  rw [isStorable_eq_true_iff] at h ⊢
  obtain ⟨shape, hshape, k, hstep⟩ := h
  exact ⟨shape, hshape, k, hstep.widen hwider⟩

theorem isInsideStorable_eq_true_iff : p.isInsideStorable (.place r) = .ok true ↔
    ∃ f, p.upperFunction? = .ok (some f) ∧ r.contains f = true ∧ f.isStorable (.place r) = .ok true := by
  unfold isInsideStorable
  rcases p.upperFunction? with e | _ | f
  · simp [bind, Except.bind]
  · simp [bind, Except.bind, pure, Except.pure]
  · have htest : Operand.contains f (.place r) = .ok (r.contains f) := rfl
    cases hcontains : r.contains f <;> simp [htest, hcontains, bind, Except.bind, pure, Except.pure]

theorem isInsideStorable_widen (hwider : r'.contains r = true) (h : p.isInsideStorable (.place r) = .ok true) :
    p.isInsideStorable (.place r') = .ok true := by
  rw [isInsideStorable_eq_true_iff] at h ⊢
  obtain ⟨f, hf, hcontains, hkept⟩ := h
  exact ⟨f, hf, contains_trans hwider hcontains, isStorable_widen hwider hkept⟩

/-- The first decisive step on the way outwards settles whether a function is kept: it is kept if and only if there is
a `k` so that the places above it up to number `k + 1` lie inside the right-hand side, the steps before step `k` are
the last place of a sequence or transparent, and step `k` is an argument of a call, an assignment, a tagged template,
a yield or a statement. Unless the walk comes to a step that fails, there is an answer. What is kept within one
right-hand side, or read inside a function that is kept there, is so within each one whose span contains it. -/
theorem isStorable_iff_first_decisive (f r : Place) :
    (f.isStorable (.place r) = .ok true ↔ ∃ k,
      (∀ i ≤ k, ∃ q, f.chain[i + 1]? = some q ∧ r.contains q = true) ∧
      (∀ i < k, ∃ shape, f.shapeAt? i = some (.ok shape) ∧ (shape = .sequenceLast ∨ shape = .transparent)) ∧
      ∃ shape, f.shapeAt? k = some (.ok shape) ∧
        (shape = .callArgument ∨ shape = .assigned ∨ shape = .taggedTemplate ∨ shape = .yielded ∨
          shape = .statement)) ∧
    (Succeeds (f.isStorable (.place r)) ↔ ∀ k e, ¬ ComesTo r f k (.error e)) ∧
    ∀ r' : Place, r'.contains r = true →
      (f.isStorable (.place r) = .ok true → f.isStorable (.place r') = .ok true) ∧
      ∀ p : Place, p.isInsideStorable (.place r) = .ok true → p.isInsideStorable (.place r') = .ok true := by
  refine ⟨?_, isStorable_succeeds_iff, fun r' hwider =>
    ⟨isStorable_widen hwider, fun p => isInsideStorable_widen hwider⟩⟩
  rw [isStorable_eq_true_iff]
  constructor
  · rintro ⟨shape, hshape, k, hinside, hpassed, hstep⟩
    refine ⟨k, hinside, fun i hi => ?_, shape, hstep, ?_⟩
    · obtain ⟨passing, hpassing, hat⟩ := hpassed i hi
      exact ⟨passing, hat, by simpa [ClosureShape.passing] using hpassing⟩
    · simpa [ClosureShape.keeping] using hshape
  · rintro ⟨k, hinside, hpassed, shape, hstep, hshape⟩
    refine ⟨shape, by simpa [ClosureShape.keeping] using hshape, k, hinside, fun i hi => ?_, hstep⟩
    obtain ⟨passing, hat, hpassing⟩ := hpassed i hi
    exact ⟨passing, by simpa [ClosureShape.passing] using hpassing, hat⟩

open Escape.Sample in
/-- The function that is handed on in `e=w(function(){…})` is kept within the call and so within the assignment,
where the walk stops at the argument just as well. -/
theorem isStorable_iff_first_decisive_sample :
    (nth program 2).contains (nth program 4) = true ∧
      (nth program 6).isStorable (.place (nth program 4)) = .ok true ∧
      (nth program 6).isStorable (.place (nth program 2)) = .ok true := by
  have hwider : (nth program 2).contains (nth program 4) = true := by rfl
  have hkept : (nth program 6).isStorable (.place (nth program 4)) = .ok true := by rfl
  exact ⟨hwider, hkept, ((isStorable_iff_first_decisive _ _).2.2 _ hwider).1 hkept⟩

end Place

end CatchAudit
