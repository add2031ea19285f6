/-
Equality of keys. A document that is fit for a key has a value: the number that it is, whatever its kind,
its text, or its moment in time. Keys are equal exactly when their values are the same, so that
equality of keys is an equivalence.
-/
import CatchAudit.Document.Access
import Mathlib.Tactic

namespace CatchAudit

/-! ## Numbers -/

namespace Binary64

/-- What a number amounts to. -/
inductive Value where
  | nan
  | infinite (negative : Bool)
  | ratio (q : ℚ)

/-- The numerator of a finite number, with its sign. -/
def signed (negative : Bool) (mantissa : Nat) (exponent : Int) : Int :=
  if negative then -((fraction mantissa exponent).1 : Int) else (fraction mantissa exponent).1

def value : Binary64 → Value
  | .nan => .nan
  | .infinite negative => .infinite negative
  | .finite negative mantissa exponent =>
    .ratio (signed negative mantissa exponent / (fraction mantissa exponent).2)

theorem fraction_pos (m : Nat) (e : Int) : 0 < (fraction m e).2 := by
  unfold fraction
  split
  · exact Nat.one_pos
  · exact Nat.pow_pos (by decide)

/-- Cross-multiplied, as `compare?` does it, two fractions are equal exactly when they are the same ratio. -/
theorem compare?_finite {n n' : Bool} {m m' : Nat} {e e' : Int} :
    (finite n m e).compare? (finite n' m' e') = some .eq ↔ (finite n m e).value = (finite n' m' e').value := by
  have hpos : ((fraction m e).2 : ℚ) ≠ 0 := Nat.cast_ne_zero.2 (fraction_pos m e).ne'
  have hpos' : ((fraction m' e').2 : ℚ) ≠ 0 := Nat.cast_ne_zero.2 (fraction_pos m' e').ne'
  have hcross : (finite n m e).compare? (finite n' m' e') =
      some (compare (signed n m e * (fraction m' e').2) (signed n' m' e' * (fraction m e).2)) := rfl
  rw [hcross, Option.some_inj, compare_eq_iff_eq]
  simp only [value, Value.ratio.injEq]
  rw [div_eq_div_iff hpos hpos']
  norm_cast

end Binary64

namespace Document

theorem sameNumber_iff {x y : Binary64} : sameNumber x y = true ↔ x.value = y.value := by
  cases x with
  | nan => cases y <;> simp [sameNumber, Binary64.value, Binary64.compare?]
  | infinite a => cases y <;> cases a <;> simp [sameNumber, Binary64.value, Binary64.compare?]
  | finite n m e =>
    cases y with
    | nan => simp [sameNumber, Binary64.value, Binary64.compare?]
    | infinite b => cases b <;> simp [sameNumber, Binary64.value, Binary64.compare?]
    | finite n' m' e' =>
      show ((Binary64.finite n m e).compare? (.finite n' m' e') == some .eq) = true ↔ _
      rw [beq_iff_eq]
      exact Binary64.compare?_finite

end Document

/-! ## Moments -/

/-- A moment with an offset is an instant of universal time; any other stands for itself. -/
def Moment.value : Moment → Int ⊕ Moment
  | .dateTime d t (some offset) => .inl (instant d t offset)
  | m => .inr m

theorem Moment.same_iff {a b : Moment} : a.same b = true ↔ a.value = b.value := by
  unfold same
  split
  · simp [value]
  · -- at most one of the two has an offset
    rw [beq_iff_eq]
    rcases a with d | t | ⟨d, t, _ | offset⟩ <;> rcases b with e | u | ⟨e, u, _ | other⟩ <;> grind [value]

/-! ## Keys -/

namespace Document

/-- The value by which keys are told apart. -/
inductive KeyValue where
  | null
  | number (value : Binary64.Value)
  | text (value : String)
  | moment (value : Int ⊕ Moment)

/-- The value of a document that is fit for a key. -/
def keyValue? : Document → Option KeyValue
  | .null => some .null
  | .bool b => some (.number (Binary64.exact (if b then 1 else 0)).value)
  | .int i => some (.number (Binary64.exact i).value)
  | .float x => some (.number x.value)
  | .text s => some (.text s)
  | .moment m => some (.moment m.value)
  | .list _ | .object _ => none

variable {a b c : Document} {k : KeyValue}

theorem equal_number {x : Binary64} (ha : ∀ y, a.equal y = match y.number? with
      | some n => sameNumber x n
      | none => false) : a.equal b = true ↔ b.keyValue? = some (.number x.value) := by
  have hiff : ∀ n, sameNumber x n = true ↔ some (KeyValue.number n.value) = some (.number x.value) := by
    intro n
    rw [sameNumber_iff, Option.some_inj, KeyValue.number.injEq, eq_comm]
  rw [ha]
  cases b with
  | bool v => exact hiff _
  | int i => exact hiff _
  | float y => exact hiff _
  | _ => simp [number?, keyValue?]

/-- A key is `equal` to what has the same `keyValue?`. -/
theorem equal_iff_of_keyValue? (ha : a.keyValue? = some k) : a.equal b = true ↔ b.keyValue? = some k := by
  cases a with
  | list items => cases ha
  | object members => cases ha
  | null => cases ha; cases b <;> simp [equal, keyValue?]
  | text s =>
    cases ha
    cases b with
    | text t => simp [equal, keyValue?, eq_comm (a := s)]
    | _ => simp [equal, keyValue?]
  | moment m =>
    cases ha
    cases b with
    | moment n => simp [equal, keyValue?, Moment.same_iff, eq_comm (a := m.value)]
    | _ => simp [equal, keyValue?]
  | bool v => cases ha; exact equal_number fun y => by cases y <;> rfl
  | int i => cases ha; exact equal_number fun y => by cases y <;> rfl
  | float x => cases ha; exact equal_number fun y => by cases y <;> rfl

theorem keyValue?_of_asKey (h : a.asKey = .ok c) : c = a ∧ ∃ k, a.keyValue? = some k := by
  cases a with
  | list items => cases h
  | object members => cases h
  | _ => cases h; exact ⟨rfl, _, rfl⟩

theorem asKey_of_keyValue? (h : a.keyValue? = some k) : a.asKey = .ok a := by
  cases a with
  | list items => cases h
  | object members => cases h
  | _ => rfl

end Document

end CatchAudit
