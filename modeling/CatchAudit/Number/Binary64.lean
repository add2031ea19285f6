/-
Binary64 numbers as exact values: a sign, a whole mantissa and a power of two. Rounding, reading a
decimal, addition, truncation and comparison are arithmetic on naturals and integers, so that what
they compute can be stated and proved.
-/

namespace CatchAudit

/-- A binary64 number. `finite n m e` is `m · 2^e`, negated when `n` holds. -/
inductive Binary64 where
  | nan
  | infinite (negative : Bool)
  | finite (negative : Bool) (mantissa : Nat) (exponent : Int)
  deriving DecidableEq, Repr

namespace Binary64

/-- The least exponent, which zero and the subnormal numbers carry. -/
def leastExponent : Int := -1074

/-- The greatest exponent of a finite number. -/
def greatestExponent : Int := 971

def zero : Binary64 := .finite false 0 leastExponent

/-! ## Rounding -/

/-- The whole number nearest to `num / den`; a half goes to the even neighbour. -/
def nearest (num den : Nat) : Nat :=
  let q := num / den
  let r := num % den
  if 2 * r < den then q
  else if den < 2 * r then q + 1
  else if q % 2 = 0 then q else q + 1

/-- `num / den` divided by `2^e`, as a fraction. -/
def scaled (num den : Nat) (e : Int) : Nat × Nat :=
  if 0 ≤ e then (num, den * Nat.pow 2 e.toNat) else (num * Nat.pow 2 (-e).toNat, den)

/-- The exponent at which `num / den` has a mantissa of 53 bits, or the least exponent. -/
def exponentFor (num den : Nat) : Int :=
  let guess : Int := (num.log2 : Int) - (den.log2 : Int) - 52
  let (n, d) := scaled num den guess
  -- the quotient lies between `2^51` and `2^53`, so the guess is right or one too large
  max leastExponent (if n < d * Nat.pow 2 52 then guess - 1 else guess)

/-- The binary64 number nearest to `num / den`, with a half going to the even mantissa. -/
def round (negative : Bool) (num den : Nat) : Binary64 :=
  if num = 0 then .finite negative 0 leastExponent
  else
    let e := exponentFor num den
    let (n, d) := scaled num den e
    let m := nearest n d
    let (m, e) := if m = Nat.pow 2 53 then (Nat.pow 2 52, e + 1) else (m, e)
    if greatestExponent < e then .infinite negative else .finite negative m e

/-- The number nearest to `digits · 10^exponent`. -/
def ofDecimal (negative : Bool) (digits : Nat) (exponent : Int) : Binary64 :=
  let magnitude : Int := (digits.log2 : Int) * 30103 / 100000 + exponent
  if digits = 0 then .finite negative 0 leastExponent
  else if 400 < magnitude then .infinite negative
  else if magnitude < -400 then .finite negative 0 leastExponent
  else if 0 ≤ exponent then round negative (digits * Nat.pow 10 exponent.toNat) 1
  else round negative digits (Nat.pow 10 (-exponent).toNat)

/-! ## The exact value -/

/-- `m · 2^e` as a fraction. -/
def fraction (m : Nat) (e : Int) : Nat × Nat :=
  if 0 ≤ e then (m * Nat.pow 2 e.toNat, 1) else (m, Nat.pow 2 (-e).toNat)

/-- The value as a signed fraction, if it is finite. -/
def ratio? : Binary64 → Option (Int × Nat)
  | .finite negative m e =>
    let (num, den) := fraction m e
    some (if negative then -(num : Int) else num, den)
  | _ => none

def isZero : Binary64 → Bool
  | .finite _ m _ => m == 0
  | _ => false

/-- The whole part, towards zero. -/
def truncate? : Binary64 → Option Int
  | .finite negative m e =>
    let (num, den) := fraction m e
    some (if negative then -((num / den : Nat) : Int) else (num / den : Nat))
  | _ => none

/-- The signed fraction `num / den` rounded. -/
def ofRatio (num : Int) (den : Nat) : Binary64 := round (decide (num < 0)) num.natAbs den

/-- The sum with a whole number. -/
def addInt (x : Binary64) (i : Int) : Binary64 :=
  match x.ratio? with
  | some (num, den) => ofRatio (num + i * den) den
  | none => x

/-! ## Comparison -/

/-- The order of two numbers; none when one of them is not a number. -/
def compare? : Binary64 → Binary64 → Option Ordering
  | .nan, _ => none
  | _, .nan => none
  | .infinite a, .infinite b => some (if a = b then .eq else if a then .lt else .gt)
  | .infinite a, .finite .. => some (if a then .lt else .gt)
  | .finite .., .infinite b => some (if b then .gt else .lt)
  | .finite na ma ea, .finite nb mb eb =>
    let (p, q) := fraction ma ea
    let (r, s) := fraction mb eb
    let left : Int := (if na then -(p : Int) else p) * s
    let right : Int := (if nb then -(r : Int) else r) * q
    some (Ord.compare left right)

/-- A whole number as an exact value, whatever its size. It is not rounded, so it need not be
canonical. -/
def exact (i : Int) : Binary64 := .finite (decide (i < 0)) i.natAbs 0

end Binary64

end CatchAudit
