/-
The shortest decimal that reads back as a given binary64 number, and the text it is written in.
Among the decimals of least length the one nearest to the value is taken.
-/
import CatchAudit.Number.Binary64

namespace CatchAudit

namespace Binary64

/-- Whether `a / b < 10^k`. -/
def belowTenTo (a b : Nat) (k : Int) : Bool :=
  if 0 ≤ k then decide (a < b * Nat.pow 10 k.toNat) else decide (a * Nat.pow 10 (-k).toNat < b)

/-- The `k` with `10^k ≤ num / den < 10^(k+1)`, for a positive fraction. -/
def decade (num den : Nat) : Int :=
  let guess : Int := ((num.log2 : Int) - (den.log2 : Int)) * 30103 / 100000
  -- the guess is off by at most one on either side
  if belowTenTo num den guess then guess - 1
  else if belowTenTo num den (guess + 1) then guess
  else guess + 1

/-- The neighbours of `num / den` on the grid of multiples of `10^k`, the nearer one first. A value
halfway between them takes the even one first. -/
def gridNeighbours (num den : Nat) (k : Int) : List Nat :=
  let (n, d) := if 0 ≤ k then (num, den * Nat.pow 10 k.toNat) else (num * Nat.pow 10 (-k).toNat, den)
  let near := nearest n d
  let floor := n / d
  if near = floor then [floor, floor + 1] else [floor + 1, floor]

/-- The first of `digits`, `digits + 1`, … digits for which a neighbour reads back; at most `fuel`
lengths are tried. -/
def shortestFrom (m : Nat) (e : Int) (num den : Nat) (top : Int) : (fuel digits : Nat) → Nat × Int
  | 0, _ => (num / den, 0)
  | fuel + 1, digits =>
    let k := top - digits + 1
    match (gridNeighbours num den k).find? fun c => ofDecimal false c k == .finite false m e with
    | some c => (c, k)
    | none => shortestFrom m e num den top fuel (digits + 1)

/-- `(c, k)` with `c · 10^k` the shortest decimal that reads back as `m · 2^e`. Seventeen digits
always suffice. -/
def shortest (m : Nat) (e : Int) : Nat × Int :=
  let (num, den) := fraction m e
  shortestFrom m e num den (decade num den) 17 1

/-- Where decimals are written with an exponent. -/
structure DecimalStyle where
  /-- The least power of ten of a leading digit that is written positionally. -/
  least : Int
  /-- From this power of ten on an exponent is written. -/
  beyond : Int
  /-- The least number of digits of an exponent. -/
  exponentDigits : Nat

/-- Numbers below `10^16` and from `10^-4` on are positional; an exponent has two digits. -/
def plainStyle : DecimalStyle := ⟨-4, 16, 2⟩

def dropTrailingZeros (cs : List Char) : List Char :=
  (cs.reverse.dropWhile (· = '0')).reverse

/-- The text of `c · 10^k`. A positional number always has a point. -/
def DecimalStyle.write (style : DecimalStyle) (c : Nat) (k : Int) : String :=
  let digits := dropTrailingZeros (Nat.repr c).toList
  let top : Int := k + (Nat.repr c).length - 1
  if style.least ≤ top ∧ top < style.beyond then
    if top < 0 then
      String.ofList ('0' :: '.' :: List.replicate (-top - 1).toNat '0' ++ digits)
    else
      let whole := (top + 1).toNat
      let padded := digits ++ List.replicate (whole - digits.length) '0'
      let tail := padded.drop whole
      String.ofList (padded.take whole ++ '.' :: (if tail.isEmpty then ['0'] else tail))
  else
    let power := Nat.repr top.natAbs
    let padding := List.replicate (style.exponentDigits - power.length) '0'
    let sign := if top < 0 then '-' else '+'
    let body := match digits with
      | [] => ['0']
      | [d] => [d]
      | d :: rest => d :: '.' :: rest
    String.ofList (body ++ 'e' :: sign :: padding ++ power.toList)

/-- The text of a number: the shortest decimal, `nan`, `inf` or `-inf`. -/
def text : Binary64 → String
  | .nan => "nan"
  | .infinite negative => if negative then "-inf" else "inf"
  | .finite negative m e =>
    let body :=
      if m = 0 then "0.0"
      else
        let (c, k) := shortest m e
        plainStyle.write c k
    if negative then "-" ++ body else body

end Binary64

end CatchAudit
