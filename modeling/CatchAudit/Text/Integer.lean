/-
Whole numbers in text: decimal digits of any script, single underscores between them, an optional
sign, and blanks around. A number has at most 4300 digits.
-/
import CatchAudit.Text.Blank
import CatchAudit.Text.Word

namespace CatchAudit.Text

/-- Why a text spells no whole number. -/
inductive IntegerFault where
  | malformed
  | tooLong (digits : Nat)
  deriving DecidableEq, Repr

/-- The greatest number of digits. -/
def maxDigits : Nat := 4300

/-- The wording for a text with too many digits. -/
def digitLimitMessage (digits : Nat) : String :=
  "Exceeds the limit (" ++ toString maxDigits ++ " digits) for integer string conversion: value has " ++
    toString digits ++ " digits; use sys.set_int_max_str_digits() to increase the limit"

/-- The wording for a number whose text would have too many digits. -/
def longNumberMessage : String :=
  "Exceeds the limit (" ++ toString maxDigits ++ " digits) for integer string conversion; " ++
    "use sys.set_int_max_str_digits() to increase the limit"

/-- Whether the text of a number would have too many digits. -/
def isLongNumber (i : Int) : Bool := Nat.pow 10 maxDigits ≤ i.natAbs

/-- The leading digits, with single underscores between them, and what follows; none if an underscore
stands elsewhere or no digit comes. `afterDigit` tells whether a digit came last, and `done` holds the
digits so far, reversed. -/
def leadingDigits (done : List Nat) :
    (afterDigit : Bool) → List Char → Option (List Nat × List Char)
  | afterDigit, [] => if afterDigit then some (done.reverse, []) else none
  | afterDigit, c :: rest =>
    match decimalValue? c with
    | some d => leadingDigits (d :: done) true rest
    | none =>
      if !afterDigit then none
      else if c = '_' then leadingDigits done false rest
      else some (done.reverse, c :: rest)

/-- The number that decimal digits spell. -/
def decimalOf (digits : List Nat) : Nat := digits.foldl (fun n d => 10 * n + d) 0

/-- The blanks that may surround a number: among the first 128 code points the plain ones only. -/
def isNumberBlank (c : Char) : Bool := isPlainBlank c || (128 ≤ c.toNat && isBlank c)

/-- A number without sign, with blanks after it. The number of digits is looked at before what follows
them. -/
def unsigned (cs : List Char) : Except IntegerFault Nat :=
  match leadingDigits [] false cs with
  | none => .error .malformed
  | some (digits, rest) =>
    if maxDigits < digits.length then .error (.tooLong digits.length)
    else if rest.all isNumberBlank then .ok (decimalOf digits)
    else .error .malformed

/-- The whole number that a text spells. -/
def integer (cs : List Char) : Except IntegerFault Int :=
  match cs.dropWhile isNumberBlank with
  | '-' :: rest => (unsigned rest).map fun n => -(n : Int)
  | '+' :: rest => (unsigned rest).map Int.ofNat
  | rest => (unsigned rest).map Int.ofNat

end CatchAudit.Text
