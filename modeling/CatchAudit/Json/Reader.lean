/-
Reading JSON. Besides the standard grammar the words `NaN`, `Infinity` and `-Infinity` are numbers.
Of members with one name the last value counts, at the place of the first. A fault carries the
position at which it was found, which its wording turns into a line and a column.

Nesting has no limit here. A reader whose recursion is limited gives up on texts that are nested more deeply
than that, and nothing is said of those.
-/
import CatchAudit.Document.Basic
import CatchAudit.Text.Integer

namespace CatchAudit.Json

inductive Reason where
  | byteOrderMark
  | expectedValue
  | expectedName
  | expectedColon
  | expectedComma
  | extraData
  | unterminatedText
  | controlCharacter
  | badEscape
  | badUnicodeEscape
  /-- A whole number with more digits than such numbers may have. -/
  | longNumber (digits : Nat)
  deriving DecidableEq, Repr

def Reason.message : Reason → String
  | .byteOrderMark => "Unexpected UTF-8 BOM (decode using utf-8-sig)"
  | .expectedValue => "Expecting value"
  | .expectedName => "Expecting property name enclosed in double quotes"
  | .expectedColon => "Expecting ':' delimiter"
  | .expectedComma => "Expecting ',' delimiter"
  | .extraData => "Extra data"
  | .unterminatedText => "Unterminated string starting at"
  | .controlCharacter => "Invalid control character at"
  | .badEscape => "Invalid \\escape"
  | .badUnicodeEscape => "Invalid \\uXXXX escape"
  | .longNumber digits => Text.digitLimitMessage digits

structure JsonFault where
  reason : Reason
  position : Nat
  deriving DecidableEq, Repr

/-- The line and column of a position, both from one. -/
def lineColumn (source : List Char) (position : Nat) : Nat × Nat :=
  let before := source.take position
  (before.count '\n' + 1, (before.reverse.takeWhile (· ≠ '\n')).length + 1)

/-- The wording of a fault found in `source`. -/
def JsonFault.message (f : JsonFault) (source : List Char) : String :=
  let (line, column) := lineColumn source f.position
  f.reason.message ++ ": line " ++ toString line ++ " column " ++ toString column ++
    " (char " ++ toString f.position ++ ")"

/-- The rest of a text and where it starts. -/
structure Cursor where
  position : Nat
  rest : List Char
  deriving Repr

def Cursor.advance (c : Cursor) (n : Nat) : Cursor := ⟨c.position + n, c.rest.drop n⟩

def isSpace (c : Char) : Bool := c == ' ' || c == '\t' || c == '\n' || c == '\r'

def Cursor.skipSpace (c : Cursor) : Cursor :=
  c.advance (c.rest.takeWhile isSpace).length

/-! ## Texts -/

def hexValue? (c : Char) : Option Nat :=
  if '0' ≤ c ∧ c ≤ '9' then some (c.toNat - '0'.toNat)
  else if 'a' ≤ c ∧ c ≤ 'f' then some (c.toNat - 'a'.toNat + 10)
  else if 'A' ≤ c ∧ c ≤ 'F' then some (c.toNat - 'A'.toNat + 10)
  else none

def hexDigits? (cs : List Char) : Option Nat :=
  cs.foldl (fun n c => do return 16 * (← n) + (← hexValue? c)) (some 0)

def isHighSurrogate (n : Nat) : Bool := 0xd800 ≤ n && n < 0xdc00

def isLowSurrogate (n : Nat) : Bool := 0xdc00 ≤ n && n < 0xe000

/-- The character of a code point. A `Char` is no half of a surrogate pair: one on its own becomes the replacement
character, so that texts which differ in such halves only are read as one `String`. -/
def charOf (n : Nat) : Char :=
  if isHighSurrogate n || isLowSurrogate n then Char.ofNat 0xfffd else Char.ofNat n

/-- The character that a one-letter escape stands for. -/
def escape? : Char → Option Char
  | '"' => some '"'
  | '\\' => some '\\'
  | '/' => some '/'
  | 'b' => some (Char.ofNat 8)
  | 'f' => some (Char.ofNat 12)
  | 'n' => some '\n'
  | 'r' => some '\r'
  | 't' => some '\t'
  | _ => none

/-- Reads a text up to its closing quote. `start` is the position of the opening quote and `done`
what has been read, reversed. -/
def scanText (start : Nat) (done : List Char) (position : Nat) :
    List Char → Except JsonFault (String × Cursor)
  | [] => .error ⟨.unterminatedText, start⟩
  | '"' :: rest => .ok (String.ofList done.reverse, ⟨position + 1, rest⟩)
  | '\\' :: [] => .error ⟨.unterminatedText, start⟩
  | '\\' :: 'u' :: a :: b :: c :: d :: e :: rest =>
    match hexDigits? [a, b, c, d] with
    | none => .error ⟨.badUnicodeEscape, position + 1⟩
    | some n =>
      let single := fun (_ : Unit) => scanText start (charOf n :: done) (position + 6) (e :: rest)
      if isHighSurrogate n && e == '\\' then
        match rest with
        | 'u' :: p :: q :: r :: s :: t :: rest =>
          match hexDigits? [p, q, r, s] with
          | none => .error ⟨.badUnicodeEscape, position + 7⟩
          | some m =>
            if isLowSurrogate m then
              let joined := Char.ofNat (0x10000 + (n - 0xd800) * 0x400 + (m - 0xdc00))
              scanText start (joined :: done) (position + 12) (t :: rest)
            else single ()
        | _ => single ()
      else single ()
  | '\\' :: 'u' :: _ => .error ⟨.badUnicodeEscape, position + 1⟩
  | '\\' :: c :: rest =>
    match escape? c with
    | some d => scanText start (d :: done) (position + 2) rest
    | none => .error ⟨.badEscape, position⟩
  | c :: rest =>
    if c.toNat < 0x20 then .error ⟨.controlCharacter, position⟩
    else scanText start (c :: done) (position + 1) rest

/-! ## Numbers -/

def isDigit (c : Char) : Bool := '0' ≤ c && c ≤ '9'

def natOf (digits : List Char) : Nat :=
  digits.foldl (fun n c => 10 * n + (c.toNat - '0'.toNat)) 0

/-- The digits of the whole part: a zero stands alone. -/
def wholeDigits (cs : List Char) : List Char :=
  match cs with
  | '0' :: _ => ['0']
  | _ => cs.takeWhile isDigit

/-- The digits after a point; none if no digit follows it. -/
def pointDigits (cs : List Char) : List Char :=
  match cs with
  | '.' :: rest => rest.takeWhile isDigit
  | _ => []

/-- The sign and digits of an exponent, with the number of characters they take; none if there is no
exponent. -/
def exponentPart? (cs : List Char) : Option (Int × Nat) :=
  match cs with
  | mark :: rest =>
    if mark == 'e' || mark == 'E' then
      let (negative, signed, tail) := match rest with
        | '-' :: tail => (true, 1, tail)
        | '+' :: tail => (false, 1, tail)
        | _ => (false, 0, rest)
      let digits := tail.takeWhile isDigit
      if digits.isEmpty then none
      else
        let n : Int := natOf digits
        some (if negative then -n else n, 1 + signed + digits.length)
    else none
  | [] => none

/-- Reads a number. `pointDigits` or an `exponentPart?` make it a float. -/
def scanNumber (c : Cursor) : Except JsonFault (Document × Cursor) :=
  let (negative, signed, body) := match c.rest with
    | '-' :: body => (true, 1, body)
    | _ => (false, 0, c.rest)
  let whole := wholeDigits body
  if whole.isEmpty then .error ⟨.expectedValue, c.position⟩
  else
    let afterWhole := body.drop whole.length
    let places := pointDigits afterWhole
    let pointed := if places.isEmpty then 0 else places.length + 1
    let exponent := exponentPart? (afterWhole.drop pointed)
    let taken := signed + whole.length + pointed + (exponent.map (·.2)).getD 0
    if places.isEmpty && exponent.isNone then
      let n : Int := natOf whole
      if Text.maxDigits < whole.length then .error ⟨.longNumber whole.length, c.position⟩
      else .ok (.int (if negative then -n else n), c.advance taken)
    else
      let value := Binary64.ofDecimal negative (natOf (whole ++ places))
        ((exponent.map (·.1)).getD 0 - places.length)
      .ok (.float value, c.advance taken)

/-! ## Values -/

/-- The words that stand for a value. -/
def words : List (String × Document) := [
  ("null", .null), ("true", .bool true), ("false", .bool false), ("NaN", .float .nan),
  ("Infinity", .float (.infinite false)), ("-Infinity", .float (.infinite true))]

mutual
/-- Reads a value: a text, a number, one of the `words`, or what brackets and braces hold. -/
def scanValue : (fuel : Nat) → Cursor → Except JsonFault (Document × Cursor)
  | 0, c => .error ⟨.expectedValue, c.position⟩
  | fuel + 1, c =>
    match c.rest with
    | '"' :: rest => do
      let (s, c) ← scanText c.position [] (c.position + 1) rest
      return (.text s, c)
    | '\x7b' :: _ => do
      let c := (c.advance 1).skipSpace
      match c.rest with
      | '\x7d' :: _ => return (.object [], c.advance 1)
      | _ => do
        let (members, c) ← scanMembers fuel [] c
        return (.object members, c)
    | '[' :: _ => do
      let c := (c.advance 1).skipSpace
      match c.rest with
      | ']' :: _ => return (.list [], c.advance 1)
      | _ => do
        let (items, c) ← scanItems fuel [] c
        return (.list items, c)
    | rest =>
      match words.find? fun w => w.1.toList.isPrefixOf rest with
      | some (word, d) => .ok (d, c.advance word.length)
      | none => scanNumber c

/-- Reads the items of a list up to its closing bracket; `done` is reversed. -/
def scanItems : (fuel : Nat) → List Document → Cursor → Except JsonFault (List Document × Cursor)
  | 0, _, c => .error ⟨.expectedValue, c.position⟩
  | fuel + 1, done, c => do
    let (d, c) ← scanValue fuel c
    let c := c.skipSpace
    match c.rest with
    | ']' :: _ => return ((d :: done).reverse, c.advance 1)
    | ',' :: _ => scanItems fuel (d :: done) (c.advance 1).skipSpace
    | _ => .error ⟨.expectedComma, c.position⟩

/-- Reads the members of an object up to its closing brace. -/
def scanMembers : (fuel : Nat) → List (String × Document) → Cursor →
    Except JsonFault (List (String × Document) × Cursor)
  | 0, _, c => .error ⟨.expectedName, c.position⟩
  | fuel + 1, done, c =>
    match c.rest with
    | '"' :: rest => do
      let (name, c) ← scanText c.position [] (c.position + 1) rest
      let c := c.skipSpace
      match c.rest with
      | ':' :: _ => do
        let (d, c) ← scanValue fuel (c.advance 1).skipSpace
        let c := c.skipSpace
        let done := setMember name d done
        match c.rest with
        | '\x7d' :: _ => return (done, c.advance 1)
        | ',' :: _ => scanMembers fuel done (c.advance 1).skipSpace
        | _ => .error ⟨.expectedComma, c.position⟩
      | _ => .error ⟨.expectedColon, c.position⟩
    | _ => .error ⟨.expectedName, c.position⟩
end

/-- Reads a JSON text, however deeply it is nested. Every step of `scanValue` takes a character, so twice the length
bounds the steps. -/
def parse (source : List Char) : Except JsonFault Document := do
  if source.head? = some (Char.ofNat 0xfeff) then .error ⟨.byteOrderMark, 0⟩
  else
    let (d, c) ← scanValue (2 * source.length + 2) (Cursor.mk 0 source).skipSpace
    let c := c.skipSpace
    if c.rest.isEmpty then return d else .error ⟨.extraData, c.position⟩

end CatchAudit.Json
