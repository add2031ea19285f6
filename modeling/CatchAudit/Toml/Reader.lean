/-
Reading TOML. Inline tables may span lines and end in a comma, and times may lack seconds.
-/
import CatchAudit.Text.Integer
import CatchAudit.Toml.Table

namespace CatchAudit.Toml

inductive Reason where
  | badStatement
  | unfinishedLine
  | badKey
  | noValue
  | badValue
  | badDate
  | badCharacter
  | badEscape
  | unterminated
  | conflict
  /-- A decimal number with more digits than whole numbers may have. -/
  | longNumber (digits : Nat)
  deriving DecidableEq, Repr

def Reason.message : Reason → String
  | .badStatement => "Invalid statement"
  | .unfinishedLine => "Expected the end of the line"
  | .badKey => "Invalid key"
  | .noValue => "Expected '=' after a key"
  | .badValue => "Invalid value"
  | .badDate => "Invalid date"
  | .badCharacter => "Invalid character"
  | .badEscape => "Invalid escape"
  | .unterminated => "Unterminated value"
  | .conflict => "Conflicting definition"
  | .longNumber digits => Text.digitLimitMessage digits

/-- A fault with the number of characters that were left when it was found. -/
structure TomlFault where
  reason : Reason
  left : Nat
  deriving DecidableEq, Repr

def TomlFault.message (f : TomlFault) : String :=
  f.reason.message ++ " (" ++ toString f.left ++ " characters before the end)"

/-- Reads something from the front of a text and gives the rest, or a `TomlFault`. -/
abbrev Scan (α : Type) := List Char → Except TomlFault (α × List Char)

def fault {α : Type} (reason : Reason) (rest : List Char) : Except TomlFault α :=
  .error ⟨reason, rest.length⟩

/-! ## Blanks and comments -/

def isSpace (c : Char) : Bool := c == ' ' || c == '\t'

def isSpaceOrLine (c : Char) : Bool := isSpace c || c == '\n'

/-- Control characters other than the tab. -/
def isControl (c : Char) : Bool := (c.toNat < 0x20 && c != '\t') || c.toNat == 0x7f

def isControlInLines (c : Char) : Bool := isControl c && c != '\n'

def skipSpace (cs : List Char) : List Char := cs.dropWhile isSpace

/-- Skips a comment up to the end of its line. -/
def skipComment (cs : List Char) : Except TomlFault (List Char) :=
  match cs with
  | '#' :: rest =>
    if (rest.takeWhile (· ≠ '\n')).any isControl then fault .badCharacter rest
    else .ok (rest.dropWhile (· ≠ '\n'))
  | _ => .ok cs

/-- Skips blanks, line ends and, by `skipComment`, comments. -/
def skipLines : (fuel : Nat) → List Char → Except TomlFault (List Char)
  | 0, cs => .ok cs
  | fuel + 1, cs => do
    let rest ← skipComment (cs.dropWhile isSpaceOrLine)
    if rest.length = cs.length then return cs else skipLines fuel rest

def skipGap (cs : List Char) : Except TomlFault (List Char) := skipLines (cs.length + 1) cs

/-! ## Texts -/

def hexValue? (c : Char) : Option Nat :=
  if '0' ≤ c && c ≤ '9' then some (c.toNat - 48)
  else if 'a' ≤ c && c ≤ 'f' then some (c.toNat - 87)
  else if 'A' ≤ c && c ≤ 'F' then some (c.toNat - 55)
  else none

/-- The value of digits, underscores left out. -/
def valueIn (base : Nat) (cs : List Char) : Nat :=
  cs.foldl (fun n c => match hexValue? c with
    | some d => base * n + d
    | none => n) 0

/-- The number of digits after an escape that gives a code point. -/
def codeLength? : Char → Option Nat
  | 'x' => some 2
  | 'u' => some 4
  | 'U' => some 8
  | _ => none

/-- The character that a one-letter escape stands for. -/
def escape? : Char → Option Char
  | 'b' => some (Char.ofNat 8)
  | 't' => some '\t'
  | 'n' => some '\n'
  | 'f' => some (Char.ofNat 12)
  | 'r' => some '\r'
  | 'e' => some (Char.ofNat 27)
  | '"' => some '"'
  | '\\' => some '\\'
  | _ => none

def isScalar (n : Nat) : Bool := n < 0xd800 || (0xe000 ≤ n && n < 0x110000)

/-- Reads what follows a backslash. A line may end in one; it then goes on at the next character that
is not blank. -/
def scanEscape (multiline : Bool) : Scan (List Char)
  | c :: rest =>
    if multiline && isSpaceOrLine c then
      match skipSpace (c :: rest) with
      | [] => .ok ([], [])
      | '\n' :: rest => .ok ([], rest.dropWhile isSpaceOrLine)
      | rest => fault .badEscape rest
    else match codeLength? c, escape? c with
      | some n, _ =>
        let digits := rest.take n
        if digits.length = n && digits.all fun c => (hexValue? c).isSome then
          let value := valueIn 16 digits
          if isScalar value then .ok ([Char.ofNat value], rest.drop n) else fault .badEscape rest
        else fault .badEscape rest
      | none, some d => .ok ([d], rest)
      | none, none => fault .badEscape rest
  | [] => fault .badEscape []

/-- Reads a text up to its closing quote, or three of them; `done` is reversed. -/
def scanBasic (multiline : Bool) : (fuel : Nat) → List Char → Scan (List Char)
  | 0, _, cs => fault .unterminated cs
  | fuel + 1, done, cs =>
    match cs with
    | [] => fault .unterminated cs
    | '"' :: rest =>
      if !multiline then .ok (done.reverse, rest)
      else match rest with
        | '"' :: '"' :: rest => .ok (done.reverse, rest)
        | _ => scanBasic multiline fuel ('"' :: done) rest
    | '\\' :: rest => do
      let (escaped, rest) ← scanEscape multiline rest
      scanBasic multiline fuel (escaped.reverse ++ done) rest
    | c :: rest =>
      if if multiline then isControlInLines c else isControl c then fault .badCharacter cs
      else scanBasic multiline fuel (c :: done) rest

/-- Reads a text without escapes up to its closing apostrophe. -/
def scanLiteral : Scan (List Char) := fun cs =>
  let inner := cs.takeWhile (· ≠ '\'')
  match cs.drop inner.length with
  | [] => fault .unterminated cs
  | _ :: rest => if inner.any isControl then fault .badCharacter cs else .ok (inner, rest)

/-- Reads a text without escapes up to three apostrophes; `done` is reversed. -/
def scanLiteralLines (done : List Char) : Scan (List Char)
  | [] => fault .unterminated []
  | '\'' :: '\'' :: '\'' :: rest =>
    if done.any isControlInLines then fault .badCharacter rest else .ok (done.reverse, rest)
  | c :: rest => scanLiteralLines (c :: done) rest

/-- Up to two quotes right after the closing three belong to the text. -/
def moreQuotes (quote : Char) (cs rest : List Char) : List Char × List Char :=
  let extra := (rest.takeWhile (· = quote)).take 2
  (cs ++ extra, rest.drop extra.length)

/-- The line end right after the opening quotes is no part of the text. -/
def skipFirstLine : List Char → List Char
  | '\n' :: rest => rest
  | cs => cs

/-- Reads a text from its opening quote on; `lines` allows three quotes. -/
def scanText (lines : Bool) : Scan (List Char) := fun cs =>
  match cs with
  | '"' :: rest =>
    match lines, rest with
    | true, '"' :: '"' :: rest => do
      let (text, rest) ← scanBasic true (rest.length + 1) [] (skipFirstLine rest)
      return moreQuotes '"' text rest
    | _, _ => scanBasic false (rest.length + 1) [] rest
  | '\'' :: rest =>
    match lines, rest with
    | true, '\'' :: '\'' :: rest => do
      let (text, rest) ← scanLiteralLines [] (skipFirstLine rest)
      return moreQuotes '\'' text rest
    | _, _ => scanLiteral rest
  | _ => fault .badValue cs

/-! ## Keys -/

def isBareKey (c : Char) : Bool := c.isAlphanum || c == '-' || c == '_'

def scanKeyPart : Scan String := fun cs =>
  match cs with
  | c :: _ =>
    if isBareKey c then .ok (String.ofList (cs.takeWhile isBareKey), cs.dropWhile isBareKey)
    else if c = '"' || c = '\'' then do
      let (part, rest) ← scanText false cs
      return (String.ofList part, rest)
    else fault .badKey cs
  | [] => fault .badKey cs

/-- Reads the further parts of a dotted key. -/
def scanKeyParts : (fuel : Nat) → Scan (List String)
  | 0, cs => .ok ([], cs)
  | fuel + 1, cs =>
    match skipSpace cs with
    | '.' :: rest => do
      let (part, rest) ← scanKeyPart (skipSpace rest)
      let (parts, rest) ← scanKeyParts fuel rest
      return (part :: parts, rest)
    | rest => .ok ([], rest)

/-- Reads a dotted key, by `scanKeyParts` from the second part on, and the blanks after it. -/
def scanKey : Scan Key := fun cs => do
  let (part, rest) ← scanKeyPart cs
  let (parts, rest) ← scanKeyParts rest.length rest
  return (part :: parts, rest)

/-! ## Numbers and dates -/

/-- The digits at the front, with single underscores between them. -/
def digitsOf (isDigit : Char → Bool) : List Char → List Char
  | [] => []
  | c :: rest =>
    if isDigit c then c :: digitsOf isDigit rest
    else match c, rest with
      | '_', d :: _ => if isDigit d then c :: digitsOf isDigit rest else []
      | _, _ => []

/-- The `digitsOf` a text that start with a digit, not with an underscore. -/
def digitsAt (isDigit : Char → Bool) (cs : List Char) : List Char :=
  match cs with
  | c :: _ => if isDigit c then digitsOf isDigit cs else []
  | [] => []

def isOctalDigit (c : Char) : Bool := '0' ≤ c && c ≤ '7'

def isBinaryDigit (c : Char) : Bool := c == '0' || c == '1'

/-- A number with a base mark. -/
def scanBased? (cs : List Char) : Option (Document × List Char) :=
  let scan (base : Nat) (isDigit : Char → Bool) (rest : List Char) :=
    let digits := digitsAt isDigit rest
    if digits.isEmpty then none
    else some (Document.int (valueIn base digits), rest.drop digits.length)
  match cs with
  | '0' :: 'x' :: rest => scan 16 (fun c => (hexValue? c).isSome) rest
  | '0' :: 'o' :: rest => scan 8 isOctalDigit rest
  | '0' :: 'b' :: rest => scan 2 isBinaryDigit rest
  | _ => none

/-- The sign of a number and what follows it. -/
def signOf : List Char → Bool × List Char
  | '-' :: rest => (true, rest)
  | '+' :: rest => (false, rest)
  | cs => (false, cs)

/-- The exponent at the front, with what follows it. -/
def scanExponent? (cs : List Char) : Option (Int × List Char) :=
  match cs with
  | e :: rest =>
    if e == 'e' || e == 'E' then
      let (negative, rest) := signOf rest
      let digits := digitsAt Char.isDigit rest
      if digits.isEmpty then none
      else
        let n : Int := valueIn 10 digits
        some (if negative then -n else n, rest.drop digits.length)
    else none
  | [] => none

/-- A decimal number; a fraction or an exponent makes it a float. -/
def scanDecimal? (cs : List Char) : Option (Except TomlFault (Document × List Char)) :=
  let (negative, body) := signOf cs
  let whole := match body with
    | '0' :: _ => ['0']
    | _ => digitsAt Char.isDigit body
  if whole.isEmpty then none
  else
    let rest := body.drop whole.length
    let places := match rest with
      | '.' :: tail => digitsAt Char.isDigit tail
      | _ => []
    let rest := if places.isEmpty then rest else rest.drop (places.length + 1)
    let exponent := scanExponent? rest
    if places.isEmpty && exponent.isNone then
      let count := (whole.filter Char.isDigit).length
      let n : Int := valueIn 10 whole
      some (if Text.maxDigits < count then fault (.longNumber count) cs
        else .ok (.int (if negative then -n else n), rest))
    else
      let (e, rest) := exponent.getD (0, rest)
      let count := (places.filter Char.isDigit).length
      some (.ok (.float (Binary64.ofDecimal negative (valueIn 10 (whole ++ places)) (e - count)), rest))

/-- The words for floats that are no numbers in digits. -/
def floatWords : List (String × Binary64) := [
  ("inf", .infinite false), ("nan", .nan), ("-inf", .infinite true), ("+inf", .infinite false),
  ("-nan", .nan), ("+nan", .nan)]

/-- Exactly `n` digits. -/
def fixedDigits? (n : Nat) (cs : List Char) : Option (Nat × List Char) :=
  let digits := cs.take n
  if digits.length = n && digits.all Char.isDigit then some (valueIn 10 digits, cs.drop n) else none

/-- Two digits after a mark, of a number up to `most`. -/
def markedPair? (mark : Char) (most : Nat) (cs : List Char) : Option (Nat × List Char) :=
  match cs with
  | c :: rest =>
    if c = mark then
      match fixedDigits? 2 rest with
      | some (n, rest) => if n ≤ most then some (n, rest) else none
      | none => none
    else none
  | [] => none

/-- The fraction of a second, in microseconds; further digits are dropped. -/
def scanFraction (cs : List Char) : Nat × List Char :=
  match cs with
  | '.' :: tail =>
    let digits := tail.takeWhile Char.isDigit
    if digits.isEmpty then (0, cs)
    else
      let six := digits.take 6
      (valueIn 10 (six ++ List.replicate (6 - six.length) '0'), tail.drop digits.length)
  | _ => (0, cs)

/-- A time of day; seconds and their fraction may be missing. -/
def scanTime? (cs : List Char) : Option (TimeOfDay × List Char) := do
  let (hour, rest) ← fixedDigits? 2 cs
  if 24 ≤ hour then none
  let (minute, rest) ← markedPair? ':' 59 rest
  match markedPair? ':' 59 rest with
  | none => return (⟨hour, minute, 0, 0⟩, rest)
  | some (second, rest) =>
    let (microsecond, rest) := scanFraction rest
    return (⟨hour, minute, second, microsecond⟩, rest)

/-- The offset after a time, in minutes, if there is one. -/
def scanOffset (cs : List Char) : Option Int × List Char :=
  match cs with
  | 'Z' :: rest => (some 0, rest)
  | 'z' :: rest => (some 0, rest)
  | sign :: rest =>
    if sign == '+' || sign == '-' then
      let offset := do
        let (hour, rest) ← fixedDigits? 2 rest
        if 24 ≤ hour then none
        let (minute, rest) ← markedPair? ':' 59 rest
        let minutes : Int := 60 * hour + minute
        return (some (if sign == '-' then -minutes else minutes), rest)
      offset.getD (none, cs)
    else (none, cs)
  | [] => (none, cs)

/-- A date, whose month and day are in range for some month. -/
def scanDate? (cs : List Char) : Option (Date × List Char) := do
  let (year, rest) ← fixedDigits? 4 cs
  let (month, rest) ← markedPair? '-' 12 rest
  let (day, rest) ← markedPair? '-' 31 rest
  if month = 0 || day = 0 then none
  return (⟨year, month, day⟩, rest)

/-- A date, a time or both. -/
def scanMoment? (cs : List Char) : Option (Except TomlFault (Document × List Char)) :=
  match scanDate? cs with
  | some (date, rest) =>
    let alone : Moment × List Char := (.date date, rest)
    let (m, rest) := match rest with
      | c :: tail =>
        if c == 'T' || c == 't' || c == ' ' then
          match scanTime? tail with
          | some (time, rest) =>
            let (offset, rest) := scanOffset rest
            (.dateTime date time offset, rest)
          | none => alone
        else alone
      | [] => alone
    some (if date.isValid then .ok (.moment m, rest) else fault .badDate cs)
  | none => (scanTime? cs).map fun (time, rest) => .ok (.moment (.time time), rest)

/-- A value that is no text, list or table. -/
def scanScalar : Scan Document := fun cs =>
  match scanMoment? cs with
  | some moment => moment
  | none =>
    match scanBased? cs, scanDecimal? cs with
    | some found, _ => .ok found
    | none, some found => found
    | none, none =>
      match floatWords.find? fun w => w.1.toList.isPrefixOf cs with
      | some (word, x) => .ok (.float x, cs.drop word.length)
      | none => fault .badValue cs

/-! ## Values -/

/-- An inline table so far, with the keys of its lists and tables. -/
structure Inline where
  members : Members
  marks : Marks

/-- Adds a value under a dotted key to an inline table. -/
def Inline.add (t : Inline) (key : Key) (value : Document) : Option Inline := do
  if t.marks.has key .frozen then none
  else
    let members ← inTable false (addMember (key.getLastD "") value) key.dropLast t.members
    let marks := if Building.isComposite value then [⟨key, .frozen, true⟩] else []
    return ⟨members, t.marks ++ marks⟩

mutual
/-- Reads a value. -/
def scanValue : (fuel : Nat) → Scan Document
  | 0, cs => fault .badValue cs
  | fuel + 1, cs =>
    match cs with
    | '"' :: _ => do
      let (text, rest) ← scanText true cs
      return (.text (String.ofList text), rest)
    | '\'' :: _ => do
      let (text, rest) ← scanText true cs
      return (.text (String.ofList text), rest)
    | 't' :: 'r' :: 'u' :: 'e' :: rest => .ok (.bool true, rest)
    | 'f' :: 'a' :: 'l' :: 's' :: 'e' :: rest => .ok (.bool false, rest)
    | '[' :: rest => do
      let (items, rest) ← scanItems fuel [] rest
      return (.list items, rest)
    | '\x7b' :: rest => do
      let (members, rest) ← scanInline fuel ⟨[], []⟩ rest
      return (.object members, rest)
    | _ => scanScalar cs

/-- Reads the items of a list up to its closing bracket; `done` is reversed. -/
def scanItems : (fuel : Nat) → List Document → Scan (List Document)
  | 0, _, cs => fault .unterminated cs
  | fuel + 1, done, cs => do
    match ← skipGap cs with
    | ']' :: rest => return (done.reverse, rest)
    | cs =>
      let (d, rest) ← scanValue fuel cs
      match ← skipGap rest with
      | ']' :: rest => return ((d :: done).reverse, rest)
      | ',' :: rest => scanItems fuel (d :: done) rest
      | rest => fault .unterminated rest

/-- Reads the members of an inline table up to its closing brace. -/
def scanInline : (fuel : Nat) → Inline → Scan Members
  | 0, _, cs => fault .unterminated cs
  | fuel + 1, table, cs => do
    match ← skipGap cs with
    | '\x7d' :: rest => return (table.members, rest)
    | cs =>
      let (key, rest) ← scanKey cs
      match rest with
      | '=' :: rest =>
        let (d, rest) ← scanValue fuel (skipSpace rest)
        match table.add key d with
        | none => fault .conflict rest
        | some table =>
          match ← skipGap rest with
          | '\x7d' :: rest => return (table.members, rest)
          | ',' :: rest => scanInline fuel table rest
          | rest => fault .unterminated rest
      | rest => fault .noValue rest
end

/-! ## Documents -/

/-- A header between single or double brackets, from after the first bracket on. -/
def scanHeader (b : Building) : Scan Building := fun cs =>
  let settled := b.settle
  match cs with
  | '[' :: rest => do
    let (key, rest) ← scanKey (skipSpace rest)
    match settled.openListTable key, rest with
    | none, _ => fault .conflict rest
    | some b, ']' :: ']' :: rest => return (b, rest)
    | some _, _ => fault .unterminated rest
  | _ => do
    let (key, rest) ← scanKey (skipSpace cs)
    match settled.openTable key, rest with
    | none, _ => fault .conflict rest
    | some b, ']' :: rest => return (b, rest)
    | some _, _ => fault .unterminated rest

/-- A key and its value. -/
def scanPair (b : Building) : Scan Building := fun cs => do
  let (key, rest) ← scanKey cs
  match rest with
  | '=' :: rest =>
    let (d, rest) ← scanValue (2 * rest.length + 2) (skipSpace rest)
    match b.addValue key d with
    | some b => return (b, rest)
    | none => fault .conflict rest
  | _ => fault .noValue rest

/-- One statement, from its first character on: a header, a pair, or nothing but a comment. -/
def scanStatement (b : Building) : Scan Building := fun cs =>
  match cs with
  | '[' :: rest => scanHeader b rest
  | '#' :: _ => .ok (b, cs)
  | c :: _ => if isBareKey c || c = '"' || c = '\'' then scanPair b cs else fault .badStatement cs
  | [] => .ok (b, [])

/-- Reads statements, one a line. -/
def scanDocument : (fuel : Nat) → Building → List Char → Except TomlFault Building
  | 0, b, _ => .ok b
  | fuel + 1, b, cs =>
    match skipSpace cs with
    | [] => .ok b
    | '\n' :: rest => scanDocument fuel b rest
    | cs => do
      let (b, rest) ← scanStatement b cs
      match ← skipComment (skipSpace rest) with
      | [] => return b
      | '\n' :: rest => scanDocument fuel b rest
      | rest => fault .unfinishedLine rest

/-- Line ends of two characters become one. -/
def joinLineEnds : List Char → List Char
  | '\r' :: '\n' :: rest => '\n' :: joinLineEnds rest
  | c :: rest => c :: joinLineEnds rest
  | [] => []

/-- The members of the table that a TOML text denotes. -/
def parse (source : List Char) : Except TomlFault (List (String × Document)) := do
  let cs := joinLineEnds source
  let b ← scanDocument (cs.length + 1) Building.start cs
  return b.members

end CatchAudit.Toml
