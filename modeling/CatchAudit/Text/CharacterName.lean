/-
Characters by their names. Names are looked up without regard to case, among the names proper and the
further ones. Ideographs and a few other characters are named by their code points, and Hangul
syllables by their sounds; those of the ideographs and the syllables are written in capitals.
-/
import CatchAudit.Text.CharacterName.Aliases
import CatchAudit.Text.CharacterName.Alphabets
import CatchAudit.Text.CharacterName.Ancient
import CatchAudit.Text.CharacterName.Pictures
import CatchAudit.Text.CharacterName.Signs
import CatchAudit.Text.CharacterName.Syllables

namespace CatchAudit.Text

namespace CharacterName

/-! ## Names in tables -/

/-- The entries of a table, which commas and line ends divide. -/
def entries (table : String) : List String := (table.splitOn "\n").flatMap (·.splitOn ",")

def hexDigit? (c : Char) : Option Nat :=
  if '0' ≤ c && c ≤ '9' then some (c.toNat - 48)
  else if 'A' ≤ c && c ≤ 'F' then some (c.toNat - 55)
  else none

/-- The number that hexadecimal digits, in capitals, spell. -/
def hexValue? (cs : List Char) : Option Nat :=
  cs.foldlM (fun n c => (hexDigit? c).map (16 * n + ·)) 0

/-- Looks for a name, given by its words, in the entries of a table. An entry is a code point after an
at sign, or a name: the number of words that it shares with the name before, and its further words. A
name belongs to the code point given, or to the next one after that of the name before. -/
def findIn (words : List String) : (point : Nat) → (before : List String) → List String → Option Nat
  | _, _, [] => none
  | point, before, entry :: rest =>
    match entry.toList with
    | '@' :: digits => findIn words ((hexValue? digits).getD 0) before rest
    | count :: further =>
      let name := before.take (count.toNat - 48) ++ (String.ofList further).splitOn " "
      if name = words then some point else findIn words (point + 1) name rest
    | [] => findIn words point before rest

/-- The character with a further name. An entry is a code point and names, divided by equals signs. -/
def findAlias (name : String) : List String → Option Nat
  | [] => none
  | entry :: rest =>
    match entry.splitOn "=" with
    | digits :: names => if names.contains name then hexValue? digits.toList else findAlias name rest
    | [] => findAlias name rest

def tables : List String := [alphabets, signs, syllables, ancient, pictures]

/-! ## Names by code points -/

/-- What names start with before the code point, and the ranges of the characters that have such a
name. -/
def byCodePoint : List (String × List (Nat × Nat)) := [
  ("CJK COMPATIBILITY IDEOGRAPH-", [(0xf900, 0xfa6d), (0xfa70, 0xfad9), (0x2f800, 0x2fa1d)]),
  ("NUSHU CHARACTER-", [(0x1b170, 0x1b2fb)]),
  ("KHITAN SMALL SCRIPT CHARACTER-", [(0x18b00, 0x18cd5)])]

/-- The ranges of the unified ideographs. -/
def unifiedIdeographs : List (Nat × Nat) := [
  (0x3400, 0x4dbf), (0x4e00, 0x9fff), (0x20000, 0x2a6df), (0x2a700, 0x2b738), (0x2b740, 0x2b81d),
  (0x2b820, 0x2cea1), (0x2ceb0, 0x2ebe0), (0x30000, 0x3134a)]

/-- What follows a start, if the text has it. -/
def after? (start : String) (cs : List Char) : Option (List Char) :=
  if start.toList.isPrefixOf cs then some (cs.drop start.length) else none

/-- A character of the ranges, given by its code point. -/
def pointIn? (ranges : List (Nat × Nat)) (digits : List Char) : Option Nat :=
  match hexValue? digits with
  | some n => if ranges.any fun r => r.1 ≤ n && n ≤ r.2 then some n else none
  | none => none

/-- A character named by its code point, which has no zero at the front. -/
def codePointNamed? (cs : List Char) : Option Nat :=
  byCodePoint.findSome? fun (start, ranges) =>
    match after? start cs with
    | some ('0' :: _) => none
    | some digits => pointIn? ranges digits
    | none => none

/-- A unified ideograph; its code point has four or five digits. -/
def ideograph? (digits : List Char) : Option Nat :=
  if digits.length = 4 ∨ digits.length = 5 then pointIn? unifiedIdeographs digits else none

/-! ## Hangul syllables -/

def initials : List String :=
  ["G", "GG", "N", "D", "DD", "R", "M", "B", "BB", "S", "SS", "", "J", "JJ", "C", "K", "T", "P", "H"]

def vowels : List String :=
  ["A", "AE", "YA", "YAE", "EO", "E", "YEO", "YE", "O", "WA", "WAE", "OE", "YO", "U", "WEO", "WE", "WI",
    "YU", "EU", "YI", "I"]

def finals : List String :=
  ["", "G", "GG", "GS", "N", "NJ", "NH", "D", "L", "LG", "LM", "LB", "LS", "LT", "LP", "LH", "M", "B",
    "BS", "S", "SS", "NG", "J", "C", "K", "T", "P", "H"]

/-- The index of the longest of the sounds with which the text starts, and what follows it. -/
def longestSound? (sounds : List String) (cs : List Char) : Option (Nat × List Char) :=
  let found := (sounds.zipIdx).filter fun s => s.1.toList.isPrefixOf cs
  let longest := found.foldl (fun (best : Option (String × Nat)) s =>
    match best with
    | some b => if b.1.length < s.1.length then some s else some b
    | none => some s) none
  longest.map fun s => (s.2, cs.drop s.1.length)

/-- The syllable of three sounds. -/
def syllable? (cs : List Char) : Option Nat := do
  let (initial, cs) ← longestSound? initials cs
  let (vowel, cs) ← longestSound? vowels cs
  let (final, cs) ← longestSound? finals cs
  if cs.isEmpty then some (0xac00 + (initial * vowels.length + vowel) * finals.length + final) else none

end CharacterName

open CharacterName in
/-- The character with a name. -/
def characterNamed? (cs : List Char) : Option Nat :=
  match after? "HANGUL SYLLABLE " cs, after? "CJK UNIFIED IDEOGRAPH-" cs with
  | some sounds, _ => syllable? sounds
  | none, some digits => ideograph? digits
  | none, none =>
    let capitals := cs.map Char.toUpper
    let name := String.ofList capitals
    let words := name.splitOn " "
    (codePointNamed? capitals).or
      ((tables.findSome? fun table => findIn words 0 [] (entries table)).or
        (findAlias name (entries aliases)))

end CatchAudit.Text
