/-
Emoji by their names, in small letters. A name that ends in a skin tone stands for the emoji of the
rest of it in that tone.
-/
import CatchAudit.Text.EmojiName.Flags
import CatchAudit.Text.EmojiName.People
import CatchAudit.Text.EmojiName.Pictures
import CatchAudit.Text.EmojiName.Symbols

namespace CatchAudit.Text

namespace EmojiName

/-- The entries of a table, which blanks and line ends divide. -/
def entries (table : String) : List String := (table.splitOn "\n").flatMap (·.splitOn " ")

/-- Looks for a name in the entries of a table. An entry is an emoji and its names, divided by equals
signs. -/
def findIn (name : String) : List String → Option String
  | [] => none
  | entry :: rest =>
    match entry.splitOn "=" with
    | emoji :: names => if names.contains name then some emoji else findIn name rest
    | [] => findIn name rest

/-- The ends of names that give a skin tone, and the characters for them. -/
def tones : List (String × Char) := [
  ("_light_skin_tone", '🏻'), ("_medium-light_skin_tone", '🏼'), ("_medium_skin_tone", '🏽'),
  ("_medium-dark_skin_tone", '🏾'), ("_dark_skin_tone", '🏿')]

/-- An emoji in a skin tone: the tone follows the first character, in place of a request to show it as
an emoji. -/
def inTone (tone : Char) (emoji : String) : String :=
  match emoji.toList with
  | c :: '\uFE0F' :: rest => String.ofList (c :: tone :: rest)
  | c :: rest => String.ofList (c :: tone :: rest)
  | [] => emoji

/-- What stands before an end, if the text has it. -/
def before? (ending text : String) : Option String :=
  if text.endsWith ending then some (String.ofList (text.toList.take (text.length - ending.length)))
  else none

def toned? (name : String) : Option String :=
  tones.findSome? fun (ending, tone) => do
    inTone tone (← findIn (← before? ending name) (entries people))

end EmojiName

/-- The emoji with a name. -/
def emojiNamed? (name : String) : Option String :=
  ([EmojiName.people, EmojiName.symbols, EmojiName.pictures, EmojiName.flags].findSome? fun table =>
    EmojiName.findIn name (EmojiName.entries table)).orElse fun _ => EmojiName.toned? name

end CatchAudit.Text
