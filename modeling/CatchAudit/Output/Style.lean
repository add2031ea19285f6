/-
Names of styles: words for attributes, colors and links. Two names mean the same style when they have
the same normal form; a text that names no style stands for itself, in small letters.
-/
import CatchAudit.Document.Access
import CatchAudit.Text.Blank
import CatchAudit.Text.Casing
import CatchAudit.Text.CharRange

namespace CatchAudit

structure Style where
  /-- Attributes that are switched on or off. -/
  attributes : List (String × Bool) := []
  color : Option String := none
  background : Option String := none
  link : Option String := none

namespace Style

/-! ## Colors -/

/-- The colors that have a name. -/
def colorNames : String :=
"black red green yellow blue magenta cyan white bright_black bright_red bright_green
bright_yellow bright_blue bright_magenta bright_cyan bright_white grey0 gray0 navy_blue
dark_blue blue3 blue1 dark_green deep_sky_blue4 dodger_blue3 dodger_blue2 green4 spring_green4
turquoise4 deep_sky_blue3 dodger_blue1 green3 spring_green3 dark_cyan light_sea_green
deep_sky_blue2 deep_sky_blue1 spring_green2 cyan3 dark_turquoise turquoise2 green1 spring_green1
medium_spring_green cyan2 cyan1 dark_red deep_pink4 purple4 purple3 blue_violet orange4 grey37
gray37 medium_purple4 slate_blue3 royal_blue1 chartreuse4 dark_sea_green4 pale_turquoise4
steel_blue steel_blue3 cornflower_blue chartreuse3 cadet_blue sky_blue3 steel_blue1 pale_green3
sea_green3 aquamarine3 medium_turquoise chartreuse2 sea_green2 sea_green1 aquamarine1
dark_slate_gray2 dark_magenta dark_violet purple light_pink4 plum4 medium_purple3 slate_blue1
yellow4 wheat4 grey53 gray53 light_slate_grey light_slate_gray medium_purple light_slate_blue
dark_olive_green3 dark_sea_green light_sky_blue3 sky_blue2 dark_sea_green3 dark_slate_gray3
sky_blue1 chartreuse1 light_green pale_green1 dark_slate_gray1 red3 medium_violet_red magenta3
dark_orange3 indian_red hot_pink3 medium_orchid3 medium_orchid medium_purple2 dark_goldenrod
light_salmon3 rosy_brown grey63 gray63 medium_purple1 gold3 dark_khaki navajo_white3 grey69
gray69 light_steel_blue3 light_steel_blue yellow3 dark_sea_green2 light_cyan3 light_sky_blue1
green_yellow dark_olive_green2 dark_sea_green1 pale_turquoise1 deep_pink3 magenta2 hot_pink2
orchid medium_orchid1 orange3 light_pink3 pink3 plum3 violet light_goldenrod3 tan misty_rose3
thistle3 plum2 khaki3 light_goldenrod2 light_yellow3 grey84 gray84 light_steel_blue1 yellow2
dark_olive_green1 honeydew2 light_cyan1 red1 deep_pink2 deep_pink1 magenta1 orange_red1
indian_red1 hot_pink dark_orange salmon1 light_coral pale_violet_red1 orchid2 orchid1 orange1
sandy_brown light_salmon1 light_pink1 pink1 plum1 gold1 navajo_white1 misty_rose1 thistle1
yellow1 light_goldenrod1 khaki1 wheat1 cornsilk1 grey100 gray100 grey3 gray3 grey7 gray7 grey11
gray11 grey15 gray15 grey19 gray19 grey23 gray23 grey27 gray27 grey30 gray30 grey35 gray35
grey39 gray39 grey42 gray42 grey46 gray46 grey50 gray50 grey54 gray54 grey58 gray58 grey62
gray62 grey66 gray66 grey70 gray70 grey74 gray74 grey78 gray78 grey82 gray82 grey85 gray85
grey89 gray89 grey93 gray93"

def isColorName (word : String) : Bool :=
  word == "default" || ((colorNames.splitOn "\n").flatMap (·.splitOn " ")).contains word

/-- What stands between a start and a closing bracket at the end. -/
def argument? (start : String) (word : String) : Option (List Char) :=
  let inner := word.toList.drop start.length
  if word.startsWith start && inner.getLast? == some ')' then some inner.dropLast else none

/-- Six hexadecimal digits after a hash. -/
def isHexColor (word : String) : Bool :=
  match word.toList with
  | '#' :: digits =>
    digits.length == 6 && digits.all fun c => ('0' ≤ c && c ≤ '9') || ('a' ≤ c && c ≤ 'f')
  | _ => false

/-- A number up to 255. -/
def isNumberedColor (word : String) : Bool :=
  match argument? "color(" word with
  | some digits =>
    (digits.length == 1 || digits.length == 2 || digits.length == 3) &&
      (digits.all fun c => '0' ≤ c && c ≤ '9') &&
      (match Text.integer digits with
      | .ok n => decide (n ≤ 255)
      | .error _ => false)
  | none => false

/-- A part of a mixed color. -/
def component (digits : List Char) : Except Fault Int := Document.toInteger (.text (String.ofList digits))

/-- Three numbers up to 255. -/
def isMixedColor (word : String) : Except Fault Bool :=
  match argument? "rgb(" word with
  | some inner =>
    if inner.isEmpty || !(inner.all fun c => Text.isDecimal c || c == ',') then .ok false
    else match (String.ofList inner).splitOn "," with
      | [red, green, blue] => do
        let parts ← [red, green, blue].mapM fun part => component part.toList
        return parts.all (· ≤ 255)
      | _ => .ok false
  | none => .ok false

/-- Whether a word, in small letters, is a color: one with a name, or one that `isHexColor`, `isNumberedColor` or
`isMixedColor` accepts. -/
def isColor (word : String) : Except Fault Bool :=
  if isColorName word || isHexColor word || isNumberedColor word then .ok true else isMixedColor word

/-! ## Words -/

/-- The attributes, in the order of normal forms, each with its short name if it has one. -/
def attributeNames : List (String × String) := [
  ("bold", "b"), ("dim", "d"), ("italic", "i"), ("underline", "u"), ("blink", ""), ("blink2", ""),
  ("reverse", "r"), ("conceal", "c"), ("strike", "s"), ("underline2", "uu"), ("frame", ""),
  ("encircle", ""), ("overline", "o")]

/-- The attribute with a name, among the `attributeNames`. -/
def attribute? (word : String) : Option String :=
  if word.isEmpty then none
  else (attributeNames.find? fun (name, short) => name == word || short == word).map (·.1)

/-- The style that words describe; none if they describe no style. -/
def ofWords (s : Style) : List String → Except Fault (Option Style)
  | [] => .ok (some s)
  | word :: rest =>
    let small := Text.lower word
    match small, rest with
    | "on", color :: rest => do
      let color := Text.lower color
      if ← isColor color then ofWords { s with background := some color } rest else return none
    | "not", word :: rest =>
      match attribute? word with
      | some name => ofWords { s with attributes := setMember name false s.attributes } rest
      | none => .ok none
    | "link", target :: rest => ofWords { s with link := some target } rest
    | _, rest =>
      match attribute? small with
      | some name => ofWords { s with attributes := setMember name true s.attributes } rest
      | none => do
        if ← isColor small then ofWords { s with color := some small } rest else return none

/-- The normal form of a style. -/
def text (s : Style) : String :=
  let attributes := attributeNames.filterMap fun (name, _) =>
    (memberOf? name s.attributes).map fun on => if on then name else "not " ++ name
  let after := fun (word : String) (value : Option String) => value.toList.map (word ++ ·)
  let words := attributes ++ after "" s.color ++ after "on " s.background ++ after "link " s.link
  if words.isEmpty then "none" else " ".intercalate words

/-- The words of a text, which blanks divide. -/
def wordsFrom (word : List Char) : List Char → List String
  | [] => if word.isEmpty then [] else [String.ofList word.reverse]
  | c :: rest =>
    if !Text.isBlank c then wordsFrom (c :: word) rest
    else if word.isEmpty then wordsFrom [] rest
    else String.ofList word.reverse :: wordsFrom [] rest

/-- The normal form of the name of a style, the `text` of the style that it describes. -/
def normalName (cs : List Char) : Except Fault String := do
  if Text.trim cs == "none".toList then return "none"
  match ← ofWords {} (wordsFrom [] cs) with
  | some s => return s.text
  | none => return Text.lower (String.ofList (Text.trim cs))

end Style

end CatchAudit
