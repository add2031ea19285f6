/-
Search patterns: single characters, anchors, groups, repetitions, choices, looks around, and
references to what a group matched. Every pattern has a least and a greatest width.
-/
import CatchAudit.Text.Blank
import CatchAudit.Text.Word

namespace CatchAudit

/-- The letters that switch a behaviour on or off. -/
inductive Flag where
  | ignoreCase
  | localeAware
  | multiline
  | dotAll
  | verbose
  | ascii
  | template
  | unicode
  deriving DecidableEq, Repr

namespace Flag

def ofChar? : Char → Option Flag
  | 'i' => some .ignoreCase
  | 'L' => some .localeAware
  | 'm' => some .multiline
  | 's' => some .dotAll
  | 'x' => some .verbose
  | 'a' => some .ascii
  | 't' => some .template
  | 'u' => some .unicode
  | _ => none

/-- The flags of which one alone says what letters are. -/
def isAlphabet : Flag → Bool
  | .ascii | .localeAware | .unicode => true
  | _ => false

/-- The flags inside a group that switches some on and some off. -/
def combine (flags on off : List Flag) : List Flag :=
  let kept := if on.any isAlphabet then flags.filter fun f => !f.isAlphabet else flags
  (kept ++ on).filter fun f => !off.contains f

end Flag

/-- Kinds of characters. -/
inductive Category where
  | digit
  | space
  | word
  deriving DecidableEq, Repr

def Category.accepts (ascii : Bool) (c : Char) : Category → Bool
  | .digit => if ascii then c.isDigit else Text.isDecimal c
  | .space => if ascii then Text.isPlainBlank c else Text.isBlank c
  | .word => if ascii then Text.isPlainWord c else Text.isWord c

/-- A part of a character set. -/
inductive Member where
  | point (n : Nat)
  | range (first last : Nat)
  | category (negated : Bool) (kind : Category)
  deriving DecidableEq, Repr

/-- Places between characters. -/
inductive Anchor where
  | lineStart
  | lineEnd
  | textStart
  | textEnd
  | boundary
  | insideOrOutside
  deriving DecidableEq, Repr

/-- How a repetition takes its turns: as many as possible, as few as possible, or as many as possible
without giving any back. -/
inductive Greed where
  | greedy
  | lazy
  | possessive
  deriving DecidableEq, Repr

/-- A least and a greatest number of characters. -/
structure Width where
  least : Nat
  most : Nat
  deriving DecidableEq, Repr

/-- One part of a pattern. A pattern is a list of parts, one after the other. -/
inductive Part where
  /-- One character, or any other one. -/
  | point (negated : Bool) (n : Nat)
  | any
  | set (negated : Bool) (members : List Member)
  | anchor (a : Anchor)
  /-- One of several patterns, the first that leads on. -/
  | choice (alternatives : List (List Part))
  /-- A group with a number. -/
  | group (number : Nat) (body : List Part)
  /-- A group without a number, perhaps with flags of its own. -/
  | scoped (on off : List Flag) (body : List Part)
  | atomic (body : List Part)
  | repeated (greed : Greed) (least : Nat) (most : Option Nat) (body : List Part)
  | ahead (negated : Bool) (body : List Part)
  /-- A look at the characters before, as many as the body is wide. -/
  | behind (negated : Bool) (width : Width) (body : List Part)
  | back (number : Nat)
  /-- One of two patterns, by whether a group has matched. -/
  | conditional (number : Nat) (yes no : List Part)
  deriving Repr, Inhabited

abbrev Pattern := List Part

/-! ## Widths -/

namespace Width

def zero : Width := ⟨0, 0⟩

def single : Width := ⟨1, 1⟩

/-- The greatest width; it stands for all that are larger. -/
def limit : Nat := 4294967295

/-- A least width stays below the limit, so that no pattern of a fixed width reaches it. -/
def capped (w : Width) : Width := ⟨min w.least (limit - 1), min w.most limit⟩

def add (a b : Width) : Width := ⟨a.least + b.least, a.most + b.most⟩

/-- The width of either. -/
def join (a b : Width) : Width := ⟨min a.least b.least, max a.most b.most⟩

/-- The width of repetitions. -/
def times (w : Width) (least : Nat) (most : Option Nat) : Width :=
  ⟨w.least * least, w.most * most.getD limit⟩

end Width

mutual
/-- The width of a part, given those of the groups. -/
def Part.width (groups : Nat → Width) : Part → Width
  | .point .. | .any | .set .. => .single
  | .anchor _ | .ahead .. | .behind .. => .zero
  | .choice alternatives => choiceWidth groups ⟨Width.limit - 1, 0⟩ alternatives
  | .group _ body | .scoped _ _ body | .atomic body => patternWidth groups .zero body
  | .repeated _ least most body => (patternWidth groups .zero body).times least most
  | .back n => groups n
  | .conditional _ yes no => (patternWidth groups .zero yes).join (patternWidth groups .zero no)

/-- The width of a pattern that follows parts of the width `before`. -/
def patternWidth (groups : Nat → Width) (before : Width) : List Part → Width
  | [] => before.capped
  | p :: rest => patternWidth groups (before.add (p.width groups)) rest

/-- The width of either of several patterns, or of one of the width `either`. -/
def choiceWidth (groups : Nat → Width) (either : Width) : List (List Part) → Width
  | [] => either
  | p :: rest => choiceWidth groups (either.join (patternWidth groups .zero p)) rest
end

namespace Pattern

def width (groups : Nat → Width) (p : Pattern) : Width := patternWidth groups .zero p

/-! ## Alternatives -/

/-- Whether two parts are the same without looking into bodies. -/
def sameSimple : Part → Part → Bool
  | .point a m, .point b n => a == b && m == n
  | .any, .any => true
  | .set a ms, .set b ns => a == b && ms == ns
  | .anchor a, .anchor b => a == b
  | .back m, .back n => m == n
  | _, _ => false

/-- The parts with which a pattern and all others start, and what remains of each. -/
def sharedStart : Pattern → List Pattern → List Part × List Pattern
  | [], others => ([], [] :: others)
  | p :: rest, others =>
    if others.all fun q => q.head?.any (sameSimple p) then
      let (shared, remaining) := sharedStart rest (others.map List.tail)
      (p :: shared, remaining)
    else ([], (p :: rest) :: others)

/-- The members of a set that a pattern of one character is. -/
def asMembers? : Pattern → Option (List Member)
  | [.point false n] => some [.point n]
  | [.set false members] => some members
  | _ => none

/-- One of several patterns. What all start with comes first, and single characters make a set. -/
def choiceOf (first : Pattern) : List Pattern → Pattern
  | [] => first
  | others =>
    let (shared, remaining) := sharedStart first others
    match remaining.mapM asMembers? with
    | some members => shared ++ [.set false members.flatten.eraseDups]
    | none => shared ++ [.choice remaining]

/-- What a part contributes to the pattern it stands in: a group without number and flags its body. -/
def unwrap : Part → Pattern
  | .scoped [] [] body => body
  | p => [p]

end Pattern

end CatchAudit
