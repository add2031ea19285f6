/-
Patterns in the form in which they are run: the flags have been settled, groups have become the marks
at their ends, and repetitions of a single character stand apart from those of longer patterns.
-/
import CatchAudit.Pattern.CharTest

namespace CatchAudit

/-- A place between characters, with what the flags say about it. -/
structure Spot where
  anchor : Anchor
  multiline : Bool
  ascii : Bool
  deriving DecidableEq, Repr

inductive PatternStep where
  | one (test : CharTest)
  | spot (s : Spot)
  /-- Notes where a group begins or ends. -/
  | mark (index : Nat)
  | choice (alternatives : List (List PatternStep))
  | atomic (body : List PatternStep)
  /-- Repetitions of a single character. -/
  | row (greed : Greed) (least : Nat) (most : Option Nat) (test : CharTest)
  /-- Repetitions of a pattern. -/
  | turns (greed : Greed) (least : Nat) (most : Option Nat) (body : List PatternStep)
  /-- A look at what comes next, or at the characters before, `back` of them. -/
  | look (negated : Bool) (back : Nat) (body : List PatternStep)
  | back (fold : Fold) (number : Nat)
  | conditional (number : Nat) (yes no : List PatternStep)
  deriving Repr, Inhabited

namespace PatternStep

/-- The marks of a group. -/
def openMark (number : Nat) : Nat := 2 * (number - 1)

def closeMark (number : Nat) : Nat := openMark number + 1

/-- The flags that hold inside groups with flags, down to a single character, if that is all there
is. -/
def testOf? (flags : List Flag) : Part → Option CharTest
  | .scoped on off [p] => testOf? (Flag.combine flags on off) p
  | .scoped .. => none
  | p => CharTest.ofPart? flags p

mutual
/-- The steps of a part. -/
def ofPart (flags : List Flag) : Part → List PatternStep
  | .point negated n => [.one (CharTest.ofPoint flags negated n)]
  | .any => [.one (.any (flags.contains .dotAll))]
  | .set negated members => [.one (CharTest.ofSet flags negated members)]
  | .anchor a => [.spot ⟨a, flags.contains .multiline, flags.contains .ascii⟩]
  | .choice alternatives => [.choice (ofAlternatives flags alternatives)]
  | .group number body => .mark (openMark number) :: (ofParts flags body ++ [.mark (closeMark number)])
  | .scoped on off body => ofParts (Flag.combine flags on off) body
  | .atomic body => [.atomic (ofParts flags body)]
  | .repeated greed least most body =>
    match body with
    | [p] => match testOf? flags p with
      | some test => [.row greed least most test]
      | none => [.turns greed least most (ofPart flags p)]
    | body => [.turns greed least most (ofParts flags body)]
  | .ahead negated body => [.look negated 0 (ofParts flags body)]
  | .behind negated width body => [.look negated width.least (ofParts flags body)]
  | .back number => [.back (Fold.ofFlags flags) number]
  | .conditional number yes no => [.conditional number (ofParts flags yes) (ofParts flags no)]

def ofParts (flags : List Flag) : List Part → List PatternStep
  | [] => []
  | p :: rest => ofPart flags p ++ ofParts flags rest

def ofAlternatives (flags : List Flag) : List (List Part) → List (List PatternStep)
  | [] => []
  | p :: rest => ofParts flags p :: ofAlternatives flags rest
end

end PatternStep

end CatchAudit
