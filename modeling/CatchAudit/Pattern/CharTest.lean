/-
Tests of single characters: what a character, a dot or a set of a pattern accepts once the flags are
known. When case is ignored, a character is lowered before it is tested; beyond the first 65536 code
points a set holds its characters as they are written, and a range accepts what it holds in either
case.
-/
import CatchAudit.Pattern.Basic
import CatchAudit.Text.Casing

namespace CatchAudit

/-- How a character is lowered before a test. -/
inductive Fold where
  | none
  /-- The letters A to Z only. -/
  | plain
  | full
  deriving DecidableEq, Repr

namespace Fold

def ofFlags (flags : List Flag) : Fold :=
  if !flags.contains .ignoreCase then .none
  else if flags.contains .ascii then .plain
  else .full

def lower : Fold → Nat → Nat
  | .none, n => n
  | .plain, n => if 0x41 ≤ n && n ≤ 0x5a then n + 0x20 else n
  | .full, n => Text.lowerPoint n

/-- Whether one of the code points from `a` to `b` has another case. -/
def anyCased : Fold → Nat → Nat → Bool
  | .none, _, _ => false
  | .plain, a, b => (a ≤ 0x5a && 0x41 ≤ b) || (a ≤ 0x7a && 0x61 ≤ b)
  | .full, a, b => Text.anyCased a b

/-- The code points that a lowered one stands for. -/
def siblings : Fold → Nat → List Nat
  | .none, n => [n]
  | .plain, n => Text.plainCaseSiblings n
  | .full, n => Text.caseSiblings n

end Fold

/-- A part of a set, for characters that have been lowered. -/
inductive Piece where
  /-- The range itself. -/
  | exact (first last : Nat)
  /-- The range, by any character of the same letter. -/
  | folded (first last : Nat)
  /-- The range, by the character or its upper case. -/
  | raised (first last : Nat)
  | category (negated ascii : Bool) (kind : Category)
  deriving DecidableEq, Repr

namespace Piece

def accepts (fold : Fold) (c : Char) : Piece → Bool
  | .exact first last => within first last (fold.lower c.toNat)
  | .folded first last => (fold.siblings c.toNat).any (within first last)
  | .raised first last =>
    let n := fold.lower c.toNat
    within first last n || within first last (Text.upperPoint n)
  | .category negated ascii kind => kind.accepts ascii (Char.ofNat (fold.lower c.toNat)) != negated
where
  within (first last n : Nat) : Bool := first ≤ n && n ≤ last

/-- The pieces of a member when case is ignored. -/
def ofMember (ascii : Bool) : Member → List Piece
  | .point n => if n < 0x10000 then [.folded n n] else [.exact n n]
  | .range a b => if b < 0x10000 then [.folded a b] else [.folded a 0xffff, .raised a b]
  | .category negated kind => [.category negated ascii kind]

/-- The piece of a member when case counts. -/
def plain (ascii : Bool) : Member → Piece
  | .point n => .exact n n
  | .range a b => .exact a b
  | .category negated kind => .category negated ascii kind

end Piece

/-- Whether a member makes a difference between the cases, or may. -/
def Member.isCased (fold : Fold) : Member → Bool
  | .point n => 0x10000 ≤ n || fold.anyCased n n
  | .range a b => 0x10000 ≤ b || fold.anyCased a b
  | .category .. => false

/-- A test of one character. -/
inductive CharTest where
  | any (lineEnds : Bool)
  | point (fold : Fold) (negated : Bool) (n : Nat)
  | set (fold : Fold) (negated : Bool) (pieces : List Piece)
  deriving DecidableEq, Repr

namespace CharTest

def accepts (c : Char) : CharTest → Bool
  | .any lineEnds => lineEnds || c != '\n'
  | .point fold negated n => (fold.lower c.toNat == n) != negated
  | .set fold negated pieces => pieces.any (·.accepts fold c) != negated

/-- The character that a test asks for, if it asks for just one. -/
def point? : CharTest → Option Nat
  | .point .none false n => some n
  | _ => none

/-- Whether the test can be made before anything else is tried: it is for one character, or for a set,
without lowering. -/
def isDirect : CharTest → Bool
  | .point .none false _ => true
  | .set .none _ _ => true
  | _ => false

/-- Whether counting the characters that pass moves the cursor along. -/
def movesCursor : CharTest → Bool
  | .set .none _ _ => false
  | .set .. => true
  | _ => false

/-- The test for one character, or for any other one. -/
def ofPoint (flags : List Flag) (negated : Bool) (n : Nat) : CharTest :=
  let fold := Fold.ofFlags flags
  if !fold.anyCased n n then .point .none negated n
  else
    let low := fold.lower n
    match fold, Text.caseVariants.find? fun v => v.1 == low with
    | .full, some (_, variants) =>
      .set .full negated ((low :: variants).map fun v => .exact v v)
    | fold, _ => .point fold negated low

/-- The test for a set. -/
def ofSet (flags : List Flag) (negated : Bool) (members : List Member) : CharTest :=
  let fold := Fold.ofFlags flags
  let ascii := flags.contains .ascii
  if members.any (·.isCased fold) && fold != .none then
    .set fold negated (members.flatMap (Piece.ofMember ascii))
  else .set .none negated (members.map (Piece.plain ascii))

/-- The test that a part of a pattern is, if it is one. -/
def ofPart? (flags : List Flag) : Part → Option CharTest
  | .point negated n => some (ofPoint flags negated n)
  | .any => some (.any (flags.contains .dotAll))
  | .set negated members => some (ofSet flags negated members)
  | _ => none

end CharTest

end CatchAudit
