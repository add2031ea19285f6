/-
Searching for patterns by backtracking. Steps are run with the rest of the pattern as a continuation,
and the first way that leads to the end is taken.

A way that fails is not undone in full. The marks that it added are void, but earlier marks that it
moved stay moved, unless a repetition is under way. The cursor, which is where the last step to branch
off was taken, stays where it was left, and a possessive repetition goes on from there. Repetitions
end after a turn that matches nothing.
-/
import CatchAudit.Pattern.Reader
import CatchAudit.Pattern.Step

namespace CatchAudit

namespace Pattern

/-- Where a search stands. -/
structure Progress where
  cursor : Nat
  /-- The places of the marks; a mark beyond the last one has no place. -/
  marks : Array (Option Nat)

namespace Progress

/-- Moves the cursor. -/
def moved (s : Progress) (position : Nat) : Progress := { s with cursor := position }

/-- Places a mark. The marks that are passed over have no place. -/
def marked (s : Progress) (index position : Nat) : Progress :=
  let passed : Array (Option Nat) := Array.replicate (index + 1 - s.marks.size) none
  { s with marks := (s.marks ++ passed).setIfInBounds index (some position) }

/-- Where a group that has matched begins and ends. -/
def span? (s : Progress) (number : Nat) : Option (Nat × Nat) :=
  match s.marks[PatternStep.openMark number]?, s.marks[PatternStep.closeMark number]? with
  | some (some i), some (some j) => if i ≤ j then some (i, j) else none
  | _, _ => none

/-- Whether some group ends before it begins. -/
def isTwisted (s : Progress) : Bool :=
  (List.range (s.marks.size / 2)).any fun k =>
    match s.marks[2 * k]?, s.marks[2 * k + 1]? with
    | some (some i), some (some j) => j < i
    | _, _ => false

/-- Goes back, after a failure, to the marks of an earlier state; inside repetitions also to their
places. -/
def rewound (s earlier : Progress) (inside : Bool) : Progress :=
  { s with marks := if inside then earlier.marks else s.marks.take earlier.marks.size }

end Progress

/-- Whether a way led to the end, and where the search stands after it. -/
abbrev Outcome := Bool × Progress

/-- The rest of a pattern: the test that it starts with, if it starts with one, and how it is run from a
position. -/
structure Rest where
  first : Option CharTest
  run : Nat → Progress → Outcome

/-- The end of a pattern, where the cursor is left. -/
def Rest.done : Rest := ⟨none, fun position s => (true, s.moved position)⟩

/-- The same rest, but not next to what comes before. -/
def Rest.apart (k : Rest) : Rest := { k with first := none }

/-- Steps to be run before a rest. -/
abbrev Runner := Rest → Nat → Progress → Outcome

/-! ## Places and characters -/

def isWordAt (ascii : Bool) (text : Array Char) (i : Nat) : Bool :=
  match text[i]? with
  | some c => Category.word.accepts ascii c
  | none => false

/-- Whether a word begins or ends at a position. -/
def isBoundary (ascii : Bool) (text : Array Char) (i : Nat) : Bool :=
  (0 < i && isWordAt ascii text (i - 1)) != isWordAt ascii text i

/-- Whether a position is the spot asked for. In an empty text there is neither a boundary nor a place
without one. -/
def isSpot (text : Array Char) (i : Nat) (s : Spot) : Bool :=
  match s.anchor with
  | .lineStart => i == 0 || (s.multiline && text[i - 1]? == some '\n')
  | .lineEnd => i == text.size || (text[i]? == some '\n' && (s.multiline || i + 1 == text.size))
  | .textStart => i == 0
  | .textEnd => i == text.size
  | .boundary => 0 < text.size && isBoundary s.ascii text i
  | .insideOrOutside => 0 < text.size && !isBoundary s.ascii text i

/-- Whether the text at `i` repeats the `n` characters at `j`. -/
def repeats (fold : Fold) (text : Array Char) (i j : Nat) : (n : Nat) → Bool
  | 0 => true
  | n + 1 =>
    match text[i]?, text[j]? with
    | some a, some b =>
      fold.lower a.toNat == fold.lower b.toNat && repeats fold text (i + 1) (j + 1) n
    | _, _ => false

def passes (text : Array Char) (test : CharTest) (i : Nat) : Bool := text[i]?.any (test.accepts ·)

/-- The number of characters from `i` on that pass, `limit` at most. -/
def countPassing (text : Array Char) (test : CharTest) (i : Nat) : (limit : Nat) → Nat
  | 0 => 0
  | limit + 1 => if passes text test i then countPassing text test (i + 1) limit + 1 else 0

/-! ## Rows of single characters -/

/-- Counts the characters that pass, and leaves the cursor where counting does. -/
def counted (text : Array Char) (test : CharTest) (position limit : Nat) (s : Progress) :
    Nat × Progress :=
  let count := countPassing text test position (min limit (text.size - position))
  (count, s.moved (if test.movesCursor then position + count else position))

/-- Tries the rest after `extra` more characters than needed, then after fewer. Where the rest starts
with another character, it is not tried. -/
def shorterRows (text : Array Char) (inside : Bool) (k : Rest) (earlier : Progress) (position : Nat) :
    (extra : Nat) → Progress → Outcome
  | 0, s => attempt 0 s
  | extra + 1, s =>
    match attempt (extra + 1) s with
    | (true, s) => (true, s)
    | (false, s) => shorterRows text inside k earlier position extra s
where
  attempt (extra : Nat) (s : Progress) : Outcome :=
    let here := position + extra
    let blocked := (k.first.bind (·.point?)).any fun n => text[here]?.map (·.toNat) != some n
    if blocked then (false, s)
    else match k.run here (s.moved here) with
      | (true, s) => (true, s)
      | (false, s) => (false, s.rewound earlier inside)

/-- Tries the rest, then after one more character, `more` times at most. -/
def longerRows (text : Array Char) (inside : Bool) (k : Rest) (test : CharTest) (earlier : Progress) :
    (more position : Nat) → Progress → Outcome
  | more, position, s =>
    match k.run position (s.moved position) with
    | (true, s) => (true, s)
    | (false, s) =>
      let s := s.rewound earlier inside
      let (count, s) := counted text test position 1 s
      match more with
      | 0 => (false, s)
      | more + 1 =>
        if count = 0 then (false, s)
        else longerRows text inside k test earlier more (position + 1) s

def runRow (text : Array Char) (inside : Bool) (greed : Greed) (least : Nat) (most : Option Nat)
    (test : CharTest) (k : Rest) (position : Nat) (s : Progress) : Outcome :=
  if text.size < position + least then (false, s)
  else match greed with
    | .greedy =>
      let (count, s) := counted text test position (most.getD text.size) s
      if count < least then (false, s)
      else shorterRows text inside k s (position + least) (count - least) s
    | .lazy =>
      let (count, s) := counted text test position least s
      if count < least then (false, s)
      else
        let more := match most with
          | some most => most - least
          | none => text.size
        longerRows text inside k test s more (position + least) s
    | .possessive =>
      let (count, s) := counted text test position (most.getD text.size) s
      if count < least then (false, s) else k.run (position + count) s

/-! ## Turns of a pattern -/

/-- Turns of a body with as many as possible first. After `least` turns, no turn begins where the one
before began. -/
def mostTurns (body : Runner) (least : Nat) (most : Option Nat) (k : Rest) :
    (fuel count : Nat) → (last : Option Nat) → Nat → Progress → Outcome
  | 0, _, _, position, s => k.run position s
  | fuel + 1, count, last, position, s =>
    let s := s.moved position
    if count < least then
      match body ⟨none, mostTurns body least most k fuel (count + 1) last⟩ position s with
      | (true, s) => (true, s)
      | (false, s) => (false, s.moved position)
    else
      let taken : Outcome :=
        if most.all (count < ·) && last != some position then
          match body ⟨none, mostTurns body least most k fuel (count + 1) (some position)⟩ position s with
          | (true, t) => (true, t)
          | (false, t) => (false, (t.rewound s true).moved position)
        else (false, s)
      match taken with
      | (true, s) => (true, s)
      | (false, s) =>
        match k.run position s with
        | (true, s) => (true, s)
        | (false, s) => (false, s.moved position)

/-- Turns of a body with as few as possible first. -/
def fewestTurns (body : Runner) (inside : Bool) (least : Nat) (most : Option Nat) (k : Rest) :
    (fuel count : Nat) → (last : Option Nat) → Nat → Progress → Outcome
  | 0, _, _, position, s => k.run position s
  | fuel + 1, count, last, position, s =>
    let s := s.moved position
    if count < least then
      match body ⟨none, fewestTurns body inside least most k fuel (count + 1) last⟩ position s with
      | (true, s) => (true, s)
      | (false, s) => (false, s.moved position)
    else
      match k.run position s with
      | (true, s) => (true, s)
      | (false, t) =>
        let s := (t.rewound s inside).moved position
        if most.all (count < ·) && last != some position then
          match body ⟨none, fewestTurns body inside least most k fuel (count + 1) (some position)⟩
              position s with
          | (true, s) => (true, s)
          | (false, s) => (false, s.moved position)
        else (false, s)

/-- The turns that must be taken, each settled before the next one. -/
def neededTurns (body : Runner) (position : Nat) : (least : Nat) → Progress → Outcome
  | 0, s => (true, s)
  | least + 1, s =>
    match body .done s.cursor s with
    | (true, s) => neededTurns body position least s
    | (false, s) => (false, s.moved position)

/-- The turns of a possessive repetition: as long as they succeed, each settled before the next one. The cursor is where
the last of them left it, whether it succeeded or not. This is what the engine did in its releases up to 3.11.4; from
3.11.5 on it takes the cursor back after a turn that fails, as `(?>x*)` does. -/
def settledTurns (body : Runner) : (fuel : Nat) → (last : Option Nat) → Progress → Progress
  | 0, _, s => s
  | fuel + 1, last, s =>
    if last = some s.cursor then s
    else match body .done s.cursor s with
      | (true, t) => settledTurns body fuel (some s.cursor) t
      | (false, t) => t.rewound s true

/-! ## Steps -/

mutual
/-- Runs one step; `inside` tells whether a repetition is under way. -/
def runStep (text : Array Char) (inside : Bool) : PatternStep → Runner
  | .one test, k, position, s => if passes text test position then k.run (position + 1) s else (false, s)
  | .spot a, k, position, s => if isSpot text position a then k.run position s else (false, s)
  | .mark index, k, position, s => k.run position (s.marked index position)
  | .choice alternatives, k, position, s => runChoice text inside s alternatives k.apart position s
  | .atomic body, k, position, s =>
    match runSteps text inside body .done position (s.moved position) with
    | (true, s) => k.run s.cursor s
    | (false, s) => (false, s.moved position)
  | .row greed least most test, k, position, s =>
    runRow text inside greed least most test k position s
  | .turns greed least most body, k, position, s =>
    let fuel := least + text.size + 3
    match greed with
    | .greedy => mostTurns (runSteps text true body) least most k fuel 0 none position s
    | .lazy => fewestTurns (runSteps text true body) inside least most k fuel 0 none position s
    | .possessive =>
      match neededTurns (runSteps text inside body) position least (s.moved position) with
      | (false, s) => (false, s)
      | (true, s) =>
        let more := match most with
          | some most => min (most - least) fuel
          | none => fuel
        let s := settledTurns (runSteps text inside body) more none s
        k.run s.cursor s
  | .look negated back body, k, position, s =>
    if position < back then
      if negated then k.run position s else (false, s)
    else
      match runSteps text inside body .done (position - back) (s.moved (position - back)), negated with
      | (true, t), false => k.run position t
      | (false, t), true => k.run position (t.rewound s inside)
      | (_, t), _ => (false, t)
  | .back fold number, k, position, s =>
    match s.span? number with
    | none => (false, s)
    | some (i, j) =>
      if repeats fold text position i (j - i) then k.run (position + (j - i)) s else (false, s)
  | .conditional number yes no, k, position, s =>
    if (s.span? number).isSome then
      runSteps text inside yes (if no.isEmpty then k else k.apart) position s
    else runSteps text inside no k position s

/-- Runs steps one after the other. -/
def runSteps (text : Array Char) (inside : Bool) : List PatternStep → Runner
  | [], k, position, s => k.run position s
  | step :: rest, k, position, s =>
    let first := match rest with
      | [] => k.first
      | .one test :: _ => some test
      | _ => none
    runStep text inside step ⟨first, fun position s => runSteps text inside rest k position s⟩ position s

/-- Runs the first alternative that leads on. One whose first test fails is passed over. -/
def runChoice (text : Array Char) (inside : Bool) (earlier : Progress) : List (List PatternStep) → Runner
  | [], _, _, s => (false, s)
  | steps :: others, k, position, s =>
    let blocked := match steps with
      | .one test :: _ => test.isDirect && !passes text test position
      | _ => false
    if blocked then runChoice text inside earlier others k position s
    else
      match runSteps text inside steps k position (s.moved position) with
      | (true, s) => (true, s)
      | (false, s) => runChoice text inside earlier others k position (s.rewound earlier inside)
end

/-! ## Starts -/

/-- Whether case may make a difference to a member of a set at the start. -/
def mayFold (fold : Fold) : Member → Bool
  | .point n => fold.anyCased n n
  | .range a b => fold != .none && (0xffff < b || fold.anyCased a b)
  | .category .. => false

mutual
/-- The set that a pattern starts with, if case makes no difference to it. -/
def startSet? (flags : List Flag) : List Part → Option (Bool × List Member)
  | [] => none
  | p :: _ => partSet? flags p

/-- The set that a part starts with. -/
def partSet? (flags : List Flag) : Part → Option (Bool × List Member)
  | .group _ body => startSet? flags body
  | .scoped on off body => startSet? (Flag.combine flags on off) body
  | .set negated members =>
    if members.any (mayFold (Fold.ofFlags flags)) then none else some (negated, members)
  | _ => none
end

/-- The positions at which a pattern is tried: if it starts with a set, those of characters in it, otherwise all.
Here, kinds of characters are taken as the flags for the whole pattern say. -/
def startsAt (text : Array Char) (flags : List Flag) (p : Pattern) (i : Nat) : Bool :=
  match startSet? flags p with
  | none => true
  | some (negated, members) =>
    passes text (.set .none negated (members.map (Piece.plain (flags.contains .ascii)))) i

end Pattern

/-- A pattern that is ready for use: its text, its flags, what it denotes and how wide that is. -/
structure SearchPattern where
  source : String
  flags : List Flag
  pattern : Pattern
  least : Nat
  deriving Repr

namespace SearchPattern

def parse (source : String) : Except PatternError SearchPattern := do
  let (flags, p, least) ← Pattern.parse source.toList
  return ⟨source, flags, p, least⟩

/-- Whether a match may begin at a position: there is room for the least width, and, unless that is nothing,
`startsAt` says so. -/
def isTriedAt (p : SearchPattern) (text : Array Char) (i : Nat) : Bool :=
  i + p.least ≤ text.size && (p.least == 0 || Pattern.startsAt text p.flags p.pattern i)

/-- Where the search stands at the end of the match that begins at a position, if one does. -/
def matchAt? (p : SearchPattern) (text : Array Char) (i : Nat) : Option Pattern.Progress :=
  if p.isTriedAt text i then
    match Pattern.runSteps text false (PatternStep.ofParts p.flags p.pattern) .done i ⟨i, #[]⟩ with
    | (true, s) => some s
    | (false, _) => none
  else none

/-- Where the search stands at the end of the first match in a text, if there is one. -/
def find? (p : SearchPattern) (s : String) : Option Pattern.Progress :=
  let text := s.toList.toArray
  (List.range (text.size + 1)).findSome? (p.matchAt? text)

/-- Whether the pattern matches somewhere in a text. -/
def isIn (p : SearchPattern) (s : String) : Bool := (p.find? s).isSome

end SearchPattern

end CatchAudit
