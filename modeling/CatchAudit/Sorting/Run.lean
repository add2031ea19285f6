/-
Runs: stretches of a list that are in order. A run that descends is turned round, and one that is too
short takes in the items after it.
-/
import CatchAudit.Sorting.Place

namespace CatchAudit.Sorting

variable {ε α : Type} (less : α → α → Except ε Bool)

/-- The strictly descending run that goes on after `last`, turned round, and the rest. -/
def descendingRun (last : α) (run : List α) : List α → Except ε (List α × List α)
  | [] => .ok (run, [])
  | x :: rest => do
    if ← less x last then descendingRun x (x :: run) rest else return (run, x :: rest)

/-- The run without a descent that goes on after `last`, with the run so far reversed, and the
rest. -/
def ascendingRun (last : α) (run : List α) : List α → Except ε (List α × List α)
  | [] => .ok (run.reverse, [])
  | x :: rest => do
    if ← less x last then return (run.reverse, x :: rest) else ascendingRun x (x :: run) rest

/-- The run at the start of a list, in order, and the rest. -/
def firstRun : List α → Except ε (List α × List α)
  | [] => .ok ([], [])
  | [x] => .ok ([x], [])
  | x :: y :: rest => do
    if ← less y x then descendingRun less y [y, x] rest else ascendingRun less y [y, x] rest

/-- Whether the item at an index stands before `x` when equal items are left of it. -/
def notAfter (items : List α) (x : α) (i : Nat) : Except ε Bool :=
  match items[i]? with
  | none => .ok false
  | some y => return !(← less x y)

/-- Whether the item at an index stands before `x` when equal items are right of it. -/
def isBefore (items : List α) (x : α) (i : Nat) : Except ε Bool :=
  match items[i]? with
  | none => .ok false
  | some y => less y x

/-- Puts further items into their places. -/
def insertAll (run : List α) : List α → Except ε (List α)
  | [] => .ok run
  | x :: rest => do
    let i ← halve (notAfter less run x) run.length 0 run.length
    insertAll (run.take i ++ x :: run.drop i) rest

/-- The least length of a run in a list of `n` items, so that the number of runs is just below a power
of two. Halving goes on `fuel` times at most, and `odd` tells whether it has lost anything. -/
def leastRunFrom : (fuel : Nat) → (odd : Bool) → (n : Nat) → Nat
  | 0, _, n => n
  | fuel + 1, odd, n =>
    if 64 ≤ n then leastRunFrom fuel (odd || n % 2 == 1) (n / 2) else n + if odd then 1 else 0

def leastRun (n : Nat) : Nat := leastRunFrom n false n

/-- The next run of a list, of at least `least` items if there are as many, and the rest. -/
def nextRun (least : Nat) (items : List α) : Except ε (List α × List α) := do
  let (run, rest) ← firstRun less items
  let missing := least - run.length
  return (← insertAll less run (rest.take missing), rest.drop missing)

end CatchAudit.Sorting
