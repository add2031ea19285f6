/-
A stable sort by an order that may fail on some pairs, or that is no order at all. The list is taken
apart into runs from left to right, and neighbouring runs are merged as soon as the next one shows that
their turn has come. The first failing comparison is the failure of the sort.
-/
import CatchAudit.Sorting.Merge

namespace CatchAudit.Sorting

variable {ε α : Type} (less : α → α → Except ε Bool)

/-- A run that waits to be merged, with the index of its first item. `power` is the depth of its border
with the next run in the tree of merges. -/
structure Waiting (α : Type) where
  start : Nat
  items : List α
  power : Nat

/-- The depth of the border between two midpoints, given in halves of items, in a list of `n`: the first
binary digit in which they differ as parts of the list. -/
def powerFrom (n : Nat) : (fuel a b : Nat) → Nat
  | 0, _, _ => 1
  | fuel + 1, a, b =>
    if n ≤ a then 1 + powerFrom n fuel (2 * (a - n)) (2 * (b - n))
    else if n ≤ b then 1
    else 1 + powerFrom n fuel (2 * a) (2 * b)

/-- The depth of the border between a run and the next one, which has `next` items. -/
def power (n : Nat) (run : Waiting α) (next : Nat) : Nat :=
  let a := 2 * run.start + run.items.length
  powerFrom n n a (a + run.items.length + next)

/-- Merges the last two of the runs, which come last first, as long as their border is deeper than
`depth`, which is the depth of the border after them. -/
def settle (depth eager : Nat) : List (Waiting α) → Except ε (List (Waiting α) × Nat)
  | [] => .ok ([], eager)
  | [last] => .ok ([{ last with power := depth }], eager)
  | last :: other :: rest =>
    if depth < other.power then do
      let (items, eager) ← merge less eager other.items last.items
      settle depth eager (⟨other.start, items, other.power⟩ :: rest)
    else .ok ({ last with power := depth } :: other :: rest, eager)
termination_by runs => runs.length

/-- Merges all runs, last first; of three, the shorter one of the outer runs goes first. -/
def mergeAll (eager : Nat) : List (Waiting α) → Except ε (List α)
  | [] => .ok []
  | [last] => .ok last.items
  | [last, other] => do return (← merge less eager other.items last.items).1
  | last :: other :: third :: rest =>
    if third.items.length < last.items.length then do
      let (items, eager) ← merge less eager third.items other.items
      mergeAll eager (last :: ⟨third.start, items, third.power⟩ :: rest)
    else do
      let (items, eager) ← merge less eager other.items last.items
      mergeAll eager (⟨other.start, items, other.power⟩ :: third :: rest)
termination_by runs => runs.length

/-- Takes the rest of a list of `n` items, which begins at index `start`, apart into runs; `runs` are those
that wait, last first. -/
def sortFrom (n : Nat) (eager : Nat) (runs : List (Waiting α)) :
    (fuel start : Nat) → List α → Except ε (List α)
  | 0, _, _ => mergeAll less eager runs
  | _ + 1, _, [] => mergeAll less eager runs
  | fuel + 1, start, items => do
    let (run, rest) ← nextRun less (leastRun n) items
    let depth := match runs with
      | [] => 0
      | last :: _ => power n last run.length
    let (runs, eager) ← settle less depth eager runs
    sortFrom n eager (⟨start, run, 0⟩ :: runs) fuel (start + run.length) rest

/-- Sorts a list. -/
def sort (items : List α) : Except ε (List α) :=
  sortFrom less items.length payingWins [] items.length 0 items

end CatchAudit.Sorting
