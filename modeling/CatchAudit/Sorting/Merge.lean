/-
Merging two runs that stand one after the other. Items are compared one by one until one run has won
often enough in a row; then the place of the next item is looked for in the other run in growing steps,
as long as that pays. How soon it is tried depends on how well it has gone so far.
-/
import CatchAudit.Sorting.Run

namespace CatchAudit.Sorting

variable {ε α : Type} (less : α → α → Except ε Bool)

/-- The wins in a row from which on growing steps pay. -/
def payingWins : Nat := 7

/-! ## From the front -/

mutual
/-- Merges one by one from the front. `eager` is the number of wins in a row that are needed before
growing steps are tried, `winsA` and `winsB` those so far, and `done` what is merged, reversed. A last
item of the first run belongs at the end. -/
def mergeFront (eager winsA winsB : Nat) (done : List α) :
    (fuel : Nat) → List α → List α → Except ε (List α × Nat)
  | fuel + 1, x :: as, y :: bs => do
    if ← less y x then
      if bs.isEmpty then return (done.reverse ++ y :: x :: as, eager)
      else if eager ≤ winsB + 1 then leapFront (eager + 1) (y :: done) fuel (x :: as) bs
      else mergeFront eager 0 (winsB + 1) (y :: done) fuel (x :: as) bs
    else if as.length = 1 then return (done.reverse ++ x :: y :: bs ++ as, eager)
    else if eager ≤ winsA + 1 then leapFront (eager + 1) (x :: done) fuel as (y :: bs)
    else mergeFront eager (winsA + 1) 0 (x :: done) fuel as (y :: bs)
  | _, as, bs => .ok (done.reverse ++ as ++ bs, eager)

/-- Merges by growing steps from the front. -/
def leapFront (eager : Nat) (done : List α) :
    (fuel : Nat) → List α → List α → Except ε (List α × Nat)
  | fuel + 1, as, y :: bs => do
    let eager := max 1 (eager - 1)
    let wonA ← place (notAfter less as y) as.length 0
    let done := (as.take wonA).reverse ++ done
    let as := as.drop wonA
    if 0 < wonA && as.length ≤ 1 then return (done.reverse ++ y :: bs ++ as, eager)
    let done := y :: done
    match as, bs with
    | x :: as, b :: bs =>
      let bs := b :: bs
      let wonB ← place (isBefore less bs x) bs.length 0
      let done := (bs.take wonB).reverse ++ done
      let bs := bs.drop wonB
      if bs.isEmpty then return (done.reverse ++ x :: as, eager)
      let done := x :: done
      if as.length = 1 then return (done.reverse ++ bs ++ as, eager)
      if payingWins ≤ wonA || payingWins ≤ wonB then leapFront eager done fuel as bs
      else mergeFront (eager + 1) 0 0 done fuel as bs
    | as, bs => return (done.reverse ++ as ++ bs, eager)
  | _, as, bs => .ok (done.reverse ++ as ++ bs, eager)
end

/-! ## From the back -/

mutual
/-- Merges one by one from the back. Both runs are reversed, and `done` is what is merged, in order. A
last item of the second run belongs at the front. -/
def mergeBack (eager winsA winsB : Nat) (done : List α) :
    (fuel : Nat) → List α → List α → Except ε (List α × Nat)
  | fuel + 1, x :: as, y :: bs => do
    if ← less y x then
      if as.isEmpty then return (bs.reverse ++ y :: x :: done, eager)
      else if eager ≤ winsA + 1 then leapBack (eager + 1) (x :: done) fuel as (y :: bs)
      else mergeBack eager (winsA + 1) 0 (x :: done) fuel as (y :: bs)
    else if bs.length = 1 then return (bs ++ as.reverse ++ x :: y :: done, eager)
    else if eager ≤ winsB + 1 then leapBack (eager + 1) (y :: done) fuel (x :: as) bs
    else mergeBack eager 0 (winsB + 1) (y :: done) fuel (x :: as) bs
  | _, as, bs => .ok (as.reverse ++ bs.reverse ++ done, eager)

/-- Merges by growing steps from the back. -/
def leapBack (eager : Nat) (done : List α) :
    (fuel : Nat) → List α → List α → Except ε (List α × Nat)
  | fuel + 1, as, y :: bs => do
    let eager := max 1 (eager - 1)
    let wonA := as.length - (← place (notAfter less as.reverse y) as.length (as.length - 1))
    let done := (as.take wonA).reverse ++ done
    let as := as.drop wonA
    if as.isEmpty then return (bs.reverse ++ y :: done, eager)
    let done := y :: done
    if bs.length = 1 then return (bs ++ as.reverse ++ done, eager)
    match as with
    | x :: as =>
      let wonB := bs.length - (← place (isBefore less bs.reverse x) bs.length (bs.length - 1))
      let done := (bs.take wonB).reverse ++ done
      let bs := bs.drop wonB
      if 0 < wonB && bs.length ≤ 1 then return (bs ++ as.reverse ++ x :: done, eager)
      let done := x :: done
      if as.isEmpty then return (bs.reverse ++ done, eager)
      if payingWins ≤ wonA || payingWins ≤ wonB then leapBack eager done fuel as bs
      else mergeBack (eager + 1) 0 0 done fuel as bs
    | [] => return (bs.reverse ++ done, eager)
  | _, as, bs => .ok (as.reverse ++ bs.reverse ++ done, eager)
end

/-! ## Two runs -/

/-- Merges what is left of two runs, starting at the end of the longer one. The first item of the second
run comes before all of the first run, and the last item of the first run after all of the second. -/
def mergeRest (eager : Nat) (as bs : List α) : Except ε (List α × Nat) :=
  let fuel := as.length + bs.length
  if as.length ≤ bs.length then
    match bs with
    | [] => .ok (as, eager)
    | [y] => .ok (y :: as, eager)
    | y :: bs =>
      if as.length = 1 then .ok (y :: bs ++ as, eager) else mergeFront less eager 0 0 [y] fuel as bs
  else
    match as.reverse with
    | [] => .ok (bs, eager)
    | [x] => .ok (bs ++ [x], eager)
    | x :: rest =>
      if bs.length = 1 then .ok (bs ++ rest.reverse ++ [x], eager)
      else mergeBack less eager 0 0 [x] fuel rest bs.reverse

/-- Merges two runs. What is in its place already at either end is left alone. -/
def merge (eager : Nat) (as bs : List α) : Except ε (List α × Nat) :=
  match as.getLast?, bs.head? with
  | some x, some y => do
    let kept ← place (notAfter less as y) as.length 0
    if kept = as.length then return (as ++ bs, eager)
    let moved ← place (isBefore less bs x) bs.length (bs.length - 1)
    if moved = 0 then return (as ++ bs, eager)
    let (merged, eager) ← mergeRest less eager (as.drop kept) (bs.take moved)
    return (as.take kept ++ merged ++ bs.drop moved, eager)
  | _, _ => .ok (as ++ bs, eager)

end CatchAudit.Sorting
