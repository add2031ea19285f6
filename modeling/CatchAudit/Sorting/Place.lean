/-
Where an item belongs among items in order. The comparisons may fail, so it matters which of them are
made: from a hint the search goes on in growing steps, and then halves what is left.
-/

namespace CatchAudit.Sorting

variable {ε : Type} (before : Nat → Except ε Bool)

/-- The first position from `low` on, and at most `high`, of which `before` does not hold, found by
halving. -/
def halve : (fuel low high : Nat) → Except ε Nat
  | 0, low, _ => .ok low
  | fuel + 1, low, high =>
    if low < high then do
      let middle := low + (high - low) / 2
      if ← before middle then halve fuel (middle + 1) high else halve fuel low middle
    else .ok low

/-- Growing steps as long as `before` holds: the last one of which it does, and the next one, which is at
most `limit`. -/
def stride (limit : Nat) : (fuel last step : Nat) → Except ε (Nat × Nat)
  | 0, last, step => .ok (last, min step limit)
  | fuel + 1, last, step =>
    if step < limit then do
      if ← before step then stride limit fuel step (2 * step + 1) else return (last, step)
    else .ok (last, limit)

/-- The number of positions below `size` of which `before` holds, looked for from a hint on. -/
def place (size hint : Nat) : Except ε Nat := do
  if ← before hint then
    let (last, step) ← stride (fun k => before (hint + k)) (size - hint) size 0 1
    halve before size (hint + last + 1) (hint + step)
  else
    let (last, step) ← stride (fun k => return !(← before (hint - k))) (hint + 1) size 0 1
    halve before size (hint + 1 - step) (hint - last)

end CatchAudit.Sorting
