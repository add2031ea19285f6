/-
Walks with a stack. A walk that takes the first element off its stack and puts the children of that
element in its place lists, given enough fuel, what the recursive pre-order lists.
-/
import Mathlib.Tactic

namespace CatchAudit

/-- `children` gives the children, `pre` the recursive pre-order and `walk` the walk with fuel and a
stack. -/
theorem stackWalk_eq {α : Type} {children pre : α → List α} {walk : Nat → List α → List α}
    (hpre : ∀ a, pre a = a :: (children a).flatMap pre) (hnil : ∀ fuel, walk fuel [] = [])
    (hcons : ∀ fuel a rest, walk (fuel + 1) (a :: rest) = a :: walk fuel (children a ++ rest)) :
    ∀ (fuel : Nat) (stack : List α), (stack.flatMap pre).length ≤ fuel → walk fuel stack = stack.flatMap pre
  | fuel, [], _ => hnil fuel
  | 0, a :: rest, h => by
    -- something is still to be listed, but there is no fuel
    rw [List.flatMap_cons, hpre] at h
    simp at h
  | fuel + 1, a :: rest, h => by
    -- with the children in place of their parent, the stack lists all the rest
    rw [List.flatMap_cons, hpre, List.cons_append, ← List.flatMap_append] at h ⊢
    rw [hcons, stackWalk_eq hpre hnil hcons fuel _ (by simpa using h)]

end CatchAudit
