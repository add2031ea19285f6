/-
Where rows of characters end. What is left of a text at a position decides how a row goes on: a greedy one takes all
the characters that pass, if what follows leads on from there, and a lazy one grows as long as what follows does not.
Here the outcome is followed with its marks, not only whether there is one.
-/
import CatchAudit.Pattern.Search

namespace CatchAudit

namespace Pattern

variable {text : Array Char} {inside : Bool} {k : Rest} {test : CharTest} {steps : List PatternStep} {i j : Nat}
  {s t earlier : Progress} {marks : Array (Option Nat)} {c : Char} {cs row rest : List Char}

/-! ## What is left of a text -/

/-- A text holds `cs` from a position to its end. -/
def IsLeft (text : Array Char) (i : Nat) (cs : List Char) : Prop :=
  ∃ past, past.length = i ∧ text.toList = past ++ cs

namespace IsLeft

theorem start (cs : List Char) : IsLeft cs.toArray 0 cs := ⟨[], rfl, rfl⟩

theorem past (h : IsLeft text i (row ++ rest)) : IsLeft text (i + row.length) rest := by
  obtain ⟨past, rfl, htext⟩ := h
  exact ⟨past ++ row, List.length_append, by rw [htext, List.append_assoc]⟩

theorem next (h : IsLeft text i (c :: rest)) : IsLeft text (i + 1) rest := @past _ _ [c] _ h

theorem size_eq (h : IsLeft text i cs) : text.size = i + cs.length := by
  obtain ⟨past, rfl, htext⟩ := h
  rw [← Array.length_toList, htext, List.length_append]

theorem getElem?_add (h : IsLeft text i cs) (j : Nat) : text[i + j]? = cs[j]? := by
  obtain ⟨past, rfl, htext⟩ := h
  rw [← Array.getElem?_toList, htext, List.getElem?_append_right (Nat.le_add_right ..), Nat.add_sub_cancel_left]

theorem getElem?_zero (h : IsLeft text i cs) : text[i]? = cs.head? := by
  rw [List.head?_eq_getElem?]
  exact h.getElem?_add 0

theorem passes_eq (h : IsLeft text i cs) (test : CharTest) : passes text test i = cs.head?.any (test.accepts ·) := by
  rw [passes, h.getElem?_zero]

/-- The characters from one position on to another, as `IsLeft` tells them. -/
theorem extract_eq (h : IsLeft text i (row ++ rest)) : (text.extract i (i + row.length)).toList = row := by
  obtain ⟨past, rfl, htext⟩ := h
  rw [Array.toList_extract, htext, List.extract_eq_take_drop, List.drop_left, Nat.add_sub_cancel_left, List.take_left]

theorem countPassing_eq : ∀ {row : List Char} {i limit : Nat}, IsLeft text i (row ++ rest) →
    (∀ c ∈ row, test.accepts c = true) → rest.head?.any (test.accepts ·) = false → row.length ≤ limit →
    countPassing text test i limit = row.length
  | [], i, 0, _, _, _, _ => rfl
  | [], i, limit + 1, h, _, hrest, _ => by
    have hpass := h.passes_eq test
    rw [List.nil_append, hrest] at hpass
    rw [countPassing, hpass]
    rfl
  | c :: row, i, limit + 1, h, hrow, hrest, hlimit => by
    have hpass := h.passes_eq test
    rw [List.cons_append, List.head?_cons, Option.any_some, hrow c List.mem_cons_self] at hpass
    rw [countPassing, hpass, if_pos rfl, countPassing_eq h.next (fun d hd => hrow d (List.mem_cons_of_mem c hd)) hrest
      (Nat.le_of_succ_le_succ hlimit), List.length_cons]

theorem countPassing_one (h : IsLeft text i (c :: rest)) (hc : test.accepts c = true) :
    countPassing text test i (min 1 (text.size - i)) = 1 := by
  have hsize := h.size_eq
  rw [List.length_cons] at hsize
  have hpass := h.passes_eq test
  rw [List.head?_cons, Option.any_some, hc] at hpass
  rw [Nat.min_eq_left (by omega), countPassing, hpass]
  rfl

end IsLeft

/-! ## One step after the other -/

/-- The test that steps start with, or the rest after them if there are none. -/
def firstOf (k : Rest) : List PatternStep → Option CharTest
  | [] => k.first
  | .one test :: _ => some test
  | _ => none

theorem runSteps_cons (step : PatternStep) (steps : List PatternStep) (k : Rest) (i : Nat) (s : Progress) :
    runSteps text inside (step :: steps) k i s =
      runStep text inside step ⟨firstOf k steps, runSteps text inside steps k⟩ i s := by
  conv =>
    lhs
    unfold runSteps
  rfl

theorem runSteps_one_of_passes (h : passes text test i = true) :
    runSteps text inside (.one test :: steps) k i s = runSteps text inside steps k (i + 1) s := by
  rw [runSteps_cons, runStep, if_pos h]

theorem runSteps_one_of_not_passes (h : passes text test i = false) :
    runSteps text inside (.one test :: steps) k i s = (false, s) := by
  rw [runSteps_cons, runStep, if_neg (by simp [h])]

theorem runSteps_mark (index : Nat) :
    runSteps text inside (.mark index :: steps) k i s = runSteps text inside steps k i (s.marked index i) := by
  rw [runSteps_cons, runStep]

theorem runSteps_row (greed : Greed) (least : Nat) (most : Option Nat) :
    runSteps text inside (.row greed least most test :: steps) k i s =
      runRow text inside greed least most test ⟨firstOf k steps, runSteps text inside steps k⟩ i s := by
  rw [runSteps_cons, runStep]

/-! ## Greedy rows -/

/-- The rest starts with a character, `k.first`, that does not stand at a position, so that it is not tried there. -/
def Rest.Blocked (text : Array Char) (k : Rest) (i : Nat) : Prop :=
  (k.first.bind (·.point?)).any (fun n => text[i]?.map (·.toNat) != some n) = true

theorem attempt_of_leads (hopen : ¬ k.Blocked text (i + j)) (hk : k.run (i + j) (s.moved (i + j)) = (true, t)) :
    shorterRows.attempt text inside k earlier i j s = (true, t) := by
  unfold shorterRows.attempt
  refine (if_neg hopen).trans ?_
  rw [hk]

theorem shorterRows_of_attempt (h : shorterRows.attempt text inside k earlier i j s = (true, t)) :
    shorterRows text inside k earlier i j s = (true, t) := by
  cases j with
  | zero => exact h
  | succ j => rw [shorterRows, h]

/-- Where the rest is `Blocked` all along, `shorterRows` changes nothing. -/
theorem shorterRows_of_blocked : ∀ {j : Nat}, (∀ e ≤ j, k.Blocked text (i + e)) →
    shorterRows text inside k earlier i j s = (false, s)
  | 0, h => by
    unfold shorterRows shorterRows.attempt
    exact if_pos (h 0 (Nat.le_refl 0))
  | j + 1, h => by
    have hattempt : shorterRows.attempt text inside k earlier i (j + 1) s = (false, s) := by
      unfold shorterRows.attempt
      exact if_pos (h (j + 1) (Nat.le_refl _))
    rw [shorterRows, hattempt]
    exact shorterRows_of_blocked fun e he => h e (Nat.le_succ_of_le he)

/-- By `runRow` a greedy row counts the characters that pass before it tries what follows. -/
theorem runRow_greedy (inside : Bool) (k : Rest) (s : Progress) (h : IsLeft text i (row ++ rest))
    (hrow : ∀ c ∈ row, test.accepts c = true) (hrest : rest.head?.any (test.accepts ·) = false) :
    ∃ cursor, runRow text inside .greedy 0 none test k i s =
      shorterRows text inside k (s.moved cursor) i row.length (s.moved cursor) := by
  have hsize := h.size_eq
  rw [List.length_append] at hsize
  have hcount : countPassing text test i (min text.size (text.size - i)) = row.length :=
    h.countPassing_eq hrow hrest (by omega)
  refine ⟨if test.movesCursor then i + row.length else i, ?_⟩
  unfold runRow counted
  rw [if_neg (by omega), Option.getD_none, hcount]
  exact if_neg (Nat.not_lt_zero _)

theorem runRow_greedy_of_leads (h : IsLeft text i (row ++ rest)) (hrow : ∀ c ∈ row, test.accepts c = true)
    (hrest : rest.head?.any (test.accepts ·) = false) (hopen : ¬ k.Blocked text (i + row.length))
    (hk : k.run (i + row.length) (s.moved (i + row.length)) = (true, t)) :
    runRow text inside .greedy 0 none test k i s = (true, t) := by
  obtain ⟨cursor, hrun⟩ := runRow_greedy inside k s h hrow hrest
  rw [hrun]
  exact shorterRows_of_attempt (attempt_of_leads hopen hk)

theorem runRow_greedy_of_blocked (h : IsLeft text i (row ++ rest)) (hrow : ∀ c ∈ row, test.accepts c = true)
    (hrest : rest.head?.any (test.accepts ·) = false) (hblocked : ∀ e ≤ row.length, k.Blocked text (i + e)) :
    ∃ cursor, runRow text inside .greedy 0 none test k i s = (false, s.moved cursor) := by
  obtain ⟨cursor, hrun⟩ := runRow_greedy inside k s h hrow hrest
  exact ⟨cursor, hrun.trans (shorterRows_of_blocked hblocked)⟩

/-! ## Lazy rows -/

/-- What follows leads on from the end of `row` and from no position before it, and an attempt that fails leaves the
marks as they were. So the row grows until it is complete. -/
theorem longerRows_of_leads : ∀ {row : List Char} {i more : Nat} {s : Progress}, IsLeft text i (row ++ rest) →
    (∀ c ∈ row, test.accepts c = true) → row.length ≤ more → s.marks = marks →
    (∀ j < row.length, ∀ s : Progress, s.marks = marks →
      ∃ t : Progress, k.run (i + j) s = (false, t) ∧ (t.rewound earlier inside).marks = marks) →
    (∀ s : Progress, s.marks = marks → k.run (i + row.length) s = (true, t)) →
    longerRows text inside k test earlier more i s = (true, t)
  | [], i, more, s, _, _, _, hs, _, hleads => by
    have hk : k.run i (s.moved i) = (true, t) := hleads (s.moved i) hs
    unfold longerRows
    rw [hk]
  | c :: row, i, more + 1, s, h, hrow, hmore, hs, hfails, hleads => by
    obtain ⟨u, hu, hmarks⟩ := hfails 0 (Nat.zero_lt_succ _) (s.moved i) hs
    rw [Nat.add_zero] at hu
    unfold longerRows counted
    rw [hu]
    dsimp only
    rw [h.countPassing_one (hrow c List.mem_cons_self), if_neg Nat.one_ne_zero]
    have hshift : ∀ j, i + 1 + j = i + (j + 1) := fun j => by omega
    refine longerRows_of_leads h.next (fun d hd => hrow d (List.mem_cons_of_mem c hd)) (Nat.le_of_succ_le_succ hmore)
      hmarks (fun j hj => ?_) (fun s hs => ?_)
    · rw [hshift]
      exact hfails (j + 1) (Nat.succ_lt_succ hj)
    · rw [hshift]
      exact hleads s hs

/-- By `runRow` a lazy row of one character at least goes on, one more at a time, until the rest leads to the end. -/
theorem runRow_lazy_of_leads (marks : Array (Option Nat)) (h : IsLeft text i (c :: row ++ rest))
    (hrow : ∀ d ∈ c :: row, test.accepts d = true)
    (hfails : ∀ earlier s : Progress, earlier.marks = marks → s.marks = marks → ∀ j < row.length,
      ∃ t : Progress, k.run (i + 1 + j) s = (false, t) ∧ (t.rewound earlier inside).marks = marks)
    (hleads : ∀ s : Progress, s.marks = marks → k.run (i + 1 + row.length) s = (true, t)) (hs : s.marks = marks) :
    runRow text inside .lazy 1 none test k i s = (true, t) := by
  have hsize := h.size_eq
  rw [List.cons_append, List.length_cons, List.length_append] at hsize
  unfold runRow counted
  rw [if_neg (by omega)]
  dsimp only
  rw [h.countPassing_one (hrow c List.mem_cons_self), if_neg (Nat.lt_irrefl 1)]
  exact longerRows_of_leads h.next (fun d hd => hrow d (List.mem_cons_of_mem c hd)) (by omega) hs
    (fun j hj s' hs' => hfails _ s' hs hs' j hj) hleads

end Pattern

end CatchAudit
