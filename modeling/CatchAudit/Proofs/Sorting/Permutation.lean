/-
Sorting by comparisons that may fail. The sort gives its items in some order, all of them and no others, or
it fails as a comparison of two of them does; it has no failure of its own. Each stage hands on what it was
given: runs and what follows them, merged items and what is left of two runs, runs that wait.
-/
import CatchAudit.Proofs.Outcome
import CatchAudit.Sorting.Basic

namespace CatchAudit.Sorting

variable {ε α : Type} {P : ε → Prop} {M : α → Prop}

/-! ## Places -/

section Places

variable {before : Nat → Except ε Bool}

theorem halve_answers (h : ∀ i, Answers P (fun _ => True) (before i)) :
    ∀ fuel low high : Nat, Answers P (fun _ => True) (halve before fuel low high)
  | 0, _, _ => trivial
  | fuel + 1, low, high => by
    unfold halve
    split
    · refine (h _).bind fun b _ => ?_
      split
      · exact halve_answers h fuel _ _
      · exact halve_answers h fuel _ _
    · trivial

theorem stride_answers (h : ∀ i, Answers P (fun _ => True) (before i)) (limit : Nat) :
    ∀ fuel last step : Nat, Answers P (fun _ => True) (stride before limit fuel last step)
  | 0, _, _ => trivial
  | fuel + 1, last, step => by
    unfold stride
    split
    · refine (h _).bind fun b _ => ?_
      split
      · exact stride_answers h limit fuel _ _
      · trivial
    · trivial

theorem place_answers (h : ∀ i, Answers P (fun _ => True) (before i)) (size hint : Nat) :
    Answers P (fun _ => True) (place before size hint) := by
  unfold place
  refine (h _).bind fun b _ => ?_
  split
  · exact (stride_answers (fun i => h _) _ _ _ _).bind fun _ _ => halve_answers h _ _ _
  · have hnot : ∀ i, Answers P (fun _ => True) (before (hint - i) >>= fun b => pure !b) :=
      fun i => (h _).bind fun _ _ => trivial
    exact (stride_answers hnot _ _ _ _).bind fun _ _ => halve_answers h _ _ _

end Places

/-! ## Runs -/

variable {less : α → α → Except ε Bool}

/-- Comparisons of items of which `M` holds fail as `P` says. -/
def Compares (P : ε → Prop) (M : α → Prop) (less : α → α → Except ε Bool) : Prop :=
  ∀ x y, M x → M y → Answers P (fun _ => True) (less x y)

theorem notAfter_answers (h : Compares P M less) {items : List α} {x : α} (hitems : ∀ y ∈ items, M y) (hx : M x)
    (i : Nat) : Answers P (fun _ => True) (notAfter less items x i) := by
  unfold notAfter
  split
  · trivial
  · next y hy => exact (h x y hx (hitems y (List.mem_of_getElem? hy))).bind fun _ _ => trivial

theorem isBefore_answers (h : Compares P M less) {items : List α} {x : α} (hitems : ∀ y ∈ items, M y) (hx : M x)
    (i : Nat) : Answers P (fun _ => True) (isBefore less items x i) := by
  unfold isBefore
  split
  · trivial
  · next y hy => exact h y x (hitems y (List.mem_of_getElem? hy)) hx

/-- A run that is not empty and the items after it are these items. -/
def Splits (items : List α) (r : List α × List α) : Prop := r.1 ≠ [] ∧ (r.1 ++ r.2).Perm items

theorem descendingRun_answers (h : Compares P M less) : ∀ {items : List α} {last : α} {run : List α},
    (∀ x ∈ items, M x) → M last → run ≠ [] →
      Answers P (Splits (run ++ items)) (descendingRun less last run items)
  | [], last, run, _, _, hrun => ⟨hrun, .refl _⟩
  | x :: rest, last, run, hitems, hlast, hrun => by
    obtain ⟨hx, hrest⟩ := List.forall_mem_cons.1 hitems
    unfold descendingRun
    refine (h x last hx hlast).bind fun b _ => ?_
    split
    · have hmoved : (x :: run ++ rest).Perm (run ++ x :: rest) := List.perm_middle.symm
      have hgo := descendingRun_answers h hrest hx (List.cons_ne_nil x run)
      exact hgo.mono fun r hr => ⟨hr.1, hr.2.trans hmoved⟩
    · exact ⟨hrun, .refl _⟩

theorem ascendingRun_answers (h : Compares P M less) : ∀ {items : List α} {last : α} {run : List α},
    (∀ x ∈ items, M x) → M last → run ≠ [] →
      Answers P (Splits (run ++ items)) (ascendingRun less last run items)
  | [], last, run, _, _, hrun => ⟨by simpa using hrun, run.reverse_perm.append_right []⟩
  | x :: rest, last, run, hitems, hlast, hrun => by
    obtain ⟨hx, hrest⟩ := List.forall_mem_cons.1 hitems
    unfold ascendingRun
    refine (h x last hx hlast).bind fun b _ => ?_
    split
    · exact ⟨by simpa using hrun, run.reverse_perm.append_right _⟩
    · have hmoved : (x :: run ++ rest).Perm (run ++ x :: rest) := List.perm_middle.symm
      have hgo := ascendingRun_answers h hrest hx (List.cons_ne_nil x run)
      exact hgo.mono fun r hr => ⟨hr.1, hr.2.trans hmoved⟩

theorem firstRun_answers (h : Compares P M less) {items : List α} (hitems : ∀ x ∈ items, M x) (hne : items ≠ []) :
    Answers P (Splits items) (firstRun less items) := by
  match items with
  | [] => exact absurd rfl hne
  | [x] => exact ⟨List.cons_ne_nil x [], .refl _⟩
  | x :: y :: rest =>
    obtain ⟨hx, hy, hrest⟩ : M x ∧ M y ∧ ∀ z ∈ rest, M z := by simpa using hitems
    have hswap : ([y, x] ++ rest).Perm (x :: y :: rest) := .swap x y rest
    unfold firstRun
    refine (h y x hy hx).bind fun b _ => ?_
    split
    · exact (descendingRun_answers h hrest hy (List.cons_ne_nil y [x])).mono fun r hr => ⟨hr.1, hr.2.trans hswap⟩
    · exact (ascendingRun_answers h hrest hy (List.cons_ne_nil y [x])).mono fun r hr => ⟨hr.1, hr.2.trans hswap⟩

theorem insertAll_answers (h : Compares P M less) : ∀ {items run : List α}, (∀ x ∈ items, M x) → (∀ x ∈ run, M x) →
    Answers P (fun out => out.Perm (run ++ items)) (insertAll less run items)
  | [], run, _, _ => by
    rw [List.append_nil]
    exact .refl run
  | x :: rest, run, hitems, hrun => by
    obtain ⟨hx, hrest⟩ := List.forall_mem_cons.1 hitems
    unfold insertAll
    refine (halve_answers (notAfter_answers h hrun hx) _ _ _).bind fun i _ => ?_
    have hput : (run.take i ++ x :: run.drop i).Perm (x :: run) := by
      refine List.perm_middle.trans (.cons x ?_)
      rw [List.take_append_drop]
    have hmem : ∀ y ∈ run.take i ++ x :: run.drop i, M y := fun y hy =>
      (List.forall_mem_cons.2 ⟨hx, hrun⟩ : ∀ y ∈ x :: run, M y) y (hput.mem_iff.1 hy)
    refine (insertAll_answers h hrest hmem).mono fun out hout => ?_
    exact hout.trans ((hput.append_right rest).trans List.perm_middle.symm)

theorem nextRun_answers (h : Compares P M less) (least : Nat) {items : List α} (hitems : ∀ x ∈ items, M x)
    (hne : items ≠ []) : Answers P (Splits items) (nextRun less least items) := by
  unfold nextRun
  refine (firstRun_answers h hitems hne).bind fun r hr => ?_
  obtain ⟨run, rest⟩ := r
  obtain ⟨hrun, hperm⟩ : run ≠ [] ∧ (run ++ rest).Perm items := hr
  have hmem : ∀ x ∈ run ++ rest, M x := fun x hx => hitems x (hperm.mem_iff.1 hx)
  obtain ⟨hmemRun, hmemRest⟩ := List.forall_mem_append.1 hmem
  have htake : ∀ x ∈ rest.take (least - run.length), M x := fun x hx => hmemRest x (List.mem_of_mem_take hx)
  refine (insertAll_answers h htake hmemRun).bind fun out hout => ⟨?_, ?_⟩
  · intro hempty
    have hnil : out = [] := hempty
    rw [hnil] at hout
    exact hrun (List.append_eq_nil_iff.1 hout.nil_eq.symm).1
  · have hrejoin : (out ++ rest.drop (least - run.length)).Perm (run ++ rest) := by
      refine (hout.append_right _).trans ?_
      rw [List.append_assoc, List.take_append_drop]
    exact hrejoin.trans hperm

/-! ## Merges -/

/-- What is merged, with the number of wins that is needed from then on, holds these items. -/
def Merges (items : List α) (r : List α × Nat) : Prop := r.1.Perm items

theorem perm_of_count {l l' : List α} (h : ∀ [DecidableEq α] (a : α), l.count a = l'.count a) : l.Perm l' := by
  classical
  exact List.perm_iff_count.2 fun a => h a

theorem perm_reversed (done as bs : List α) : (as.reverse ++ bs.reverse ++ done).Perm (done ++ as ++ bs) :=
  perm_of_count fun a => by
    simp only [List.count_append, List.count_reverse]
    omega

/-- An item of the first run is merged. -/
theorem perm_first (x : α) (done as bs : List α) : (x :: done ++ as ++ bs).Perm (done ++ x :: as ++ bs) :=
  perm_of_count fun a => by
    simp only [List.count_append, List.count_cons]
    omega

/-- An item of the second run is merged. -/
theorem perm_second (y : α) (done as bs : List α) : (y :: done ++ as ++ bs).Perm (done ++ as ++ y :: bs) :=
  perm_of_count fun a => by
    simp only [List.count_append, List.count_cons]
    omega

/-- A part of each run is merged, each with the item that stopped the other. -/
theorem perm_leap (x y : α) (done frontA as frontB bs : List α) :
    (x :: (frontB.reverse ++ y :: (frontA.reverse ++ done)) ++ as ++ bs).Perm
      (done ++ (frontA ++ x :: as) ++ y :: (frontB ++ bs)) :=
  perm_of_count fun a => by
    simp only [List.count_append, List.count_cons, List.count_reverse]
    omega

/-- A list in two parts, the first of which has `n` items, if there are as many. -/
theorem exists_parts (n : Nat) (items : List α) :
    ∃ front back, items.take n = front ∧ items.drop n = back ∧ items = front ++ back :=
  ⟨_, _, rfl, rfl, (List.take_append_drop n items).symm⟩

mutual
theorem mergeFront_answers (h : Compares P M less) : ∀ (fuel eager winsA winsB : Nat) (done as bs : List α),
    (∀ x ∈ as, M x) → (∀ y ∈ bs, M y) →
      Answers P (Merges (done ++ as ++ bs)) (mergeFront less eager winsA winsB done fuel as bs)
  | fuel + 1, eager, winsA, winsB, done, x :: as, y :: bs, hxas, hybs => by
    obtain ⟨hx, has⟩ := List.forall_mem_cons.1 hxas
    obtain ⟨hy, hbs⟩ := List.forall_mem_cons.1 hybs
    unfold mergeFront
    refine (h y x hy hx).bind fun b _ => ?_
    split
    · have hmoved := perm_second y done (x :: as) bs
      split
      · next hempty =>
        rw [List.isEmpty_iff.1 hempty]
        refine perm_of_count fun a => ?_
        simp only [List.count_append, List.count_cons, List.count_reverse, List.count_nil]
        omega
      · split
        · exact (leapFront_answers h fuel _ _ _ _ hxas hbs).mono fun r hr => hr.trans hmoved
        · exact (mergeFront_answers h fuel _ _ _ _ _ _ hxas hbs).mono fun r hr => hr.trans hmoved
    · have hmoved := perm_first x done as (y :: bs)
      split
      · refine perm_of_count fun a => ?_
        simp only [List.count_append, List.count_cons, List.count_reverse]
        omega
      · split
        · exact (leapFront_answers h fuel _ _ _ _ has hybs).mono fun r hr => hr.trans hmoved
        · exact (mergeFront_answers h fuel _ _ _ _ _ _ has hybs).mono fun r hr => hr.trans hmoved
  | 0, _, _, _, done, as, bs, _, _ => by
    unfold mergeFront
    exact (done.reverse_perm.append_right as).append_right bs
  | fuel + 1, _, _, _, done, [], bs, _, _ => by
    unfold mergeFront
    exact (done.reverse_perm.append_right []).append_right bs
  | fuel + 1, _, _, _, done, x :: as, [], _, _ => by
    unfold mergeFront
    exact (done.reverse_perm.append_right (x :: as)).append_right []

theorem leapFront_answers (h : Compares P M less) : ∀ (fuel eager : Nat) (done as bs : List α),
    (∀ x ∈ as, M x) → (∀ y ∈ bs, M y) →
      Answers P (Merges (done ++ as ++ bs)) (leapFront less eager done fuel as bs)
  | fuel + 1, eager, done, as, y :: bs, has, hybs => by
    obtain ⟨hy, hbs⟩ := List.forall_mem_cons.1 hybs
    unfold leapFront
    refine (place_answers (notAfter_answers h has hy) _ _).bind fun wonA _ => ?_
    obtain ⟨frontA, backA, htakeA, hdropA, rfl⟩ := exists_parts wonA as
    dsimp only
    rw [htakeA, hdropA]
    obtain ⟨-, hbackA⟩ := List.forall_mem_append.1 has
    split
    · refine perm_of_count fun a => ?_
      simp only [List.count_append, List.count_cons, List.count_reverse]
      omega
    · match backA, bs with
      | x :: as, b :: bs =>
        obtain ⟨hx, has⟩ := List.forall_mem_cons.1 hbackA
        refine (place_answers (isBefore_answers h hbs hx) _ _).bind fun wonB _ => ?_
        obtain ⟨frontB, backB, htakeB, hdropB, hparts⟩ := exists_parts wonB (b :: bs)
        rw [htakeB, hdropB, hparts]
        rw [hparts] at hbs
        obtain ⟨-, hbackB⟩ := List.forall_mem_append.1 hbs
        have hmoved := perm_leap x y done frontA as frontB backB
        split
        · next hempty =>
          rw [List.isEmpty_iff.1 hempty]
          refine perm_of_count fun a => ?_
          simp only [List.count_append, List.count_cons, List.count_reverse, List.count_nil]
          omega
        · split
          · refine perm_of_count fun a => ?_
            simp only [List.count_append, List.count_cons, List.count_reverse]
            omega
          · split
            · exact (leapFront_answers h fuel _ _ _ _ has hbackB).mono fun r hr => hr.trans hmoved
            · exact (mergeFront_answers h fuel _ _ _ _ _ _ has hbackB).mono fun r hr => hr.trans hmoved
      | [], bs =>
        refine perm_of_count fun a => ?_
        simp only [List.count_append, List.count_cons, List.count_reverse]
        omega
      | x :: as, [] =>
        refine perm_of_count fun a => ?_
        simp only [List.count_append, List.count_cons, List.count_reverse]
        omega
  | 0, _, done, as, bs, _, _ => by
    unfold leapFront
    exact (done.reverse_perm.append_right as).append_right bs
  | fuel + 1, _, done, as, [], _, _ => by
    unfold leapFront
    exact (done.reverse_perm.append_right as).append_right []
end

mutual
theorem mergeBack_answers (h : Compares P M less) : ∀ (fuel eager winsA winsB : Nat) (done as bs : List α),
    (∀ x ∈ as, M x) → (∀ y ∈ bs, M y) →
      Answers P (Merges (done ++ as ++ bs)) (mergeBack less eager winsA winsB done fuel as bs)
  | fuel + 1, eager, winsA, winsB, done, x :: as, y :: bs, hxas, hybs => by
    obtain ⟨hx, has⟩ := List.forall_mem_cons.1 hxas
    obtain ⟨hy, hbs⟩ := List.forall_mem_cons.1 hybs
    unfold mergeBack
    refine (h y x hy hx).bind fun b _ => ?_
    split
    · have hmoved := perm_first x done as (y :: bs)
      split
      · next hempty =>
        rw [List.isEmpty_iff.1 hempty]
        refine perm_of_count fun a => ?_
        simp only [List.count_append, List.count_cons, List.count_reverse, List.count_nil]
        omega
      · split
        · exact (leapBack_answers h fuel _ _ _ _ has hybs).mono fun r hr => hr.trans hmoved
        · exact (mergeBack_answers h fuel _ _ _ _ _ _ has hybs).mono fun r hr => hr.trans hmoved
    · have hmoved := perm_second y done (x :: as) bs
      split
      · refine perm_of_count fun a => ?_
        simp only [List.count_append, List.count_cons, List.count_reverse]
        omega
      · split
        · exact (leapBack_answers h fuel _ _ _ _ hxas hbs).mono fun r hr => hr.trans hmoved
        · exact (mergeBack_answers h fuel _ _ _ _ _ _ hxas hbs).mono fun r hr => hr.trans hmoved
  | 0, _, _, _, done, as, bs, _, _ => by
    unfold mergeBack
    exact perm_reversed done as bs
  | fuel + 1, _, _, _, done, [], bs, _, _ => by
    unfold mergeBack
    exact perm_reversed done [] bs
  | fuel + 1, _, _, _, done, x :: as, [], _, _ => by
    unfold mergeBack
    exact perm_reversed done (x :: as) []

theorem leapBack_answers (h : Compares P M less) : ∀ (fuel eager : Nat) (done as bs : List α),
    (∀ x ∈ as, M x) → (∀ y ∈ bs, M y) →
      Answers P (Merges (done ++ as ++ bs)) (leapBack less eager done fuel as bs)
  | fuel + 1, eager, done, as, y :: bs, has, hybs => by
    obtain ⟨hy, hbs⟩ := List.forall_mem_cons.1 hybs
    have hasBack : ∀ x ∈ as.reverse, M x := fun x hx => has x (List.mem_reverse.1 hx)
    have hbsBack : ∀ x ∈ bs.reverse, M x := fun x hx => hbs x (List.mem_reverse.1 hx)
    unfold leapBack
    refine (place_answers (notAfter_answers h hasBack hy) _ _).bind fun kept _ => ?_
    obtain ⟨frontA, backA, htakeA, hdropA, hparts⟩ := exists_parts (as.length - kept) as
    dsimp only
    rw [htakeA, hdropA, hparts]
    rw [hparts] at has
    obtain ⟨-, hbackA⟩ := List.forall_mem_append.1 has
    split
    · next hempty =>
      rw [List.isEmpty_iff.1 hempty]
      refine perm_of_count fun a => ?_
      simp only [List.count_append, List.count_cons, List.count_reverse, List.count_nil]
      omega
    · split
      · refine perm_of_count fun a => ?_
        simp only [List.count_append, List.count_cons, List.count_reverse]
        omega
      · match backA with
        | x :: as =>
          obtain ⟨hx, has⟩ := List.forall_mem_cons.1 hbackA
          refine (place_answers (isBefore_answers h hbsBack hx) _ _).bind fun keptB _ => ?_
          obtain ⟨frontB, backB, htakeB, hdropB, hpartsB⟩ := exists_parts (bs.length - keptB) bs
          rw [htakeB, hdropB, hpartsB]
          rw [hpartsB] at hbs
          obtain ⟨-, hbackB⟩ := List.forall_mem_append.1 hbs
          have hmoved := perm_leap x y done frontA as frontB backB
          split
          · refine perm_of_count fun a => ?_
            simp only [List.count_append, List.count_cons, List.count_reverse]
            omega
          · split
            · next hempty =>
              rw [List.isEmpty_iff.1 hempty]
              refine perm_of_count fun a => ?_
              simp only [List.count_append, List.count_cons, List.count_reverse, List.count_nil]
              omega
            · split
              · exact (leapBack_answers h fuel _ _ _ _ has hbackB).mono fun r hr => hr.trans hmoved
              · exact (mergeBack_answers h fuel _ _ _ _ _ _ has hbackB).mono fun r hr => hr.trans hmoved
        | [] =>
          refine perm_of_count fun a => ?_
          simp only [List.count_append, List.count_cons, List.count_reverse, List.count_nil]
          omega
  | 0, _, done, as, bs, _, _ => by
    unfold leapBack
    exact perm_reversed done as bs
  | fuel + 1, _, done, as, [], _, _ => by
    unfold leapBack
    exact perm_reversed done as []
end

theorem mergeRest_answers (h : Compares P M less) (eager : Nat) {as bs : List α} (has : ∀ x ∈ as, M x)
    (hbs : ∀ y ∈ bs, M y) : Answers P (Merges (as ++ bs)) (mergeRest less eager as bs) := by
  unfold mergeRest
  dsimp only
  split
  · match bs with
    | [] => exact (List.append_nil as).symm ▸ .refl as
    | [y] => exact List.perm_append_singleton y as |>.symm
    | y :: z :: bs =>
      dsimp only
      split
      · exact List.perm_append_comm
      · refine (mergeFront_answers h _ _ _ _ [y] as (z :: bs) has (List.forall_mem_cons.1 hbs).2).mono fun r hr => ?_
        exact hr.trans List.perm_middle.symm
  · -- the longer run is taken from its end on
    have hasBack : ∀ x ∈ as.reverse, M x := fun x hx => has x (List.mem_reverse.1 hx)
    have hbsBack : ∀ x ∈ bs.reverse, M x := fun x hx => hbs x (List.mem_reverse.1 hx)
    have hback : (as.reverse ++ bs).Perm (as ++ bs) := as.reverse_perm.append_right bs
    match as.reverse, hasBack, hback with
    | [], _, hback => exact hback
    | [x], _, hback => exact (List.perm_append_singleton x bs).trans hback
    | x :: z :: rest, hasBack, hback =>
      dsimp only
      split
      · refine List.Perm.trans (perm_of_count fun a => ?_) hback
        simp only [List.count_append, List.count_cons, List.count_reverse, List.count_nil]
        omega
      · refine (mergeBack_answers h _ _ _ _ [x] (z :: rest) bs.reverse (List.forall_mem_cons.1 hasBack).2 hbsBack).mono
          fun r hr => ?_
        exact (hr.trans (bs.reverse_perm.append_left _)).trans hback

theorem merge_answers (h : Compares P M less) (eager : Nat) {as bs : List α} (has : ∀ x ∈ as, M x)
    (hbs : ∀ y ∈ bs, M y) : Answers P (Merges (as ++ bs)) (merge less eager as bs) := by
  unfold merge
  split
  · next x y hlast hhead =>
    have hx : M x := has x (List.mem_of_getLast? hlast)
    have hy : M y := hbs y (List.mem_of_mem_head? hhead)
    refine (place_answers (notAfter_answers h has hy) _ _).bind fun kept _ => ?_
    split
    · exact .refl _
    · refine (place_answers (isBefore_answers h hbs hx) _ _).bind fun moved _ => ?_
      split
      · exact .refl _
      · obtain ⟨frontA, backA, htakeA, hdropA, rfl⟩ := exists_parts kept as
        obtain ⟨frontB, backB, htakeB, hdropB, rfl⟩ := exists_parts moved bs
        rw [htakeA, hdropA, htakeB, hdropB]
        obtain ⟨-, hbackA⟩ := List.forall_mem_append.1 has
        obtain ⟨hfrontB, -⟩ := List.forall_mem_append.1 hbs
        refine (mergeRest_answers h eager hbackA hfrontB).bind fun r hr => ?_
        obtain ⟨merged, eager⟩ := r
        have hmiddle : (frontA ++ merged ++ backB).Perm (frontA ++ (backA ++ frontB) ++ backB) :=
          (List.Perm.append_left frontA hr).append_right backB
        have hparts : frontA ++ (backA ++ frontB) ++ backB = frontA ++ backA ++ (frontB ++ backB) := by
          simp only [List.append_assoc]
        exact hparts ▸ hmiddle
  · exact .refl _

/-! ## Runs that wait -/

/-- The items of runs. -/
def itemsOf (runs : List (Waiting α)) : List α := runs.flatMap (·.items)

theorem itemsOf_cons (run : Waiting α) (runs : List (Waiting α)) : itemsOf (run :: runs) = run.items ++ itemsOf runs :=
  List.flatMap_cons

theorem itemsOf_nil : itemsOf ([] : List (Waiting α)) = [] := rfl

/-- Two runs of which one takes the items of both. -/
theorem itemsOf_merged {one other run : Waiting α} {rest : List (Waiting α)}
    (h : run.items.Perm (one.items ++ other.items)) :
    (itemsOf (run :: rest)).Perm (itemsOf (one :: other :: rest)) := by
  simp only [itemsOf_cons, ← List.append_assoc]
  exact h.append_right _

theorem settle_answers (h : Compares P M less) (depth : Nat) : ∀ (eager : Nat) (runs : List (Waiting α)),
    (∀ x ∈ itemsOf runs, M x) →
      Answers P (fun r => (itemsOf r.1).Perm (itemsOf runs)) (settle less depth eager runs)
  | eager, [], _ => by
    unfold settle
    exact .refl _
  | eager, [last], _ => by
    unfold settle
    exact .refl _
  | eager, last :: other :: rest, hruns => by
    unfold settle
    split
    · have hmem := hruns
      simp only [itemsOf_cons, List.forall_mem_append] at hmem
      refine (merge_answers h eager hmem.2.1 hmem.1).bind fun r hr => ?_
      have hperm : (itemsOf (⟨other.start, r.1, other.power⟩ :: rest)).Perm (itemsOf (last :: other :: rest)) :=
        itemsOf_merged (hr.trans List.perm_append_comm)
      exact (settle_answers h depth _ _ fun x hx => hruns x (hperm.mem_iff.1 hx)).mono fun r hr => hr.trans hperm
    · exact .refl _
termination_by _ runs => runs.length

theorem mergeAll_answers (h : Compares P M less) : ∀ (eager : Nat) (runs : List (Waiting α)),
    (∀ x ∈ itemsOf runs, M x) → Answers P (fun out => out.Perm (itemsOf runs)) (mergeAll less eager runs)
  | eager, [], _ => by
    unfold mergeAll
    exact .refl _
  | eager, [last], _ => by
    unfold mergeAll
    rw [itemsOf_cons, itemsOf_nil, List.append_nil]
    exact .refl last.items
  | eager, [last, other], hruns => by
    simp only [itemsOf_cons, itemsOf_nil, List.append_nil, List.forall_mem_append] at hruns ⊢
    unfold mergeAll
    exact (merge_answers h eager hruns.2 hruns.1).bind fun r hr => hr.trans List.perm_append_comm
  | eager, last :: other :: third :: rest, hruns => by
    have hmem := hruns
    simp only [itemsOf_cons, List.forall_mem_append] at hmem
    unfold mergeAll
    split
    · refine (merge_answers h eager hmem.2.2.1 hmem.2.1).bind fun r hr => ?_
      have hperm : (itemsOf (last :: ⟨third.start, r.1, third.power⟩ :: rest)).Perm
          (itemsOf (last :: other :: third :: rest)) := by
        rw [itemsOf_cons, itemsOf_cons last (other :: third :: rest)]
        exact (itemsOf_merged (hr.trans List.perm_append_comm)).append_left _
      exact (mergeAll_answers h _ _ fun x hx => hruns x (hperm.mem_iff.1 hx)).mono fun out hout => hout.trans hperm
    · refine (merge_answers h eager hmem.2.1 hmem.1).bind fun r hr => ?_
      have hperm : (itemsOf (⟨other.start, r.1, other.power⟩ :: third :: rest)).Perm
          (itemsOf (last :: other :: third :: rest)) := itemsOf_merged (hr.trans List.perm_append_comm)
      exact (mergeAll_answers h _ _ fun x hx => hruns x (hperm.mem_iff.1 hx)).mono fun out hout => hout.trans hperm
termination_by _ runs => runs.length

/-! ## The sort -/

/-- Each turn of `sortFrom` takes at least one item away, so that the fuel lasts. -/
theorem sortFrom_answers (h : Compares P M less) (n : Nat) : ∀ (fuel eager start : Nat) (runs : List (Waiting α))
    (items : List α), items.length ≤ fuel → (∀ x ∈ itemsOf runs, M x) → (∀ x ∈ items, M x) →
      Answers P (fun out => out.Perm (itemsOf runs ++ items)) (sortFrom less n eager runs fuel start items)
  | 0, eager, start, runs, items, hfuel, hruns, _ => by
    rw [List.length_eq_zero_iff.1 (Nat.le_zero.1 hfuel), List.append_nil]
    exact mergeAll_answers h eager runs hruns
  | fuel + 1, eager, start, runs, [], _, hruns, _ => by
    rw [List.append_nil]
    exact mergeAll_answers h eager runs hruns
  | fuel + 1, eager, start, runs, x :: items, hfuel, hruns, hitems => by
    unfold sortFrom
    -- a run is taken from the front, the runs that wait are settled, and the new run waits with them
    refine (nextRun_answers h _ hitems (List.cons_ne_nil x items)).bind fun r hr => ?_
    obtain ⟨run, rest⟩ := r
    obtain ⟨hrun, hsplit⟩ : run ≠ [] ∧ (run ++ rest).Perm (x :: items) := hr
    refine (settle_answers h _ eager runs hruns).bind fun s hs => ?_
    obtain ⟨runs', eager'⟩ := s
    have hs : (itemsOf runs').Perm (itemsOf runs) := hs
    have hmem : ∀ y ∈ run ++ rest, M y := fun y hy => hitems y (hsplit.mem_iff.1 hy)
    obtain ⟨hmemRun, hmemRest⟩ := List.forall_mem_append.1 hmem
    have hwaiting : ∀ y ∈ itemsOf (⟨start, run, 0⟩ :: runs'), M y := by
      rw [itemsOf_cons]
      exact List.forall_mem_append.2 ⟨hmemRun, fun y hy => hruns y (hs.mem_iff.1 hy)⟩
    have hlength : rest.length ≤ fuel := by
      have hsum := hsplit.length_eq
      have hpositive := List.length_pos_iff.2 hrun
      rw [List.length_append] at hsum
      omega
    refine (sortFrom_answers h n fuel _ _ _ rest hlength hwaiting hmemRest).mono fun out hout => ?_
    have hmoved : (itemsOf (⟨start, run, 0⟩ :: runs') ++ rest).Perm (itemsOf runs' ++ (run ++ rest)) := by
      refine perm_of_count fun a => ?_
      simp only [itemsOf_cons, List.count_append]
      omega
    exact hout.trans (hmoved.trans (hs.append hsplit))

/-- `sort` gives the items in some order, or fails as a comparison of two of them does. -/
theorem sort_answers (less : α → α → Except ε Bool) (items : List α) :
    Answers (fun e => ∃ x ∈ items, ∃ y ∈ items, less x y = .error e) (fun sorted => sorted.Perm items)
      (sort less items) := by
  have hcompares : Compares (fun e => ∃ x ∈ items, ∃ y ∈ items, less x y = .error e) (· ∈ items) less := by
    intro x y hx hy
    cases hxy : less x y with
    | error e => exact ⟨x, hx, y, hy, hxy⟩
    | ok b => trivial
  exact sortFrom_answers hcompares items.length items.length _ 0 [] items le_rfl (by simp [itemsOf_nil]) fun _ h => h

end CatchAudit.Sorting
