/-
What running a pattern comes to. Where whether the rest of a pattern leads to its end depends on the position
alone, running steps before it says from where they lead to such a position: neither the order in which ways
are tried matters then, nor what an earlier way has left behind, nor that some ways are passed over because
they would fail. Shown for single characters, places, choices, greedy rows, and what may be left out.
-/
import CatchAudit.Pattern.Search

namespace CatchAudit

namespace Pattern

variable {text : Array Char} {inside : Bool} {k : Rest} {q : Nat → Prop} {leads more : (Nat → Prop) → Nat → Prop}
  {step : PatternStep} {steps rest : List PatternStep} {test : CharTest} {n : Nat}

/-- Whether the rest of a pattern leads to the end depends on the position alone: it does from those in `q`.
Where it starts with one character, that character stands there. -/
structure Rest.Settled (text : Array Char) (k : Rest) (q : Nat → Prop) : Prop where
  run : ∀ i s, (k.run i s).1 = true ↔ q i
  first : ∀ {test n i}, k.first = some test → test.point? = some n → q i → text[i]?.map (·.toNat) = some n

/-- A way of running leads to the end from a position exactly if `leads` says so of the positions from which the
rest does. -/
def Runner.Settled (text : Array Char) (runner : Runner) (leads : (Nat → Prop) → Nat → Prop) : Prop :=
  ∀ ⦃k : Rest⦄ ⦃q : Nat → Prop⦄, k.Settled text q → ∀ i s, (runner k i s).1 = true ↔ leads q i

theorem Rest.Settled.done (text : Array Char) : Rest.done.Settled text fun _ => True :=
  ⟨fun _ _ => by simp [Rest.done], fun h => by cases h⟩

theorem Rest.Settled.apart (h : k.Settled text q) : k.apart.Settled text q :=
  ⟨h.run, fun hfirst => by cases hfirst⟩

/-! ## One step after the other -/

theorem toNat_of_passes (h : test.point? = some n) {i : Nat} (hpass : passes text test i = true) :
    text[i]?.map (·.toNat) = some n := by
  unfold CharTest.point? at h
  split at h
  · cases h
    unfold passes at hpass
    rw [Option.any_eq_true] at hpass
    obtain ⟨c, hc, haccepts⟩ := hpass
    rw [hc, Option.map_some]
    simpa [CharTest.accepts, Fold.lower] using haccepts
  · cases h

theorem settled_nil (text : Array Char) (inside : Bool) :
    Runner.Settled text (runSteps text inside []) fun q => q := by
  intro k q hk i s
  rw [runSteps, hk.run]

theorem settled_one (text : Array Char) (inside : Bool) (test : CharTest) :
    Runner.Settled text (runStep text inside (.one test)) fun q i => passes text test i = true ∧ q (i + 1) := by
  intro k q hk i s
  rw [runStep]
  cases hpass : passes text test i <;> simp [hk.run, hpass]

theorem settled_spot (text : Array Char) (inside : Bool) (spot : Spot) :
    Runner.Settled text (runStep text inside (.spot spot)) fun q i => isSpot text i spot = true ∧ q i := by
  intro k q hk i s
  rw [runStep]
  cases hspot : isSpot text i spot <;> simp [hk.run, hspot]

/-- What starts with a test leads on only from where the test `passes`. -/
theorem passes_of_run {i : Nat} {s : Progress} (h : (runSteps text inside (.one test :: rest) k i s).1 = true) :
    passes text test i = true := by
  by_cases hpass : passes text test i = true
  · exact hpass
  · unfold runSteps runStep at h
    dsimp only at h
    rw [if_neg hpass] at h
    cases h

/-- By `runSteps` the first step is run with the others as the rest of the pattern. -/
theorem settled_cons (hstep : Runner.Settled text (runStep text inside step) leads)
    (hrest : Runner.Settled text (runSteps text inside rest) more) :
    Runner.Settled text (runSteps text inside (step :: rest)) fun q => leads (more q) := by
  intro k q hk i s
  unfold runSteps
  refine hstep ⟨hrest hk, ?_⟩ i s
  intro test n i hfirst hpoint hi
  have hrun := (hrest hk i s).2 hi
  dsimp only at hfirst
  split at hfirst
  · rw [runSteps, hk.run] at hrun
    exact hk.first hfirst hpoint hrun
  · cases hfirst
    exact toNat_of_passes hpoint (passes_of_run hrun)
  · cases hfirst

/-! ## Choices -/

variable {earlier : Progress} {alternatives : List (List PatternStep)}

theorem settled_choice_nil (text : Array Char) (inside : Bool) (earlier : Progress) :
    Runner.Settled text (runChoice text inside earlier []) fun _ _ => False := by
  intro k q _ i s
  rw [runChoice]
  simp

/-- What is tried leads on, or else the others do. -/
theorem tried_iff {out : Outcome} {others : Progress → Outcome} {first other : Prop} :
    (out.1 = true ↔ first) → (∀ s, (others s).1 = true ↔ other) →
      ((match out with
        | (true, s) => (true, s)
        | (false, s) => others s : Outcome).1 = true ↔ first ∨ other) := by
  intro hout hothers
  rcases out with ⟨_ | _, s⟩
  · exact (hothers s).trans (or_iff_right fun h => by cases hout.2 h).symm
  · exact iff_of_true rfl (.inl (hout.1 rfl))

/-- An alternative that `runChoice` passes over would not have led on. -/
theorem settled_choice_cons (hsteps : Runner.Settled text (runSteps text inside steps) leads)
    (hothers : Runner.Settled text (runChoice text inside earlier alternatives) more) :
    Runner.Settled text (runChoice text inside earlier (steps :: alternatives)) fun q i => leads q i ∨ more q i := by
  intro k q hk i s
  have hrun := hsteps hk i (s.moved i)
  unfold runChoice
  split
  · next test tail =>
    by_cases hblocked : (test.isDirect && !passes text test i) = true
    · have hnot : ¬ leads q i := fun h => by
        rw [passes_of_run (hrun.2 h)] at hblocked
        simp at hblocked
      rw [if_pos hblocked, hothers hk]
      exact (or_iff_right hnot).symm
    · rw [if_neg hblocked]
      exact tried_iff hrun fun t => hothers hk i (t.rewound earlier inside)
  · rw [if_neg Bool.false_ne_true]
    exact tried_iff hrun fun t => hothers hk i (t.rewound earlier inside)

theorem settled_choice (h : ∀ earlier, Runner.Settled text (runChoice text inside earlier alternatives) leads) :
    Runner.Settled text (runStep text inside (.choice alternatives)) leads := by
  intro k q hk i s
  rw [runStep, h s hk.apart]

/-! ## Rows -/

theorem le_countPassing_iff (text : Array Char) (test : CharTest) : ∀ {limit i n : Nat},
    n ≤ countPassing text test i limit ↔ n ≤ limit ∧ ∀ j < n, passes text test (i + j) = true
  | 0, i, n => by
    rw [countPassing, Nat.le_zero]
    constructor
    · rintro rfl
      exact ⟨rfl, fun j hj => absurd hj (Nat.not_lt_zero _)⟩
    · exact And.left
  | limit + 1, i, 0 => by simp
  | limit + 1, i, n + 1 => by
    rw [countPassing]
    split
    · next hpass =>
      rw [Nat.succ_le_succ_iff, Nat.succ_le_succ_iff, le_countPassing_iff text test]
      refine and_congr_right fun _ => ?_
      constructor
      · rintro h (_ | j) hj
        · exact hpass
        · have := h j (Nat.lt_of_succ_lt_succ hj)
          rwa [Nat.add_right_comm, Nat.add_assoc] at this
      · intro h j hj
        have := h (j + 1) (Nat.succ_lt_succ hj)
        rwa [← Nat.add_assoc, Nat.add_right_comm] at this
    · next hpass =>
      refine iff_of_false (by omega) fun h => hpass (h.2 0 (Nat.succ_pos n))

/-- Where the first character of the rest does not follow, `attempt` gives up, and the rest would not have led on. -/
theorem attempt_iff (hk : k.Settled text q) (earlier : Progress) (i e : Nat) (s : Progress) :
    (shorterRows.attempt text inside k earlier i e s).1 = true ↔ q (i + e) := by
  unfold shorterRows.attempt
  dsimp only
  split
  · next hblocked =>
    rw [Option.any_eq_true] at hblocked
    obtain ⟨n, hn, hne⟩ := hblocked
    obtain ⟨test, hfirst, hpoint⟩ := Option.bind_eq_some_iff.1 hn
    refine iff_of_false Bool.false_ne_true fun h => ?_
    rw [hk.first hfirst hpoint h] at hne
    simp at hne
  · have hrun := hk.run (i + e) (s.moved (i + e))
    rcases hout : k.run (i + e) (s.moved (i + e)) with ⟨_ | _, t⟩ <;> rw [hout] at hrun <;> exact hrun

/-- By `shorterRows` the rest is tried after each number of characters, the greatest first. -/
theorem shorterRows_iff (hk : k.Settled text q) (earlier : Progress) (i extra : Nat) (s : Progress) :
    (shorterRows text inside k earlier i extra s).1 = true ↔ ∃ e ≤ extra, q (i + e) := by
  induction extra generalizing s with
  | zero =>
    rw [shorterRows, attempt_iff hk]
    simp
  | succ extra ih =>
    have hfirst : (shorterRows.attempt text inside k earlier i (extra + 1) s).1 = true ↔ _ := attempt_iff hk ..
    rw [shorterRows]
    rcases hout : shorterRows.attempt text inside k earlier i (extra + 1) s with ⟨_ | _, t⟩ <;> rw [hout] at hfirst
    · dsimp only
      rw [ih]
      constructor
      · rintro ⟨e, he, h⟩
        exact ⟨e, Nat.le_trans he (Nat.le_succ _), h⟩
      · rintro ⟨e, he, h⟩
        rcases Nat.le_succ_iff.1 he with he | rfl
        · exact ⟨e, he, h⟩
        · cases hfirst.2 h
    · exact iff_of_true rfl ⟨_, Nat.le_refl _, hfirst.1 rfl⟩

/-- A greedy `.row` takes at least so many characters that pass, any number of them that leads on. -/
theorem settled_row (text : Array Char) (inside : Bool) {least : Nat} (hleast : 0 < least) (test : CharTest) :
    Runner.Settled text (runStep text inside (.row .greedy least none test)) fun q i =>
      ∃ n, least ≤ n ∧ (∀ j < n, passes text test (i + j) = true) ∧ q (i + n) := by
  intro k q hk i s
  -- all that pass are in the text, so that they are counted
  have hcount : ∀ {n}, 0 < n → (∀ j < n, passes text test (i + j) = true) → i + n ≤ text.size := by
    intro n hn h
    have hlast := h (n - 1) (by omega)
    unfold passes at hlast
    rw [Option.any_eq_true] at hlast
    obtain ⟨c, hc, -⟩ := hlast
    obtain ⟨hlt, -⟩ := Array.getElem?_eq_some_iff.1 hc
    omega
  have hlimit : ∀ {n}, n ≤ countPassing text test i (min text.size (text.size - i)) ↔
      ∀ j < n, passes text test (i + j) = true := by
    intro n
    rw [le_countPassing_iff]
    refine and_iff_right_of_imp fun h => ?_
    by_cases hn : 0 < n
    · have := hcount hn h
      omega
    · omega
  rw [runStep]
  unfold runRow counted
  dsimp only
  split
  · next hshort =>
    refine iff_of_false Bool.false_ne_true ?_
    rintro ⟨n, hn, hpass, -⟩
    have := hcount (Nat.lt_of_lt_of_le hleast hn) hpass
    omega
  · split
    · next hfew =>
      refine iff_of_false Bool.false_ne_true ?_
      rintro ⟨n, hn, hpass, -⟩
      have := hlimit.2 hpass
      simp only [Option.getD_none] at hfew
      omega
    · next hmany =>
      rw [shorterRows_iff hk]
      simp only [Option.getD_none] at hmany ⊢
      constructor
      · rintro ⟨e, he, h⟩
        refine ⟨least + e, Nat.le_add_right _ _, hlimit.1 (by omega), ?_⟩
        rwa [← Nat.add_assoc]
      · rintro ⟨n, hn, hpass, h⟩
        have hle := hlimit.2 hpass
        refine ⟨n - least, by omega, ?_⟩
        rwa [Nat.add_assoc, Nat.add_sub_cancel' hn]

/-! ## Turns -/

/-- What is run after the one turn that a body may take: the rest, without another turn. -/
def afterTurn (text : Array Char) (body : List PatternStep) (k : Rest) (i : Nat) : Rest :=
  ⟨none, mostTurns (runSteps text true body) 0 (some 1) k (text.size + 2) 1 (some i)⟩

theorem afterTurn_settled (hk : k.Settled text q) (body : List PatternStep) (i : Nat) :
    (afterTurn text body k i).Settled text q := by
  refine ⟨fun j s => ?_, fun hfirst => by cases hfirst⟩
  have hrun := hk.run j (s.moved j)
  unfold afterTurn mostTurns
  rcases hout : k.run j (s.moved j) with ⟨_ | _, t⟩ <;> rw [hout] at hrun <;> simpa [hout] using hrun

/-- A body of `.turns` that may be left out is run, and if this does not lead on, it is left out. -/
theorem settled_optional {body : List PatternStep} (hbody : Runner.Settled text (runSteps text true body) leads) :
    Runner.Settled text (runStep text inside (.turns .greedy 0 (some 1) body)) fun q i => leads q i ∨ q i := by
  intro k q hk i s
  have hturn := hbody (afterTurn_settled hk body i) i (s.moved i)
  rw [runStep]
  dsimp only
  rw [Nat.zero_add, mostTurns]
  dsimp only
  rw [if_neg (Nat.lt_irrefl 0), if_pos (by rfl)]
  unfold afterTurn at hturn
  revert hturn
  rcases runSteps text true body ⟨none, _⟩ i (s.moved i) with ⟨_ | _, t⟩ <;> intro hturn
  · have hrun := hk.run i ((t.rewound (s.moved i) true).moved i)
    dsimp only
    rw [or_iff_right fun h => by cases hturn.2 h]
    rcases hout : k.run i ((t.rewound (s.moved i) true).moved i) with ⟨_ | _, u⟩ <;> rw [hout] at hrun <;> exact hrun
  · exact iff_of_true rfl (.inl (hturn.1 rfl))

/-! ## Names -/

/-- The step that a character is read as. -/
def character (c : Char) : PatternStep := .one (.point .none false c.toNat)

theorem passes_character {cs : List Char} {c : Char} {i : Nat} :
    passes cs.toArray (.point .none false c.toNat) i = true ↔ cs[i]? = some c := by
  constructor
  · intro h
    have hpoint : (CharTest.point .none false c.toNat).point? = some c.toNat := rfl
    have hnat := toNat_of_passes hpoint h
    rw [List.getElem?_toArray] at hnat
    obtain ⟨d, hd, hcode⟩ := Option.map_eq_some_iff.1 hnat
    rw [hd, Char.toNat_inj.1 hcode]
  · intro h
    unfold passes
    rw [List.getElem?_toArray, h]
    simp [CharTest.accepts, Fold.lower]

/-- Steps of `character` in a row lead on from where the characters stand. -/
theorem settled_characters {cs : List Char}
    (hrest : Runner.Settled cs.toArray (runSteps cs.toArray inside rest) more) :
    ∀ name : List Char, Runner.Settled cs.toArray (runSteps cs.toArray inside (name.map character ++ rest)) fun q i =>
      name <+: cs.drop i ∧ more q (i + name.length)
  | [] => by
    intro k q hk i s
    rw [List.map_nil, List.nil_append, hrest hk]
    simp
  | c :: name => by
    intro k q hk i s
    have hone := settled_one cs.toArray inside (.point .none false c.toNat)
    have hcons := settled_cons hone (settled_characters hrest name)
    refine (hcons hk i s).trans ?_
    dsimp only
    rw [passes_character, ← and_assoc]
    have hnext : i + 1 + name.length = i + (c :: name).length := by
      rw [List.length_cons]
      omega
    rw [hnext]
    refine and_congr_left fun _ => ?_
    by_cases hi : i < cs.length
    · rw [List.drop_eq_getElem_cons hi, List.cons_prefix_cons, List.getElem?_eq_getElem hi, Option.some_inj, eq_comm]
    · have hlength := Nat.le_of_not_lt hi
      rw [List.drop_eq_nil_of_le hlength, List.getElem?_eq_none hlength]
      simp

/-- The end of a name: a slash, or the end of the text or of its last line. -/
def endOfName : PatternStep := .choice [[character '/'], [.spot ⟨.lineEnd, false, false⟩]]

theorem settled_endOfName (cs : List Char) (inside : Bool) :
    Runner.Settled cs.toArray (runSteps cs.toArray inside [endOfName]) fun q i =>
      cs[i]? = some '/' ∧ q (i + 1) ∨ (i = cs.length ∨ cs[i]? = some '\n' ∧ i + 1 = cs.length) ∧ q i := by
  intro k q hk i s
  have hslash := settled_cons (settled_one cs.toArray inside (.point .none false '/'.toNat)) (settled_nil _ inside)
  have hspot := settled_cons (settled_spot cs.toArray inside ⟨.lineEnd, false, false⟩) (settled_nil _ inside)
  have hchoice := settled_choice fun earlier =>
    settled_choice_cons hslash (settled_choice_cons hspot (settled_choice_nil _ inside earlier))
  refine (settled_cons hchoice (settled_nil _ inside) hk i s).trans ?_
  dsimp only
  rw [passes_character]
  simp [isSpot]

/-! ## Starts -/

/-- What it comes to if a pattern is tried at a position of a text. -/
def triedAt (p : SearchPattern) (text : String) (i : Nat) : Outcome :=
  runSteps text.toList.toArray false (PatternStep.ofParts p.flags p.pattern) .done i ⟨i, #[]⟩

/-- By `matchAt?` a match begins where the pattern is tried and leads to its end. -/
theorem isSome_matchAt?_iff (p : SearchPattern) (text : String) (i : Nat) :
    (p.matchAt? text.toList.toArray i).isSome = true ↔
      p.isTriedAt text.toList.toArray i = true ∧ (triedAt p text i).1 = true := by
  unfold SearchPattern.matchAt?
  split
  · next htried =>
    rw [htried]
    rcases hout : triedAt p text i with ⟨_ | _, s⟩ <;>
      · unfold triedAt at hout
        simp [hout]
  · next htried => simp [htried]

theorem isTriedAt_iff (p : SearchPattern) (text : String) (i : Nat) :
    p.isTriedAt text.toList.toArray i = true ↔ i + p.least ≤ text.toList.length ∧
      (p.least ≠ 0 → startsAt text.toList.toArray p.flags p.pattern i = true) := by
  rw [SearchPattern.isTriedAt, Bool.and_eq_true, Bool.or_eq_true, decide_eq_true_iff, beq_iff_eq, List.size_toArray,
    Decidable.or_iff_not_imp_left]

/-- By `isIn` a pattern is found exactly if it leads to its end from one of the positions where it is tried. -/
theorem isIn_iff (p : SearchPattern) (text : String) :
    p.isIn text = true ↔ ∃ i, i + p.least ≤ text.toList.length ∧
      (p.least ≠ 0 → startsAt text.toList.toArray p.flags p.pattern i = true) ∧ (triedAt p text i).1 = true := by
  unfold SearchPattern.isIn SearchPattern.find?
  dsimp only
  rw [List.isSome_findSome?, List.any_eq_true]
  refine exists_congr fun i => ?_
  rw [isSome_matchAt?_iff, isTriedAt_iff, and_assoc, List.mem_range, List.size_toArray]
  exact and_iff_right_of_imp fun h => by omega

/-- A pattern that begins with `.lineStart` is tried at the start of the text only. -/
theorem isIn_of_lineStart {p : SearchPattern} {parts : List Part} {text : String} (hflags : p.flags = [])
    (hpattern : p.pattern = .anchor .lineStart :: parts) (hparts : Runner.Settled text.toList.toArray
      (runSteps text.toList.toArray false (PatternStep.ofParts [] parts)) leads) :
    p.isIn text = true ↔ p.least ≤ text.toList.length ∧ leads (fun _ => True) 0 := by
  have hspot := settled_cons (settled_spot text.toList.toArray false ⟨.lineStart, false, false⟩) hparts
  have hset : startSet? p.flags p.pattern = none := by
    rw [hpattern]
    rfl
  have htried : ∀ i, (triedAt p text i).1 = true ↔ i = 0 ∧ leads (fun _ => True) 0 := by
    intro i
    unfold triedAt
    rw [hflags, hpattern]
    refine (hspot (.done _) i ⟨i, #[]⟩).trans ?_
    dsimp only
    have hstart : isSpot text.toList.toArray i ⟨.lineStart, false, false⟩ = true ↔ i = 0 := by simp [isSpot]
    rw [hstart]
    refine and_congr_right fun hi => ?_
    rw [hi]
  simp only [isIn_iff, htried, startsAt, hset]
  constructor
  · rintro ⟨_, hroom, -, rfl, hleads⟩
    exact ⟨by rwa [Nat.zero_add] at hroom, hleads⟩
  · rintro ⟨hroom, hleads⟩
    exact ⟨0, by rwa [Nat.zero_add], fun _ => trivial, rfl, hleads⟩

end Pattern

end CatchAudit
