/-
Lines that are names. A name by itself leaves out the paths on which it stands, as a whole and anywhere; with
a slash before it, it leaves out those that begin with it. Either line is followed from its text over the text
of its pattern and the parts that this is read as to the runs of the steps.
-/
import CatchAudit.Exclusion.Line
import CatchAudit.Proofs.Pattern.Reading
import CatchAudit.Proofs.Pattern.Running
import Mathlib.Tactic

namespace CatchAudit

namespace ExclusionLine

open Pattern

variable {name cs : List Char} {c : Char}

/-! ## Lines -/

/-- Characters that stand for themselves in a line: they neither end a segment nor stand for others. -/
def IsPlain (name : List Char) : Prop := ∀ c ∈ name, c ∉ ['/', '\\', '*', '?', '[']

/-- Names that stand for themselves in a line. No blank is at their end. -/
structure IsName (name : List Char) : Prop where
  nonempty : name ≠ []
  plain : IsPlain name
  trimmed : Text.trimRight name = name

instance (name : List Char) : Decidable (IsPlain name) :=
  decidable_of_iff (name.all fun c => decide (c ∉ ['/', '\\', '*', '?', '['])) (by simp [IsPlain])

instance (name : List Char) : Decidable (IsName name) :=
  decidable_of_iff (name ≠ [] ∧ IsPlain name ∧ Text.trimRight name = name)
    ⟨fun ⟨hnonempty, hplain, htrimmed⟩ => ⟨hnonempty, hplain, htrimmed⟩,
      fun h => ⟨h.nonempty, h.plain, h.trimmed⟩⟩

theorem segmentFrom_plain : ∀ {name : List Char}, IsPlain name → segmentFrom 0 name = some (name.flatMap literal)
  | [], _ => by rw [segmentFrom, List.flatMap_nil]
  | c :: name, h => by
    obtain ⟨hc, hname⟩ := List.forall_mem_cons.1 h
    simp only [List.mem_cons, List.not_mem_nil, or_false, not_or] at hc
    obtain ⟨-, hescape, hstar, hmark, hset⟩ := hc
    rw [segmentFrom, segmentFrom_plain hname, List.flatMap_cons]
    · rfl
    all_goals simpa

theorem splitFrom_plain (h : '/' ∉ name) (part : List Char) : Path.splitFrom part name = [part.reverse ++ name] := by
  induction name generalizing part with
  | nil => simp [Path.splitFrom]
  | cons c name ih =>
    rw [List.mem_cons, not_or] at h
    rw [Path.splitFrom, if_neg (Ne.symm h.1), ih h.2]
    simp

theorem trimmed_eq (h : Text.trimRight cs = cs) : trimmed cs = cs := by
  unfold trimmed
  split
  · rfl
  · exact h

theorem IsName.trimRight_cons (h : IsName name) (c : Char) : Text.trimRight (c :: name) = c :: name := by
  have hname := congrArg List.reverse h.trimmed
  unfold Text.trimRight at hname ⊢
  rw [List.reverse_reverse] at hname
  rw [List.reverse_cons, List.dropWhile_append, hname, if_neg (by simpa using h.nonempty)]
  simp

theorem IsName.slash_not_mem (h : IsName name) : '/' ∉ name := fun hmem => h.plain _ hmem (by decide)

theorem IsName.ne_stars (h : IsName name) : name ≠ stars := by
  rintro rfl
  exact h.plain '*' (by decide) (by decide)

/-- The pattern text for a name after some lead. -/
def nameText (lead name : List Char) : List Char :=
  lead ++ (name.flatMap literal ++ ['(', '?', ':', '/', '|', '$', ')'])

theorem restText_name (h : IsName name) : restText false [name] = some (nameText [] name) := by
  have hstar : name ≠ ['*'] := by
    rintro rfl
    exact h.plain '*' (by decide) (by decide)
  rw [restText, if_neg h.ne_stars, if_neg hstar, segmentFrom_plain h.plain]
  simp [restText, nameText]

/-- By `ofText` a line that is neither a comment nor turned round leaves out what its `patternText` is found in. -/
theorem ofText_of_patternText {line : String} {text : List Char} {p : SearchPattern}
    (htrimmed : trimmed line.toList = cs)
    (hcs : cs ≠ [] ∧ cs ≠ ['/'] ∧ cs.head? ≠ some '#' ∧ cs.head? ≠ some '!')
    (htext : patternText ((Path.splitFrom [] cs).getLast? = some []) (normal (Path.splitFrom [] cs)) = some text)
    (hparse : SearchPattern.parse (String.ofList text) = .ok p) : ofText line = .ok (some ⟨true, p⟩) := by
  obtain ⟨hempty, hslash, hhash, hmark⟩ := hcs
  unfold ofText
  dsimp only
  rw [htrimmed]
  split
  · exact absurd rfl hempty
  · exact absurd rfl hhash
  · exact absurd rfl hslash
  · exact absurd rfl hmark
  · rw [htext]
    dsimp only
    rw [hparse]

/-- By `ofText` a name after a slash is tied to the root of the project. -/
theorem ofText_tied (h : IsName name) {p : SearchPattern}
    (hparse : SearchPattern.parse (String.ofList (nameText ['^'] name)) = .ok p) :
    ofText (String.ofList ('/' :: name)) = .ok (some ⟨true, p⟩) := by
  have hsplit : Path.splitFrom [] ('/' :: name) = [[], name] := by
    rw [Path.splitFrom, if_pos rfl, splitFrom_plain h.slash_not_mem]
    rfl
  have hnormal : normal [[], name] = [name] := by
    simp [normal, anchored, closed, joinStars, h.nonempty]
  have htext : patternText false [name] = some (nameText ['^'] name) := by
    rw [patternText, if_neg h.ne_stars, restText_name h]
    rfl
  have htrimmed : trimmed (String.ofList ('/' :: name)).toList = '/' :: name := by
    rw [String.toList_ofList, trimmed_eq (h.trimRight_cons '/')]
  refine ofText_of_patternText htrimmed ?_ ?_ hparse
  · simp [h.nonempty]
  · rw [hsplit, hnormal]
    simpa [h.nonempty] using htext

/-- What may stand before a name that is not tied to the root. -/
def anywhere : List Char := ['^', '(', '?', ':', '.', '+', '/', ')', '?']

/-- By `ofText` a name by itself may stand `anywhere`. -/
theorem ofText_name (h : IsName name) (hhead : name.head? ≠ some '#' ∧ name.head? ≠ some '!') {p : SearchPattern}
    (hparse : SearchPattern.parse (String.ofList (nameText anywhere name)) = .ok p) :
    ofText (String.ofList name) = .ok (some ⟨true, p⟩) := by
  have hsplit : Path.splitFrom [] name = [name] := splitFrom_plain h.slash_not_mem []
  have hnormal : normal [name] = [stars, name] := by
    simp [normal, anchored, closed, joinStars, h.nonempty, h.ne_stars]
  have htext : patternText false [stars, name] = some (nameText anywhere name) := by
    have hstar : name ≠ ['*'] := by
      rintro rfl
      exact h.plain '*' (by decide) (by decide)
    simp [patternText, hstar, restText_name h, nameText, anywhere]
  have hslash : name ≠ ['/'] := by
    rintro rfl
    exact h.slash_not_mem (List.mem_singleton_self _)
  have htrimmed : trimmed (String.ofList name).toList = name := by rw [String.toList_ofList, trimmed_eq h.trimmed]
  refine ofText_of_patternText htrimmed ⟨h.nonempty, hslash, hhead⟩ ?_ hparse
  rw [hsplit, hnormal]
  simpa [h.nonempty] using htext

/-! ## Reading names -/

theorem escapable_of_special (hc : c ∈ specialChars) : Escapable c := by
  have hall : (specialChars.all fun c => decide (Escapable c)) = true := by decide +kernel
  exact of_decide_eq_true (List.all_eq_true.1 hall c hc)

theorem special_of_operator (hc : c ∈ operators) : c ∈ specialChars := by
  have hall : (operators.all specialChars.contains) = true := by decide +kernel
  exact List.contains_iff_mem.1 (List.all_eq_true.1 hall c hc)

variable {s t : Reading} {rest : List Char} {fuel : Nat} {first : Bool} {done : List Part} {p : Pattern}

/-- The parts that a name is read as. -/
def nameParts (name : List Char) : List Part := name.map fun c => Pattern.literal c.toNat

theorem reads_items_literal (hs : s.rest = literal c ++ rest) (hend : rest ≠ ['\\'])
    (h : Reads (items fuel false first (Pattern.literal c.toNat :: done)) (s.past rest (literal c).length) p t) :
    Reads (items (fuel + 1) false first done) s p t := by
  unfold literal at hs h
  split at hs
  · next hspecial =>
    rw [if_pos hspecial] at h
    exact reads_items_escaped (escapable_of_special (List.contains_iff_mem.1 hspecial)) hs hend h
  · next hplain =>
    rw [if_neg hplain] at h
    exact reads_items_plain (fun hc => hplain (List.contains_iff_mem.2 (special_of_operator hc))) hs hend h

theorem literals_append_ne (hend : rest ≠ ['\\']) (name : List Char) : name.flatMap literal ++ rest ≠ ['\\'] := by
  cases name with
  | nil => exact hend
  | cons c name =>
    rw [List.flatMap_cons]
    unfold literal
    split
    · simp
    · next hplain =>
      intro heq
      rw [List.append_assoc, List.singleton_append] at heq
      obtain ⟨rfl, -⟩ := List.cons.inj heq
      exact hplain (by decide +kernel)

/-- A sign of repetition would have a backslash before it in the text of `literal`. -/
theorem peekIn_literals_ne (hname : name ≠ []) (rest : List Char) (hc : c ∈ specialChars) :
    peekIn (name.flatMap literal ++ rest) ≠ some (.plain c) := by
  obtain ⟨d, name, rfl⟩ := List.exists_cons_of_ne_nil hname
  unfold literal
  rw [List.flatMap_cons]
  split
  · rintro ⟨⟩
  · next hplain =>
    have hne : d ≠ '\\' := by
      rintro rfl
      exact hplain (by decide +kernel)
    rw [List.append_assoc, List.singleton_append, peekIn_plain hne]
    rintro ⟨⟩
    exact hplain (List.contains_iff_mem.2 hc)

theorem reads_items_name (hend : rest ≠ ['\\']) : ∀ {name : List Char} {s : Reading} {done : List Part},
    s.rest = name.flatMap literal ++ rest →
    Reads (items fuel false first ((nameParts name).reverse ++ done))
      (s.past rest (name.flatMap literal).length) p t →
    Reads (items (fuel + name.length) false first done) s p t
  | [], s, done, hs, h => by
    obtain ⟨_, position, groups, names, behindFrom, conditions, flags⟩ := s
    cases hs
    exact h
  | c :: name, s, done, hs, h => by
    rw [List.flatMap_cons, List.append_assoc] at hs
    refine reads_items_literal hs (literals_append_ne hend name) ?_
    refine reads_items_name hend rfl ?_
    simpa [Reading.past, nameParts, Nat.add_assoc] using h

theorem check_nameParts (rest : List Part) : ∀ name, check false (nameParts name ++ rest) = check false rest
  | [] => rfl
  | c :: name => by
    rw [nameParts, List.map_cons, List.cons_append, check]
    exact check_nameParts rest name

theorem looksFar_nameParts (rest : List Part) : ∀ name, looksFar (nameParts name ++ rest) = looksFar rest
  | [] => rfl
  | c :: name => by
    rw [nameParts, List.map_cons, List.cons_append, looksFar]
    exact looksFar_nameParts rest name

theorem flatMap_nameParts (name : List Char) : (nameParts name).flatMap unwrap = nameParts name := by
  induction name with
  | nil => rfl
  | cons c name ih => exact congrArg (Pattern.literal c.toNat :: ·) ih

/-- The parts for a name as a whole, with what may come after it. -/
def namePattern (name : List Char) : Pattern := nameParts name ++ unwrap ending

/-- The `namePattern` is as wide as the name is long, and its end may have no width. -/
theorem least_namePattern (groups : Nat → Width) : ∀ (name : List Char) (before : Width),
    (patternWidth groups before (namePattern name)).least ≤ before.least + name.length
  | [], before => by
    simp [namePattern, nameParts, ending, unwrap, patternWidth, Part.width, choiceWidth, Width.capped, Width.add,
      Width.join, Width.zero]
  | c :: name, before => by
    have hrest := least_namePattern groups name (before.add .single)
    rw [namePattern, nameParts, List.map_cons, List.cons_append, patternWidth]
    simp only [Width.add, Width.single, List.length_cons] at hrest ⊢
    exact hrest.trans (by omega)

theorem length_le_literals (name : List Char) : name.length ≤ (name.flatMap literal).length := by
  induction name with
  | nil => exact Nat.le_refl 0
  | cons c name ih =>
    rw [List.flatMap_cons, List.length_append, List.length_cons]
    have hpos : 0 < (literal c).length := by
      unfold literal
      split <;> simp
    omega

/-- The `nameText` of a name, with its end, is read to the end of the text. -/
theorem reads_items_nameText (fuel : Nat) (first : Bool) (done : List Part) (hs : s.rest = nameText [] name) :
    Reads (items (fuel + 5 + name.length) false first done) s (done.reverse.flatMap unwrap ++ namePattern name)
      (s.past [] ((name.flatMap literal).length + 7)) := by
  refine reads_items_name (by decide) hs ?_
  have hending := reads_items_ending fuel first ((nameParts name).reverse ++ done)
    (s := s.past ['(', '?', ':', '/', '|', '$', ')'] (name.flatMap literal).length) rfl
  simpa [namePattern, flatMap_nameParts, Reading.past, Nat.add_assoc] using hending

/-- By `SearchPattern.parse` the text denotes these parts without flags, and what they match is at least so wide at
most. -/
def Denotes (source : List Char) (parts : List Part) (width : Nat) : Prop :=
  ∃ least ≤ width, SearchPattern.parse (String.ofList source) = .ok ⟨String.ofList source, [], parts, least⟩

/-- The pattern of a line with a name that is tied to the root. -/
theorem denotes_tied (name : List Char) :
    Denotes (nameText ['^'] name) (.anchor .lineStart :: namePattern name) name.length := by
  obtain ⟨fuel, hfuel⟩ : ∃ fuel, 3 * (nameText ['^'] name).length + 2 = fuel + 5 + name.length + 1 := by
    have := length_le_literals name
    refine ⟨3 * (nameText ['^'] name).length + 2 - (name.length + 6), ?_⟩
    simp only [nameText, List.length_append, List.length_cons, List.length_nil]
    omega
  have hreads := reads_items_lineStart (s := .start (nameText ['^'] name)) rfl
    (literals_append_ne (by decide) name) (reads_items_nameText fuel true [.anchor .lineStart] rfl)
  rw [← hfuel] at hreads
  obtain ⟨groups, hparse⟩ := parse_of_reads (by simp [nameText]) hreads rfl rfl rfl
    (check_nameParts (unwrap ending) name) (looksFar_nameParts (unwrap ending) name)
  have hleast := least_namePattern groups name .zero
  rw [Width.zero, Nat.zero_add] at hleast
  exact ⟨_, hleast, hparse⟩

/-- The pattern of a line with a name that may stand anywhere. -/
theorem denotes_anywhere (hname : name ≠ []) : Denotes (nameText anywhere name)
    (.anchor .lineStart :: .repeated .greedy 0 (some 1) above :: namePattern name) name.length := by
  obtain ⟨fuel, hfuel⟩ : ∃ fuel, 3 * (nameText anywhere name).length + 2 = fuel + 1 + name.length + 6 + 1 := by
    have := length_le_literals name
    refine ⟨3 * (nameText anywhere name).length + 2 - (name.length + 8), ?_⟩
    simp only [nameText, anywhere, List.length_append, List.length_cons, List.length_nil]
    omega
  let afterStart : Reading := .past (.start (nameText anywhere name)) (anywhere.tail ++ nameText [] name) 1
  have hrest := reads_items_nameText fuel true [.repeated .greedy 0 (some 1) above, .anchor .lineStart]
    (s := afterStart.past (nameText [] name) 8) rfl
  have hfuel' : fuel + 5 + name.length = fuel + 1 + name.length + 4 := by omega
  rw [hfuel'] at hrest
  have habove := reads_items_above (s := afterStart) rfl (peekIn_literals_ne hname _ (by decide +kernel))
    (peekIn_literals_ne hname _ (by decide +kernel)) (literals_append_ne (by decide) name) hrest
  have hreads := reads_items_lineStart (s := .start (nameText anywhere name)) rfl (by simp) habove
  rw [← hfuel] at hreads
  obtain ⟨groups, hparse⟩ := parse_of_reads (by simp [nameText, anywhere]) hreads rfl rfl rfl
    (check_nameParts (unwrap ending) name) (looksFar_nameParts (unwrap ending) name)
  refine ⟨_, ?_, hparse⟩
  -- what may be left out adds no width
  change (patternWidth groups .zero (.anchor .lineStart :: _ :: namePattern name)).least ≤ _
  rw [patternWidth, patternWidth]
  refine (least_namePattern groups name _).trans ?_
  simp [Width.add, Width.zero, Part.width, Width.times]

/-! ## Running names -/

/-- The text begins with the name, as a whole: the text or its last line ends after it, or a slash follows. -/
def Bears (name cs : List Char) : Prop :=
  ∃ rest, cs = name ++ rest ∧ (rest = [] ∨ rest = ['\n'] ∨ rest.head? = some '/')

/-- The text `Bears` the name further on: after a slash, before which one line has begun and none ended. -/
def BearsBelow (name cs : List Char) : Prop :=
  ∃ lead rest, cs = lead ++ '/' :: rest ∧ lead ≠ [] ∧ '\n' ∉ lead ∧ Bears name rest

theorem ofParts_nameParts (rest : List Part) : ∀ name, PatternStep.ofParts [] (nameParts name ++ rest) =
    name.map character ++ PatternStep.ofParts [] rest
  | [] => rfl
  | c :: name => by
    rw [nameParts, List.map_cons, List.cons_append, PatternStep.ofParts]
    exact congrArg (character c :: ·) (ofParts_nameParts rest name)

/-- Running the `namePattern` leads on from where the text bears the name. -/
theorem settled_name (name cs : List Char) : Runner.Settled cs.toArray
    (runSteps cs.toArray false (PatternStep.ofParts [] (namePattern name))) fun q i =>
      name <+: cs.drop i ∧ (cs[i + name.length]? = some '/' ∧ q (i + name.length + 1) ∨
        (i + name.length = cs.length ∨ cs[i + name.length]? = some '\n' ∧ i + name.length + 1 = cs.length) ∧
          q (i + name.length)) := by
  rw [namePattern, ofParts_nameParts]
  exact settled_characters (settled_endOfName cs false) name

theorem bears_drop_iff (name : List Char) {i : Nat} (hi : i ≤ cs.length) : Bears name (cs.drop i) ↔
    name <+: cs.drop i ∧ (cs[i + name.length]? = some '/' ∧ True ∨
      (i + name.length = cs.length ∨ cs[i + name.length]? = some '\n' ∧ i + name.length + 1 = cs.length) ∧ True) := by
  -- what follows the name decides
  have hrest : ∀ {rest}, cs.drop i = name ++ rest →
      cs[i + name.length]? = rest.head? ∧ cs.length = i + name.length + rest.length := by
    intro rest h
    have hlength := congrArg List.length h
    rw [List.length_drop, List.length_append] at hlength
    refine ⟨?_, by omega⟩
    rw [← List.getElem?_drop, h, List.getElem?_append_right (Nat.le_refl _), Nat.sub_self, List.head?_eq_getElem?]
  constructor
  · rintro ⟨rest, hdrop, hend⟩
    obtain ⟨hhead, hlength⟩ := hrest hdrop
    refine ⟨⟨rest, hdrop.symm⟩, ?_⟩
    rw [hhead, hlength]
    rcases hend with rfl | rfl | hslash
    · exact .inr ⟨.inl rfl, trivial⟩
    · exact .inr ⟨.inr ⟨rfl, rfl⟩, trivial⟩
    · exact .inl ⟨hslash, trivial⟩
  · rintro ⟨⟨rest, hdrop⟩, hend⟩
    obtain ⟨hhead, hlength⟩ := hrest hdrop.symm
    rw [hhead, hlength] at hend
    refine ⟨rest, hdrop.symm, ?_⟩
    rcases hend with ⟨hslash, -⟩ | ⟨hnone | ⟨hfeed, hone⟩, -⟩
    · exact .inr (.inr hslash)
    · exact .inl (List.eq_nil_of_length_eq_zero (by omega))
    · obtain ⟨c, rfl⟩ := List.length_eq_one_iff.1 (by omega : rest.length = 1)
      cases hfeed
      exact .inr (.inl rfl)

theorem Bears.length_le (h : Bears name cs) : name.length ≤ cs.length := by
  obtain ⟨rest, rfl, -⟩ := h
  simp

/-- By `ofText` a line with a slash and a name leaves out the texts that begin with the name, those of `Bears`. -/
theorem exists_tied (h : IsName name) : ∃ p, ofText (String.ofList ('/' :: name)) = .ok (some ⟨true, p⟩) ∧
    ∀ text : String, p.isIn text = true ↔ Bears name text.toList := by
  obtain ⟨least, hleast, hparse⟩ := denotes_tied name
  refine ⟨_, ofText_tied h hparse, fun text => ?_⟩
  rw [isIn_of_lineStart rfl rfl (settled_name name text.toList)]
  dsimp only
  rw [← bears_drop_iff name (Nat.zero_le _), List.drop_zero]
  exact and_iff_right_of_imp fun hbears => hleast.trans hbears.length_le

theorem passes_any_iff {i : Nat} : passes cs.toArray (.any false) i = true ↔ ∃ c, cs[i]? = some c ∧ c ≠ '\n' := by
  unfold passes
  rw [Option.any_eq_true, List.getElem?_toArray]
  simp [CharTest.accepts]

theorem bearsBelow_iff : BearsBelow name cs ↔
    ∃ n, 1 ≤ n ∧ (∀ j < n, passes cs.toArray (.any false) j = true) ∧ cs[n]? = some '/' ∧
      Bears name (cs.drop (n + 1)) := by
  constructor
  · rintro ⟨lead, rest, rfl, hlead, hfeed, h⟩
    refine ⟨lead.length, List.length_pos_of_ne_nil hlead, fun j hj => ?_, ?_, ?_⟩
    · rw [passes_any_iff, List.getElem?_append_left hj]
      refine ⟨lead[j], List.getElem?_eq_getElem hj, ?_⟩
      rintro heq
      exact hfeed (heq ▸ List.getElem_mem hj)
    · simp
    · simpa using h
  · rintro ⟨n, hn, hpass, hslash, h⟩
    obtain ⟨hlt, hget⟩ := List.getElem?_eq_some_iff.1 hslash
    refine ⟨cs.take n, cs.drop (n + 1), ?_, ?_, ?_, h⟩
    · rw [← hget, ← List.drop_eq_getElem_cons hlt, List.take_append_drop]
    · rw [ne_eq, List.take_eq_nil_iff, not_or]
      exact ⟨by omega, List.ne_nil_of_length_pos (by omega)⟩
    · intro hfeed
      obtain ⟨j, hj, hc⟩ := List.mem_take_iff_getElem.1 hfeed
      obtain ⟨c, hget', hne⟩ := passes_any_iff.1 (hpass j (by omega))
      rw [List.getElem?_eq_getElem (by omega), hc] at hget'
      cases hget'
      exact hne rfl

/-- By `ofText` a line with a name leaves out the texts that bear the name at the start or further on, those of
`Bears` and `BearsBelow`. -/
theorem exists_anywhere (h : IsName name) (hhead : name.head? ≠ some '#' ∧ name.head? ≠ some '!') :
    ∃ p, ofText (String.ofList name) = .ok (some ⟨true, p⟩) ∧
      ∀ text : String, p.isIn text = true ↔ Bears name text.toList ∨ BearsBelow name text.toList := by
  obtain ⟨least, hleast, hparse⟩ := denotes_anywhere h.nonempty
  refine ⟨_, ofText_name h hhead hparse, fun text => ?_⟩
  have hslash := settled_cons (settled_one text.toList.toArray true (.point .none false '/'.toNat)) (settled_nil _ true)
  have hrow := settled_row text.toList.toArray true Nat.one_pos (.any false)
  have habove := settled_cons (settled_optional (settled_cons hrow hslash)) (settled_name name text.toList)
  have hstart := bears_drop_iff name (Nat.zero_le text.toList.length)
  rw [isIn_of_lineStart rfl rfl habove, bearsBelow_iff]
  simp only [passes_character, Nat.zero_add] at hstart ⊢
  rw [← hstart, List.drop_zero, or_comm]
  have hdeep := fun n (hslash : text.toList[n]? = some '/') =>
    bears_drop_iff name (List.getElem?_eq_some_iff.1 hslash).1
  constructor
  · rintro ⟨-, hbears | ⟨n, hn, hpass, hslash, hbears⟩⟩
    · exact .inl hbears
    · exact .inr ⟨n, hn, hpass, hslash, (hdeep n hslash).2 hbears⟩
  · rintro (hbears | ⟨n, hn, hpass, hslash, hbears⟩)
    · exact ⟨hleast.trans hbears.length_le, .inl hbears⟩
    · refine ⟨hleast.trans (hbears.length_le.trans ?_), .inr ⟨n, hn, hpass, hslash, (hdeep n hslash).1 hbears⟩⟩
      simp

end ExclusionLine

end CatchAudit
