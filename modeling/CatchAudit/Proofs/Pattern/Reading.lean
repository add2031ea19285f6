/-
Reading patterns token by token. Characters, with a backslash where they have a meaning of their own, come
out as they are; so do the start of a line, the group for what lies above a name and the group for the end of
one. Each of these is read with whatever comes after it, and a pattern that is read to its end is what the
text denotes.
-/
import CatchAudit.Pattern.Search

namespace CatchAudit

namespace Pattern

variable {α β : Type} {s t u : Reading} {a : α} {b : β} {rest : List Char} {c : Char} {fuel : Nat} {first : Bool}
  {done : List Part}

/-! ## Steps of reading -/

/-- Reading goes through, with a result, and takes one state to the other. -/
def Reads (m : Read α) (s : Reading) (a : α) (t : Reading) : Prop := m.run s = .ok (a, t)

theorem Reads.pure (a : α) (s : Reading) : Reads (pure a) s a s := rfl

theorem Reads.bind {m : Read α} {f : α → Read β} (hm : Reads m s a t) (hf : Reads (f a) t b u) :
    Reads (m >>= f) s b u := by
  unfold Reads at *
  rw [StateT.run_bind, hm]
  exact hf

theorem reads_get : Reads get s s s := rfl

theorem reads_peek : Reads peek s (peekIn s.rest) s := rfl

theorem reads_modify (f : Reading → Reading) : Reads (modify f) s () (f s) := rfl

theorem reads_checkEnd (h : s.rest ≠ ['\\']) : Reads checkEnd s () s := by
  refine Reads.bind reads_get ?_
  rw [if_neg h]
  exact .pure () s

/-- The state of a `Reading` in which so many more characters have been read, and these are left. -/
def Reading.past (s : Reading) (rest : List Char) (n : Nat) : Reading :=
  { s with rest := rest, position := s.position + n }

theorem reads_next {token : Token} (htoken : peekIn s.rest = some token) (hend : s.rest.drop token.length ≠ ['\\']) :
    Reads next s (some token) (s.past (s.rest.drop token.length) token.length) := by
  refine Reads.bind reads_peek ?_
  rw [htoken]
  exact Reads.bind (reads_modify _) (Reads.bind (reads_checkEnd hend) (.pure _ _))

theorem peekIn_plain (hc : c ≠ '\\') : peekIn (c :: rest) = some (.plain c) := by
  unfold peekIn
  split
  · next h => cases h
  · next h => cases h; exact absurd rfl hc
  · next h => cases h; exact absurd rfl hc
  · next h => cases h; rfl

theorem reads_plain (hc : c ≠ '\\') (hs : s.rest = c :: rest) (hend : rest ≠ ['\\']) :
    Reads next s (some (.plain c)) (s.past rest 1) := by
  have htoken : peekIn s.rest = some (.plain c) := by rw [hs, peekIn_plain hc]
  have hnext := reads_next htoken (by rw [hs]; exact hend)
  rw [hs] at hnext
  exact hnext

theorem reads_accept_other (h : peekIn s.rest ≠ some (.plain c)) : Reads (accept c) s false s := by
  refine Reads.bind reads_peek ?_
  rw [if_neg h]
  exact .pure false s

/-! ## Single characters -/

/-- Characters with a meaning of their own. -/
def operators : List Char := ['\\', '|', ')', '[', '*', '+', '?', '\x7b', '.', '^', '$', '(']

theorem reads_items_plain (hc : c ∉ operators) (hs : s.rest = c :: rest) (hend : rest ≠ ['\\']) {p : Pattern}
    (h : Reads (items fuel false first (literal c.toNat :: done)) (s.past rest 1) p t) :
    Reads (items (fuel + 1) false first done) s p t := by
  simp only [operators, List.mem_cons, List.not_mem_nil, or_false, not_or] at hc
  obtain ⟨h1, h2, h3, h4, h5, h6, h7, h8, h9, h10, h11, h12⟩ := hc
  have hnext := reads_plain h1 hs hend
  rw [items]
  refine Reads.bind reads_peek ?_
  rw [hs, peekIn_plain h1]
  split
  · next heq => cases heq
  · next heq =>
    cases heq
    exact absurd rfl h2
  · next heq =>
    cases heq
    exact absurd rfl h3
  · next heq => cases heq
  · next heq =>
    cases heq
    refine Reads.bind reads_get (Reads.bind hnext ?_)
    simpa only [Bool.false_and, Bool.false_eq_true, h4, h5, h6, h7, h8, h9, h10, h11, h12, if_false] using h

/-- With a backslash before it, the character stands for itself. -/
def Escapable (c : Char) : Prop :=
  anchor? c = none ∧ category? c = none ∧
    (controlPoint? c = some c.toNat ∨ controlPoint? c = none ∧ c.isDigit = false ∧ c.isAlpha = false)

instance (c : Char) : Decidable (Escapable c) :=
  inferInstanceAs (Decidable (_ ∧ _ ∧ (_ ∨ _ ∧ _ ∧ _)))

theorem reads_escape (hc : Escapable c) (s : Reading) : Reads (escape c) s (literal c.toNat) s := by
  obtain ⟨hanchor, hcategory, hcontrol | ⟨hcontrol, hdigit, halpha⟩⟩ := hc
  · unfold escape
    rw [hanchor, hcategory, hcontrol]
    exact .pure _ _
  · have hne : ∀ d : Char, (d.isDigit = true ∨ d.isAlpha = true) → c ≠ d := by
      rintro d (hd | hd) rfl
      · rw [hd] at hdigit; cases hdigit
      · rw [hd] at halpha; cases halpha
    unfold escape
    rw [hanchor, hcategory, hcontrol]
    dsimp only
    rw [if_neg (hne _ (.inr rfl)), if_neg (hne _ (.inr rfl)), if_neg (hne _ (.inr rfl)), if_neg (hne _ (.inr rfl)),
      if_neg (hne _ (.inl rfl)), hdigit, plainPoint, halpha]
    exact .pure _ _

theorem reads_items_escaped (hc : Escapable c) (hs : s.rest = '\\' :: c :: rest) (hend : rest ≠ ['\\']) {p : Pattern}
    (h : Reads (items fuel false first (literal c.toNat :: done)) (s.past rest 2) p t) :
    Reads (items (fuel + 1) false first done) s p t := by
  have htoken : peekIn s.rest = some (.escaped c) := by
    rw [hs]
    rfl
  have hnext := reads_next htoken (by rw [hs]; exact hend)
  rw [hs] at hnext
  rw [items]
  refine Reads.bind reads_peek ?_
  rw [htoken]
  exact Reads.bind hnext (Reads.bind (reads_escape hc _) h)

theorem reads_items_lineStart (hs : s.rest = '^' :: rest) (hend : rest ≠ ['\\']) {p : Pattern}
    (h : Reads (items fuel false first (.anchor .lineStart :: done)) (s.past rest 1) p t) :
    Reads (items (fuel + 1) false first done) s p t := by
  have hnext := reads_plain (c := '^') (by decide) hs hend
  rw [items]
  refine Reads.bind reads_peek ?_
  rw [hs]
  exact Reads.bind reads_get (Reads.bind hnext h)

/-! ## Groups -/

/-- What `(?:/|$)` is read as. -/
def ending : Part := .scoped [] [] [.choice [[literal '/'.toNat], [.anchor .lineEnd]]]

theorem reads_items_ending (fuel : Nat) (first : Bool) (done : List Part)
    (hs : s.rest = ['(', '?', ':', '/', '|', '$', ')']) :
    Reads (items (fuel + 5) false first done) s ((ending :: done).reverse.flatMap unwrap) (s.past [] 7) := by
  obtain ⟨_, position, groups, names, behindFrom, conditions, flags⟩ := s
  cases hs
  cases fuel <;> rfl

/-- What `.+/` is read as. -/
def above : Pattern := [.repeated .greedy 1 none [.any], literal '/'.toNat]

theorem reads_items_above (hs : s.rest = ['(', '?', ':', '.', '+', '/', ')', '?'] ++ rest)
    (hlazy : peekIn rest ≠ some (.plain '?')) (hpossessive : peekIn rest ≠ some (.plain '+')) (hend : rest ≠ ['\\'])
    {p : Pattern}
    (h : Reads (items (fuel + 4) false first (.repeated .greedy 0 (some 1) above :: done)) (s.past rest 8) p t) :
    Reads (items (fuel + 6) false first done) s p t := by
  have hsign : Reads greedSign (s.past rest 8) .greedy (s.past rest 8) := by
    refine Reads.bind (reads_accept_other hlazy) ?_
    exact Reads.bind (reads_accept_other hpossessive) (.pure _ _)
  have hrepeat : Reads (repeatLast (s.position + 7) 0 (some 1) (.scoped [] [] above :: done)) (s.past rest 8)
      (.repeated .greedy 0 (some 1) above :: done) (s.past rest 8) := Reads.bind hsign (.pure _ _)
  -- the group is read as it stands
  have hgroup : Reads (items (fuel + 5) false first (.scoped [] [] above :: done)) (s.past ('?' :: rest) 7) p t →
      Reads (items (fuel + 6) false first done) s p t := by
    obtain ⟨_, position, groups, names, behindFrom, conditions, flags⟩ := s
    cases hs
    exact fun h => h
  refine hgroup ?_
  rw [items]
  refine Reads.bind reads_peek (Reads.bind reads_get ?_)
  exact Reads.bind (reads_plain (by decide) rfl hend) (Reads.bind hrepeat h)

/-! ## Whole patterns -/

theorem reads_whole (hs : s.rest ≠ ['\\']) {p : Pattern} (h : Reads (items fuel false true []) s p t)
    (hrest : t.rest = []) (hflags : t.flags = []) (hconditions : t.conditions = []) :
    Reads (whole (fuel + 1)) s p t := by
  have hmore : Reads (moreAlternatives fuel false true) t [] t := by
    cases fuel with
    | zero =>
      rw [moreAlternatives]
      exact .pure _ _
    | succ fuel =>
      rw [moreAlternatives]
      exact Reads.bind (reads_accept_other (by rw [hrest]; rintro ⟨⟩)) (.pure _ _)
  have halternatives : Reads (alternatives (fuel + 1) false true) s p t := by
    rw [alternatives]
    exact Reads.bind h (Reads.bind hmore (.pure _ _))
  refine Reads.bind (reads_checkEnd hs) (Reads.bind halternatives (Reads.bind reads_get ?_))
  rw [hflags]
  refine Reads.bind reads_peek ?_
  rw [hrest, hconditions]
  exact .pure _ _

/-- The state in which reading begins. -/
def Reading.start (source : List Char) : Reading := ⟨source, 0, [none], [], none, [], []⟩

/-- A pattern that `Reads` to its end is what `SearchPattern.parse` makes of the text. -/
theorem parse_of_reads {source : List Char} {p : Pattern} (hsource : source ≠ ['\\'])
    (h : Reads (items (3 * source.length + 2) false true []) (.start source) p t) (hrest : t.rest = [])
    (hflags : t.flags = []) (hconditions : t.conditions = []) (hcheck : check false p = .ok ())
    (hfar : looksFar p = false) :
    ∃ groups, SearchPattern.parse (String.ofList source) =
      .ok ⟨String.ofList source, [], p, (p.width groups).least⟩ := by
  have hwhole : (whole (3 * source.length + 3)).run ⟨source, 0, [none], [], none, [], []⟩ = .ok (p, t) :=
    reads_whole hsource h hrest hflags hconditions
  refine ⟨groupWidth t, ?_⟩
  unfold SearchPattern.parse Pattern.parse
  rw [String.toList_ofList]
  simp only [hwhole, hflags, List.contains_nil, hcheck, hfar, bind, Except.bind]
  rfl

end Pattern

end CatchAudit
