/-
What exclusion rules say of a path. The last rule that matches decides, so that rules that come later
once more take the force of their first place; and an excluder has the rules of its parts in order: the
defaults, those given in addition, those of the ignore file and those of the project file.
-/
import CatchAudit.Exclusion.Excluder
import CatchAudit.Proofs.Files.Below

namespace CatchAudit

namespace ExclusionRule

variable {a b c : List ExclusionRule} {path : String}

/-- What the last rule that matches says; none if no rule matches. -/
def decision? : List ExclusionRule → String → Option Bool
  | [], _ => none
  | r :: rest, path => (decision? rest path).or (if r.accepts path then some r.excludes else none)

theorem foldl_eq_decision? (path : String) : ∀ (rules : List ExclusionRule) (excluded : Bool),
    rules.foldl (fun excluded r => if r.accepts path then r.excludes else excluded) excluded =
      (decision? rules path).getD excluded
  | [], excluded => rfl
  | r :: rest, excluded => by
    rw [List.foldl_cons, foldl_eq_decision? path rest, decision?]
    cases decision? rest path with
    | some b => rfl
    | none => by_cases h : r.accepts path = true <;> simp [h]

theorem verdict_eq (rules : List ExclusionRule) (path : String) :
    verdict rules path = (decision? rules path).getD false := foldl_eq_decision? path rules false

/-- By `decision?` the later rules are asked first. -/
theorem decision?_append (a b : List ExclusionRule) (path : String) :
    decision? (a ++ b) path = (decision? b path).or (decision? a path) := by
  induction a with
  | nil => simp [decision?]
  | cons r rest ih => simp [decision?, ih, Option.or_assoc]

/-- Rules that are repeated at the end have no force in an earlier place, where the `verdict` is concerned. -/
theorem verdict_absorb (a b c : List ExclusionRule) (path : String) :
    verdict (a ++ b ++ (c ++ b)) path = verdict (a ++ (c ++ b)) path := by
  simp only [verdict_eq, decision?_append]
  cases decision? b path <;> simp

theorem decision?_eq_none_iff {rules : List ExclusionRule} :
    decision? rules path = none ↔ ∀ r ∈ rules, r.accepts path = false := by
  induction rules with
  | nil => simp [decision?]
  | cons r rest ih => simp [decision?, ih, and_comm]

/-- What `decision?` says is said by some rule that matches. -/
theorem excludes_of_decision? {rules : List ExclusionRule} {b : Bool} (h : decision? rules path = some b) :
    ∃ r ∈ rules, r.accepts path = true ∧ r.excludes = b := by
  induction rules with
  | nil => cases h
  | cons r rest ih =>
    rw [decision?] at h
    cases hd : decision? rest path with
    | some b' =>
      rw [hd] at h
      obtain ⟨r', hr', hrest⟩ := ih (hd.trans h)
      exact ⟨r', List.mem_cons_of_mem _ hr', hrest⟩
    | none =>
      rw [hd, Option.none_or] at h
      split at h
      · next hmatch =>
        cases h
        exact ⟨r, List.mem_cons_self .., hmatch, rfl⟩
      · cases h

/-- Where no rule takes anything back, one that matches settles the `decision?`. -/
theorem decision?_of_excludes {rules : List ExclusionRule} {r : ExclusionRule} (h : ∀ r ∈ rules, r.excludes = true)
    (hr : r ∈ rules) (hmatch : r.accepts path = true) : decision? rules path = some true := by
  cases hd : decision? rules path with
  | none =>
    rw [decision?_eq_none_iff.1 hd r hr] at hmatch
    cases hmatch
  | some b =>
    obtain ⟨r', hr', -, rfl⟩ := excludes_of_decision? hd
    rw [h r' hr']

/-- On this path rules in the middle change nothing: a later rule matches, or none of them does, or their `decision?`
is what the rules before them say. -/
def Idle (before middle after : List ExclusionRule) (path : String) : Prop :=
  (∃ b, decision? after path = some b) ∨ decision? middle path = none ∨
    decision? middle path = some (verdict before path)

theorem verdict_eq_iff_idle (before middle after : List ExclusionRule) (path : String) :
    verdict (before ++ middle ++ after) path = verdict (before ++ after) path ↔ Idle before middle after path := by
  unfold Idle
  simp only [verdict_eq, decision?_append]
  cases decision? after path with
  | some b => simp
  | none => cases decision? middle path <;> simp

end ExclusionRule

namespace Excluder

/-! ## Paths -/

theorem excludes_below {x : Excluder} (hx : x.includeIgnored = false) {p : Path} (hp : p.root = "") :
    x.excludes (x.root.below p) =
      (ExclusionRule.verdict x.rules p.text || p.parts.dropLast.any (ExclusionRule.verdict x.rules)) := by
  simp [excludes, hx, Path.relativeTo?_below x.root hp, Path.components_of_relative hp]

theorem excludes_outside {x : Excluder} {p : Path} (hp : p.relativeTo? x.root = none) : x.excludes p = false := by
  simp [excludes, hp]

theorem excludes_congr {x y : Excluder} (hroot : x.root = y.root) (hignored : x.includeIgnored = y.includeIgnored)
    (hrules : ∀ path, ExclusionRule.verdict x.rules path = ExclusionRule.verdict y.rules path) (p : Path) :
    x.excludes p = y.excludes p := by
  unfold excludes
  rw [hroot, hignored, funext hrules]

theorem text_singleton (name : String) : Path.text ⟨"", [name]⟩ = name := by
  simp [Path.text]

/-- Names as they stand in paths: not empty, no single points, and without slashes. -/
def Proper (names : List String) : Prop := ∀ name ∈ names, name ≠ "" ∧ name ≠ "." ∧ '/' ∉ name.toList

theorem Proper.subset {names fewer : List String} (h : Proper names) (hsub : fewer ⊆ names) : Proper fewer :=
  fun name hname => h name (hsub hname)

/-- Two excluders of one project agree on the paths below it exactly when the `verdict` of their rules is the same on
each path none of whose directories is left out by its name. -/
theorem excludes_eq_iff {x y : Excluder} (hroot : x.root = y.root) (hx : x.includeIgnored = false)
    (hy : y.includeIgnored = false) :
    (∀ names, Proper names → x.excludes (x.root.below ⟨"", names⟩) = y.excludes (x.root.below ⟨"", names⟩)) ↔
      ∀ names, Proper names → (∃ name ∈ names.dropLast, ExclusionRule.verdict y.rules name = true) ∨
        ExclusionRule.verdict x.rules (Path.text ⟨"", names⟩) =
          ExclusionRule.verdict y.rules (Path.text ⟨"", names⟩) := by
  have hbelow : ∀ names : List String, x.excludes (x.root.below ⟨"", names⟩) = y.excludes (x.root.below ⟨"", names⟩) ↔
      (ExclusionRule.verdict x.rules (Path.text ⟨"", names⟩) || names.dropLast.any (ExclusionRule.verdict x.rules)) =
        (ExclusionRule.verdict y.rules (Path.text ⟨"", names⟩) ||
          names.dropLast.any (ExclusionRule.verdict y.rules)) := by
    intro names
    rw [excludes_below hx rfl, hroot, excludes_below hy rfl]
  -- a name by itself has no directories, so that on names the rules agree in either case
  have hany : ∀ {names : List String}, Proper names →
      (∀ name, Proper [name] → ExclusionRule.verdict x.rules name = ExclusionRule.verdict y.rules name) →
      names.dropLast.any (ExclusionRule.verdict x.rules) = names.dropLast.any (ExclusionRule.verdict y.rules) := by
    intro names hproper h
    have heach : ∀ name ∈ names.dropLast, ExclusionRule.verdict x.rules name = ExclusionRule.verdict y.rules name := by
      intro name hname
      refine h name fun other hother => ?_
      rw [List.mem_singleton.1 hother]
      exact hproper name (List.dropLast_subset _ hname)
    rw [Bool.eq_iff_iff, List.any_eq_true, List.any_eq_true]
    exact exists_congr fun name => and_congr_right fun hname => by rw [heach name hname]
  constructor
  · intro h names hproper
    have hname : ∀ name, Proper [name] → ExclusionRule.verdict x.rules name = ExclusionRule.verdict y.rules name := by
      intro name hname
      simpa [text_singleton] using (hbelow [name]).1 (h _ hname)
    have heq := (hbelow names).1 (h names hproper)
    rw [hany hproper hname] at heq
    by_cases hleft : ∃ name ∈ names.dropLast, ExclusionRule.verdict y.rules name = true
    · exact .inl hleft
    · rw [← List.any_eq_true, Bool.not_eq_true] at hleft
      rw [hleft, Bool.or_false, Bool.or_false] at heq
      exact .inr heq
  · intro h names hproper
    have hname : ∀ name, Proper [name] → ExclusionRule.verdict x.rules name = ExclusionRule.verdict y.rules name := by
      intro name hname
      simpa [text_singleton] using h [name] hname
    rw [hbelow, hany hproper hname]
    rcases h names hproper with hleft | htext
    · rw [List.any_eq_true.2 hleft, Bool.or_true, Bool.or_true]
    · rw [htext]

/-! ## Rules of patterns -/

section Rules

variable [LineReader]

theorem rulesOf_append_ok_iff {xs ys : List Document} {rules : List ExclusionRule} :
    rulesOf (xs ++ ys) = .ok rules ↔
      ∃ first second, rulesOf xs = .ok first ∧ rulesOf ys = .ok second ∧ rules = first ++ second := by
  induction xs generalizing rules with
  | nil => simp [rulesOf]
  | cons d rest ih =>
    rw [List.cons_append, rulesOf, rulesOf]
    constructor
    · intro h
      obtain ⟨rule, hrule, h⟩ := bind_ok h
      obtain ⟨others, hothers, h⟩ := bind_ok h
      obtain ⟨first, second, hfirst, hsecond, rfl⟩ := ih.1 hothers
      cases h
      refine ⟨rule.toList ++ first, second, ?_, hsecond, by simp⟩
      rw [hrule, hfirst]
      rfl
    · rintro ⟨first, second, hfirst, hsecond, rfl⟩
      obtain ⟨rule, hrule, hfirst⟩ := bind_ok hfirst
      obtain ⟨others, hothers, hfirst⟩ := bind_ok hfirst
      cases hfirst
      rw [hrule, ih.2 ⟨others, second, hothers, hsecond, rfl⟩]
      simp [bind, Except.bind, pure, Except.pure]

theorem rulesOf_append_succeeds_iff {xs ys : List Document} :
    Succeeds (rulesOf (xs ++ ys)) ↔ Succeeds (rulesOf xs) ∧ Succeeds (rulesOf ys) := by
  unfold Succeeds
  simp only [rulesOf_append_ok_iff]
  constructor
  · rintro ⟨_, first, second, hfirst, hsecond, -⟩
    exact ⟨⟨first, hfirst⟩, ⟨second, hsecond⟩⟩
  · rintro ⟨⟨first, hfirst⟩, ⟨second, hsecond⟩⟩
    exact ⟨_, first, second, hfirst, hsecond, rfl⟩

theorem mem_rulesOf_iff {patterns : List Document} {rules : List ExclusionRule} {r : ExclusionRule}
    (h : rulesOf patterns = .ok rules) : r ∈ rules ↔ ∃ d ∈ patterns, ruleOf d = .ok (some r) := by
  induction patterns generalizing rules with
  | nil =>
    cases h
    simp
  | cons d rest ih =>
    obtain ⟨rule, hrule, h⟩ := bind_ok h
    obtain ⟨others, hothers, h⟩ := bind_ok h
    cases h
    rw [List.mem_append, ih hothers, List.exists_mem_cons_iff, hrule, Option.mem_toList, Except.ok.injEq]

/-! ## Making -/

variable {root : Path}

theorem make_ok_iff {extra : Document} {ignored project : Found} {x : Excluder} :
    make root extra ignored project = .ok x ↔
      ∃ added rules, additional extra = .ok added ∧
        rulesOf (defaults.map .text ++ added ++ ignored.1 ++ project.1) = .ok rules ∧
        x = ⟨root, false, defaults.map .text ++ added ++ ignored.1 ++ project.1,
          "defaults" :: ignored.2 ++ project.2, rules⟩ := by
  unfold make
  constructor
  · intro h
    obtain ⟨added, hadded, h⟩ := bind_ok h
    obtain ⟨rules, hrules, h⟩ := bind_ok h
    cases h
    exact ⟨added, rules, hadded, hrules, rfl⟩
  · rintro ⟨added, rules, hadded, hrules, rfl⟩
    simp only [hadded, hrules, bind, Except.bind, pure, Except.pure]

/-- An excluder that `make` gives has the rules of the `defaults`, of what is added, of the ignore file and of the
project file. -/
theorem rules_of_make {added ignored project : List Document} {ignoreSource source : List String} {extra : Document}
    {x : Excluder} (hadded : additional extra = .ok added)
    (hx : make root extra (ignored, ignoreSource) (project, source) = .ok x) :
    ∃ before middle inner last, rulesOf (defaults.map .text) = .ok before ∧ rulesOf added = .ok middle ∧
      rulesOf ignored = .ok inner ∧ rulesOf project = .ok last ∧ x.rules = before ++ middle ++ (inner ++ last) ∧
      x.root = root ∧ x.includeIgnored = false := by
  obtain ⟨added', rules, hadded', hrules, rfl⟩ := make_ok_iff.1 hx
  cases hadded.symm.trans hadded'
  obtain ⟨upToIgnored, last, hupToIgnored, hlast, rfl⟩ := rulesOf_append_ok_iff.1 hrules
  obtain ⟨upToAdded, inner, hupToAdded, hinner, rfl⟩ := rulesOf_append_ok_iff.1 hupToIgnored
  obtain ⟨before, middle, hbefore, hmiddle, rfl⟩ := rulesOf_append_ok_iff.1 hupToAdded
  exact ⟨before, middle, inner, last, hbefore, hmiddle, hinner, hlast, List.append_assoc .., rfl, rfl⟩

theorem make_succeeds_iff {added ignored project : List Document} {ignoreSource source : List String}
    {extra : Document} (hadded : additional extra = .ok added) :
    Succeeds (make root extra (ignored, ignoreSource) (project, source)) ↔
      Succeeds (rulesOf (defaults.map .text)) ∧ Succeeds (rulesOf added) ∧ Succeeds (rulesOf ignored) ∧
        Succeeds (rulesOf project) := by
  have hmake : Succeeds (make root extra (ignored, ignoreSource) (project, source)) ↔
      Succeeds (rulesOf (defaults.map .text ++ added ++ ignored ++ project)) := by
    constructor
    · rintro ⟨x, hx⟩
      obtain ⟨added', rules, hadded', hrules, -⟩ := make_ok_iff.1 hx
      cases hadded.symm.trans hadded'
      exact ⟨rules, hrules⟩
    · rintro ⟨rules, hrules⟩
      exact ⟨_, make_ok_iff.2 ⟨added, rules, hadded, hrules, rfl⟩⟩
  rw [hmake, rulesOf_append_succeeds_iff, rulesOf_append_succeeds_iff, rulesOf_append_succeeds_iff,
    and_assoc, and_assoc]

end Rules

/-! ## Loading -/

theorem additional_list (items : List Document) : additional (.list items) = .ok items := by
  cases items <;> rfl

theorem ofFile_blind {α : Type} (x : Except FileError α) : (ofFile x).Blind := by
  cases x with
  | error e => exact fun _ _ => rfl
  | ok a => exact fun _ _ => rfl

variable {σ : Type} [FileSystem σ] {t : σ} {root : Path}

theorem ofIgnoreFile_of_absent (h : FileSystem.exists? t (root.child ".gitignore") = .ok false) :
    (ofIgnoreFile t root).outcome.1 = .ok ([], []) := by
  unfold ofIgnoreFile
  dsimp only
  rw [h]
  rfl

section Load

variable [TomlReader]

theorem ofProjectFile_blind (t : σ) (root : Path) : (ofProjectFile t root).Blind := by
  unfold ofProjectFile
  refine (ofFile_blind _).bind fun present => ?_
  repeat' split
  all_goals exact fun _ _ => rfl

variable [LineReader]

/-- An excluder that leaves something out is made by `make` of what its two files give. -/
theorem load_outcome (t : σ) (root : Path) (extra : Document) :
    (load t root false extra).outcome.1 =
      (ofIgnoreFile t root).outcome.1 >>= fun ignored =>
        (ofProjectFile t root).outcome.1 >>= make root extra ignored := by
  have hmake : ∀ ignored project, Logged.Blind (make root extra ignored project : Logged Failure Excluder) :=
    fun _ _ => .lift _
  unfold load
  rw [if_neg Bool.false_ne_true, Logged.Blind.outcome_bind fun ignored =>
    (ofProjectFile_blind t root).bind (hmake ignored)]
  refine congrArg _ (funext fun ignored => ?_)
  rw [Logged.Blind.outcome_bind (hmake ignored)]
  rfl

/-- The rules of an excluder are those of its patterns, by `rulesOf`. -/
theorem rules_of_load {includeIgnored : Bool} {extra : Document} {x : Excluder}
    (hx : (load t root includeIgnored extra).outcome.1 = .ok x) : rulesOf x.patterns = .ok x.rules := by
  cases includeIgnored with
  | true =>
    cases hx
    rfl
  | false =>
    rw [load_outcome] at hx
    obtain ⟨ignored, -, hx⟩ := bind_ok hx
    obtain ⟨project, -, hx⟩ := bind_ok hx
    obtain ⟨added, rules, -, hrules, rfl⟩ := make_ok_iff.1 hx
    exact hrules

/-- Without files in the project the patterns are the `defaults` and what is given in addition. -/
theorem load_additional {extra : Document} {added : List Document}
    (hignored : FileSystem.exists? t (root.child ".gitignore") = .ok false)
    (hproject : FileSystem.exists? t (root.child Settings.projectFile) = .ok false)
    (hadded : additional extra = .ok added)
    (hrules : Succeeds (rulesOf (defaults.map .text ++ added))) :
    ∃ x, (load t root false extra).outcome.1 = .ok x ∧ x.patterns = defaults.map .text ++ added := by
  have hempty : (ofProjectFile t root).outcome.1 = .ok ([], []) := by
    unfold ofProjectFile
    dsimp only
    rw [hproject]
    rfl
  obtain ⟨hdefaults, hrules⟩ := rulesOf_append_succeeds_iff.1 hrules
  obtain ⟨x, hx⟩ : Succeeds (make root extra ([], []) ([], [])) :=
    (make_succeeds_iff hadded).2 ⟨hdefaults, hrules, succeeds_ok [], succeeds_ok []⟩
  refine ⟨x, ?_, ?_⟩
  · rw [load_outcome, ofIgnoreFile_of_absent hignored, hempty]
    simpa only [bind, Except.bind] using hx
  · obtain ⟨added', rules, hadded', -, rfl⟩ := make_ok_iff.1 hx
    cases hadded.symm.trans hadded'
    simp

end Load

end Excluder

end CatchAudit
