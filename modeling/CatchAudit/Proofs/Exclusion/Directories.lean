/-
What leaves out a file: its path, or one of the directories on it. The patterns of a project are relative to its
root, so that a directory should be asked for by its path from there; the excluder asks for it by its name alone.
The two agree on lists of names, such as the defaults, but not where a line ties a name to the root.
-/
import CatchAudit.Proofs.Exclusion.Lists
import CatchAudit.Proofs.Exclusion.Spelling

namespace CatchAudit

namespace Excluder

open ExclusionLine ExclusionRule

variable {t : FileTree} {root : Path} {includeIgnored : Bool} {extra : Document} {x : Excluder}
  {rules : List ExclusionRule} {patterns : List Document} {names : List String}

/-! ## Directories -/

/-- By their `verdict` the rules leave out the path with these names or a directory on it, each taken from the root of
the project. -/
def Covers (rules : List ExclusionRule) (names : List String) : Prop :=
  ∃ path, path ≠ [] ∧ path <+: names ∧ verdict rules (Path.text ⟨"", path⟩) = true

theorem covers_append_singleton {above : List String} {name : String} : Covers rules (above ++ [name]) ↔
    verdict rules (Path.text ⟨"", above ++ [name]⟩) = true ∨ Covers rules above := by
  unfold Covers
  constructor
  · rintro ⟨path, hpath, hbelow, hverdict⟩
    rcases List.prefix_concat_iff.1 hbelow with rfl | hbelow
    · exact .inl hverdict
    · exact .inr ⟨path, hpath, hbelow, hverdict⟩
  · rintro (hverdict | ⟨path, hpath, hbelow, hverdict⟩)
    · exact ⟨_, by simp, List.prefix_rfl, hverdict⟩
    · exact ⟨path, hpath, hbelow.trans (List.prefix_append _ _), hverdict⟩

/-- To ask for each directory by its name comes to the path being one that the rules `Covers` exactly if this is so of
the directory of each file, where neither the file is left out itself nor, by its name, a directory further up. -/
theorem names_agree_iff (rules : List ExclusionRule) :
    (∀ names, Proper names → names ≠ [] →
      ((verdict rules (Path.text ⟨"", names⟩) = true ∨ ∃ name ∈ names.dropLast, verdict rules name = true) ↔
        Covers rules names)) ↔
      ∀ above d f, Proper (above ++ [d] ++ [f]) → (∀ name ∈ above, verdict rules name = false) →
        verdict rules (Path.text ⟨"", above ++ [d] ++ [f]⟩) = false →
          (verdict rules d = true ↔ verdict rules (Path.text ⟨"", above ++ [d]⟩) = true) := by
  have hlast : ∀ above d, (∃ name ∈ above ++ [d], verdict rules name = true) ↔
      (∃ name ∈ above, verdict rules name = true) ∨ verdict rules d = true := by
    intro above d
    simp [or_and_right, exists_or]
  constructor
  · intro h above d f hproper habove hfile
    have hdirectory := hproper.subset (List.subset_append_left (above ++ [d]) [f])
    have hlow := h _ hproper (by simp)
    have hhigh := h _ hdirectory (by simp)
    have hnone : ¬ ∃ name ∈ above, verdict rules name = true := by
      rintro ⟨name, hname, hverdict⟩
      rw [habove name hname] at hverdict
      cases hverdict
    rw [List.dropLast_concat, or_iff_left hnone] at hhigh
    rw [covers_append_singleton, ← hhigh, hfile, List.dropLast_concat, hlast, or_iff_right hnone] at hlow
    simpa using hlow
  · intro h names
    -- on the last directory, what is asked by path is settled already for the directories above
    induction names using List.reverseRecOn with
    | nil => exact fun _ hnames => absurd rfl hnames
    | append_singleton path f ih =>
      intro hproper _
      rw [covers_append_singleton, List.dropLast_concat]
      cases hfile : verdict rules (Path.text ⟨"", path ++ [f]⟩) with
      | true => simp
      | false =>
        rw [or_iff_right Bool.false_ne_true, or_iff_right Bool.false_ne_true]
        rcases List.eq_nil_or_concat' path with rfl | ⟨above, d, rfl⟩
        · simp [Covers]
        · have hdirectory := hproper.subset (List.subset_append_left (above ++ [d]) [f])
          rw [← ih hdirectory (by simp), List.dropLast_concat, hlast]
          by_cases habove : ∃ name ∈ above, verdict rules name = true
          · simp [habove]
          · have hnone : ∀ name ∈ above, verdict rules name = false := fun name hname =>
              Bool.eq_false_iff.2 fun hverdict => habove ⟨name, hname, hverdict⟩
            rw [or_iff_right habove, or_iff_left habove, h above d f hproper hnone hfile]

/-! ## Lists of names -/

section Loaded

variable [LineReader]

/-- Where all lines are `NameLine`s, the directories on a path add nothing to what is asked of the whole of it. -/
theorem covers_of_names (hreads : LineReader.ReadsNames) (hrules : rulesOf patterns = .ok rules)
    (hlines : ∀ d ∈ patterns, NameLine d) (hproper : Proper names) (hone : OneLine names) (hnames : names ≠ []) :
    Covers rules names ↔
      (∃ name ∈ names, .text name ∈ patterns) ∨ ∃ name ∈ names.head?, .text ("/" ++ name) ∈ patterns := by
  constructor
  · rintro ⟨path, hpath, hbelow, hverdict⟩
    have hsub := hbelow.subset
    rw [verdict_of_names hreads hrules hlines (hproper.subset hsub) (hone.subset hsub) hpath] at hverdict
    refine hverdict.imp ?_ ?_
    · exact fun ⟨name, hname, hline⟩ => ⟨name, hsub hname, hline⟩
    · obtain ⟨rest, rfl⟩ := hbelow
      rw [List.head?_append_of_ne_nil path hpath]
      exact id
  · rw [← verdict_of_names hreads hrules hlines hproper hone hnames]
    exact fun hverdict => ⟨names, hnames, List.prefix_rfl, hverdict⟩

/-- By itself, a tied name is matched by its rule, whatever stands before it in the list, so that the `verdict` on it
is settled. -/
theorem verdict_of_tied {before after : List Document} {later : List ExclusionRule} {name : String}
    (hreads : LineReader.ReadsNames) (hrules : rulesOf (before ++ .text ("/" ++ name) :: after) = .ok rules)
    (hname : IsName name.toList) (hafter : rulesOf after = .ok later) (hsilent : decision? later name = none) :
    verdict rules name = true := by
  obtain ⟨r, hread, hexcludes, haccepts, -⟩ := hreads.tied name hname
  obtain ⟨earlier, others, -, hothers, rfl⟩ := rulesOf_append_ok_iff.1 hrules
  obtain ⟨rule, hrule, hothers⟩ := bind_ok hothers
  obtain ⟨later', hafter', hothers⟩ := bind_ok hothers
  cases hothers
  cases hafter.symm.trans hafter'
  cases hrule.symm.trans (ruleOf_text (by simp) hread)
  rw [verdict_eq, decision?_append, Option.toList_some, List.singleton_append, decision?, hsilent, haccepts, hexcludes]
  rfl

variable [TomlReader]

/-- Excluders that `load` makes ask about the path and the name of each directory on it. If nothing is to be left out,
there are no rules. -/
theorem excludes_loaded (hx : (load t root includeIgnored extra).outcome.1 = .ok x) (names : List String) :
    x.excludes (root.below ⟨"", names⟩) = true ↔
      verdict x.rules (Path.text ⟨"", names⟩) = true ∨ ∃ name ∈ names.dropLast, verdict x.rules name = true := by
  obtain ⟨hroot, hignored⟩ := root_of_load hx
  cases includeIgnored with
  | true =>
    cases hx
    simp [excludes, verdict]
  | false =>
    rw [← hroot, excludes_below hignored rfl, Bool.or_eq_true, List.any_eq_true]

/-- Files are left out by their paths and by the bare names of their directories, not by the paths of the
directories. This comes to the same for all files exactly if, wherever neither a file is left out itself nor, by
its name, a directory further up, the directory of the file is left out by its name if and only if it is by its
path. It does not where a line ties a name to the root: every file below a directory of that name is left out,
however deep it stands, if no later line matches the name. Where all lines are names, tied or not, there is no
other difference. The last two need that names are read as names, as `ExclusionLine.readsNames` tells of the
program. -/
theorem excludes_iff_covers (hx : (load t root includeIgnored extra).outcome.1 = .ok x) :
    ((∀ names, Proper names → names ≠ [] → (x.excludes (root.below ⟨"", names⟩) = true ↔ Covers x.rules names)) ↔
      ∀ above d f, Proper (above ++ [d] ++ [f]) → (∀ name ∈ above, verdict x.rules name = false) →
        verdict x.rules (Path.text ⟨"", above ++ [d] ++ [f]⟩) = false →
          (verdict x.rules d = true ↔ verdict x.rules (Path.text ⟨"", above ++ [d]⟩) = true)) ∧
    (LineReader.ReadsNames →
      (∀ before name after later, x.patterns = before ++ .text ("/" ++ name) :: after → IsName name.toList →
        rulesOf after = .ok later → decision? later name = none →
          ∀ names, name ∈ names.dropLast → x.excludes (root.below ⟨"", names⟩) = true) ∧
      ((∀ d ∈ x.patterns, NameLine d) → ∀ names, Proper names → OneLine names → names ≠ [] →
        (Covers x.rules names ↔
          (∃ name ∈ names, .text name ∈ x.patterns) ∨ ∃ name ∈ names.head?, .text ("/" ++ name) ∈ x.patterns) ∧
        (x.excludes (root.below ⟨"", names⟩) = true ↔
          Covers x.rules names ∨ ∃ name ∈ names.dropLast, .text ("/" ++ name) ∈ x.patterns))) := by
  have hrules := rules_of_load hx
  refine ⟨?_, fun hreads => ⟨?_, ?_⟩⟩
  · simp only [excludes_loaded hx]
    exact names_agree_iff x.rules
  · intro before name after later hpatterns hname hafter hsilent names hmem
    rw [hpatterns] at hrules
    exact (excludes_loaded hx names).2 (.inr ⟨name, hmem, verdict_of_tied hreads hrules hname hafter hsilent⟩)
  · intro hlines names hproper hone hnames
    have hcovers := covers_of_names hreads hrules hlines hproper hone hnames
    -- asked by itself, a name counts as a path of one name, so that a tied line matches it wherever it stands
    have hname : ∀ name ∈ names, verdict x.rules name = true ↔
        .text name ∈ x.patterns ∨ .text ("/" ++ name) ∈ x.patterns := by
      intro name hmem
      have hsub : [name] ⊆ names := List.cons_subset.2 ⟨hmem, List.nil_subset _⟩
      have hverdict :=
        verdict_of_names hreads hrules hlines (hproper.subset hsub) (hone.subset hsub) (List.cons_ne_nil _ _)
      rw [text_singleton] at hverdict
      simpa using hverdict
    refine ⟨hcovers, ?_⟩
    rw [excludes_loaded hx, verdict_of_names hreads hrules hlines hproper hone hnames, hcovers, or_assoc, or_assoc]
    constructor
    · rintro (hplain | hhead | ⟨name, hmem, hverdict⟩)
      · exact .inl hplain
      · exact .inr (.inl hhead)
      · rcases (hname name (List.dropLast_subset _ hmem)).1 hverdict with hplain | htied
        · exact .inl ⟨name, List.dropLast_subset _ hmem, hplain⟩
        · exact .inr (.inr ⟨name, hmem, htied⟩)
    · rintro (hplain | hhead | ⟨name, hmem, htied⟩)
      · exact .inl hplain
      · exact .inr (.inl hhead)
      · exact .inr (.inr ⟨name, hmem, (hname name (List.dropLast_subset _ hmem)).2 (.inr htied)⟩)

end Loaded

/-! ## A sample

A project without files, with a line in addition that ties a name to its root. -/

namespace Directories.Sample

def tree : FileTree := ⟨[("p", .directory [])], ["p"]⟩

def tied : Document := .list [.text "/name"]

def lines : List Document := defaults.map .text ++ [.text ("/" ++ "name")]

theorem nameLine : ∀ d ∈ lines, NameLine d := by
  intro d hd
  rcases List.mem_append.1 hd with hd | hd
  · exact defaults_nameLine d hd
  · exact ⟨"name", by decide +kernel, .inl (List.mem_singleton.1 hd)⟩

theorem load_tree : ∃ x, (load tree tree.here false tied).outcome.1 = .ok x ∧ x.patterns = lines :=
  load_additional (by decide +kernel) (by decide +kernel) rfl (rulesOf_names readsNames nameLine)

theorem proper : Proper ["a", "name", "f"] ∧ OneLine ["a", "name", "f"] := by
  constructor
  · unfold Proper
    decide +kernel
  · unfold OneLine
    decide +kernel

/-- No name on the path is among the `lines`, and it does not begin with the name that is tied. -/
theorem not_covered : ¬ ((∃ name ∈ ["a", "name", "f"], .text name ∈ lines) ∨
    ∃ name ∈ ["a", "name", "f"].head?, .text ("/" ++ name) ∈ lines) := by
  simp [lines, defaults]

end Directories.Sample

open Directories.Sample in
/-- With the line `/name`, what the excluder leaves out and what the rules cover do not agree on all files. -/
theorem excludes_iff_covers_sample : ∃ x, (load tree tree.here false tied).outcome.1 = .ok x ∧
    ¬ ∀ names, Proper names → names ≠ [] →
      (x.excludes (tree.here.below ⟨"", names⟩) = true ↔ Covers x.rules names) := by
  obtain ⟨x, hx, hpatterns⟩ := load_tree
  obtain ⟨-, hlines⟩ := excludes_iff_covers hx
  obtain ⟨htied, hnames⟩ := hlines readsNames
  refine ⟨x, hx, fun h => not_covered ?_⟩
  have hexcluded : x.excludes (tree.here.below ⟨"", ["a", "name", "f"]⟩) = true :=
    htied _ "name" [] [] hpatterns (by decide +kernel) rfl rfl _ (by decide +kernel)
  have hcovers := (h _ proper.1 (List.cons_ne_nil _ _)).1 hexcluded
  rwa [(hnames (by rw [hpatterns]; exact nameLine) _ proper.1 proper.2 (List.cons_ne_nil _ _)).1, hpatterns] at hcovers

open Directories.Sample in
/-- The line `/name` ties a name to the root, and a file below a deeper directory of this name is left out. -/
theorem tied_name_excludes_deeper : ∃ x, (load tree tree.here false tied).outcome.1 = .ok x ∧
    x.excludes (tree.here.below ⟨"", ["a", "name", "f"]⟩) = true ∧ ¬ Covers x.rules ["a", "name", "f"] := by
  obtain ⟨x, hx, hpatterns⟩ := load_tree
  have hrules := rules_of_load hx
  rw [hpatterns] at hrules
  refine ⟨x, hx, (excludes_loaded hx _).2 (.inr ⟨"name", by decide +kernel, ?_⟩), ?_⟩
  · exact verdict_of_tied readsNames hrules (by decide +kernel) rfl rfl
  · rw [covers_of_names readsNames hrules nameLine proper.1 proper.2 (List.cons_ne_nil _ _)]
    exact not_covered

end Excluder

end CatchAudit
