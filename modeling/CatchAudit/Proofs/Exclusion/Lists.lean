/-
Lists of names, such as the defaults. A reader of lines that reads names as it should makes of a list of them
rules that leave out exactly the paths on which some name of the list stands, or at whose start one that is
tied to the root. The program's own reader does so.
-/
import CatchAudit.Libraries
import CatchAudit.Proofs.Exclusion.Names
import CatchAudit.Proofs.Exclusion.Verdict

namespace CatchAudit

namespace ExclusionLine

/-! ## Names on paths -/

variable {name first : String} {names : List String}

/-- No name goes over the end of a line. -/
def OneLine (names : List String) : Prop := ∀ name ∈ names, '\n' ∉ name.toList

theorem OneLine.subset {fewer : List String} (h : OneLine names) (hsub : fewer ⊆ names) : OneLine fewer :=
  fun name hname => h name (hsub hname)

theorem text_cons (first : String) (hnames : names ≠ []) :
    Path.text ⟨"", first :: names⟩ = first ++ "/" ++ Path.text ⟨"", names⟩ := by
  rw [Path.text_of_relative rfl (List.cons_ne_nil _ _), Path.text_of_relative rfl hnames, ← List.singleton_append,
    String.intercalate_append_of_ne_nil (List.cons_ne_nil _ _) hnames]
  simp

/-- A text begins with a name followed by nothing or a slash; it `Bears` this name and no other one. -/
theorem bears_append_iff {name first tail : List Char} (hname : '/' ∉ name) (hslash : '/' ∉ first)
    (hfeed : '\n' ∉ first) (htail : tail = [] ∨ tail.head? = some '/') : Bears name (first ++ tail) ↔ first = name := by
  constructor
  · rintro ⟨rest, h, hrest⟩
    rcases List.append_eq_append_iff.1 h with ⟨more, rfl, rfl⟩ | ⟨more, rfl, rfl⟩
    · cases more with
      | nil => rw [List.append_nil]
      | cons c more =>
        rcases htail with htail | htail
        · simp at htail
        · cases htail
          exact absurd (List.mem_append_right _ List.mem_cons_self) hname
    · cases more with
      | nil => rw [List.append_nil]
      | cons c more =>
        rw [List.cons_append] at hrest
        rcases hrest with hrest | hrest | hrest
        · cases hrest
        · obtain ⟨rfl, -⟩ := List.cons.inj hrest
          exact absurd (List.mem_append_right _ List.mem_cons_self) hfeed
        · cases hrest
          exact absurd (List.mem_append_right _ List.mem_cons_self) hslash
  · rintro rfl
    exact ⟨tail, rfl, htail.imp_right .inr⟩

theorem bears_text_iff (hname : '/' ∉ name.toList) (hproper : Excluder.Proper (first :: names))
    (hline : OneLine (first :: names)) :
    Bears name.toList (Path.text ⟨"", first :: names⟩).toList ↔ first = name := by
  have hslash := (hproper first List.mem_cons_self).2.2
  have hfeed := hline first List.mem_cons_self
  rw [← String.toList_inj]
  cases names with
  | nil =>
    have hbears := bears_append_iff hname hslash hfeed (.inl rfl)
    rwa [List.append_nil] at hbears
  | cons next names =>
    rw [text_cons first (List.cons_ne_nil _ _), String.toList_append, String.toList_append, List.append_assoc]
    exact bears_append_iff hname hslash hfeed (.inr rfl)

/-- A path begins with a name, not with a slash. -/
theorem text_ne_slash {rest : List Char} (hproper : Excluder.Proper (first :: names)) :
    (Path.text ⟨"", first :: names⟩).toList ≠ '/' :: rest := by
  obtain ⟨hempty, -, hslash⟩ := hproper first List.mem_cons_self
  obtain ⟨c, cs, hfirst⟩ := List.exists_cons_of_ne_nil (mt String.toList_eq_nil_iff.1 hempty)
  have hhead : ∃ tail, (Path.text ⟨"", first :: names⟩).toList = first.toList ++ tail := by
    cases names with
    | nil => exact ⟨[], by rw [Excluder.text_singleton, List.append_nil]⟩
    | cons next names =>
      rw [text_cons first (List.cons_ne_nil _ _), String.append_assoc, String.toList_append]
      exact ⟨_, rfl⟩
  obtain ⟨tail, htail⟩ := hhead
  rw [htail, hfirst]
  rintro ⟨⟩
  exact hslash (hfirst ▸ List.mem_cons_self)

/-- After a name and a slash, the text bears another one in what follows: at once, by `Bears`, or further on. -/
theorem bearsBelow_append_iff {name first tail : List Char} (hempty : first ≠ []) (hslash : '/' ∉ first)
    (hfeed : '\n' ∉ first) (htail : ∀ rest, tail ≠ '/' :: rest) :
    BearsBelow name (first ++ '/' :: tail) ↔ Bears name tail ∨ BearsBelow name tail := by
  constructor
  · rintro ⟨lead, rest, h, -, hlead, hbears⟩
    rcases List.append_eq_append_iff.1 h with ⟨more, rfl, hmore⟩ | ⟨more, hmore, hrest⟩
    · -- the slash is the one after the first name, or comes later
      cases more with
      | nil =>
        cases hmore
        exact .inl hbears
      | cons c more =>
        rw [List.cons_append] at hmore
        obtain ⟨rfl, hlater⟩ := List.cons.inj hmore
        refine .inr ⟨more, rest, hlater, ?_, fun h => hlead (by simp [h]), hbears⟩
        rintro rfl
        exact htail _ hlater
    · cases more with
      | nil =>
        cases hrest
        exact .inl hbears
      | cons c more =>
        cases hrest
        exact absurd (hmore ▸ List.mem_append_right _ List.mem_cons_self) hslash
  · rintro (hbears | ⟨lead, rest, rfl, -, hlead, hbears⟩)
    · exact ⟨_, _, rfl, hempty, hfeed, hbears⟩
    · refine ⟨first ++ '/' :: lead, rest, by simp, by simp, ?_, hbears⟩
      simpa [hlead] using hfeed

/-- The text of a path `Bears` a name, or bears it further on, exactly if the name stands on the path. -/
theorem bears_some_iff (hname : '/' ∉ name.toList) : ∀ {names : List String}, Excluder.Proper names →
    OneLine names → names ≠ [] →
      (Bears name.toList (Path.text ⟨"", names⟩).toList ∨ BearsBelow name.toList (Path.text ⟨"", names⟩).toList ↔
        name ∈ names)
  | [first], hproper, hline, _ => by
    have hnone : ¬ BearsBelow name.toList (Path.text ⟨"", [first]⟩).toList := by
      rintro ⟨lead, rest, htext, -⟩
      refine (hproper first List.mem_cons_self).2.2 ?_
      rw [Excluder.text_singleton] at htext
      rw [htext]
      exact List.mem_append_right _ List.mem_cons_self
    rw [bears_text_iff hname hproper hline, or_iff_left hnone, List.mem_singleton, eq_comm]
  | first :: next :: names, hproper, hline, _ => by
    have htail : next :: names ⊆ first :: next :: names := List.subset_cons_self _ _
    have hproper' := hproper.subset htail
    have ih := bears_some_iff hname hproper' (hline.subset htail) (List.cons_ne_nil _ _)
    obtain ⟨hempty, -, hslash⟩ := hproper first List.mem_cons_self
    have htext : (Path.text ⟨"", first :: next :: names⟩).toList =
        first.toList ++ '/' :: (Path.text ⟨"", next :: names⟩).toList := by
      rw [text_cons first (List.cons_ne_nil _ _)]
      simp
    have hempty' : first.toList ≠ [] := mt String.toList_eq_nil_iff.1 hempty
    rw [bears_text_iff hname hproper hline, List.mem_cons, ← ih, htext,
      bearsBelow_append_iff hempty' hslash (hline first List.mem_cons_self) fun _ => text_ne_slash hproper', eq_comm]

/-- By `ofText` a line with a slash and a name matches the paths that begin with the name. -/
theorem exists_tied_path (h : IsName name.toList) : ∃ p, ofText ("/" ++ name) = .ok (some ⟨true, p⟩) ∧
    p.isIn name = true ∧ ∀ names, Excluder.Proper names → OneLine names → names ≠ [] →
      (p.isIn (Path.text ⟨"", names⟩) = true ↔ names.head? = some name) := by
  obtain ⟨p, hline, hp⟩ := exists_tied h
  have hslash : String.ofList ('/' :: name.toList) = "/" ++ name := by
    rw [← String.toList_inj]
    simp
  rw [hslash] at hline
  refine ⟨p, hline, (hp name).2 ⟨[], by simp, .inl rfl⟩, fun names hproper hone hnames => ?_⟩
  obtain ⟨first, rest, rfl⟩ := List.exists_cons_of_ne_nil hnames
  rw [hp, bears_text_iff h.slash_not_mem hproper hone, List.head?_cons, Option.some_inj]

/-- By `ofText` a line with a name by itself matches the paths on which the name stands. -/
theorem exists_name_path (h : IsName name.toList)
    (hhead : name.toList.head? ≠ some '#' ∧ name.toList.head? ≠ some '!') :
    ∃ p, ofText name = .ok (some ⟨true, p⟩) ∧ ∀ names, Excluder.Proper names → OneLine names → names ≠ [] →
      (p.isIn (Path.text ⟨"", names⟩) = true ↔ name ∈ names) := by
  obtain ⟨p, hline, hp⟩ := exists_anywhere h hhead
  rw [String.ofList_toList] at hline
  exact ⟨p, hline, fun names hproper hone hnames => by rw [hp, bears_some_iff h.slash_not_mem hproper hone hnames]⟩

end ExclusionLine

/-- Names are read as `/name`, which excludes the paths that begin with `name`, and as `name`, which excludes those
on which it stands. -/
structure LineReader.ReadsNames [LineReader] : Prop where
  tied : ∀ name : String, ExclusionLine.IsName name.toList → ∃ r, LineReader.read ("/" ++ name) = .ok (some r) ∧
    r.excludes = true ∧ r.accepts name = true ∧ ∀ names, Excluder.Proper names → ExclusionLine.OneLine names →
      names ≠ [] → (r.accepts (Path.text ⟨"", names⟩) = true ↔ names.head? = some name)
  alone : ∀ name : String, ExclusionLine.IsName name.toList →
    name.toList.head? ≠ some '#' ∧ name.toList.head? ≠ some '!' → ∃ r, LineReader.read name = .ok (some r) ∧
      r.excludes = true ∧ ∀ names, Excluder.Proper names → ExclusionLine.OneLine names →
        names ≠ [] → (r.accepts (Path.text ⟨"", names⟩) = true ↔ name ∈ names)

/-- The program reads names by `ExclusionLine.ofText`. -/
theorem ExclusionLine.readsNames : LineReader.ReadsNames where
  tied name hname := by
    obtain ⟨p, hline, hp, hpaths⟩ := exists_tied_path hname
    refine ⟨rule ⟨true, p⟩, ?_, rfl, hp, hpaths⟩
    show (ofText _).map _ = _
    rw [hline]
    rfl
  alone name hname hhead := by
    obtain ⟨p, hline, hpaths⟩ := exists_name_path hname hhead
    refine ⟨rule ⟨true, p⟩, ?_, rfl, hpaths⟩
    show (ofText _).map _ = _
    rw [hline]
    rfl

namespace Excluder

open ExclusionLine ExclusionRule

/-- A line that is a name, by `IsName`, tied to the root by a slash or not. -/
def NameLine (d : Document) : Prop :=
  ∃ name : String, IsName name.toList ∧
    (d = .text ("/" ++ name) ∨ d = .text name ∧ name.toList.head? ≠ some '#' ∧ name.toList.head? ≠ some '!')

theorem defaults_nameLine : ∀ d ∈ defaults.map .text, NameLine d := by
  have hall : ∀ name ∈ defaults, IsName name.toList ∧ name.toList.head? ≠ some '#' ∧ name.toList.head? ≠ some '!' := by
    decide +kernel
  intro d hd
  obtain ⟨name, hname, rfl⟩ := List.mem_map.1 hd
  obtain ⟨hline, hhead⟩ := hall name hname
  exact ⟨name, hline, .inr ⟨rfl, hhead⟩⟩

variable [LineReader] {rules : List ExclusionRule} {patterns : List Document} {names : List String}

theorem ruleOf_text {line : String} {rule : Option ExclusionRule} (h : line ≠ "")
    (hread : LineReader.read line = .ok rule) : ruleOf (.text line) = .ok rule := by
  simp [ruleOf, Document.truthy, h, hread]

/-- The rule of a `NameLine` matches the paths on which the name stands, or those that begin with it if it is tied. -/
theorem NameLine.exists_rule (hreads : LineReader.ReadsNames) {d : Document} (h : NameLine d) :
    ∃ r, ruleOf d = .ok (some r) ∧ r.excludes = true ∧
      ∀ names, Proper names → OneLine names → names ≠ [] → (r.accepts (Path.text ⟨"", names⟩) = true ↔
        (∃ name ∈ names, d = .text name) ∨ ∃ name ∈ names.head?, d = .text ("/" ++ name)) := by
  obtain ⟨line, hline, rfl | ⟨rfl, hhead⟩⟩ := h
  · obtain ⟨r, hread, hexcludes, -, hpaths⟩ := hreads.tied line hline
    refine ⟨r, ruleOf_text (by simp) hread, hexcludes, fun names hproper hone hnames => ?_⟩
    -- no name on a path begins with a slash
    have hnone : ¬ ∃ name ∈ names, Document.text ("/" ++ line) = .text name := by
      rintro ⟨name, hname, heq⟩
      cases heq
      exact (hproper _ hname).2.2 (by simp)
    rw [hpaths names hproper hone hnames, or_iff_right hnone]
    simp
  · obtain ⟨r, hread, hexcludes, hpaths⟩ := hreads.alone line hline hhead
    have hempty : line ≠ "" := by
      rintro rfl
      exact hline.nonempty rfl
    refine ⟨r, ruleOf_text hempty hread, hexcludes, fun names hproper hone hnames => ?_⟩
    have hnone : ¬ ∃ name ∈ names.head?, Document.text line = .text ("/" ++ name) := by
      rintro ⟨name, -, heq⟩
      cases heq
      exact hline.slash_not_mem (by simp)
    rw [hpaths names hproper hone hnames, or_iff_left hnone]
    simp

/-- Lists of `NameLine`s have rules. -/
theorem rulesOf_names (hreads : LineReader.ReadsNames) (hlines : ∀ d ∈ patterns, NameLine d) :
    Succeeds (rulesOf patterns) := by
  induction patterns with
  | nil => exact succeeds_ok []
  | cons d rest ih =>
    obtain ⟨hd, hrest⟩ := List.forall_mem_cons.1 hlines
    obtain ⟨r, hrule, -⟩ := hd.exists_rule hreads
    obtain ⟨rules, hrules⟩ := ih hrest
    exact ⟨r :: rules, by rw [rulesOf, hrule, hrules]; rfl⟩

/-- Where all lines are `NameLine`s, the `verdict` leaves a path out exactly if one of them stands on it or a tied one
at its start. -/
theorem verdict_of_names (hreads : LineReader.ReadsNames) (hrules : rulesOf patterns = .ok rules)
    (hlines : ∀ d ∈ patterns, NameLine d) (hproper : Proper names) (hone : OneLine names) (hnames : names ≠ []) :
    verdict rules (Path.text ⟨"", names⟩) = true ↔
      (∃ name ∈ names, .text name ∈ patterns) ∨ ∃ name ∈ names.head?, .text ("/" ++ name) ∈ patterns := by
  have hrule : ∀ d ∈ patterns, ∀ r, ruleOf d = .ok (some r) → r.excludes = true ∧
      (r.accepts (Path.text ⟨"", names⟩) = true ↔
        (∃ name ∈ names, d = .text name) ∨ ∃ name ∈ names.head?, d = .text ("/" ++ name)) := by
    intro d hd r hr
    obtain ⟨r', hr', hexcludes, hmatch⟩ := (hlines d hd).exists_rule hreads
    cases hr.symm.trans hr'
    exact ⟨hexcludes, hmatch names hproper hone hnames⟩
  have hexcludes : ∀ r ∈ rules, r.excludes = true := by
    intro r hr
    obtain ⟨d, hd, hr⟩ := (mem_rulesOf_iff hrules).1 hr
    exact (hrule d hd r hr).1
  constructor
  · intro hverdict
    rw [verdict_eq] at hverdict
    -- all rules of names exclude, so that it does not matter which of those that match comes last
    cases hdecision : decision? rules (Path.text ⟨"", names⟩) with
    | none =>
      rw [hdecision] at hverdict
      cases hverdict
    | some b =>
      obtain ⟨r, hr, hmatch, -⟩ := excludes_of_decision? hdecision
      obtain ⟨d, hd, hr⟩ := (mem_rulesOf_iff hrules).1 hr
      rcases (hrule d hd r hr).2.1 hmatch with ⟨name, hname, rfl⟩ | ⟨name, hname, rfl⟩
      · exact .inl ⟨name, hname, hd⟩
      · exact .inr ⟨name, hname, hd⟩
  · intro hname
    obtain ⟨d, hd, hd'⟩ : ∃ d ∈ patterns,
        (∃ name ∈ names, d = .text name) ∨ ∃ name ∈ names.head?, d = .text ("/" ++ name) := by
      rcases hname with ⟨name, hname, hd⟩ | ⟨name, hname, hd⟩
      · exact ⟨_, hd, .inl ⟨name, hname, rfl⟩⟩
      · exact ⟨_, hd, .inr ⟨name, hname, rfl⟩⟩
    obtain ⟨r, hr, -⟩ := (hlines d hd).exists_rule hreads
    have hmem : r ∈ rules := (mem_rulesOf_iff hrules).2 ⟨d, hd, hr⟩
    rw [verdict_eq, decision?_of_excludes hexcludes hmem ((hrule d hd r hr).2.2 hd')]
    rfl

/-- By their `verdict` the `defaults` leave out the paths on which one of them stands. -/
theorem verdict_defaults (hreads : LineReader.ReadsNames) (hrules : rulesOf (defaults.map .text) = .ok rules)
    (hproper : Proper names) (hone : OneLine names) (hnames : names ≠ []) :
    verdict rules (Path.text ⟨"", names⟩) = true ↔ ∃ name ∈ names, name ∈ defaults := by
  have htied : ¬ ∃ name ∈ names.head?, Document.text ("/" ++ name) ∈ defaults.map .text := by
    have hslash : ∀ name ∈ defaults, '/' ∉ name.toList := by decide +kernel
    rintro ⟨name, -, htied⟩
    obtain ⟨line, hline, heq⟩ := List.mem_map.1 htied
    cases heq
    exact hslash _ hline (by simp)
  rw [verdict_of_names hreads hrules defaults_nameLine hproper hone hnames, or_iff_left htied]
  simp

end Excluder

end CatchAudit
