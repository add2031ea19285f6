/-
The exclusion patterns of a project file are read twice: by the excluder, for which a text is one pattern,
and among the settings, where a value is gone through item by item. A list of texts comes to the same in
either reading, so that the second copy, which stands in an earlier place, has no force. Of a text the
second reading makes one pattern for each character.
-/
import CatchAudit.Proofs.Exclusion.Lists
import CatchAudit.Proofs.Settings.Rejection
import Mathlib

namespace CatchAudit

/-! ## The two readings -/

theorem Path.name_child (p : Path) (name : String) : (p.child name).name = name := by
  simp [Path.name, child]

theorem Path.suffix_child (p : Path) (name : String) : (p.child name).suffix = Path.suffix ⟨"", [name]⟩ := by
  unfold suffix
  rw [name_child]
  rfl

theorem Document.object_of_member? {d value : Document} {name : String} (h : d.member? name = some value) :
    ∃ members, d = .object members ∧ memberOf? name members = some value := by
  cases d with
  | object members => exact ⟨members, rfl, h⟩
  | _ => cases h

/-- Among the settings, the exclusion patterns that `excludes` gives are what the value holds. -/
theorem Settings.excludes_of_member? {settings value : Document} (hvalue : settings.member? "exclude" = some value) :
    excludes settings = value.iterate := by
  obtain ⟨members, rfl, hmember⟩ := Document.object_of_member? hvalue
  unfold excludes
  simp [Document.getD, hmember, bind, Except.bind]

namespace Excluder

/-- The patterns that a text is among the settings: its characters. -/
def letters (s : String) : List Document := s.toList.map fun c => .text (String.singleton c)

theorem areWritable_texts : ∀ texts : List String, Document.areWritable (texts.map .text) = true
  | [] => rfl
  | _ :: rest => by simp [Document.areWritable, Document.isWritable, areWritable_texts rest]

theorem patternsIn_texts (texts : List String) :
    texts.map Document.text =
      if (Document.list (texts.map .text)).truthy then patternsIn (.list (texts.map .text)) else [] := by
  cases texts with
  | nil => rfl
  | cons s rest => simp [Document.truthy, patternsIn, Document.display]

end Excluder

section Readers

variable [TomlReader] {σ : Type} [FileSystem σ] {t : σ} {root : Path} {settings value : Document}

namespace Settings

/-- A project that has some setting, by `ofProject`, has a project file, from whose table the settings were read. -/
theorem read_of_ofProject {name : String} (h : ofProject t root = .ok settings)
    (hvalue : settings.member? name = some value) :
    ∃ bytes cs members, FileSystem.exists? t (root.child projectFile) = .ok true ∧
      FileSystem.read t (root.child projectFile) = .ok bytes ∧ Text.decodeUtf8 bytes = .ok cs ∧
      TomlReader.read cs = .ok members ∧ projectTable (.object members) = .ok settings := by
  obtain ⟨present, hpresent, h⟩ := bind_ok h
  cases present with
  | false =>
    cases h
    cases hvalue
  | true =>
    obtain ⟨found, hfound, h⟩ := bind_ok h
    obtain ⟨cs, hcs, hfound⟩ := bind_ok hfound
    obtain ⟨bytes, hread, hdecode⟩ := readText_ok hcs
    have hsuffix : (root.child projectFile).suffix = ".toml" := by
      rw [Path.suffix_child]
      rfl
    rw [if_pos hsuffix] at hfound
    -- what was found is an object, and it is what the table holds
    have hsettings : found = settings := by
      cases found <;> cases h
      rfl
    subst hsettings
    cases hparse : TomlReader.read cs with
    | error e =>
      rw [hparse] at hfound
      cases e <;> cases hfound
    | ok members =>
      rw [hparse] at hfound
      dsimp only at hfound
      rw [if_pos (Path.name_child root projectFile)] at hfound
      exact ⟨bytes, cs, members, ofFile_ok hpresent, hread, hdecode, hparse, ofFault_ok hfound⟩

/-- The settings that `ofProject` gives for a project whose project file can be read. -/
theorem ofProject_of_read {bytes : List UInt8} {cs : List Char} {all members : List (String × Document)}
    (hexists : FileSystem.exists? t (root.child projectFile) = .ok true)
    (hread : FileSystem.read t (root.child projectFile) = .ok bytes) (hdecode : Text.decodeUtf8 bytes = .ok cs)
    (hparse : TomlReader.read cs = .ok all) (htable : projectTable (.object all) = .ok (.object members)) :
    ofProject t root = .ok (.object members) := by
  have htext : readText t (root.child projectFile) = .ok cs := by
    unfold readText
    rw [hread]
    dsimp only
    rw [hdecode]
  have hdocument : readDocument t (root.child projectFile) = .ok (.object members) := by
    have hsuffix : (root.child projectFile).suffix = ".toml" := by
      rw [Path.suffix_child]
      rfl
    unfold readDocument
    rw [htext]
    show (if _ then _ else _) = _
    rw [if_pos hsuffix, hparse]
    dsimp only
    rw [if_pos (Path.name_child root projectFile), htable]
    rfl
  unfold ofProject
  dsimp only
  rw [hexists]
  show load t (root.child projectFile) = _
  unfold load
  rw [hdocument]
  rfl

end Settings

namespace Excluder

/-- For the excluder, `ofProjectFile` makes patterns of the value of the project file unless it is empty. -/
theorem ofProjectFile_of_ofProject (h : Settings.ofProject t root = .ok settings)
    (hvalue : settings.member? "exclude" = some value) (hwritable : value.isWritable = true) :
    ∃ source, (ofProjectFile t root).outcome.1 = .ok (if value.truthy then patternsIn value else [], source) := by
  obtain ⟨bytes, cs, members, hexists, hread, hdecode, hparse, htable⟩ := Settings.read_of_ofProject h hvalue
  obtain ⟨table, rfl, hmember⟩ := Document.object_of_member? hvalue
  have hget : (Document.object table).get "exclude" = .ok value := by simp [Document.get, hmember]
  unfold ofProjectFile
  dsimp only
  rw [hexists, hread]
  dsimp only
  rw [hdecode]
  dsimp only
  rw [hparse]
  dsimp only
  rw [htable]
  dsimp only
  rw [hget]
  dsimp only
  cases htruthy : value.truthy with
  | true =>
    rw [hwritable]
    exact ⟨_, rfl⟩
  | false => exact ⟨_, rfl⟩

variable [LineReader]

/-- The excluder that `load` makes with the patterns of the settings, beside the one that it makes with the project
file alone. -/
theorem load_of_ofProject {extra : List Document} (h : Settings.ofProject t root = .ok settings)
    (hvalue : settings.member? "exclude" = some value) (hwritable : value.isWritable = true)
    {project : List Document} (hproject : project = if value.truthy then patternsIn value else []) :
    (∃ e, (load t root false (.list extra)).outcome.1 = .error e ∧ (load t root false .null).outcome.1 = .error e) ∨
    ∃ ignored source, (ofIgnoreFile t root).outcome.1 = .ok ignored ∧
      (load t root false (.list extra)).outcome.1 = make root (.list extra) ignored (project, source) ∧
      (load t root false .null).outcome.1 = make root .null ignored (project, source) := by
  obtain ⟨source, hsource⟩ := ofProjectFile_of_ofProject h hvalue hwritable
  rw [load_outcome, load_outcome, hsource, ← hproject]
  rcases (ofIgnoreFile t root).outcome.1 with e | ignored
  · exact .inl ⟨e, rfl, rfl⟩
  · refine .inr ⟨ignored, source, rfl, ?_, ?_⟩
    · simp only [bind, Except.bind]
    · simp only [bind, Except.bind]

/-! ## Both copies together -/

/-- The rules of two excluders of a project, of which the first has additional patterns: these stand between the
defaults and the rules of the two files. -/
structure Widens (t : σ) (base : Path) (extra project : List Document) (x y : Excluder)
    (before middle inner last : List ExclusionRule) : Prop where
  ofDefaults : rulesOf (defaults.map .text) = .ok before
  ofExtra : rulesOf extra = .ok middle
  ofIgnored : ∃ ignored, (ofIgnoreFile t base).outcome.1 = .ok ignored ∧ rulesOf ignored.1 = .ok inner
  ofProject : rulesOf project = .ok last
  rules : x.rules = before ++ middle ++ (inner ++ last)
  rules' : y.rules = before ++ (inner ++ last)
  root : x.root = base
  root' : y.root = base
  includeIgnored : x.includeIgnored = false
  includeIgnored' : y.includeIgnored = false

/-- With additional patterns `load` makes an excluder exactly if it makes one without them and they are patterns; the
two then are as `Widens` says. -/
theorem load_twice (extra : List Document) {project : List Document} (h : Settings.ofProject t root = .ok settings)
    (hvalue : settings.member? "exclude" = some value) (hwritable : value.isWritable = true)
    (hproject : project = if value.truthy then patternsIn value else []) :
    (Succeeds (load t root false (.list extra)).outcome.1 ↔
        Succeeds (load t root false .null).outcome.1 ∧ Succeeds (rulesOf extra)) ∧
      (Succeeds (load t root false .null).outcome.1 → Succeeds (rulesOf project)) ∧
      ∀ x y, (load t root false (.list extra)).outcome.1 = .ok x → (load t root false .null).outcome.1 = .ok y →
        ∃ before middle inner last, Widens t root extra project x y before middle inner last := by
  have hadded := additional_list extra
  have hnone : additional .null = .ok [] := rfl
  rcases load_of_ofProject h hvalue hwritable hproject with ⟨e, hx, hy⟩ | ⟨ignored, source, hignore, hx, hy⟩
  · have hfails : ∀ {α : Type}, ¬ Succeeds (.error e : Except Failure α) := fun ⟨_, h⟩ => by cases h
    rw [hx, hy]
    exact ⟨iff_of_false hfails fun h => hfails h.1, fun h => absurd h hfails, fun x y h => by cases h⟩
  · rw [hx, hy, make_succeeds_iff hadded, make_succeeds_iff hnone]
    refine ⟨⟨?_, ?_⟩, fun h => h.2.2.2, fun x y hx hy => ?_⟩
    · rintro ⟨hbefore, hmiddle, hinner, hlast⟩
      exact ⟨⟨hbefore, succeeds_ok [], hinner, hlast⟩, hmiddle⟩
    · rintro ⟨⟨hbefore, -, hinner, hlast⟩, hmiddle⟩
      exact ⟨hbefore, hmiddle, hinner, hlast⟩
    · obtain ⟨before, middle, inner, last, hbefore, hmiddle, hinner, hlast, hrules, hroot, hignored⟩ :=
        rules_of_make hadded hx
      obtain ⟨before', middle', inner', last', hbefore', hmiddle', hinner', hlast', hrules', hroot', hignored'⟩ :=
        rules_of_make hnone hy
      cases hbefore.symm.trans hbefore'
      cases hinner.symm.trans hinner'
      cases hlast.symm.trans hlast'
      cases hmiddle'
      rw [List.append_nil] at hrules'
      exact ⟨before, middle, inner, last, hbefore, hmiddle, ⟨ignored, hignore, hinner⟩, hlast, hrules, hrules', hroot,
        hroot', hignored, hignored'⟩

/-- A list of texts excludes the same paths whether or not `load` is given its copy among the settings. -/
theorem load_list_twice {texts : List String} (h : Settings.ofProject t root = .ok settings)
    (hvalue : settings.member? "exclude" = some (.list (texts.map .text))) :
    (Succeeds (load t root false (.list (texts.map .text))).outcome.1 ↔
        Succeeds (load t root false .null).outcome.1) ∧
      ∀ x y, (load t root false (.list (texts.map .text))).outcome.1 = .ok x →
        (load t root false .null).outcome.1 = .ok y → ∀ p, x.excludes p = y.excludes p := by
  obtain ⟨hboth, hpatterns, hrules⟩ := load_twice _ h hvalue (areWritable_texts texts) (patternsIn_texts texts)
  refine ⟨⟨fun hx => (hboth.1 hx).1, fun hy => hboth.2 ⟨hy, hpatterns hy⟩⟩, fun x y hx hy => ?_⟩
  obtain ⟨before, middle, inner, last, hwidens⟩ := hrules x y hx hy
  -- the copy that was added stands before the ignore file, the other one after it
  cases hwidens.ofProject.symm.trans hwidens.ofExtra
  refine excludes_congr (hwidens.root.trans hwidens.root'.symm)
    (hwidens.includeIgnored.trans hwidens.includeIgnored'.symm) fun path => ?_
  rw [hwidens.rules, hwidens.rules']
  exact ExclusionRule.verdict_absorb before middle inner path

/-- The patterns of a project file in both readings together, by `Settings.excludes` and by `load`, against those of
the excluder alone. A list of texts comes to the same on all paths. A text adds a pattern for each of its `letters`,
so that the excluder is made if those are patterns; then it comes to the same exactly if, on each path that is not
left out by a directory, those patterns are `Idle`: on none of these they have the last word and say something else
than the `defaults`. It holds on any file system, with any reader of TOML and of exclusion lines. -/
theorem excludes_read_twice (h : Settings.ofProject t root = .ok settings)
    (hvalue : settings.member? "exclude" = some value) :
    (∀ texts : List String, value = .list (texts.map .text) →
      ∃ extra, Settings.excludes settings = .ok extra ∧
        (Succeeds (load t root false (.list extra)).outcome.1 ↔ Succeeds (load t root false .null).outcome.1) ∧
        ∀ x y, (load t root false (.list extra)).outcome.1 = .ok x → (load t root false .null).outcome.1 = .ok y →
          ∀ p, x.excludes p = y.excludes p) ∧
    ∀ text, value = .text text →
      ∃ extra, Settings.excludes settings = .ok extra ∧ extra = letters text ∧
        (Succeeds (load t root false (.list extra)).outcome.1 ↔
          Succeeds (load t root false .null).outcome.1 ∧ Succeeds (rulesOf extra)) ∧
        ∀ x y, (load t root false (.list extra)).outcome.1 = .ok x → (load t root false .null).outcome.1 = .ok y →
          ∃ before middle after, rulesOf (defaults.map .text) = .ok before ∧ rulesOf extra = .ok middle ∧
            x.rules = before ++ middle ++ after ∧ y.rules = before ++ after ∧
            ((∀ names, Proper names → x.excludes (root.below ⟨"", names⟩) = y.excludes (root.below ⟨"", names⟩)) ↔
              ∀ names, Proper names → (∃ name ∈ names.dropLast, ExclusionRule.verdict y.rules name = true) ∨
                ExclusionRule.Idle before middle after (Path.text ⟨"", names⟩)) := by
  have hextra := Settings.excludes_of_member? hvalue
  constructor
  · rintro texts rfl
    exact ⟨texts.map .text, hextra, load_list_twice h hvalue⟩
  · rintro text rfl
    obtain ⟨hsucceeds, -, hrules⟩ := load_twice (letters text) h hvalue rfl rfl
    refine ⟨letters text, hextra, rfl, hsucceeds, fun x y hx hy => ?_⟩
    obtain ⟨before, middle, inner, last, hwidens⟩ := hrules x y hx hy
    refine ⟨before, middle, inner ++ last, hwidens.ofDefaults, hwidens.ofExtra, hwidens.rules, hwidens.rules', ?_⟩
    have hiff := excludes_eq_iff (hwidens.root.trans hwidens.root'.symm) hwidens.includeIgnored hwidens.includeIgnored'
    rw [hwidens.root] at hiff
    rw [hiff]
    refine forall_congr' fun names => forall_congr' fun _ => or_congr Iff.rfl ?_
    rw [hwidens.rules, hwidens.rules']
    exact ExclusionRule.verdict_eq_iff_idle before middle (inner ++ last) _

end Excluder

end Readers

namespace Excluder

/-! ## Samples

A project whose file excludes one pattern, and one whose file excludes a list, in which the second pattern
takes back what the first one leaves out. -/

namespace Sample

def project (source : String) : FileTree :=
  ⟨[("p", .directory [("pyproject.toml", .file (Text.encodeUtf8 source.toList))])], ["p"]⟩

def onePattern : FileTree := project "tool.catchlint.exclude='*.js'"

def twoPatterns : FileTree := project "tool.catchlint.exclude=['*b','!ab']"

theorem find_project (source : String) :
    (project source).find ((project source).here.child Settings.projectFile) =
      .ok (.file (Text.encodeUtf8 source.toList)) := by
  have htext : ((project source).here.child Settings.projectFile).text = "/p/pyproject.toml" := rfl
  unfold FileTree.find
  rw [htext, if_neg (by decide), if_neg (by decide)]
  rfl

theorem exists?_ignore_project (source : String) :
    (project source).exists? ((project source).here.child ".gitignore") = .ok false := by
  have htext : ((project source).here.child ".gitignore").text = "/p/.gitignore" := rfl
  have hfind : (project source).find ((project source).here.child ".gitignore") = .error .noSuchFile := by
    unfold FileTree.find
    rw [htext, if_neg (by decide), if_neg (by decide)]
    rfl
  simp [FileTree.exists?, FileTree.look, hfind, FileReason.isAbsence, bind, Except.bind, pure, Except.pure]

theorem ofProject_project {source : String} {value : Document}
    (hdecode : Text.decodeUtf8 (Text.encodeUtf8 source.toList) = .ok source.toList)
    (hparse : TomlReader.read source.toList = .ok [("tool", .object [("catchlint", .object [("exclude", value)])])]) :
    Settings.ofProject (project source) (project source).here = .ok (.object [("exclude", value)]) := by
  have hfind := find_project source
  refine Settings.ofProject_of_read ?_ ?_ hdecode hparse rfl
  · show (project source).exists? _ = _
    simp [FileTree.exists?, FileTree.look, hfind, bind, Except.bind, pure, Except.pure]
  · show (project source).read _ = _
    simp [FileTree.read, hfind]

theorem ofProject_onePattern :
    Settings.ofProject onePattern onePattern.here = .ok (.object [("exclude", .text "*.js")]) := by
  have hdecode : Text.decodeUtf8 (Text.encodeUtf8 "tool.catchlint.exclude='*.js'".toList) =
      .ok "tool.catchlint.exclude='*.js'".toList := by cbv
  have hparse : TomlReader.read "tool.catchlint.exclude='*.js'".toList =
      .ok [("tool", .object [("catchlint", .object [("exclude", .text "*.js")])])] := by cbv
  exact ofProject_project hdecode hparse

theorem ofProject_twoPatterns :
    Settings.ofProject twoPatterns twoPatterns.here =
      .ok (.object [("exclude", .list (["*b", "!ab"].map .text))]) := by
  have hdecode : Text.decodeUtf8 (Text.encodeUtf8 "tool.catchlint.exclude=['*b','!ab']".toList) =
      .ok "tool.catchlint.exclude=['*b','!ab']".toList := by cbv
  have hparse : TomlReader.read "tool.catchlint.exclude=['*b','!ab']".toList =
      .ok [("tool", .object [("catchlint", .object [("exclude", .list [.text "*b", .text "!ab"])])])] := by cbv
  exact ofProject_project hdecode hparse

/-- By `load` the excluder of the `project` is made if the value gives patterns. -/
theorem load_project {source : String} {value : Document} {patterns : List Document}
    (h : Settings.ofProject (project source) (project source).here = .ok (.object [("exclude", value)]))
    (hwritable : value.isWritable = true) (hpatterns : patterns = if value.truthy then patternsIn value else [])
    (hlast : Succeeds (rulesOf patterns)) :
    Succeeds (load (project source) (project source).here false .null).outcome.1 := by
  have hnone : additional .null = .ok [] := rfl
  obtain ⟨origin, horigin⟩ := ofProjectFile_of_ofProject h rfl hwritable
  rw [load_outcome, ofIgnoreFile_of_absent (exists?_ignore_project source), horigin, ← hpatterns]
  simp only [bind, Except.bind]
  exact (make_succeeds_iff hnone).2 ⟨rulesOf_names ExclusionLine.readsNames defaults_nameLine, succeeds_ok [],
    succeeds_ok [], hlast⟩

theorem accepts_star : (ruleOf (.text "*")).toOption.any (fun rule => rule.any fun r => r.accepts "b") = true := by cbv

/-- The pattern `*.js` does not match the name. -/
theorem decision?_pattern {last : List ExclusionRule} (h : rulesOf [.text "*.js"] = .ok last) :
    ExclusionRule.decision? last "b" = none := by
  have hnone : (rulesOf [.text "*.js"]).toOption.all (fun rules => rules.all fun r => !r.accepts "b") = true := by
    decide +kernel
  rw [h] at hnone
  exact ExclusionRule.decision?_eq_none_iff.2 (by simpa [Except.toOption] using hnone)

/-- Of the characters of `*.js`, each by itself, the first one leaves out any name, and none takes it back. -/
theorem decision?_letters {middle : List ExclusionRule} (h : rulesOf (letters "*.js") = .ok middle) :
    ExclusionRule.decision? middle "b" = some true := by
  have hexcludes : (rulesOf (letters "*.js")).toOption.all (fun rules => rules.all fun r => r.excludes) = true := by
    decide +kernel
  rw [h] at hexcludes
  simp only [Except.toOption, Option.all_some, List.all_eq_true] at hexcludes
  have hstar := accepts_star
  have hletters : letters "*.js" = .text "*" :: letters ".js" := rfl
  rw [hletters, rulesOf] at h
  obtain ⟨rule, hrule, h⟩ := bind_ok h
  obtain ⟨others, hothers, h⟩ := bind_ok h
  cases h
  rw [hrule] at hstar
  simp only [Except.toOption, Option.any_some, Option.any_eq_true] at hstar
  obtain ⟨r, rfl, hin⟩ := hstar
  exact ExclusionRule.decision?_of_excludes hexcludes (List.mem_append_left _ (by simp)) hin

end Sample

/-- Of `twoPatterns`, a list, both readings together exclude what the excluder's alone does. -/
theorem excludes_read_twice_sample :
    Settings.ofProject Sample.twoPatterns Sample.twoPatterns.here =
        .ok (.object [("exclude", .list (["*b", "!ab"].map .text))]) ∧
      ∃ extra x y, Settings.excludes (.object [("exclude", .list (["*b", "!ab"].map .text))]) = .ok extra ∧
        (load Sample.twoPatterns Sample.twoPatterns.here false (.list extra)).outcome.1 = .ok x ∧
        (load Sample.twoPatterns Sample.twoPatterns.here false .null).outcome.1 = .ok y ∧
        ∀ p, x.excludes p = y.excludes p := by
  have h := Sample.ofProject_twoPatterns
  have hpatterns : Succeeds (rulesOf (["*b", "!ab"].map .text)) := by decide +kernel
  obtain ⟨y, hy⟩ := Sample.load_project h (areWritable_texts _) (patternsIn_texts _) hpatterns
  obtain ⟨extra, hextra, hsucceeds, hsame⟩ := (excludes_read_twice h rfl).1 ["*b", "!ab"] rfl
  obtain ⟨x, hx⟩ := hsucceeds.2 ⟨y, hy⟩
  exact ⟨h, extra, x, y, hextra, hx, hy, hsame x y hx hy⟩

/-- The pattern `*.js` as a text: its first character alone leaves out every file. -/
theorem text_excludes_read_twice_differ :
    Settings.ofProject Sample.onePattern Sample.onePattern.here = .ok (.object [("exclude", .text "*.js")]) ∧
      ∃ extra x y, Settings.excludes (.object [("exclude", .text "*.js")]) = .ok extra ∧
        (load Sample.onePattern Sample.onePattern.here false (.list extra)).outcome.1 = .ok x ∧
        (load Sample.onePattern Sample.onePattern.here false .null).outcome.1 = .ok y ∧
        x.excludes (.parse "/p/b") = true ∧ y.excludes (.parse "/p/b") = false := by
  have h := Sample.ofProject_onePattern
  have hletters : Succeeds (rulesOf (letters "*.js")) := by decide +kernel
  have hpattern : Succeeds (rulesOf [.text "*.js"]) := by decide +kernel
  have hpatterns : [Document.text "*.js"] =
      if (Document.text "*.js").truthy then patternsIn (.text "*.js") else [] := rfl
  obtain ⟨y, hy⟩ := Sample.load_project h rfl hpatterns hpattern
  obtain ⟨hboth, -, hrules⟩ := load_twice (letters "*.js") h rfl rfl hpatterns
  obtain ⟨x, hx⟩ := hboth.2 ⟨⟨y, hy⟩, hletters⟩
  obtain ⟨before, middle, inner, last, hwidens⟩ := hrules x y hx hy
  obtain ⟨ignored, hignored, hinner⟩ := hwidens.ofIgnored
  cases hignored.symm.trans (ofIgnoreFile_of_absent (Sample.exists?_ignore_project _))
  cases hinner
  -- neither a default nor the pattern itself matches this name
  have hdefaults : ExclusionRule.verdict before "b" = false := by
    have hproper : Proper ["b"] := by unfold Proper; decide +kernel
    have hone : ExclusionLine.OneLine ["b"] := by unfold ExclusionLine.OneLine; decide +kernel
    have hnames := verdict_defaults ExclusionLine.readsNames hwidens.ofDefaults hproper hone (List.cons_ne_nil _ _)
    rw [text_singleton] at hnames
    exact Bool.eq_false_iff.2 (mt hnames.1 (by decide +kernel))
  have hpattern := Sample.decision?_pattern hwidens.ofProject
  have hstar := Sample.decision?_letters hwidens.ofExtra
  have htext : Path.text ⟨"", ["b"]⟩ = "b" := text_singleton "b"
  have hxpath : Path.parse "/p/b" = x.root.below ⟨"", ["b"]⟩ := by
    rw [hwidens.root]
    rfl
  have hypath : Path.parse "/p/b" = y.root.below ⟨"", ["b"]⟩ := by
    rw [hwidens.root']
    rfl
  refine ⟨h, letters "*.js", x, y, rfl, hx, hy, ?_, ?_⟩
  · rw [hxpath, excludes_below hwidens.includeIgnored rfl, htext, ExclusionRule.verdict_eq, hwidens.rules]
    simp [ExclusionRule.decision?_append, hpattern, hstar]
  · rw [hypath, excludes_below hwidens.includeIgnored' rfl, htext, ExclusionRule.verdict_eq, hwidens.rules']
    rw [ExclusionRule.verdict_eq] at hdefaults
    simp [ExclusionRule.decision?_append, hpattern, hdefaults]

end Excluder

end CatchAudit
