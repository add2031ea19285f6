/-
What the settings and the command line say together. The settings are read, the options of the rule are taken
from them, with the pattern of the command line in the first place, and the severity is looked up. All this
comes to a setup, or to an error of the settings with which the session ends, exactly if none of three stages
meets a cause that is no error of the settings.
-/
import CatchAudit.CommandLine.Session
import CatchAudit.Libraries
import CatchAudit.Proofs.Settings.Rejection
import Mathlib

namespace CatchAudit.CommandLine.Session

variable {r : Request} {settings : Document}

/-! ## Settings -/

section Reading

variable [TomlReader] {σ : Type} [FileSystem σ] {t : σ} {root : Path}

/-- Settings that `settingsOf` neither reads nor rejects: those of the file that is asked for, or those of the
project. -/
inductive ReadingEscapes (t : σ) (root : Path) (r : Request) : Prop
  | named {p : Path} (hp : r.settings = some p) (h : Settings.Escapes t p)
  | project (hnone : r.settings = none) (hexists : FileSystem.exists? t (root.child Settings.projectFile) = .ok true)
      (h : Settings.Escapes t (root.child Settings.projectFile))
  /-- It cannot be told whether there is a project file. -/
  | untold {e : FileError} (hnone : r.settings = none)
      (h : FileSystem.exists? t (root.child Settings.projectFile) = .error e)

theorem settles_settingsOf_iff : Settles (settingsOf t root r) ↔ ¬ ReadingEscapes t root r := by
  unfold settingsOf
  cases hr : r.settings with
  | some p =>
    dsimp only
    rw [Settings.settles_load_iff]
    refine not_congr ⟨.named hr, fun h => ?_⟩
    cases h with
    | named hp h =>
      cases hr.symm.trans hp
      exact h
    | project hnone _ _ => cases hr.symm.trans hnone
    | untold hnone _ => cases hr.symm.trans hnone
  | none =>
    unfold Settings.ofProject
    dsimp only
    -- whether the project file is there comes first; only a file that is there is read
    rw [settles_bind_iff, Settings.settles_ofFile_iff]
    constructor
    · rintro ⟨⟨present, hpresent⟩, hload⟩ h
      cases h with
      | named hp _ => cases hr.symm.trans hp
      | project _ hexists h =>
        have hsettles := hload true (by rw [hexists]; rfl)
        rw [if_pos rfl, Settings.settles_load_iff] at hsettles
        exact hsettles h
      | untold _ h =>
        rw [hpresent] at h
        cases h
    · intro h
      refine ⟨?_, fun present hpresent => ?_⟩
      · cases hexists : FileSystem.exists? t (root.child Settings.projectFile) with
        | ok present => exact succeeds_ok present
        | error e => exact absurd (.untold hr hexists) h
      · cases present with
        | false => exact settles_ok _
        | true =>
          rw [if_pos rfl, Settings.settles_load_iff]
          exact fun hescapes => h (.project hr (Settings.ofFile_ok hpresent) hescapes)

theorem settingsOf_object (h : settingsOf t root r = .ok settings) : ∃ members, settings = .object members := by
  have hload : ∀ {p : Path}, Settings.load t p = .ok settings → ∃ members, settings = .object members := by
    intro p hp
    obtain ⟨d, -, hp⟩ := bind_ok hp
    cases d with
    | object members =>
      cases hp
      exact ⟨members, rfl⟩
    | _ => cases hp
  unfold settingsOf at h
  split at h
  · exact hload h
  · obtain ⟨present, -, h⟩ := bind_ok h
    cases present with
    | true => exact hload h
    | false =>
      cases h
      exact ⟨[], rfl⟩

end Reading

/-! ## Options -/

/-- The value of the pattern: that of the command line, else one beside the options, where the last of the
`patternNames` wins, else the one among the options. -/
def chosenPattern? (r : Request) (settings : Document) (options : List (Document × Document)) : Option Document :=
  (r.pattern.map .text).or <| (settings.member? "ignore_pattern").or <| (settings.member? "ignore-pattern").or <|
    (settings.member? "ignorePattern").or (RuleOptions.patternOf? options)

/-- Options that `optionsOf` neither takes nor rejects. -/
inductive OptionsEscape (r : Request) (settings : Document) : Prop
  | notEntries (h : ¬ (Settings.optionsValue settings).HoldsEntries)
  | keyShape {options : List (Document × Document)} {key value : Document}
      (hoptions : (Settings.optionsValue settings).entries = .ok options) (hkey : (key, value) ∈ options)
      (hshape : key.shape ≠ .text)
  | limit {options : List (Document × Document)} {source : String} {e : PatternError}
      (hoptions : (Settings.optionsValue settings).entries = .ok options)
      (hknown : ∀ entry ∈ options, entry.1 = .text "ignorePattern")
      (hpattern : chosenPattern? r settings options = some (.text source))
      (hparse : SearchPattern.parse source = .error e) (hlimit : e.isLimit = true)

/-- The options with all patterns in their order of precedence. -/
def entriesOf (r : Request) (settings : Document) (options : List (Document × Document)) : List (Document × Document) :=
  let entries := Settings.patternNames.foldl (Settings.withPattern settings) options
  match r.pattern with
  | some s => Document.setEntry (.text "ignorePattern") (.text s) entries
  | none => entries

theorem unknownKeys_entriesOf (options : List (Document × Document)) :
    RuleOptions.unknownKeys (entriesOf r settings options) = RuleOptions.unknownKeys options := by
  unfold entriesOf
  cases r.pattern with
  | none => simp [Settings.patternNames, Settings.unknownKeys_withPattern]
  | some s => simp [Settings.patternNames, Settings.unknownKeys_withPattern, RuleOptions.unknownKeys_setEntry]

theorem patternOf?_entriesOf (options : List (Document × Document)) :
    RuleOptions.patternOf? (entriesOf r settings options) = chosenPattern? r settings options := by
  unfold entriesOf chosenPattern?
  cases r.pattern with
  | none => simp [Settings.patternNames, Settings.patternOf?_withPattern]
  | some s => simp [RuleOptions.patternOf?_setEntry]

theorem optionsOf_object (members : List (String × Document)) :
    optionsOf r (.object members) =
      Settings.ofFault (Settings.optionsValue (.object members)).entries >>= fun options =>
        RuleOptions.ofEntries (entriesOf r (.object members) options) := by
  have hoptions : (Document.object members).getD "options" (.object []) =
      .ok (Settings.optionsValue (.object members)) := rfl
  unfold optionsOf Settings.ruleOptions
  rw [hoptions]
  cases h : (Settings.optionsValue (.object members)).entries with
  | error f => simp [h, bind, Except.bind, Settings.ofFault]
  | ok options =>
    unfold entriesOf
    cases r.pattern <;> simp only [h, bind, Except.bind, Settings.ofFault, pure, Except.pure]

/-- Known keys are texts, so that the `unknownKeys` are texts if all keys are. -/
theorem unknownKeys_texts_iff {options : List (Document × Document)} :
    (∀ key ∈ RuleOptions.unknownKeys options, key.shape = .text) ↔ ∀ entry ∈ options, entry.1.shape = .text := by
  constructor
  · intro h entry hentry
    by_cases hknown : entry.1.isText "ignorePattern" = true
    · cases hkey : entry.1 with
      | text s => rfl
      | _ =>
        rw [hkey] at hknown
        cases hknown
    · refine h entry.1 (List.mem_filter.2 ⟨List.mem_map_of_mem hentry, ?_⟩)
      rw [RuleOptions.any_optionNames]
      simpa using hknown
  · intro h key hkey
    obtain ⟨entry, hentry, rfl⟩ := List.mem_map.1 (List.mem_of_mem_filter hkey)
    exact h entry hentry

theorem unknownKeys_eq_nil_iff {options : List (Document × Document)} :
    RuleOptions.unknownKeys options = [] ↔ ∀ entry ∈ options, entry.1 = .text "ignorePattern" := by
  have hkey : ∀ key : Document, key.isText "ignorePattern" = true ↔ key = .text "ignorePattern" := by
    intro key
    cases key <;> simp [Document.isText]
  unfold RuleOptions.unknownKeys
  simp [List.filter_eq_nil_iff, RuleOptions.any_optionNames, hkey]

theorem settles_optionsOf_iff (hobject : ∃ members, settings = .object members) :
    Settles (optionsOf r settings) ↔ ¬ OptionsEscape r settings := by
  obtain ⟨members, rfl⟩ := hobject
  rw [optionsOf_object, settles_bind_iff, Settings.settles_ofFault_iff]
  cases hentries : (Settings.optionsValue (.object members)).entries with
  | error f =>
    refine iff_of_false (fun h => ?_) (not_not.2 (.notEntries fun h => ?_))
    · obtain ⟨options, hoptions⟩ := h.1
      cases hoptions
    · obtain ⟨options, hoptions⟩ := Document.entries_succeeds_iff.2 h
      rw [hentries] at hoptions
      cases hoptions
  | ok options =>
    -- the keys and values are at hand, so that what has to be settled is what they give
    have hstep : (Succeeds (.ok options : Except Fault _) ∧ ∀ a, Settings.ofFault (.ok options) = .ok a →
        Settles (RuleOptions.ofEntries (entriesOf r (.object members) a))) ↔
        Settles (RuleOptions.ofEntries (entriesOf r (.object members) options)) := by
      refine ⟨fun h => h.2 options rfl, fun h => ⟨succeeds_ok options, fun a ha => ?_⟩⟩
      cases ha
      exact h
    rw [hstep, RuleOptions.settles_ofEntries_iff, unknownKeys_entriesOf, patternOf?_entriesOf, unknownKeys_texts_iff,
      unknownKeys_eq_nil_iff]
    constructor
    · rintro ⟨htexts, hlimit⟩ h
      cases h with
      | notEntries h => exact h (Document.entries_succeeds_iff.1 ⟨options, hentries⟩)
      | keyShape hoptions hkey hshape =>
        cases hentries.symm.trans hoptions
        exact hshape (htexts _ hkey)
      | limit hoptions hknown hpattern hparse hlimit' =>
        cases hentries.symm.trans hoptions
        exact hlimit ⟨_, _, hknown, hpattern, hparse, hlimit'⟩
    · intro h
      constructor
      · rintro ⟨key, value⟩ hkey
        by_contra hshape
        exact h (.keyShape hentries hkey hshape)
      · rintro ⟨source, e, hknown, hpattern, hparse, hlimit⟩
        exact h (.limit hentries hknown hpattern hparse hlimit)

/-! ## Both together -/

/-- A severity that `severityOf` neither knows nor rejects. -/
def SeverityEscapes (settings : Document) : Prop :=
  ∃ value, settings.member? "severity" = some value ∧
    (value.shape ≠ .int ∧ value.shape ≠ .bool ∧ value.shape ≠ .text ∨ value.isWritable = false)

theorem settles_severity_iff (hobject : ∃ members, settings = .object members) :
    Settles (Settings.ofFault (Settings.severityValue settings) >>= Settings.severityOf) ↔
      ¬ SeverityEscapes settings := by
  obtain ⟨members, rfl⟩ := hobject
  have hvalue : Settings.severityValue (.object members) =
      .ok ((memberOf? "severity" members).getD (.text "error")) := rfl
  rw [hvalue]
  change Settles (Settings.severityOf _) ↔ _
  rw [Settings.settles_severityOf_iff]
  have hmember : (Document.object members).member? "severity" = memberOf? "severity" members := rfl
  unfold SeverityEscapes
  rw [hmember]
  cases memberOf? "severity" members with
  | none =>
    refine iff_of_true ⟨.inr (.inr rfl), rfl⟩ ?_
    rintro ⟨value, hvalue, -⟩
    cases hvalue
  | some value =>
    simp only [Option.getD_some, Option.some.injEq, exists_eq_left', Bool.eq_false_iff]
    tauto

section Setup

variable [TomlReader] {σ : Type} [FileSystem σ]

/-- Settings that `setupOf` makes neither a setup nor an error of the settings: they cannot be read, or their options
cannot be taken, or, where options were taken, the severity cannot be looked up. -/
inductive Escapes (t : σ) (root : Path) (r : Request) : Prop
  | reading (h : ReadingEscapes t root r)
  | options {settings : Document} (hsettings : settingsOf t root r = .ok settings) (h : OptionsEscape r settings)
  | severity {settings : Document} {options : RuleOptions} (hsettings : settingsOf t root r = .ok settings)
      (hoptions : optionsOf r settings = .ok options) (h : SeverityEscapes settings)

theorem settles_setupOf_iff {t : σ} {root : Path} : Settles (setupOf t root r) ↔ ¬ Escapes t root r := by
  -- what is left to settle once the settings are read; the severity is looked up only after the options are taken
  have hrest : ∀ settings, settingsOf t root r = .ok settings →
      (Settles (optionsOf r settings >>= fun options =>
        Settings.ofFault (Settings.severityValue settings) >>= fun value =>
        Settings.severityOf value >>= fun severity =>
          pure (⟨settings, options, severity⟩ : Setup)) ↔
      ¬ OptionsEscape r settings ∧ ∀ options, optionsOf r settings = .ok options → ¬ SeverityEscapes settings) := by
    intro settings hsettings
    have hobject := settingsOf_object hsettings
    rw [settles_bind_iff, settles_optionsOf_iff hobject]
    refine and_congr_right fun _ => forall_congr' fun options => forall_congr' fun _ => ?_
    rw [← settles_severity_iff hobject, settles_bind_iff, settles_bind_iff]
    refine and_congr_right fun _ => forall_congr' fun value => forall_congr' fun _ => ?_
    rw [settles_bind_iff]
    exact ⟨fun h => h.1, fun h => ⟨h, fun severity _ => settles_ok _⟩⟩
  unfold setupOf
  rw [settles_bind_iff, settles_settingsOf_iff]
  constructor
  · rintro ⟨hreading, hsteps⟩ h
    cases h with
    | reading h => exact hreading h
    | options hsettings h => exact ((hrest _ hsettings).1 (hsteps _ hsettings)).1 h
    | severity hsettings hoptions h => exact ((hrest _ hsettings).1 (hsteps _ hsettings)).2 _ hoptions h
  · intro h
    refine ⟨fun hreading => h (.reading hreading), fun settings hsettings => (hrest settings hsettings).2 ⟨?_, ?_⟩⟩
    · exact fun hoptions => h (.options hsettings hoptions)
    · exact fun options hoptions hseverity => h (.severity hsettings hoptions hseverity)

/-- The outcome of `setupOf` on any file system, with any reader of TOML: a setup, or an error of the settings,
exactly if `Escapes` names no cause of something else. By `setup` the session then ends with code 2 exactly if there
is such an error and the console can show its message. Recursion has no limit here: settings and patterns whose
nesting is too deep for a limit on it are not among the causes, and neither are texts with lone surrogates, which a
`String` does not have. -/
theorem setup_settles_iff [Console] (t : σ) (root : Path) (r : Request) :
    ((∃ s, setupOf t root r = .ok s) ∨ (∃ e, setupOf t root r = .error (.settings e)) ↔ ¬ Escapes t root r) ∧
      ∀ progress, ((setup t root r).run progress).1 = .error (.exit 2) ↔
        ∃ e, setupOf t root r = .error (.settings e) ∧
          Succeeds (Console.shown ("[red]Configuration error:[/] " ++ e.message)) := by
  refine ⟨settles_setupOf_iff, fun progress => ?_⟩
  unfold setup
  rcases hsetup : setupOf t root r with f | s
  · cases f with
    | settings e =>
      dsimp only
      rw [run_bind]
      unfold note
      rw [run_bind]
      cases hplain : Console.shown ("[red]Configuration error:[/] " ++ e.message) with
      | ok shown =>
        refine iff_of_true rfl ⟨e, rfl, shown, hplain⟩
      | error f =>
        refine iff_of_false (fun h => ?_) ?_
        · cases h
        · rintro ⟨e', he, shown, hshown⟩
          cases he
          rw [hplain] at hshown
          cases hshown
    | _ =>
      refine iff_of_false (fun h => ?_) fun ⟨e, he, _⟩ => by cases he
      cases h
  · refine iff_of_false (fun h => ?_) fun ⟨e, he, _⟩ => by cases he
    cases h

end Setup

namespace Sample

def text : String := "\x7b\"severity\": null\x7d"

/-- A settings file in the root directory whose severity is null. -/
def tree : FileTree := ⟨[("c.json", .file (Text.encodeUtf8 text.toList))], []⟩

def request : Request := ⟨[⟨"", ["a.scope.json"]⟩], none, some ⟨"", ["c.json"]⟩, .compact, none, false, false⟩

end Sample

open Sample in
/-- A severity that is `null` is no error of the settings: `setupOf` stops at an operation that null does not have. -/
theorem setupOf_null_severity :
    setupOf tree ⟨"/", tree.current⟩ request = .error (.fault (.noOperation .null "lower")) := by
  have hread : FileSystem.read tree ⟨"", ["c.json"]⟩ = .ok (Text.encodeUtf8 text.toList) := rfl
  have hutf8 : Text.decodeUtf8 (Text.encodeUtf8 text.toList) = .ok text.toList := by cbv
  have hjson : Json.parse (Text.plainLineEnds text.toList) = .ok (.object [("severity", .null)]) := by cbv
  have hsuffix : Path.suffix ⟨"", ["c.json"]⟩ ≠ ".toml" := by decide +kernel
  have hsettings : settingsOf tree ⟨"/", tree.current⟩ request = .ok (.object [("severity", .null)]) := by
    simp [settingsOf, request, Settings.load, Settings.readDocument, Settings.readText, hread, hutf8, hjson, hsuffix,
      bind, Except.bind, pure, Except.pure]
  unfold setupOf
  rw [hsettings]
  rfl

end CatchAudit.CommandLine.Session
