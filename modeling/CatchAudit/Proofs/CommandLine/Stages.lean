/-
The stages of a check once its settings are known: exclusion, discovery, the check itself, and the output
of its results. Whatever goes wrong in one of them leaves the session as a failure, and never as an error
of the settings. So errors of the settings arise where the settings are read and nowhere else.
-/
import CatchAudit.CommandLine.Session
import CatchAudit.Proofs.Outcome

namespace CatchAudit

def Failure.isSettings : Failure → Bool
  | .settings _ => true
  | _ => false

/-- The failure is no `SettingsError`. -/
def Failure.Foreign (f : Failure) : Prop := f.isSettings = false

/-- What goes wrong is no error of the settings. -/
abbrev FailsForeign {α : Type} (x : Except Failure α) : Prop := Answers Failure.Foreign (fun _ => True) x

/-- What goes wrong is no error of the settings, whatever was logged before. -/
abbrev Logged.FailsForeign {α : Type} (x : Logged Failure α) : Prop :=
  Ensures (fun _ => True) Failure.Foreign (fun _ => True) x

theorem Ensures.throw {ε σ α : Type} {I : σ → Prop} {P : ε → Prop} {Q : α → Prop} {e : ε} (h : P e) :
    Ensures I P Q (throw e : ExceptT ε (StateM σ) α) := fun _ hs => ⟨hs, h⟩

theorem Logged.note_foreign (records : Log) : (Logged.note records).FailsForeign := .modify fun _ _ => trivial

theorem Settings.ofFile_foreign {α : Type} (x : Except FileError α) : FailsForeign (Settings.ofFile x) := by
  cases x with
  | ok a => exact trivial
  | error e => exact rfl

theorem Settings.ofFault_foreign {α : Type} (x : Except Fault α) : FailsForeign (Settings.ofFault x) := by
  cases x with
  | ok a => exact trivial
  | error f => exact rfl

theorem Console.shown_foreign [Console] (s : String) : FailsForeign (Console.shown s) := by
  unfold Console.shown
  split
  · exact trivial
  · next e _ => cases e <;> exact rfl

/-! ## Exclusion and discovery -/

section Exclusion

variable {σ : Type} [FileSystem σ]

namespace Excluder

theorem ofFile_foreign {α : Type} (x : Except FileError α) : (Excluder.ofFile x).FailsForeign := by
  cases x with
  | ok a => exact .pure trivial
  | error e => exact .throw rfl

theorem ofIgnoreFile_foreign (t : σ) (root : Path) : (ofIgnoreFile t root).FailsForeign := by
  unfold ofIgnoreFile
  refine (ofFile_foreign _).bind fun present _ => ?_
  split
  · exact .pure trivial
  · split
    · exact (Logged.note_foreign _).bind fun _ _ => .pure trivial
    · split
      · exact .throw rfl
      · exact .pure trivial

theorem ofProjectFile_foreign [TomlReader] (t : σ) (root : Path) : (ofProjectFile t root).FailsForeign := by
  unfold ofProjectFile
  refine (ofFile_foreign _).bind fun present _ => ?_
  split
  · exact .pure trivial
  · split
    · exact (Logged.note_foreign _).bind fun _ _ => .pure trivial
    · split
      · exact .throw rfl
      · split
        · exact .throw rfl
        · exact (Logged.note_foreign _).bind fun _ _ => .pure trivial
        · split
          · exact .throw rfl
          · split
            · exact .throw rfl
            · split
              · exact .pure trivial
              · split
                · exact .throw rfl
                · exact .pure trivial

variable [LineReader]

theorem ruleOf_foreign (d : Document) : FailsForeign (ruleOf d) := by
  unfold ruleOf
  split
  · exact trivial
  · split
    · split <;> first | exact trivial | exact rfl
    · cases d.isWritable <;> exact rfl

theorem rulesOf_foreign (ds : List Document) : FailsForeign (rulesOf ds) := by
  induction ds with
  | nil => exact trivial
  | cons d rest ih =>
    rw [rulesOf]
    exact (ruleOf_foreign d).bind fun _ _ => ih.bind fun _ _ => trivial

theorem make_foreign (root : Path) (extra : Document) (ignored project : Found) :
    FailsForeign (make root extra ignored project) := by
  have hadditional : FailsForeign (additional extra) := by
    unfold additional
    split
    · exact trivial
    · exact Settings.ofFault_foreign _
  unfold make
  refine hadditional.bind fun more _ => ?_
  -- kept apart from the patterns themselves, which would be computed with
  generalize defaults.map Document.text ++ more ++ ignored.1 ++ project.1 = patterns
  exact (rulesOf_foreign patterns).bind fun _ _ => trivial

theorem load_foreign [TomlReader] (t : σ) (root : Path) (includeIgnored : Bool) (extra : Document) :
    (load t root includeIgnored extra).FailsForeign := by
  unfold load
  split
  · exact .pure trivial
  · refine (ofIgnoreFile_foreign t root).bind fun ignored _ => (ofProjectFile_foreign t root).bind fun project _ => ?_
    exact Ensures.lift (make_foreign root extra ignored project)

end Excluder

namespace Discovery

theorem searchAll_foreign (t : σ) (x : Excluder) (directory : Path) : ∀ (globs : List Document) (found : List Path),
    FailsForeign (searchAll t x directory found globs)
  | [], _ => trivial
  | glob :: rest, found => by
    have hglob : FailsForeign (globFiles t directory glob) := by
      unfold globFiles
      split
      · split
        · exact Settings.ofFile_foreign _
        · exact rfl
      · exact rfl
    exact hglob.bind fun _ _ => searchAll_foreign t x directory rest _

theorem discoverFrom_foreign (t : σ) (x : Excluder) (includes : Document) : ∀ (paths found : List Path),
    (discoverFrom t x includes found paths).FailsForeign
  | [], _ => .pure trivial
  | p :: rest, found => by
    unfold discoverFrom
    refine (Excluder.ofFile_foreign _).bind fun isFile _ => ?_
    split
    · exact discoverFrom_foreign t x includes rest _
    · refine (Excluder.ofFile_foreign _).bind fun isDirectory _ => ?_
      split
      · exact (Logged.note_foreign _).bind fun _ _ => discoverFrom_foreign t x includes rest found
      · dsimp only
        split
        · refine Ensures.bind (Q := fun _ => True) (.pure trivial) fun globs _ => ?_
          have hsearch := searchAll_foreign t x p globs found
          split
          · exact Ensures.bind (Q := fun _ => True) (.pure trivial) fun found _ =>
              discoverFrom_foreign t x includes rest found
          · next f hf =>
            rw [hf] at hsearch
            exact Ensures.bind (Q := fun _ => False) (.throw hsearch) fun _ h => h.elim
        · exact Ensures.bind (Q := fun _ => False) (.throw rfl) fun _ h => h.elim

theorem discover_foreign (t : σ) (x : Excluder) (includes : Document) (paths : List Path) :
    (discover t x includes paths).FailsForeign := discoverFrom_foreign t x _ paths []

end Discovery

end Exclusion

/-! ## The check -/

namespace Check

theorem checkFile_foreign (t : FileTree) (options : RuleOptions) (severity : Severity) (p : Path) :
    (checkFile t options severity p).FailsForeign := by
  unfold checkFile
  rcases Dump.load t p with ⟨loaded, log⟩
  refine (Logged.note_foreign _).bind fun _ _ => ?_
  split
  · exact (Logged.note_foreign _).bind fun _ _ => .pure trivial
  · exact .throw rfl
  · next dump =>
    have hanalyze :
        ((analyze dump.forest options severity UnhandledCatch.ruleName).mapError Failure.fault).FailsForeign := by
      intro log _
      rw [Logged.mapError_run]
      rcases (analyze dump.forest options severity UnhandledCatch.ruleName).run log with ⟨f | found, log'⟩
      · exact ⟨trivial, rfl⟩
      · exact ⟨trivial, trivial⟩
    exact hanalyze.bind fun _ _ => (Logged.note_foreign _).bind fun _ _ => .pure trivial

theorem checkFiles_foreign (t : FileTree) (options : RuleOptions) (severity : Severity) : ∀ files : List Path,
    (checkFiles t options severity files).FailsForeign
  | [] => .pure trivial
  | p :: rest => (checkFile_foreign t options severity p).bind fun _ _ =>
      (checkFiles_foreign t options severity rest).bind fun _ _ => .pure trivial

theorem run_foreign (t : FileTree) (clock : Clock) (options : RuleOptions) (severity : Severity) (files : List Path) :
    (run t clock options severity files).FailsForeign :=
  (checkFiles_foreign t options severity files).bind fun _ _ => .pure trivial

end Check

/-! ## Output -/

namespace ResultsTree

variable [Console]

theorem styled_foreign (style text : String) : FailsForeign (styled style text) := Console.shown_foreign _

mutual
theorem outlineOf_foreign : ∀ x : Listing, FailsForeign (outlineOf x)
  | .directory _ entries => by
    rw [outlineOf]
    exact (styled_foreign _ _).bind fun _ _ => (outlinesOf_foreign entries).bind fun _ _ => trivial
  | .file _ _ => by
    rw [outlineOf]
    exact (styled_foreign _ _).bind fun _ _ => trivial

theorem outlinesOf_foreign : ∀ xs : List Listing, FailsForeign (outlinesOf xs)
  | [] => by
    rw [outlinesOf]
    exact trivial
  | x :: rest => by
    rw [outlinesOf]
    exact (outlineOf_foreign x).bind fun _ _ => (outlinesOf_foreign rest).bind fun _ _ => trivial
end

theorem outline_foreign (root : Path) (r : Results) : FailsForeign (outline root r) := by
  unfold outline
  dsimp only
  split
  · next entries _ =>
    refine Answers.bind (Q := fun _ => True) trivial fun entries _ => (styled_foreign _ _).bind fun label _ => ?_
    exact (outlinesOf_foreign entries).bind fun _ _ => trivial
  · exact Answers.bind (Q := fun _ => False) rfl fun _ h => h.elim

end ResultsTree

/-! ## Sessions -/

namespace CommandLine

/-- The session ends with a failure that is no error of the settings. -/
def Ending.Foreign (e : Ending) : Prop := ∃ f, e = .failed f ∧ f.Foreign

namespace Session

/-- If the stage ends the session, then with a failure that is `Foreign`. -/
abbrev FailsForeign {α : Type} (x : Session α) : Prop :=
  Ensures (fun _ => True) Ending.Foreign (fun _ => True) x

theorem ofFailure_foreign {α : Type} {x : Except Failure α} (h : CatchAudit.FailsForeign x) :
    (ofFailure x).FailsForeign := by
  cases x with
  | ok a => exact .pure trivial
  | error f => exact .throw ⟨f, rfl, h⟩

theorem ofFault_foreign {α : Type} (x : Except Fault α) : (ofFault x).FailsForeign := by
  cases x with
  | ok a => exact .pure trivial
  | error f => exact .throw ⟨_, rfl, rfl⟩

theorem ofFile_foreign {α : Type} (x : Except FileError α) : (ofFile x).FailsForeign := by
  cases x with
  | ok a => exact .pure trivial
  | error e => exact .throw ⟨_, rfl, rfl⟩

theorem ofLogged_foreign {α : Type} {x : Logged Failure α} (h : x.FailsForeign) : (ofLogged x).FailsForeign :=
  (Ensures.modify fun _ _ => trivial).bind fun _ _ => ofFailure_foreign (h [] trivial).2

theorem note_foreign [Console] (s : String) : (note s).FailsForeign :=
  (ofFailure_foreign (Console.shown_foreign s)).bind fun _ _ => .modify fun _ _ => trivial

theorem dumps_foreign [TomlReader] [LineReader] (t : FileTree) (root : Path) (r : Request) (settings : Document) :
    (dumps t root r settings).FailsForeign :=
  (ofFault_foreign _).bind fun _ _ => (ofLogged_foreign (Excluder.load_foreign _ _ _ _)).bind fun _ _ =>
    (ofFault_foreign _).bind fun _ _ => ofLogged_foreign (Discovery.discover_foreign _ _ _ _)

theorem save_foreign (results : Results) (p : Path) : (save results p).FailsForeign := by
  unfold save
  refine Ensures.get.bind fun _ _ => (ofFile_foreign _).bind fun _ _ => (ofFile_foreign _).bind fun _ _ => ?_
  refine (Ensures.modify fun _ _ => trivial).bind fun _ _ => (ofFault_foreign _).bind fun _ _ => ?_
  exact (ofFault_foreign _).bind fun _ _ => .modify fun _ _ => trivial

theorem display_foreign [Console] (results : Results) (root : Path) (format : Format) :
    (display results root format).FailsForeign := by
  have hprint : ∀ s, (printPlain s).FailsForeign := fun s => .modify fun _ _ => trivial
  have hdraw : ∀ s, (draw s).FailsForeign := fun s => .modify fun _ _ => trivial
  cases format with
  | json => exact (ofFault_foreign _).bind fun _ _ => (ofFault_foreign _).bind fun _ _ => hprint _
  | tree =>
    exact (ofFailure_foreign (ResultsTree.outline_foreign root results)).bind fun _ _ =>
      (hdraw _).bind fun _ _ => hdraw _
  | compact =>
    refine (ofFault_foreign _).bind fun text _ => ?_
    split
    · exact .pure trivial
    · exact hprint _

end Session

end CommandLine

end CatchAudit
