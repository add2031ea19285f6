/-
What the exit code of a check means. It is 2 if the settings are wrong; no dump is then read and nothing is
written. Otherwise the files that are found decide: it is 2 if one of them cannot be loaded, else 1 if the
severity is that of errors and one of them has a problem, else 0. How results are shown and whether they are
written to a file has no part in it.
-/
import CatchAudit.Libraries
import CatchAudit.Proofs.Check.Reports
import CatchAudit.Proofs.CommandLine.Stages

namespace CatchAudit

/-! ## Reports -/

namespace Check

variable {t : FileTree} {options : RuleOptions} {severity : Severity}

/-- What an exit code says of the files that were found. -/
structure CodeMeans (t : FileTree) (options : RuleOptions) (severity : Severity) (files : List Path) (code : Nat) :
    Prop where
  unreadable : code = 2 ↔ ∃ p ∈ files, ∃ e, (Dump.load t p).1 = .error e
  problem : code = 1 ↔ (∀ p ∈ files, ∃ dump, (Dump.load t p).1 = .ok dump) ∧ severity = .error ∧
    ∃ p ∈ files, ∃ dump, (Dump.load t p).1 = .ok dump ∧ dump.HasProblem options
  other : code ≠ 2 → code ≠ 1 → code = 0

theorem CodeMeans.unique {files : List Path} {code code' : Nat} (h : CodeMeans t options severity files code)
    (h' : CodeMeans t options severity files code') : code = code' := by
  have htwo : code = 2 ↔ code' = 2 := h.unreadable.trans h'.unreadable.symm
  have hone : code = 1 ↔ code' = 1 := h.problem.trans h'.problem.symm
  have hzero := h.other
  have hzero' := h'.other
  omega

theorem CodeMeans.ne_one {files : List Path} {code : Nat} (h : CodeMeans t options severity files code)
    (hs : severity ≠ .error) : code ≠ 1 := fun hone => hs (h.problem.1 hone).2.1

theorem all_loaded_iff {files : List Path} :
    (∀ p ∈ files, ∃ dump, (Dump.load t p).1 = .ok dump) ↔ ¬ ∃ p ∈ files, ∃ e, (Dump.load t p).1 = .error e := by
  push Not
  refine forall₂_congr fun p _ => ?_
  cases (Dump.load t p).1 <;> simp

/-- Without files nothing is wrong. -/
theorem codeMeans_nil : CodeMeans t options severity [] 0 := ⟨by simp, by simp, fun _ _ => rfl⟩

theorem codeMeans_exitCode {files : List Path} {results : Results}
    (h : List.Forall₂ (Reported t options severity) files results.reports) :
    CodeMeans t options severity files results.exitCode := by
  have hload : results.hasLoadErrors = true ↔ ∃ p ∈ files, ∃ e, (Dump.load t p).1 = .error e := by
    rw [Results.hasLoadErrors, List.any_eq_true]
    exact exists_report_iff (fun _ _ hr => hr.failed_iff) h
  have hproblem : (results.reports.any fun r => decide (0 < r.errorCount)) = true ↔ severity = .error ∧
      ∃ p ∈ files, ∃ dump, (Dump.load t p).1 = .ok dump ∧ dump.HasProblem options := by
    simp only [List.any_eq_true, decide_eq_true_iff]
    rw [exists_report_iff (fun _ _ hr => hr.errorCount_pos_iff) h]
    constructor
    · rintro ⟨p, hp, hs, hdump⟩
      exact ⟨hs, p, hp, hdump⟩
    · rintro ⟨hs, p, hp, hdump⟩
      exact ⟨p, hp, hs, hdump⟩
  unfold Results.exitCode
  by_cases herrors : results.hasLoadErrors = true
  · rw [if_pos herrors]
    refine ⟨iff_of_true rfl (hload.1 herrors), iff_of_false (by decide) fun hone => ?_, fun h => absurd rfl h⟩
    exact all_loaded_iff.1 hone.1 (hload.1 herrors)
  · rw [if_neg herrors]
    have hloaded := all_loaded_iff.2 fun hex => herrors (hload.2 hex)
    by_cases hany : (results.reports.any fun r => decide (0 < r.errorCount)) = true
    · rw [if_pos hany]
      exact ⟨iff_of_false (by decide) fun hex => herrors (hload.2 hex), iff_of_true rfl ⟨hloaded, hproblem.1 hany⟩,
        fun _ h => absurd rfl h⟩
    · rw [if_neg hany]
      exact ⟨iff_of_false (by decide) fun hex => herrors (hload.2 hex),
        iff_of_false (by decide) fun hone => hany (hproblem.2 hone.2), fun _ _ => rfl⟩

end Check

/-! ## Sessions -/

namespace CommandLine

namespace Session

theorem ofFailure_ok {α : Type} {x : Except Failure α} {a : α} {progress mid : Progress}
    (h : (ofFailure x).run progress = (.ok a, mid)) : x = .ok a ∧ mid = progress := by
  cases x with
  | error f => cases h
  | ok b =>
    obtain ⟨rfl, rfl⟩ := run_pure_ok h
    exact ⟨rfl, rfl⟩

theorem ofLogged_ok {α : Type} {x : Logged Failure α} {a : α} {progress mid : Progress}
    (h : (ofLogged x).run progress = (.ok a, mid)) : x.outcome.1 = .ok a := by
  obtain ⟨-, _, -, h⟩ := run_bind_ok h
  exact (ofFailure_ok h).1

theorem note_ok [Console] {s : String} {progress mid : Progress} {u : Unit} (h : (note s).run progress = (.ok u, mid)) :
    ∃ notes, mid = { progress with notes } := by
  obtain ⟨shown, mid', hshown, hmodify⟩ := run_bind_ok h
  obtain ⟨-, rfl⟩ := ofFailure_ok hshown
  cases hmodify
  exact ⟨_, rfl⟩

section Sessions

variable [TomlReader]

/-- By `setup`, settings that are wrong end the session with a note; other failures leave it, all of them `Foreign`;
else there is a setup. -/
theorem setup_cases [Console] (t : FileTree) (root : Path) (r : Request) (progress : Progress) :
    (∃ f mid, (setup t root r).run progress = (.error (.failed f), mid) ∧ f.Foreign) ∨
    (∃ e notes, setupOf t root r = .error (.settings e) ∧
      (setup t root r).run progress = (.error (.exit 2), { progress with notes })) ∨
    ∃ s, setupOf t root r = .ok s ∧ (setup t root r).run progress = (.ok s, progress) := by
  unfold setup
  rcases setupOf t root r with f | s
  · cases f with
    | settings e =>
      have hforeign := (note_foreign ("[red]Configuration error:[/] " ++ e.message) progress trivial).2
      dsimp only
      rw [run_bind]
      rcases hnote : (note ("[red]Configuration error:[/] " ++ e.message)).run progress with ⟨ending | u, mid⟩
        <;> rw [hnote] at hforeign
      · obtain ⟨f, rfl, hf⟩ := hforeign
        exact .inl ⟨f, mid, rfl, hf⟩
      · obtain ⟨notes, rfl⟩ := note_ok hnote
        exact .inr (.inl ⟨e, notes, rfl, rfl⟩)
    | _ => exact .inl ⟨_, _, rfl, rfl⟩
  · exact .inr (.inr ⟨s, rfl, rfl⟩)

variable [LineReader]

/-- How a session ends that carries out `check` on a file tree. -/
inductive Ends (t : FileTree) (clock : Check.Clock) (r : Request) : Ending → Progress → Prop
  | failed {f : Failure} {progress : Progress} (foreign : f.Foreign) : Ends t clock r (.failed f) progress
  | settings {e : SettingsError} {notes : String} (setup : setupOf t ⟨"/", t.current⟩ r = .error (.settings e)) :
      Ends t clock r (.exit 2) { files := t, notes }
  | nothing {s : Setup} {progress mid : Progress} (setup : setupOf t ⟨"/", t.current⟩ r = .ok s)
      (found : (dumps t ⟨"/", t.current⟩ r s.settings).run { files := t } = (.ok [], mid)) :
      Ends t clock r (.exit 0) progress
  | checked {s : Setup} {files : List Path} {progress mid : Progress} {results : Results}
      (setup : setupOf t ⟨"/", t.current⟩ r = .ok s)
      (found : (dumps t ⟨"/", t.current⟩ r s.settings).run { files := t } = (.ok files, mid)) (some : files ≠ [])
      (outcome : (Check.run t clock s.options s.severity files).outcome.1 = .ok results) :
      Ends t clock r (.exit results.exitCode) progress

/-- The run ends the session in one of the ways of `Ends`. -/
def EndsAt (t : FileTree) (clock : Check.Clock) (r : Request) (out : Except Ending Unit × Progress) : Prop :=
  ∃ ending, out.1 = .error ending ∧ Ends t clock r ending out.2

variable {t : FileTree} {clock : Check.Clock} {r : Request}

theorem endsAt_bind {α : Type} {x : Session α} {f : α → Session Unit} {progress : Progress} (hx : x.FailsForeign)
    (hf : ∀ a mid, x.run progress = (.ok a, mid) → EndsAt t clock r ((f a).run mid)) :
    EndsAt t clock r ((x >>= f).run progress) := by
  have hforeign := (hx progress trivial).2
  rw [run_bind]
  rcases hrun : x.run progress with ⟨ending | a, mid⟩ <;> rw [hrun] at hforeign
  · obtain ⟨f, rfl, hf⟩ := hforeign
    exact ⟨_, rfl, .failed hf⟩
  · exact hf a mid hrun

variable [Console]

/-- `display`, which follows the check of the files, does not change its code. -/
theorem endsAt_results {s : Setup} {files : List Path} {mid progress : Progress} {results : Results}
    (hsetup : setupOf t ⟨"/", t.current⟩ r = .ok s)
    (hfound : (dumps t ⟨"/", t.current⟩ r s.settings).run { files := t } = (.ok files, mid)) (hfiles : files ≠ [])
    (hresults : (Check.run t clock s.options s.severity files).outcome.1 = .ok results) :
    EndsAt t clock r ((display results ⟨"/", t.current⟩ r.format >>= fun _ => exit results.exitCode).run progress) :=
  endsAt_bind (display_foreign _ _ _) fun _ _ _ => ⟨_, rfl, .checked hsetup hfound hfiles hresults⟩

theorem check_ends (t : FileTree) (clock : Check.Clock) (r : Request) :
    EndsAt t clock r ((check clock r).run { files := t }) := by
  have hget : (get : Session Progress).run { files := t } = (.ok { files := t }, { files := t }) := rfl
  unfold check
  rw [run_bind, hget]
  dsimp only
  rw [run_bind]
  rcases setup_cases t ⟨"/", t.current⟩ r { files := t } with
    ⟨f, mid, hrun, hf⟩ | ⟨e, notes, hsetup, hrun⟩ | ⟨s, hsetup, hrun⟩ <;> rw [hrun]
  · exact ⟨_, rfl, .failed hf⟩
  · exact ⟨_, rfl, .settings hsetup⟩
  · dsimp only
    refine endsAt_bind (dumps_foreign _ _ _ _) fun files mid hfound => ?_
    split
    · next hempty =>
      cases List.isEmpty_iff.1 hempty
      exact endsAt_bind (note_foreign _) fun _ _ _ => ⟨_, rfl, .nothing hsetup hfound⟩
    · next hsome =>
      have hne : files ≠ [] := fun h => hsome (by simp [h])
      refine endsAt_bind (ofLogged_foreign (Check.run_foreign _ _ _ _ _)) fun results mid' hresults => ?_
      have hresults := ofLogged_ok hresults
      split
      · exact endsAt_results hsetup hfound hne hresults
      · refine endsAt_bind (save_foreign _ _) fun _ _ _ => endsAt_bind (note_foreign _) fun _ _ _ => ?_
        exact endsAt_results hsetup hfound hne hresults

end Sessions

end Session

/-! ## Command lines -/

section Requests

variable [TomlReader] {t : FileTree} {clock : Check.Clock} {args : List String} {r r' : Request}

/-- The requests differ at most in `format`, `output` and `verbose`: in the way in which results are shown, written
and logged. -/
structure Request.SameCheck (r r' : Request) : Prop where
  paths : r.paths = r'.paths
  pattern : r.pattern = r'.pattern
  settings : r.settings = r'.settings
  includeIgnored : r.includeIgnored = r'.includeIgnored

theorem Request.SameCheck.setupOf_eq (h : r.SameCheck r') (root : Path) :
    Session.setupOf t root r = Session.setupOf t root r' := by
  unfold Session.setupOf Session.settingsOf Session.optionsOf
  rw [h.settings, h.pattern]

variable [LineReader]

theorem Request.SameCheck.dumps_eq (h : r.SameCheck r') (root : Path) (settings : Document) :
    Session.dumps t root r settings = Session.dumps t root r' settings := by
  unfold Session.dumps
  rw [h.paths, h.includeIgnored]

/-- What an exit code says of a request: by `setupOf` its settings are wrong, or the code speaks of the files that are
found, as `CodeMeans` says. -/
inductive Request.CodeOf (t : FileTree) (r : Request) : Nat → Prop
  | settings {e : SettingsError} (setup : Session.setupOf t ⟨"/", t.current⟩ r = .error (.settings e)) : CodeOf t r 2
  | files {s : Session.Setup} {files : List Path} {mid : Progress} {code : Nat}
      (setup : Session.setupOf t ⟨"/", t.current⟩ r = .ok s)
      (found : (Session.dumps t ⟨"/", t.current⟩ r s.settings).run { files := t } = (.ok files, mid))
      (means : Check.CodeMeans t s.options s.severity files code) : CodeOf t r code

theorem Request.CodeOf.unique {code code' : Nat} (hsame : r.SameCheck r') (h : r.CodeOf t code)
    (h' : r'.CodeOf t code') : code = code' := by
  cases h with
  | settings hsetup =>
    cases h' with
    | settings _ => rfl
    | files hsetup' _ _ => cases hsetup.symm.trans ((hsame.setupOf_eq _).trans hsetup')
  | files hsetup hfound hmeans =>
    cases h' with
    | settings hsetup' => cases hsetup.symm.trans ((hsame.setupOf_eq _).trans hsetup')
    | files hsetup' hfound' hmeans' =>
      cases hsetup.symm.trans ((hsame.setupOf_eq _).trans hsetup')
      rw [hsame.dumps_eq] at hfound
      cases hfound.symm.trans hfound'
      exact hmeans.unique hmeans'

variable [Console] [ArgumentReader]

/-- How a command line for a check `Ends` if no other failure than an error of the settings leaves it. -/
theorem run_ends (hparse : Command.parse args = .ok (.check r))
    (hfailure : ∀ f, (run t clock args).failure = some f → ∃ e, f = .settings e) :
    ∃ code progress, Session.Ends t clock r (.exit code) progress ∧
      run t clock args = ⟨code, none, none, { progress with log := keptLog (.check r) progress.log }⟩ := by
  obtain ⟨ending, hending, hends⟩ := Session.check_ends t clock r
  rcases hsession : (Session.check clock r).run { files := t } with ⟨out, progress⟩
  rw [hsession] at hending hends
  obtain rfl : out = .error ending := hending
  cases ending with
  | exit code =>
    refine ⟨code, progress, hends, ?_⟩
    unfold run
    rw [hparse]
    dsimp only [Session.command]
    rw [hsession]
  | failed f =>
    -- a failure that ends a check is no error of the settings
    have hrun : (run t clock args).failure = some f := by
      unfold run
      rw [hparse]
      dsimp only [Session.command]
      rw [hsession]
    obtain ⟨e, rfl⟩ := hfailure f hrun
    cases hends with
    | failed foreign => cases foreign

theorem codeOf_run (hparse : Command.parse args = .ok (.check r))
    (hfailure : ∀ f, (run t clock args).failure = some f → ∃ e, f = .settings e) :
    r.CodeOf t (run t clock args).exitCode := by
  obtain ⟨code, progress, hends, hrun⟩ := run_ends hparse hfailure
  rw [hrun]
  cases hends with
  | settings hsetup => exact .settings hsetup
  | nothing hsetup hfound => exact .files hsetup hfound Check.codeMeans_nil
  | checked hsetup hfound _ houtcome =>
    exact .files hsetup hfound (Check.codeMeans_exitCode (Check.reported_of_run houtcome))

/-- The exit code that `run` gives for a check on the command line. An error of the settings gives 2, and apart from
the note that says so nothing happens. Otherwise the code `CodeMeans` of the files that are found whether all can be
loaded and whether one has a problem; it is 0 without files, and never 1 at a severity other than `.error`. Another
command line for the `SameCheck`, with another format, output or log, ends with the same code. The one assumption is
that no failure other than an error of the settings leaves the sessions. It holds with any reader of TOML, of
exclusion lines and of arguments, and on any console. -/
theorem exitCode_means (hparse : Command.parse args = .ok (.check r))
    (hfailure : ∀ f, (run t clock args).failure = some f → ∃ e, f = .settings e) :
    ((∃ e notes, Session.setupOf t ⟨"/", t.current⟩ r = .error (.settings e) ∧
        run t clock args = ⟨2, none, none, { files := t, notes }⟩) ∨
      ∃ s files mid, Session.setupOf t ⟨"/", t.current⟩ r = .ok s ∧
        (Session.dumps t ⟨"/", t.current⟩ r s.settings).run { files := t } = (.ok files, mid) ∧
        Check.CodeMeans t s.options s.severity files (run t clock args).exitCode ∧
        (files = [] → (run t clock args).exitCode = 0) ∧
        (s.severity ≠ .error → (run t clock args).exitCode ≠ 1)) ∧
    ∀ clock' args' r', Command.parse args' = .ok (.check r') → r.SameCheck r' →
      (∀ f, (run t clock' args').failure = some f → ∃ e, f = .settings e) →
      (run t clock args).exitCode = (run t clock' args').exitCode := by
  have hcode := codeOf_run hparse hfailure
  refine ⟨?_, fun clock' args' r' hparse' hsame hfailure' => hcode.unique hsame (codeOf_run hparse' hfailure')⟩
  obtain ⟨code, progress, hends, hrun⟩ := run_ends hparse hfailure
  generalize hexit : (run t clock args).exitCode = exitCode at hcode
  cases hcode with
  | settings hsetup =>
    cases hends with
    | @settings e notes hsetup =>
      refine .inl ⟨e, notes, hsetup, ?_⟩
      rw [hrun]
      cases hverbose : r.verbose <;> simp [keptLog, Log.notable, hverbose]
    | nothing hsetup' _ => cases hsetup.symm.trans hsetup'
    | checked hsetup' _ _ _ => cases hsetup.symm.trans hsetup'
  | @files s files mid _ hsetup hfound hmeans =>
    refine .inr ⟨s, files, mid, hsetup, hfound, hmeans, ?_, hmeans.ne_one⟩
    rintro rfl
    exact hmeans.unique Check.codeMeans_nil

end Requests

/-! A dump that is nothing but a catch clause without a binding, checked with its results shown in two ways. -/

namespace BareClause

def bareText : String :=
  "\x7b\"ast\":\x7b\"type\":\"CatchClause\",\"range\":[0,1]\x7d,\"scopes\":" ++
    "\x7b\"block\":\x7b\"type\":\"CatchClause\",\"range\":[0,1]\x7d\x7d\x7d"

def bareTree : FileTree := ⟨[("a", .file (Text.encodeUtf8 bareText.toList))], []⟩

def clock : Check.Clock := ⟨"", 0⟩

def request (format : Format) : Request := ⟨[⟨"", ["a"]⟩], none, none, format, none, true, false⟩

def shortArgs : List String := ["check", "a", "--include-ignored"]

def jsonArgs : List String := ["check", "a", "--include-ignored", "--format", "json"]

theorem no_failure {args : List String} (h : (run bareTree clock args).failure.isNone = true) :
    ∀ f, (run bareTree clock args).failure = some f → ∃ e, f = .settings e := by
  intro f hf
  rw [hf] at h
  cases h

end BareClause

open BareClause in
theorem exitCode_means_sample :
    (run bareTree clock shortArgs).exitCode = 1 ∧ (run bareTree clock jsonArgs).exitCode = 1 ∧
      ∃ s files mid, Session.setupOf bareTree ⟨"/", bareTree.current⟩ (request .compact) = .ok s ∧
        (Session.dumps bareTree ⟨"/", bareTree.current⟩ (request .compact) s.settings).run { files := bareTree } =
          (.ok files, mid) ∧
        Check.CodeMeans bareTree s.options s.severity files 1 := by
  have hparse : Command.parse shortArgs = .ok (.check (request .compact)) := by decide +kernel
  have hparse' : Command.parse jsonArgs = .ok (.check (request .json)) := by decide +kernel
  have hfailure := no_failure (show (run bareTree clock shortArgs).failure.isNone = true by decide +kernel)
  have hfailure' := no_failure (show (run bareTree clock jsonArgs).failure.isNone = true by decide +kernel)
  have hcode : (run bareTree clock shortArgs).exitCode = 1 := by decide +kernel
  obtain ⟨hmeans, hsame⟩ := exitCode_means hparse hfailure
  refine ⟨hcode, (hsame _ _ _ hparse' ⟨rfl, rfl, rfl, rfl⟩ hfailure').symm.trans hcode, ?_⟩
  rcases hmeans with ⟨e, notes, -, hrun⟩ | ⟨s, files, mid, hsetup, hfound, hmeans, -, -⟩
  · rw [hrun] at hcode
    cases hcode
  · exact ⟨s, files, mid, hsetup, hfound, hcode ▸ hmeans⟩

end CommandLine

end CatchAudit
