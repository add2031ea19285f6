/-
What the reports of a check hold. A report with an error comes from a dump that was rejected; its error is not
empty, and it has no diagnostics. All other diagnostics have the severity of the check, which is then not off, and
name a binding by a text or not at all.
-/
import CatchAudit.Proofs.Check.Isolation
import CatchAudit.Proofs.Rule.Findings

namespace CatchAudit

/-! ## Messages -/

theorem DumpReason.message_ne_empty (r : DumpReason) : r.message ≠ "" := by
  have hfirst : ∀ {s : String}, s ≠ "" → ∀ u, s ++ u ≠ "" := fun hs u h => hs (String.append_eq_empty_iff.1 h).1
  cases r with
  | unreadable e => exact hfirst (by decide) _
  | notUtf8 f => exact hfirst (by decide) _
  | notJson f text => exact hfirst (by decide) _
  | nodeWithoutSpan kind => exact fun h => absurd (String.append_eq_empty_iff.1 h).2 (by decide)
  | malformed f => exact hfirst (by decide) _
  | _ => exact String.isEmpty_eq_false_iff.1 rfl

theorem DumpError.message_ne_empty (e : DumpError) : e.message ≠ "" := by
  unfold message
  split
  · exact fun h => e.reason.message_ne_empty (String.append_eq_empty_iff.1 h).2
  · exact e.reason.message_ne_empty

/-! ## Problems of a dump -/

/-- The dump has something to report: an unhandled binding, by `Reported`, or a catch clause without a binding at or
below the block of the outermost scope. -/
def Dump.HasProblem (dump : Dump) (options : RuleOptions) : Prop :=
  (∃ s ∈ dump.forest.walk 0, ∃ v, dump.forest.Reportable options s v) ∨
    ∃ root, dump.forest.scope? 0 = some root ∧ ∃ p, root.block.Within p ∧ p.LacksBinding

namespace UnhandledCatch

variable {forest : Forest} {options : RuleOptions} {severity : Severity} {ds : List Diagnostic}

theorem Reported.exists_binding {scopes : List Nat} (h : Reported forest options severity scopes ds) :
    ∀ d ∈ ds, ∃ v p, d = bindingDiagnostic options severity v p := by
  induction h with
  | nil => exact nofun
  | report _ _ _ ih => exact List.forall_mem_cons.2 ⟨⟨_, _, rfl⟩, ih⟩
  | pass _ _ ih => exact ih

/-- With the rule off there are no diagnostics; otherwise each is the `bindingDiagnostic` of a binding or the
`reportMissing` of a bare clause. -/
theorem check_made (h : (check forest options severity).outcome.1 = .ok ds) :
    ∀ d ∈ ds, severity ≠ .off ∧
      ((∃ v p, d = bindingDiagnostic options severity v p) ∨ ∃ p, d = reportMissing severity p) := by
  by_cases hs : severity = .off
  · have hnil : (check forest options severity).outcome.1 = .ok [] := by
      unfold check
      rw [if_pos hs]
      rfl
    cases h.symm.trans hnil
    exact nofun
  · obtain ⟨bindings, hbindings, rfl⟩ := check_parts hs h
    intro d hd
    refine ⟨hs, ?_⟩
    rcases List.mem_append.1 hd with hd | hd
    · exact .inl (hbindings.exists_binding d hd)
    · unfold missingBindings at hd
      split at hd
      · cases hd
      · obtain ⟨p, -, rfl⟩ := List.mem_map.1 hd
        exact .inr ⟨p, rfl⟩

theorem check_severity (h : (check forest options severity).outcome.1 = .ok ds) :
    ∀ d ∈ ds, d.severity = severity ∧ severity ≠ .off := by
  intro d hd
  obtain ⟨hs, ⟨v, p, rfl⟩ | ⟨p, rfl⟩⟩ := check_made h d hd
  · exact ⟨rfl, hs⟩
  · exact ⟨rfl, hs⟩

theorem missingBindings_ne_nil_iff :
    missingBindings forest severity ≠ [] ↔
      ∃ root, forest.scope? 0 = some root ∧ ∃ p, root.block.Within p ∧ p.LacksBinding := by
  cases hroot : forest.scope? 0 with
  | none => simp [missingBindings, hroot]
  | some root =>
    rw [missingBindings_eq hroot, Ne, List.map_eq_nil_iff]
    simp [List.eq_nil_iff_forall_not_mem, Place.mem_bareClauses]

theorem check_ne_nil_iff (hs : severity ≠ .off) (h : (check forest options severity).outcome.1 = .ok ds) :
    ds ≠ [] ↔ (∃ s ∈ forest.walk 0, ∃ v, forest.Reportable options s v) ∨
      ∃ root, forest.scope? 0 = some root ∧ ∃ p, root.block.Within p ∧ p.LacksBinding := by
  obtain ⟨bindings, hbindings, rfl⟩ := check_parts hs h
  have hbinding : bindings ≠ [] ↔ ∃ s ∈ forest.walk 0, ∃ v, forest.Reportable options s v := by
    rw [Ne, hbindings.eq_nil_iff]
    push Not
    rfl
  rw [← hbinding, ← missingBindings_ne_nil_iff, Ne, List.append_eq_nil_iff, not_and_or]

end UnhandledCatch

/-! ## Reports -/

namespace Check

variable {t : FileTree} {options : RuleOptions} {severity : Severity} {p : Path} {r : FileReport}

theorem Reported.failed_eq (h : Reported t options severity p r) : r.failed = r.error.isSome := by
  cases h with
  | @rejected e _ => simp [FileReport.failed, String.isEmpty_eq_false_iff.2 e.message_ne_empty]
  | analyzed _ _ => rfl

theorem Reported.diagnostics_eq_nil (h : Reported t options severity p r) (herror : r.error.isSome = true) :
    r.diagnostics = [] := by
  cases h with
  | rejected _ => rfl
  | analyzed _ _ => cases herror

/-- Each diagnostic of a report counts in `errorCount` or in `warningCount`. -/
theorem Reported.errorCount_add_warningCount (h : Reported t options severity p r) :
    r.errorCount + r.warningCount = r.diagnostics.length := by
  cases h with
  | rejected _ => rfl
  | @analyzed dump found _ hfound =>
    have hseverity := UnhandledCatch.check_severity hfound
    have hwarning : found.countP (fun d => d.severity == .warn) =
        found.countP fun d => decide ¬ (d.severity == .error) = true := by
      refine List.countP_congr fun d hd => ?_
      obtain ⟨heq, hs⟩ := hseverity d hd
      rw [heq]
      cases severity with
      | off => exact absurd rfl hs
      | warn => decide
      | error => decide
    unfold FileReport.errorCount FileReport.warningCount FileReport.count
    dsimp only
    rw [hwarning]
    exact (List.length_eq_countP_add_countP _).symm

/-- The name of a diagnostic is a text, if there is one. -/
theorem Reported.name_eq (h : Reported t options severity p r) :
    ∀ d ∈ r.diagnostics, d.name = .null ∨ ∃ s, d.name = .text s := by
  cases h with
  | rejected _ => exact nofun
  | analyzed _ hfound =>
    intro d hd
    obtain ⟨-, ⟨v, p, rfl⟩ | ⟨p, rfl⟩⟩ := UnhandledCatch.check_made hfound d hd
    · exact .inr ⟨v.name, rfl⟩
    · exact .inl rfl

theorem Reported.failed_iff (h : Reported t options severity p r) :
    r.failed = true ↔ ∃ e, (Dump.load t p).1 = .error e := by
  rw [h.failed_eq]
  cases h with
  | rejected hload => exact iff_of_true rfl ⟨_, hload⟩
  | analyzed hload _ =>
    refine iff_of_false Bool.false_ne_true ?_
    rintro ⟨e, he⟩
    cases hload.symm.trans he

theorem Reported.errorCount_pos_iff (h : Reported t options severity p r) :
    0 < r.errorCount ↔ severity = .error ∧ ∃ dump, (Dump.load t p).1 = .ok dump ∧ dump.HasProblem options := by
  cases h with
  | rejected hload => simp [FileReport.errorCount, FileReport.count, hload]
  | @analyzed dump found hload hfound =>
    have hseverity := UnhandledCatch.check_severity hfound
    have hdump : (∃ dump, (Dump.load t p).1 = .ok dump ∧ dump.HasProblem options) ↔ dump.HasProblem options := by
      simp [hload]
    have hcount : 0 < FileReport.errorCount ⟨p, found, none⟩ ↔ severity = .error ∧ found ≠ [] := by
      unfold FileReport.errorCount FileReport.count
      rw [List.countP_pos_iff]
      constructor
      · rintro ⟨d, hd, herror⟩
        exact ⟨(hseverity d hd).1.symm.trans (by simpa using herror), List.ne_nil_of_mem hd⟩
      · rintro ⟨herror, hne⟩
        obtain ⟨d, hd⟩ := List.exists_mem_of_ne_nil found hne
        exact ⟨d, hd, by simp [(hseverity d hd).1, herror]⟩
    rw [hcount, hdump]
    refine and_congr_right fun herror => ?_
    exact UnhandledCatch.check_ne_nil_iff (by simp [herror]) hfound

/-- One of the files has the property `P` exactly if one of the reports has the property `Q` that goes with it. -/
theorem exists_report_iff {P : Path → Prop} {Q : FileReport → Prop}
    (hPQ : ∀ p r, Reported t options severity p r → (Q r ↔ P p)) {files : List Path} {reports : List FileReport}
    (h : List.Forall₂ (Reported t options severity) files reports) : (∃ r ∈ reports, Q r) ↔ ∃ p ∈ files, P p := by
  induction h with
  | nil => simp
  | cons hr _ ih => rw [List.exists_mem_cons_iff, List.exists_mem_cons_iff, hPQ _ _ hr, ih]

/-- The results of `Check.run` for one file that is loaded and analyzed. -/
theorem run_singleton {dump : Dump} {found : List Diagnostic} (clock : Clock) (hload : (Dump.load t p).1 = .ok dump)
    (hfound : (analyze dump.forest options severity UnhandledCatch.ruleName).outcome.1 = .ok found) :
    ∃ results, (run t clock options severity [p]).outcome.1 = .ok results ∧ results.reports = [⟨p, found, none⟩] := by
  have hreport : ∀ log, ((checkFile t options severity p).run log).1 = .ok ⟨p, found, none⟩ := by
    intro log
    rcases hl : Dump.load t p with ⟨loaded, notes⟩
    rw [hl] at hload
    obtain rfl : loaded = .ok dump := hload
    rw [checkFile_of_load options severity hl log, hfound]
  rw [run_outcome]
  unfold checkFiles
  rw [run_bind]
  rcases hrun : (checkFile t options severity p).run [] with ⟨out, log⟩
  obtain rfl : out = .ok ⟨p, found, none⟩ := by rw [← hreport [], hrun]
  exact ⟨_, rfl, rfl⟩

end Check

end CatchAudit
