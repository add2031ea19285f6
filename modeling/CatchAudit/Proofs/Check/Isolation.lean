/-
How far one file reaches in a check of many. A file that is rejected gets a report that says so, and a
file that is loaded and analyzed gets its diagnostics; either report depends on that file alone. What
ends the whole check is a file with a null character in its path, with a whole number of too many
digits in its text, with an infinite number where building first goes wrong, or with a tree on which
the analysis fails. A check has results exactly when no file is of that sort.
-/
import CatchAudit.Check
import CatchAudit.Proofs.Dump.Rejection
import CatchAudit.Proofs.Files.Reasons
import Mathlib

namespace CatchAudit

/-! ## Reading a file -/

namespace Dump

/-- A file that `Dump.load` neither loads nor rejects. -/
inductive Escapes (t : FileTree) (p : Path) : Prop
  | nullInPath (hnull : '\x00' ∈ p.text.toList)
  | longNumber {bytes : List UInt8} {cs : List Char} {f : Json.JsonFault} {digits : Nat}
      (hread : t.read p = .ok bytes) (hutf8 : Text.decodeUtf8 bytes = .ok cs)
      (hjson : Json.parse (Text.plainLineEnds cs) = .error f) (hlong : f.reason = .longNumber digits)
  | infiniteOffset {d : Document} (hread : readDocument t p = .ok d) (hstop : StopsAtInfinity d)

variable {t : FileTree} {p : Path}

theorem load_of_readDocument {d : Document} (h : readDocument t p = .ok d) :
    (load t p).1 = (ofDocument d (.text p.text)).1 := by
  unfold load
  rw [h]
  dsimp only
  rcases ofDocument d (.text p.text) with ⟨e | dump, log⟩
  · rfl
  · dsimp only
    split <;> rfl

theorem Escapes.load_error (h : Escapes t p) : ∃ e, (load t p).1 = .error e ∧ ∀ e', e ≠ .rejected e' := by
  cases h with
  | nullInPath hnull =>
    obtain ⟨e, hread, he⟩ := (FileTree.read_nullInPath_iff t p).2 hnull
    exact ⟨.badPath e, by simp only [load, readDocument, hread, if_pos he], by simp⟩
  | @longNumber bytes cs f digits hread hutf8 hjson hlong =>
    exact ⟨.escaped (.longInteger digits), by simp only [load, readDocument, hread, hutf8, hjson, hlong], by simp⟩
  | @infiniteOffset d hread hstop =>
    rcases ofDocument_cases d (.text p.text) with ⟨hno, -⟩ | ⟨-, -, hout⟩
    · exact absurd hstop hno
    · exact ⟨.escaped .infinityToInteger, (load_of_readDocument hread).trans hout, by simp⟩

theorem Escapes.of_readDocument {e : LoadError} (h : readDocument t p = .error e) (he : ∀ e', e ≠ .rejected e') :
    Escapes t p := by
  dsimp only [readDocument] at h
  split at h
  · next err hread =>
    split at h
    · next hreason => exact .nullInPath ((FileTree.read_nullInPath_iff t p).1 ⟨err, hread, hreason⟩)
    · cases h
      exact absurd rfl (he _)
  · next bytes hread =>
    split at h
    · cases h
      exact absurd rfl (he _)
    · next cs hutf8 =>
      split at h
      · next f hjson =>
        split at h
        · next digits hlong => exact .longNumber hread hutf8 hjson hlong
        · cases h
          exact absurd rfl (he _)
      · cases h

theorem escapes_iff : Escapes t p ↔ ∃ e, (load t p).1 = .error e ∧ ∀ e', e ≠ .rejected e' := by
  refine ⟨Escapes.load_error, fun ⟨e, hload, he⟩ => ?_⟩
  rcases hdoc : readDocument t p with e' | d
  · have : e' = e := by
      unfold load at hload
      rw [hdoc] at hload
      exact Except.error.inj hload
    exact .of_readDocument hdoc (this ▸ he)
  · rw [load_of_readDocument hdoc] at hload
    rcases ofDocument_cases d (.text p.text) with ⟨-, ⟨dump, hout⟩ | ⟨reason, hout⟩⟩ | ⟨hstop, -, -⟩
    · rw [hout] at hload
      cases hload
    · rw [hout] at hload
      cases hload
      exact absurd rfl (he _)
    · exact .infiniteOffset hdoc hstop

end Dump

/-! ## The analysis -/

section Analysis

variable (forest : Forest) (options : RuleOptions) (severity : Severity)

theorem Forest.unhandledIn_blind (s : Nat) : (forest.unhandledIn options s).Blind := by
  unfold unhandledIn
  split
  · exact .pure _
  · exact (Logged.Blind.note _).bind fun _ => (Logged.Blind.lift _).bind fun _ => .pure _

theorem Forest.unhandledOf_blind : ∀ scopes : List Nat, (forest.unhandledOf options scopes).Blind
  | [] => .pure _
  | s :: rest =>
    (forest.unhandledIn_blind options s).bind fun _ => (unhandledOf_blind rest).bind fun _ => .pure _

theorem UnhandledCatch.check_blind : (UnhandledCatch.check forest options severity).Blind := by
  unfold check
  split
  · exact .pure _
  · exact (forest.unhandledOf_blind options _).bind fun _ => (Logged.Blind.note _).bind fun _ =>
      (Logged.Blind.lift _).bind fun _ => .pure _

/-- What `analyze` finds does not depend on what was logged before it. -/
theorem analyze_blind (ruleName : String) : (analyze forest options severity ruleName).Blind := by
  unfold analyze
  split
  · next rule hrule =>
    -- the registry holds one rule
    have : rule = UnhandledCatch.rule := by
      unfold Registry.get? at hrule
      have hmem := mem_of_memberOf? hrule
      simp only [Registry.builtin, Registry.register, Registry.empty, setMember, List.mem_singleton,
        Prod.mk.injEq] at hmem
      exact hmem.2
    rw [this]
    exact UnhandledCatch.check_blind forest options severity
  · exact fun _ _ => rfl

end Analysis

/-! ## One file -/

namespace Check

/-- The report of a file: `Dump.load` rejected it, or it was loaded and `analyze` found this in it. -/
inductive Reported (t : FileTree) (options : RuleOptions) (severity : Severity) (p : Path) : FileReport → Prop
  | rejected {e : DumpError} (hload : (Dump.load t p).1 = .error (.rejected e)) :
    Reported t options severity p ⟨p, [], some e.message⟩
  | analyzed {dump : Dump} {found : List Diagnostic} (hload : (Dump.load t p).1 = .ok dump)
    (hfound : (analyze dump.forest options severity UnhandledCatch.ruleName).outcome.1 = .ok found) :
    Reported t options severity p ⟨p, found, none⟩

/-- A file that ends the whole check: it `Escapes`, neither loaded nor rejected, or `analyze` fails on it. -/
inductive Spoils (t : FileTree) (options : RuleOptions) (severity : Severity) (p : Path) : Prop
  | loading (hload : Dump.Escapes t p)
  | analysis {dump : Dump} {f : Fault} (hload : (Dump.load t p).1 = .ok dump)
    (hfault : (analyze dump.forest options severity UnhandledCatch.ruleName).outcome.1 = .error f)

variable {t : FileTree} {options : RuleOptions} {severity : Severity} {p : Path}

theorem checkFile_of_load (options : RuleOptions) (severity : Severity) {dump : Dump} {notes : Log}
    (h : Dump.load t p = (.ok dump, notes)) (log : Log) :
    ((checkFile t options severity p).run log).1 =
      match (analyze dump.forest options severity UnhandledCatch.ruleName).outcome.1 with
      | .ok found => .ok ⟨p, found, none⟩
      | .error f => .error (.fault f) := by
  have hblind := analyze_blind dump.forest options severity UnhandledCatch.ruleName (log ++ notes) []
  unfold checkFile Logged.outcome
  rw [h, ← hblind, run_bind, Logged.note_run]
  dsimp only
  rw [run_bind, Logged.mapError_run]
  rcases (analyze dump.forest options severity UnhandledCatch.ruleName).run (log ++ notes) with ⟨f | found, log'⟩
    <;> rfl

/-- By `checkFile` a file has a report, or it `Spoils` the check. -/
theorem checkFile_cases (t : FileTree) (options : RuleOptions) (severity : Severity) (p : Path) (log : Log) :
    (∃ r, ((checkFile t options severity p).run log).1 = .ok r ∧ Reported t options severity p r ∧
        ¬ Spoils t options severity p) ∨
      (∃ f, ((checkFile t options severity p).run log).1 = .error f ∧ Spoils t options severity p) := by
  rcases hl : Dump.load t p with ⟨loaded, notes⟩
  have hload : (Dump.load t p).1 = loaded := by rw [hl]
  rcases loaded with e | dump
  · by_cases he : ∃ e', e = .rejected e'
    · obtain ⟨e, rfl⟩ := he
      refine .inl ⟨⟨p, [], some e.message⟩, ?_, .rejected hload, ?_⟩
      · unfold checkFile
        rw [hl]
        rfl
      -- a dump that is rejected is neither one that escapes rejection nor one that is loaded
      · rintro (h | ⟨h, -⟩)
        · obtain ⟨e', h, hne⟩ := h.load_error
          cases hload.symm.trans h
          exact hne e rfl
        · cases hload.symm.trans h
    · have he : ∀ e', e ≠ .rejected e' := fun e' h => he ⟨e', h⟩
      refine .inr ⟨.load e, ?_, .loading (Dump.escapes_iff.2 ⟨e, hload, he⟩)⟩
      unfold checkFile
      rw [hl]
      cases e with
      | rejected e' => exact absurd rfl (he e')
      | _ => rfl
  · have hrun := checkFile_of_load options severity hl log
    rcases hfound : (analyze dump.forest options severity UnhandledCatch.ruleName).outcome.1 with f | found
      <;> rw [hfound] at hrun
    · exact .inr ⟨.fault f, hrun, .analysis hload hfound⟩
    · refine .inl ⟨⟨p, found, none⟩, hrun, .analyzed hload hfound, ?_⟩
      rintro (h | ⟨h, hfault⟩)
      · obtain ⟨e, h, -⟩ := h.load_error
        cases hload.symm.trans h
      · cases hload.symm.trans h
        cases hfound.symm.trans hfault

theorem load_congr {t' : FileTree} (h : t.read p = t'.read p) : Dump.load t p = Dump.load t' p := by
  unfold Dump.load Dump.readDocument
  rw [h]

/-- Two trees in which the file reads the same give it the same report, by `Reported`. -/
theorem Reported.unique {t' : FileTree} {r r' : FileReport} (h : Reported t options severity p r)
    (h' : Reported t' options severity p r') (hread : t.read p = t'.read p) : r = r' := by
  have hload := load_congr hread
  cases h with
  | rejected h =>
    rw [hload] at h
    cases h' with
    | rejected h' =>
      cases h.symm.trans h'
      rfl
    | analyzed h' _ => cases h.symm.trans h'
  | analyzed h hfound =>
    rw [hload] at h
    cases h' with
    | rejected h' => cases h.symm.trans h'
    | analyzed h' hfound' =>
      cases h.symm.trans h'
      cases hfound.symm.trans hfound'
      rfl

theorem Reported.file_eq {r : FileReport} (h : Reported t options severity p r) : r.file = p := by
  cases h <;> rfl

/-! ## Many files -/

/-- By `checkFiles` all files have their reports, in order, or one of them `Spoils` the check. -/
theorem checkFiles_cases : ∀ (files : List Path) (log : Log),
    (∃ reports, ((checkFiles t options severity files).run log).1 = .ok reports ∧
        List.Forall₂ (Reported t options severity) files reports ∧
        ∀ p ∈ files, ¬ Spoils t options severity p) ∨
      (∃ f, ((checkFiles t options severity files).run log).1 = .error f ∧
        ∃ p ∈ files, Spoils t options severity p)
  | [], log => .inl ⟨[], rfl, .nil, by simp⟩
  | p :: rest, log => by
    have hp := checkFile_cases t options severity p log
    unfold checkFiles
    rw [run_bind]
    rcases hrun : (checkFile t options severity p).run log with ⟨out, mid⟩
    rw [hrun] at hp
    rcases hp with ⟨r, hout, hr, hno⟩ | ⟨f, hout, hspoils⟩
    · obtain rfl : out = .ok r := hout
      -- the other files go on from the records that this one left
      have hrest := checkFiles_cases rest mid
      dsimp only
      rw [run_bind]
      rcases hothers : (checkFiles t options severity rest).run mid with ⟨out', mid'⟩
      rw [hothers] at hrest
      rcases hrest with ⟨reports, hout', hreports, hnone⟩ | ⟨f, hout', q, hq, hspoils⟩
      · obtain rfl : out' = .ok reports := hout'
        exact .inl ⟨r :: reports, rfl, .cons hr hreports, List.forall_mem_cons.2 ⟨hno, hnone⟩⟩
      · obtain rfl : out' = .error f := hout'
        exact .inr ⟨f, rfl, q, List.mem_cons_of_mem _ hq, hspoils⟩
    · obtain rfl : out = .error f := hout
      exact .inr ⟨f, rfl, p, List.mem_cons_self .., hspoils⟩

theorem run_outcome (t : FileTree) (clock : Clock) (options : RuleOptions) (severity : Severity)
    (files : List Path) :
    (run t clock options severity files).outcome.1 =
      ((checkFiles t options severity files).run []).1.map fun reports =>
        ⟨some ⟨clock.startedAt, version, files.length, clock.durationMs, options.source?⟩, reports⟩ := by
  unfold run Logged.outcome
  rw [run_bind]
  rcases (checkFiles t options severity files).run [] with ⟨f | reports, log⟩ <;> rfl

theorem reported_of_run {clock : Clock} {files : List Path} {results : Results}
    (h : (run t clock options severity files).outcome.1 = .ok results) :
    List.Forall₂ (Reported t options severity) files results.reports := by
  rw [run_outcome] at h
  rcases checkFiles_cases files [] with ⟨reports, hout, hreports, -⟩ | ⟨f, hout, -⟩ <;> rw [hout] at h
  · cases h
    exact hreports
  · cases h

theorem file_eq_of_reported {files : List Path} {reports : List FileReport}
    (h : List.Forall₂ (Reported t options severity) files reports) : reports.map (·.file) = files := by
  induction h with
  | nil => rfl
  | cons hr _ ih => rw [List.map_cons, hr.file_eq, ih]

theorem reported_of_mem {files : List Path} {reports : List FileReport}
    (h : List.Forall₂ (Reported t options severity) files reports) :
    ∀ r ∈ reports, Reported t options severity r.file r := by
  induction h with
  | nil => intro r hr; cases hr
  | cons hr _ ih => exact List.forall_mem_cons.2 ⟨hr.file_eq.symm ▸ hr, ih⟩

/-- A check has results, by `Check.run`, exactly when no file `Spoils` it. The results then hold one report for each
path, in the order of the paths, with the rejection or the diagnostics of that file (`Reported`); and in all checks
with these settings, files with the same path that read the same have the same report. Of the bytes of a file this
speaks as `Json.parse` reads them: without a limit on nesting, and with one character for all lone surrogates. -/
theorem run_results_iff (t : FileTree) (clock : Clock) (options : RuleOptions) (severity : Severity)
    (files : List Path) :
    ((∃ results, (run t clock options severity files).outcome.1 = .ok results) ↔
      ∀ p ∈ files, ¬ Spoils t options severity p) ∧
    ∀ results, (run t clock options severity files).outcome.1 = .ok results →
      results.reports.map (·.file) = files ∧ List.Forall₂ (Reported t options severity) files results.reports ∧
      ∀ t' clock' files' results', (run t' clock' options severity files').outcome.1 = .ok results' →
        ∀ r ∈ results.reports, ∀ r' ∈ results'.reports,
          r.file = r'.file → t.read r.file = t'.read r.file → r = r' := by
  constructor
  · rw [run_outcome]
    rcases checkFiles_cases files [] with ⟨reports, hout, -, hnone⟩ | ⟨f, hout, p, hp, hspoils⟩ <;> rw [hout]
    · exact iff_of_true ⟨_, rfl⟩ hnone
    · refine iff_of_false ?_ fun hnone => hnone p hp hspoils
      rintro ⟨results, h⟩
      cases h
  · intro results h
    have hreported := reported_of_run h
    refine ⟨file_eq_of_reported hreported, hreported, ?_⟩
    intro t' clock' files' results' h' r hr r' hr' hfile hread
    have hr := reported_of_mem hreported r hr
    have hr' := reported_of_mem (reported_of_run h') r' hr'
    rw [← hfile] at hr'
    exact hr.unique hr' hread

namespace Sample

/-- The range of the tree does not end: it is `[0, Infinity]`. -/
def text : String := "\x7b\"ast\":\x7b\"type\":\"Program\",\"range\":[0,Infinity]\x7d,\"scopes\":\x7b\x7d\x7d"

def document : Document := .object [
  ("ast", .object [("type", .text "Program"), ("range", .list [.int 0, .float (.infinite false)])]),
  ("scopes", .object [])]

def endless : Path := ⟨"", ["endless.json"]⟩

def empty : Path := ⟨"", ["empty.json"]⟩

def tree : FileTree := ⟨[("endless.json", .file (Text.encodeUtf8 text.toList)), ("empty.json", .file [])], []⟩

theorem readDocument_endless : Dump.readDocument tree endless = .ok document := by
  have hread : tree.read endless = .ok (Text.encodeUtf8 text.toList) := rfl
  have hutf8 : Text.decodeUtf8 (Text.encodeUtf8 text.toList) = .ok text.toList := by cbv
  have hjson : Json.parse (Text.plainLineEnds text.toList) = .ok document := by cbv
  simp only [Dump.readDocument, hread, hutf8, hjson]

end Sample

open Sample in
/-- There are no results, although the second file alone, `empty`, would have its report. -/
theorem run_infinite_range :
    (run tree ⟨"", 0⟩ RuleOptions.default .error [endless, empty]).outcome.1 =
      .error (.load (.escaped .infinityToInteger)) := by
  unfold run checkFiles checkFile Dump.load
  rw [readDocument_endless]
  rfl

end Check

end CatchAudit
