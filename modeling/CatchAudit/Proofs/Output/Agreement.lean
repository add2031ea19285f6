/-
The outputs of a check agree. The document, the lines and the listing of a report name the same diagnostics in the
same order: by line and column, and in the order of the rule at one position. The counts agree as well: those of the
summary, of the kinds, of the severities, of the messages and of the lines.

The document can always be made. Lines and listings need the positions as text: they can be made exactly if no line
and no column, counted from one, is a number too long to be written.
-/
import CatchAudit.Output.Compact
import CatchAudit.Proofs.Check.Reports
import CatchAudit.Proofs.Dump.Plain
import CatchAudit.Proofs.Output.Listings

namespace CatchAudit

/-! ## Lists made item by item -/

theorem forall₂_imp_mem {α β : Type} {R S : α → β → Prop} {xs : List α} {ys : List β}
    (hRS : ∀ x ∈ xs, ∀ y, R x y → S x y) (h : List.Forall₂ R xs ys) : List.Forall₂ S xs ys :=
  ((List.forall₂_and_left xs ys).2 ⟨hRS, h⟩).imp fun _ y hxy => hxy.1 y hxy.2

theorem sum_map_eq_of_forall₂ {α β : Type} {f : α → Nat} {g : β → Nat} {xs : List α} {ys : List β}
    (h : List.Forall₂ (fun x y => g y = f x) xs ys) : (ys.map g).sum = (xs.map f).sum := by
  induction h with
  | nil => rfl
  | cons hxy _ ih => rw [List.map_cons, List.map_cons, List.sum_cons, List.sum_cons, hxy, ih]

/-! ## Counts of kinds -/

theorem sum_setMember (name : String) (n : Nat) : ∀ counts : List (String × Nat),
    ((setMember name n counts).map (·.2)).sum + (memberOf? name counts).getD 0 = (counts.map (·.2)).sum + n
  | [] => by simp [setMember, memberOf?]
  | (key, m) :: rest => by
    have hrest := sum_setMember name n rest
    unfold setMember memberOf?
    split
    · simp only [List.map_cons, List.sum_cons, Option.getD_some]
      omega
    · simp only [List.map_cons, List.sum_cons]
      omega

namespace Results

theorem sum_tally (counts : List (String × Nat)) (name : String) :
    ((tally counts name).map (·.2)).sum = (counts.map (·.2)).sum + 1 := by
  have h := sum_setMember name ((memberOf? name counts).getD 0 + 1) counts
  unfold tally
  omega

theorem sum_foldl_tally : ∀ (names : List String) (counts : List (String × Nat)),
    ((names.foldl tally counts).map (·.2)).sum = (counts.map (·.2)).sum + names.length
  | [], counts => rfl
  | name :: names, counts => by
    rw [List.foldl_cons, sum_foldl_tally names, sum_tally, List.length_cons]
    omega

theorem sum_byKind (results : Results) : (results.byKind.map (·.2)).sum = results.diagnosticCount := by
  rw [byKind, sum_foldl_tally]
  simp [diagnosticCount]

theorem diagnosticCount_eq (results : Results) :
    results.diagnosticCount = (results.reports.map fun r => r.diagnostics.length).sum := List.length_flatMap

end Results

/-! ## One report -/

instance (d : Diagnostic) : Decidable d.Writable :=
  decidable_of_iff (d.line.isWritable = true ∧ ∀ column ∈ d.column.toOption, column.isWritable = true) <| by
    unfold Diagnostic.Writable
    cases d.column <;> simp [Except.toOption]

namespace FileReport

/-- The positions of all diagnostics are `Writable`. -/
def Writable (r : FileReport) : Prop := ∀ d ∈ r.diagnostics, d.Writable

instance (r : FileReport) : Decidable r.Writable := inferInstanceAs (Decidable (∀ d ∈ r.diagnostics, d.Writable))

/-- The document that `toDocument` makes of a report has a message for each diagnostic, in order, and the counts by
severity. -/
structure InDocument (r : FileReport) (document : Document) : Prop where
  made : r.toDocument = .ok document
  member : document.memberD "messages" = .list (document.holdings "messages")
  listed : List.Forall₂ (fun d message => d.toDocument = .ok message) r.inOrder (document.holdings "messages")
  errorCount : document.memberD "errorCount" = .int r.errorCount
  warningCount : document.memberD "warningCount" = .int r.warningCount

/-- The entries are one for the error of a report, or one for each diagnostic, in order. -/
structure Entered (ofError : String → String) (ofDiagnostic : Diagnostic → Except Fault String) (r : FileReport)
    (entries : List String) : Prop where
  error : ∀ e, r.error = some e → entries = [ofError e]
  listed : r.error = none → List.Forall₂ (fun d entry => ofDiagnostic d = .ok entry) r.inOrder entries

/-- The entries of a report, made by lines and by listings alike. -/
def entries (ofError : String → String) (ofDiagnostic : Diagnostic → Except Fault String) (r : FileReport) :
    Except Fault (List String) :=
  match r.failed, r.error with
  | true, some e => .ok [ofError e]
  | _, _ => do (← r.sorted).mapM ofDiagnostic

/-- The lines that `reportLines` makes of a report. -/
abbrev InLines (r : FileReport) : List String → Prop :=
  r.Entered (Compact.lineText r.file.text "0" "0" "Error") (Compact.diagnosticLine r.file.text)

/-- The file of a report in a listing, under the path that `shownPath` gives. -/
structure InListing (root : Path) (r : FileReport) (leaf : ResultsTree.Leaf) : Prop where
  directories : leaf.directories = (ResultsTree.shownPath root r).components.dropLast
  name : leaf.name = (ResultsTree.shownPath root r).name
  problems : r.Entered ("! " ++ ·) ResultsTree.problemText leaf.problems

variable {r : FileReport} {ofError : String → String} {ofDiagnostic : Diagnostic → Except Fault String}

theorem reportLines_eq (r : FileReport) : Compact.reportLines r =
    r.entries (Compact.lineText r.file.text "0" "0" "Error") (Compact.diagnosticLine r.file.text) := rfl

theorem problems_eq (r : FileReport) : ResultsTree.problems r = r.entries ("! " ++ ·) ResultsTree.problemText := rfl

theorem inDocument_of_ok {document : Document} (hcounted : ∀ d ∈ r.diagnostics, d.node.CountedLocation)
    (h : r.toDocument = .ok document) : r.InDocument document := by
  have hmade := h
  unfold toDocument at h
  rw [sorted_eq_inOrder hcounted] at h
  obtain ⟨_, hsorted, h⟩ := bind_ok h
  cases hsorted
  obtain ⟨messages, hmessages, h⟩ := bind_ok h
  cases h
  exact ⟨hmade, rfl, forall₂_of_mapM_ok hmessages, rfl, rfl⟩

theorem entries_of_error {e : String} (hfailed : r.failed = r.error.isSome) (herror : r.error = some e) :
    r.entries ofError ofDiagnostic = .ok [ofError e] := by
  unfold entries
  rw [hfailed, herror]
  rfl

theorem entries_of_none (hcounted : ∀ d ∈ r.diagnostics, d.node.CountedLocation) (hfailed : r.failed = r.error.isSome)
    (herror : r.error = none) : r.entries ofError ofDiagnostic = r.inOrder.mapM ofDiagnostic := by
  unfold entries
  rw [hfailed, herror, sorted_eq_inOrder hcounted]
  rfl

/-- The `entries` can be made if the positions are `Writable`, where this is what an entry needs. -/
theorem entries_succeeds_iff (hcounted : ∀ d ∈ r.diagnostics, d.node.CountedLocation)
    (hentry : ∀ d ∈ r.diagnostics, (Succeeds (ofDiagnostic d) ↔ d.Writable)) :
    Succeeds (r.entries ofError ofDiagnostic) ↔ r.failed = true ∨ r.Writable := by
  unfold entries Writable
  cases hfailed : r.failed with
  | true =>
    obtain ⟨e, herror, -⟩ := (Option.any_eq_true ..).1 hfailed
    rw [herror]
    exact iff_of_true (succeeds_ok _) (.inl rfl)
  | false =>
    rw [sorted_eq_inOrder hcounted]
    refine succeeds_mapM_iff.trans ?_
    rw [or_iff_right Bool.false_ne_true]
    refine forall_congr' fun d => ?_
    rw [mem_inOrder]
    exact imp_congr_right fun hd => hentry d hd

theorem Entered.length_eq {entries : List String} (h : r.Entered ofError ofDiagnostic entries)
    (hnil : r.error.isSome = true → r.diagnostics = []) :
    entries.length = r.diagnostics.length + if r.error.isSome then 1 else 0 := by
  cases herror : r.error with
  | none => simpa [length_inOrder] using (h.listed herror).length_eq.symm
  | some e => simp [h.error e herror, hnil (by simp [herror])]

end FileReport

/-! ## Reports of a check -/

namespace Check.Reported

variable {t : FileTree} {options : RuleOptions} {severity : Severity} {p : Path} {r : FileReport}
  {ofError : String → String} {ofDiagnostic : Diagnostic → Except Fault String}

theorem entered (h : Reported t options severity p r) (hcounted : ∀ d ∈ r.diagnostics, d.node.CountedLocation)
    {entries : List String} (hentries : r.entries ofError ofDiagnostic = .ok entries) :
    r.Entered ofError ofDiagnostic entries := by
  constructor
  · intro e herror
    rw [FileReport.entries_of_error h.failed_eq herror] at hentries
    exact (Except.ok.inj hentries).symm
  · intro herror
    rw [FileReport.entries_of_none hcounted h.failed_eq herror] at hentries
    exact forall₂_of_mapM_ok hentries

/-- A `Reported` file with an error has no diagnostics, so that nothing is left to be written. -/
theorem entries_succeeds_iff (h : Reported t options severity p r)
    (hcounted : ∀ d ∈ r.diagnostics, d.node.CountedLocation)
    (hentry : ∀ d ∈ r.diagnostics, (Succeeds (ofDiagnostic d) ↔ d.Writable)) :
    Succeeds (r.entries ofError ofDiagnostic) ↔ r.Writable := by
  refine (FileReport.entries_succeeds_iff hcounted hentry).trans (or_iff_right_of_imp fun hfailed d hd => ?_)
  rw [h.diagnostics_eq_nil (h.failed_eq ▸ hfailed)] at hd
  cases hd

theorem reportLines_succeeds_iff (h : Reported t options severity p r)
    (hcounted : ∀ d ∈ r.diagnostics, d.node.CountedLocation) : Succeeds (Compact.reportLines r) ↔ r.Writable := by
  rw [r.reportLines_eq]
  exact h.entries_succeeds_iff hcounted fun d hd => Diagnostic.line_succeeds_iff (hcounted d hd) _

theorem problems_succeeds_iff (h : Reported t options severity p r)
    (hcounted : ∀ d ∈ r.diagnostics, d.node.CountedLocation) : Succeeds (ResultsTree.problems r) ↔ r.Writable := by
  rw [r.problems_eq]
  exact h.entries_succeeds_iff hcounted fun d hd =>
    ResultsTree.problemText_succeeds_iff (hcounted d hd) (h.name_eq d hd)

theorem inLines (h : Reported t options severity p r) (hcounted : ∀ d ∈ r.diagnostics, d.node.CountedLocation)
    {lines : List String} (hlines : Compact.reportLines r = .ok lines) : r.InLines lines := by
  rw [r.reportLines_eq] at hlines
  exact h.entered hcounted hlines

theorem inListing (h : Reported t options severity p r) (hcounted : ∀ d ∈ r.diagnostics, d.node.CountedLocation)
    {root : Path} {leaf : ResultsTree.Leaf} (hleaf : ResultsTree.LeafOf (ResultsTree.shownPath root r) r leaf) :
    r.InListing root leaf := by
  have hproblems := hleaf.problems
  rw [r.problems_eq] at hproblems
  exact ⟨hleaf.directories, hleaf.name, h.entered hcounted hproblems⟩

theorem hasEntries_eq (h : Reported t options severity p r) :
    ResultsTree.hasEntries r = (!r.diagnostics.isEmpty || r.error.isSome) := by
  rw [ResultsTree.hasEntries, h.failed_eq]

end Check.Reported

/-! ## All reports -/

namespace Results

/-- The document that `toDocument` makes of results holds the documents of the reports; its summary counts their
messages, which are as many as all kinds and all severities together. -/
structure InDocument (results : Results) (document : Document) : Prop where
  made : results.toDocument = .ok document
  member : document.memberD "results" = .list (document.holdings "results")
  listed : List.Forall₂ FileReport.InDocument results.reports (document.holdings "results")
  summary : ∃ counts : List (String × Nat), document.memberD "summary" = .object [
      ("diagnostics", .int results.diagnosticCount),
      ("by_kind", .object (counts.map fun c => (c.1, .int c.2)))] ∧
    (counts.map (·.2)).sum = results.diagnosticCount
  bySeverity : (results.reports.map fun r => r.errorCount + r.warningCount).sum = results.diagnosticCount
  messages : ((document.holdings "results").map fun d => (d.holdings "messages").length).sum = results.diagnosticCount

/-- The text of results holds lines that are `InLines` of the reports, and below them the number of lines if there are
any. They are as many as there are diagnostics and reports with an error. -/
structure InText (results : Results) (text : String) (lines : List (List String)) : Prop where
  listed : List.Forall₂ FileReport.InLines results.reports lines
  text_eq : text = "\n".intercalate (lines.flatten ++
    if lines.flatten = [] then []
    else ["", toString lines.flatten.length ++ " problem" ++ if lines.flatten.length = 1 then "" else "s"])
  count : lines.flatten.length = results.diagnosticCount + results.reports.countP (·.error.isSome)

/-- The files of a listing are, each by `FileReport.InListing`, those of the reports with an error or with
diagnostics. -/
structure InListing (root : Path) (results : Results) (entries : List ResultsTree.Listing)
    (leaves : List ResultsTree.Leaf) : Prop where
  perm : (ResultsTree.leavesOf [] entries).Perm leaves
  listed : List.Forall₂ (FileReport.InListing root)
    (results.reports.filter fun r => !r.diagnostics.isEmpty || r.error.isSome) leaves

section

variable {t : FileTree} {options : RuleOptions} {severity : Severity} {results : Results}
  (hreported : ∀ r ∈ results.reports, Check.Reported t options severity r.file r)
  (hcounted : ∀ r ∈ results.reports, ∀ d ∈ r.diagnostics, d.node.CountedLocation)

include hreported in
theorem sum_severities :
    (results.reports.map fun r => r.errorCount + r.warningCount).sum = results.diagnosticCount := by
  rw [diagnosticCount_eq]
  exact congrArg List.sum (List.map_congr_left fun r hr => (hreported r hr).errorCount_add_warningCount)

include hreported in
theorem failures_length : results.failures.length = results.reports.countP (·.error.isSome) := by
  rw [failures, ← List.countP_eq_length_filter]
  exact List.countP_congr fun r hr => by rw [(hreported r hr).failed_eq]

theorem sum_lengths (reports : List FileReport) :
    (reports.map fun r => r.diagnostics.length + if r.error.isSome then 1 else 0).sum =
      (reports.map fun r => r.diagnostics.length).sum + reports.countP (·.error.isSome) := by
  rw [List.sum_map_add]
  congr 1
  induction reports with
  | nil => rfl
  | cons r rest ih =>
    rw [List.map_cons, List.sum_cons, ih, List.countP_cons]
    omega

include hreported hcounted in
theorem exists_inDocument : ∃ document, results.InDocument document := by
  obtain ⟨documents, hdocuments⟩ : Succeeds (results.reports.mapM FileReport.toDocument) :=
    succeeds_mapM_iff.2 fun r hr => FileReport.toDocument_succeeds (hcounted r hr)
  have hlisted : List.Forall₂ FileReport.InDocument results.reports documents :=
    forall₂_imp_mem (fun r hr _ h => FileReport.inDocument_of_ok (hcounted r hr) h) (forall₂_of_mapM_ok hdocuments)
  have hmessages : (documents.map fun d => (d.holdings "messages").length).sum = results.diagnosticCount := by
    rw [diagnosticCount_eq]
    refine sum_map_eq_of_forall₂ (hlisted.imp fun r document h => ?_)
    rw [← h.listed.length_eq, r.length_inOrder]
  obtain ⟨document, hdocument⟩ : Succeeds results.toDocument := by
    unfold toDocument
    rw [hdocuments]
    exact succeeds_ok _
  have hmade := hdocument
  unfold toDocument at hdocument
  rw [hdocuments] at hdocument
  cases hmetadata : results.metadata <;> rw [hmetadata] at hdocument <;> cases hdocument
  all_goals
    exact ⟨_, hmade, rfl, hlisted, ⟨results.byKind, rfl, results.sum_byKind⟩, sum_severities hreported, hmessages⟩

include hreported hcounted in
theorem exists_inText {text : String} (h : Compact.text results = .ok text) : ∃ lines, results.InText text lines := by
  obtain ⟨lines, hlines, h⟩ := bind_ok h
  cases h
  have hlisted : List.Forall₂ FileReport.InLines results.reports lines :=
    forall₂_imp_mem (fun r hr _ h => (hreported r hr).inLines (hcounted r hr) h) (forall₂_of_mapM_ok hlines)
  have hcount : lines.flatten.length = results.diagnosticCount + results.reports.countP (·.error.isSome) := by
    rw [List.length_flatten, diagnosticCount_eq, ← sum_lengths]
    refine sum_map_eq_of_forall₂ (forall₂_imp_mem (fun r hr ls h => ?_) hlisted)
    exact h.length_eq (hreported r hr).diagnostics_eq_nil
  refine ⟨lines, hlisted, ?_, hcount⟩
  have hproblems : Compact.problemCount results = lines.flatten.length := by
    rw [Compact.problemCount, failures_length hreported, hcount]
  rw [hproblems, Compact.countLines]
  simp only [List.length_eq_zero_iff]

include hreported hcounted in
theorem text_succeeds_iff : Succeeds (Compact.text results) ↔ ∀ r ∈ results.reports, r.Writable := by
  have hlines : Succeeds (Compact.text results) ↔ Succeeds (results.reports.mapM Compact.reportLines) := by
    constructor
    · rintro ⟨text, h⟩
      obtain ⟨lines, hlines, -⟩ := bind_ok h
      exact ⟨lines, hlines⟩
    · exact fun h => h.bind fun _ _ => succeeds_ok _
  rw [hlines, succeeds_mapM_iff]
  exact forall₂_congr fun r hr => (hreported r hr).reportLines_succeeds_iff (hcounted r hr)

variable {root : Path} (hpaths : (results.reports.map fun r => (ResultsTree.shownPath root r).components).Nodup)

include hpaths in
theorem nodup_shownParts : ((results.reports.filter ResultsTree.hasEntries).map (ResultsTree.shownParts root)).Nodup :=
  hpaths.sublist (List.filter_sublist.map _)

include hreported hcounted hpaths in
theorem listings_succeeds_iff :
    Succeeds (ResultsTree.listings root results) ↔ ∀ r ∈ results.reports, r.Writable := by
  rw [ResultsTree.listings_succeeds_iff (nodup_shownParts hpaths)]
  refine forall₂_congr fun r hr => ?_
  rw [(hreported r hr).problems_succeeds_iff (hcounted r hr)]
  refine ⟨fun h d hd => h ?_ d hd, fun h _ => h⟩
  simp [ResultsTree.hasEntries, List.isEmpty_eq_false_iff.2 (List.ne_nil_of_mem hd)]

include hreported hcounted hpaths in
theorem exists_inListing {entries : List ResultsTree.Listing} (h : ResultsTree.listings root results = .ok entries) :
    ∃ leaves, results.InListing root entries leaves := by
  obtain ⟨leaves, hperm, hleaves⟩ := ResultsTree.exists_leaves (nodup_shownParts hpaths) h
  rw [List.filter_congr fun r hr => (hreported r hr).hasEntries_eq] at hleaves
  refine ⟨leaves, hperm, forall₂_imp_mem (fun r hr leaf hleaf => ?_) hleaves⟩
  have hr := List.mem_of_mem_filter hr
  exact (hreported r hr).inListing (hcounted r hr) hleaf

end

/-- The outputs of `Check.run` agree, if lines and columns are whole numbers and no two reports are shown under one
path. A report has the diagnostics that the rule found, or an error and no diagnostics. There is a single order,
`inOrder`, by line and column that keeps the order of the rule at one position, and in this order the messages of the
document, the lines and the problems of the file in the listing are about the diagnostics. The document can be made in
any case; the lines of a report, the text and the listing exactly if the positions are `Writable`. The text ends with
the number of its entries, if there are any, which are the diagnostics and the reports with an error; and the counts
of the document agree. -/
theorem outputs_agree {t : FileTree} {clock : Check.Clock} {options : RuleOptions} {severity : Severity}
    {files : List Path} {results : Results} {root : Path}
    (h : (Check.run t clock options severity files).outcome.1 = .ok results)
    (hcounted : ∀ r ∈ results.reports, ∀ d ∈ r.diagnostics, d.node.CountedLocation)
    (hpaths : (results.reports.map fun r => (ResultsTree.shownPath root r).components).Nodup) :
    (∀ r ∈ results.reports,
      Check.Reported t options severity r.file r ∧
      (r.error.isSome = true → r.diagnostics = []) ∧
      (∀ d ∈ r.diagnostics, d.sortKey = (.int (ofLex d.rank).1, .int (ofLex d.rank).2)) ∧
      (∀ ds, StablySorted Diagnostic.rank r.diagnostics ds ↔ ds = r.inOrder) ∧
      (Succeeds (Compact.reportLines r) ↔ r.Writable) ∧
      ∀ lines, Compact.reportLines r = .ok lines → r.InLines lines) ∧
    (∃ document, results.InDocument document) ∧
    (Succeeds (Compact.text results) ↔ ∀ r ∈ results.reports, r.Writable) ∧
    (∀ text, Compact.text results = .ok text → ∃ lines, results.InText text lines) ∧
    (Succeeds (ResultsTree.listings root results) ↔ ∀ r ∈ results.reports, r.Writable) ∧
    ∀ entries, ResultsTree.listings root results = .ok entries → ∃ leaves, results.InListing root entries leaves := by
  have hreported := Check.reported_of_mem (Check.reported_of_run h)
  refine ⟨fun r hr => ?_, exists_inDocument hreported hcounted, text_succeeds_iff hreported hcounted,
    fun _ => exists_inText hreported hcounted, listings_succeeds_iff hreported hcounted hpaths,
    fun _ => exists_inListing hreported hcounted hpaths⟩
  refine ⟨hreported r hr, (hreported r hr).diagnostics_eq_nil, fun d hd => Diagnostic.sortKey_eq (hcounted r hr d hd),
    fun _ => FileReport.stablySorted_iff_inOrder, (hreported r hr).reportLines_succeeds_iff (hcounted r hr), ?_⟩
  exact fun _ => (hreported r hr).inLines (hcounted r hr)

/-! A dump with two catch clauses without a binding, of which only the first one has a location. -/

namespace Sample

def clauses (column : List Char) : List Char :=
  ["\x7b\"ast\":\x7b\"type\":\"Program\",\"range\":[0,9],\"body\":[",
    "\x7b\"type\":\"CatchClause\",\"range\":[1,4],",
    "\"loc\":\x7b\"end\":\x7b\"line\":2,\"column\":3\x7d,\"start\":\x7b\"line\":2,\"column\":"].flatMap String.toList ++
  column ++
  ["\x7d\x7d\x7d,\x7b\"type\":\"CatchClause\",\"range\":[5,8]\x7d]\x7d,",
    "\"scopes\":\x7b\"block\":\x7b\"type\":\"Program\",\"range\":[0,9]\x7d\x7d\x7d"].flatMap String.toList

def tree (column : List Char) : FileTree := ⟨[("a", .file (Text.encodeUtf8 (clauses column)))], []⟩

def clock : Check.Clock := ⟨"", 0⟩

def here : Path := ⟨"/", []⟩

def first : Path := ⟨"", ["a"]⟩

def absent : Path := ⟨"", ["b"]⟩

/-- The column is a number with as many nines as a number may have digits. -/
def longColumn : List Char := List.replicate Text.maxDigits '9'

end Sample

/-- The diagnostics of the one dump in `Sample.tree` can be written; the other file is absent. -/
theorem Sample.run_tree : ∃ results,
    (Check.run (tree ['0']) clock RuleOptions.default .error [first, absent]).outcome.1 = .ok results ∧
    (∀ r ∈ results.reports, ∀ d ∈ r.diagnostics, d.node.CountedLocation) ∧
    (results.reports.map fun r => (ResultsTree.shownPath here r).components).Nodup ∧
    (∀ r ∈ results.reports, r.Writable) ∧
    results.diagnosticCount = 2 ∧ results.reports.countP (·.error.isSome) = 1 := by
  have hrun : ((Check.run (tree ['0']) clock RuleOptions.default .error [first, absent]).outcome.1.toOption.any
      fun results => decide ((∀ r ∈ results.reports, ∀ d ∈ r.diagnostics, d.node.CountedLocation) ∧
        (results.reports.map fun r => (ResultsTree.shownPath here r).components).Nodup ∧
        (∀ r ∈ results.reports, r.Writable) ∧
        results.diagnosticCount = 2 ∧ results.reports.countP (·.error.isSome) = 1)) = true := by decide +kernel
  obtain ⟨results, hresults, h⟩ := (Option.any_eq_true ..).1 hrun
  exact ⟨results, ok_of_toOption hresults, of_decide_eq_true h⟩

open Sample in
/-- Three problems in two files of `Sample.tree`, all of them shown. -/
theorem outputs_agree_sample :
    ∃ results text lines document entries leaves,
      (Check.run (tree ['0']) clock RuleOptions.default .error [first, absent]).outcome.1 = .ok results ∧
      Compact.text results = .ok text ∧ results.InText text lines ∧ lines.flatten.length = 3 ∧
      results.InDocument document ∧
      ResultsTree.listings here results = .ok entries ∧ results.InListing here entries leaves := by
  obtain ⟨results, hresults, hcounted, hpaths, hwritable, hcount, herrors⟩ := run_tree
  obtain ⟨-, ⟨document, hdocument⟩, htext, hlines, hlistings, hleaves⟩ := outputs_agree hresults hcounted hpaths
  obtain ⟨text, htext⟩ := htext.2 hwritable
  obtain ⟨entries, hentries⟩ := hlistings.2 hwritable
  obtain ⟨lines, hlines⟩ := hlines text htext
  obtain ⟨leaves, hleaves⟩ := hleaves entries hentries
  refine ⟨results, text, lines, document, entries, leaves, hresults, htext, hlines, ?_, hdocument, hentries, hleaves⟩
  rw [hlines.count, hcount, herrors]

open Sample in
theorem Sample.analyze_long : ∃ dump ds,
    (Dump.load (tree longColumn) first).1 = .ok dump ∧
    (analyze dump.forest .default .error UnhandledCatch.ruleName).outcome.1 = .ok ds ∧
    (∀ d ∈ ds, d.node.CountedLocation) ∧ ¬ ∀ d ∈ ds, d.Writable := by
  have hparse : ((Json.parse (clauses longColumn)).toOption.any fun d =>
      (Dump.ofDocument d (.text first.text)).1.toOption.any fun dump =>
        (analyze dump.forest .default .error UnhandledCatch.ruleName).outcome.1.toOption.any fun ds =>
          decide ((∀ d ∈ ds, d.node.CountedLocation) ∧ ¬ ∀ d ∈ ds, d.Writable)) = true := by decide +kernel
  have hread : (tree longColumn).read first = .ok (Text.encodeUtf8 (clauses longColumn)) := rfl
  have hplain : Text.isPlain (clauses longColumn) = true := by decide +kernel
  obtain ⟨d, hd, h⟩ := (Option.any_eq_true ..).1 hparse
  obtain ⟨dump, hdump, h⟩ := (Option.any_eq_true ..).1 h
  obtain ⟨ds, hds, h⟩ := (Option.any_eq_true ..).1 h
  refine ⟨dump, ds, ?_, ok_of_toOption hds, of_decide_eq_true h⟩
  rw [Dump.load_of_readDocument (Dump.readDocument_of_plain hread hplain (ok_of_toOption hd))]
  exact ok_of_toOption hdump

open Sample in
/-- With `longColumn`, which gets one digit too many by counting from one, the lines and the listing cannot be made.
-/
theorem outputs_fail_on_long_column :
    ∃ results, (Check.run (tree longColumn) clock RuleOptions.default .error [first]).outcome.1 = .ok results ∧
      (∀ r ∈ results.reports, ∀ d ∈ r.diagnostics, d.node.CountedLocation) ∧
      (results.reports.map fun r => (ResultsTree.shownPath here r).components).Nodup ∧
      (∀ r ∈ results.reports, r.error = none ∧ ¬ Succeeds (Compact.reportLines r)) ∧
      ¬ Succeeds (Compact.text results) ∧ ¬ Succeeds (ResultsTree.listings here results) := by
  obtain ⟨dump, ds, hload, hds, hcounted, hlong⟩ := analyze_long
  obtain ⟨results, hresults, hreports⟩ := Check.run_singleton clock hload hds
  have hreported := Check.reported_of_mem (Check.reported_of_run hresults)
  have hcounted : ∀ r ∈ results.reports, ∀ d ∈ r.diagnostics, d.node.CountedLocation := by
    simpa [hreports] using hcounted
  have hpaths : (results.reports.map fun r => (ResultsTree.shownPath here r).components).Nodup := by simp [hreports]
  have hwritable : ∀ r ∈ results.reports, r.error = none ∧ ¬ r.Writable := by
    simpa [hreports, FileReport.Writable] using hlong
  have hsome : ¬ ∀ r ∈ results.reports, r.Writable := by simpa [hreports, FileReport.Writable] using hlong
  refine ⟨results, hresults, hcounted, hpaths, fun r hr => ⟨(hwritable r hr).1, ?_⟩, ?_, ?_⟩
  · rw [(hreported r hr).reportLines_succeeds_iff (hcounted r hr)]
    exact (hwritable r hr).2
  · rw [text_succeeds_iff hreported hcounted]
    exact hsome
  · rw [listings_succeeds_iff hreported hcounted hpaths]
    exact hsome

end Results

end CatchAudit
