/-
Listings of reports. Each report with something to show has one file in the listing, inside the directories of the
path it is shown under, if no two reports are shown under one path; there are no other files. The listing can be
made exactly if the problems of all these reports can be written.
-/
import CatchAudit.Output.ResultsTree
import CatchAudit.Proofs.Files.Below
import CatchAudit.Proofs.Report.Order

namespace CatchAudit.ResultsTree

/-! ## Files of a listing -/

/-- A `file` as it stands in a listing. -/
structure Leaf where
  directories : List String
  name : String
  problems : List String

mutual
/-- The files of a listing inside directories, in order. -/
def Listing.leaves (trail : List String) : Listing → List Leaf
  | .directory name entries => leavesOf (trail ++ [name]) entries
  | .file name problems => [⟨trail, name, problems⟩]

def leavesOf (trail : List String) : List Listing → List Leaf
  | [] => []
  | entry :: rest => entry.leaves trail ++ leavesOf trail rest
end

theorem leavesOf_append (trail : List String) : ∀ xs ys : List Listing,
    leavesOf trail (xs ++ ys) = leavesOf trail xs ++ leavesOf trail ys
  | [], ys => rfl
  | x :: xs, ys => by rw [List.cons_append, leavesOf, leavesOf, leavesOf_append trail xs ys, List.append_assoc]

/-- A change that `inDirectory` makes and that adds a file adds it to the listing. -/
theorem leavesOf_inDirectory {name : String} {change : List Listing → List Listing} {trail : List String} {leaf : Leaf}
    (h : ∀ entries, (leavesOf (trail ++ [name]) (change entries)).Perm (leaf :: leavesOf (trail ++ [name]) entries)) :
    ∀ entries, (leavesOf trail (inDirectory name change entries)).Perm (leaf :: leavesOf trail entries)
  | [] => by
    have hnew := h []
    simpa [inDirectory, leavesOf, Listing.leaves] using hnew
  | .directory other entries :: rest => by
    unfold inDirectory
    split
    · next heq =>
      subst heq
      exact (h entries).append_right _
    · exact ((leavesOf_inDirectory h rest).append_left _).trans List.perm_middle
  | .file other problems :: rest => ((leavesOf_inDirectory h rest).append_left _).trans List.perm_middle

/-- By `addFile` a file is added once, inside its directories. -/
theorem leavesOf_addFile (name : String) (problems : List String) : ∀ (directories trail : List String)
    (entries : List Listing), (leavesOf trail (addFile (.file name problems) directories entries)).Perm
      (⟨trail ++ directories, name, problems⟩ :: leavesOf trail entries)
  | [], trail, entries => by
    rw [addFile, leavesOf_append, List.append_nil]
    exact List.perm_append_comm
  | directory :: rest, trail, entries => by
    have hrest := leavesOf_addFile name problems rest (trail ++ [directory])
    rw [List.append_assoc] at hrest
    exact leavesOf_inDirectory hrest entries

/-! ## Reports by path -/

/-- The components of `shownPath`, by which paths are compared. -/
def shownParts (root : Path) (r : FileReport) : List String := (shownPath root r).components

theorem insertReport_perm {root : Path} {r : FileReport} : ∀ {shown : List (Path × FileReport)},
    (∀ x ∈ shown, x.1.components ≠ shownParts root r) →
    (insertReport root r shown).Perm ((shownPath root r, r) :: shown)
  | [], _ => .refl _
  | (q, other) :: rest, h => by
    obtain ⟨hq, hrest⟩ := List.forall_mem_cons.1 h
    unfold insertReport
    dsimp only
    split
    · exact .refl _
    · next hless =>
      split
      · exact ((insertReport_perm hrest).cons _).trans (.swap ..)
      · next hless' =>
        rw [Path.less_iff] at hless hless'
        exact absurd (Std.Trichotomous.trichotomous _ _ hless' hless) hq

theorem foldl_insertReport_perm {root : Path} : ∀ {reports : List FileReport} (shown : List (Path × FileReport)),
    (reports.map (shownParts root)).Nodup →
    (∀ x ∈ shown, ∀ r ∈ reports, x.1.components ≠ shownParts root r) →
    (reports.foldl (fun shown r => insertReport root r shown) shown).Perm
      (reports.map (fun r => (shownPath root r, r)) ++ shown)
  | [], shown, _, _ => .refl _
  | r :: rest, shown, hnodup, h => by
    obtain ⟨hr, hrest⟩ := List.nodup_cons.1 hnodup
    have hinsert : (insertReport root r shown).Perm ((shownPath root r, r) :: shown) :=
      insertReport_perm fun x hx => h x hx r List.mem_cons_self
    have hnew : ∀ x ∈ insertReport root r shown, ∀ q ∈ rest, x.1.components ≠ shownParts root q := by
      intro x hx q hq
      rcases List.mem_cons.1 (hinsert.mem_iff.1 hx) with rfl | hx
      · exact fun heq => hr (List.mem_map.2 ⟨q, hq, heq.symm⟩)
      · exact h x hx q (List.mem_cons_of_mem _ hq)
    exact (foldl_insertReport_perm _ hrest hnew).trans ((hinsert.append_left _).trans List.perm_middle)

/-- Whether a report has something to show. -/
def hasEntries (r : FileReport) : Bool := !r.diagnostics.isEmpty || r.failed

/-- By `shownReports` reports with something to show are all shown if they have different paths. -/
theorem shownReports_perm {root : Path} {results : Results}
    (h : ((results.reports.filter hasEntries).map (shownParts root)).Nodup) :
    (shownReports root results).Perm ((results.reports.filter hasEntries).map fun r => (shownPath root r, r)) := by
  have hperm := foldl_insertReport_perm [] h (by simp)
  rwa [List.append_nil] at hperm

/-! ## The listing -/

/-- The file of a report in a listing. -/
structure LeafOf (p : Path) (r : FileReport) (leaf : Leaf) : Prop where
  directories : leaf.directories = p.components.dropLast
  name : leaf.name = p.name
  problems : ResultsTree.problems r = .ok leaf.problems

/-- Adds the file of a report. -/
def addReport (entries : List Listing) (x : Path × FileReport) : Except Fault (List Listing) := do
  return addFile (.file x.1.name (← problems x.2)) x.1.components.dropLast entries

theorem foldlM_addReport_succeeds_iff : ∀ (shown : List (Path × FileReport)) (entries : List Listing),
    Succeeds (shown.foldlM addReport entries) ↔ ∀ x ∈ shown, Succeeds (problems x.2)
  | [], entries => iff_of_true (succeeds_ok _) (by simp)
  | x :: rest, entries => by
    rw [List.foldlM_cons, List.forall_mem_cons]
    unfold addReport
    rcases hproblems : problems x.2 with f | problems
    · refine iff_of_false ?_ ?_
      · rintro ⟨_, h⟩
        cases h
      · rintro ⟨⟨_, h⟩, -⟩
        cases h
    · exact (foldlM_addReport_succeeds_iff rest _).trans (and_iff_right (succeeds_ok _)).symm

theorem leavesOf_foldlM {entries' : List Listing} : ∀ {shown : List (Path × FileReport)} {entries : List Listing},
    shown.foldlM addReport entries = .ok entries' →
    ∃ leaves, List.Forall₂ (fun x leaf => LeafOf x.1 x.2 leaf) shown leaves ∧
      (leavesOf [] entries').Perm (leaves ++ leavesOf [] entries)
  | [], entries, h => by
    cases h
    exact ⟨[], .nil, .refl _⟩
  | x :: rest, entries, h => by
    rw [List.foldlM_cons] at h
    obtain ⟨mid, hmid, h⟩ := bind_ok h
    obtain ⟨problems, hproblems, heq⟩ := bind_ok hmid
    cases heq
    obtain ⟨leaves, hleaves, hperm⟩ := leavesOf_foldlM h
    have hadd := leavesOf_addFile x.1.name problems x.1.components.dropLast [] entries
    exact ⟨_ :: leaves, .cons ⟨rfl, rfl, hproblems⟩ hleaves,
      hperm.trans ((hadd.append_left leaves).trans List.perm_middle)⟩

section

variable {root : Path} {results : Results} {entries : List Listing}
  (hpaths : ((results.reports.filter hasEntries).map (shownParts root)).Nodup)

theorem listings_eq (root : Path) (results : Results) :
    listings root results = (shownReports root results).foldlM addReport [] := rfl

include hpaths in
/-- In `listings` there is one file for each report with something to show. -/
theorem exists_leaves (h : listings root results = .ok entries) :
    ∃ leaves, (leavesOf [] entries).Perm leaves ∧
      List.Forall₂ (fun r leaf => LeafOf (shownPath root r) r leaf) (results.reports.filter hasEntries) leaves := by
  rw [listings_eq] at h
  obtain ⟨leaves, hleaves, hperm⟩ := leavesOf_foldlM h
  rw [leavesOf, List.append_nil] at hperm
  obtain ⟨leaves', hleaves', hperm'⟩ := List.perm_comp_forall₂ (shownReports_perm hpaths).symm hleaves
  exact ⟨leaves', hperm.trans hperm'.symm, List.forall₂_map_left_iff.1 hleaves'⟩

include hpaths in
theorem listings_succeeds_iff :
    Succeeds (listings root results) ↔ ∀ r ∈ results.reports, hasEntries r = true → Succeeds (problems r) := by
  rw [listings_eq, foldlM_addReport_succeeds_iff]
  simp only [(shownReports_perm hpaths).mem_iff, List.forall_mem_map, List.mem_filter, and_imp]

end

/-! ## Problems -/

theorem problemText_succeeds_iff {d : Diagnostic} (h : d.node.CountedLocation)
    (hname : d.name = .null ∨ ∃ s, d.name = .text s) : Succeeds (problemText d) ↔ d.Writable := by
  obtain ⟨column, hcolumn⟩ := Diagnostic.column_succeeds h
  have hwritable : d.Writable ↔ d.line.isWritable = true ∧ column.isWritable = true := by
    simp [Diagnostic.Writable, hcolumn]
  have htext : ∃ name, problemText d = (do
      let line ← d.line.toText
      let column ← column.toText
      return "x " ++ name ++ " (" ++ d.kind.name ++ ", line " ++ line ++ ", col " ++ column ++ ")") := by
    unfold problemText
    rw [hcolumn]
    rcases hname with hname | ⟨s, hname⟩ <;> rw [hname] <;> exact ⟨_, rfl⟩
  obtain ⟨name, htext⟩ := htext
  rw [htext, hwritable, ← Document.toText_succeeds_iff, ← Document.toText_succeeds_iff]
  exact succeeds_both_iff

end CatchAudit.ResultsTree
