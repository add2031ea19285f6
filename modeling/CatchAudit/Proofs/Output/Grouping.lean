/-
Listings group files by directory. Reports come in the order of their paths, in which the paths below one directory
stand together. Hence each file is added behind all others, at the end of the directories that were opened last, and
the files of a listing, read from its start to its end, are in the order of the paths. No directory is opened twice,
and none is without a file somewhere inside it.
-/
import CatchAudit.Proofs.Output.Agreement

namespace CatchAudit.ResultsTree

/-! ## Directories of a listing -/

mutual
/-- The directories of a listing, each before those inside it; `trail` are the directories around the listing. -/
def Listing.directories (trail : List String) : Listing → List (List String)
  | .directory name entries => (trail ++ [name]) :: directoriesOf (trail ++ [name]) entries
  | .file _ _ => []

def directoriesOf (trail : List String) : List Listing → List (List String)
  | [] => []
  | entry :: rest => entry.directories trail ++ directoriesOf trail rest
end

/-- No directory stands twice in one place, and none is empty. -/
inductive Tidy : List Listing → Prop
  | nil : Tidy []
  | file {name : String} {problems : List String} {rest : List Listing} : Tidy rest → Tidy (.file name problems :: rest)
  | directory {name : String} {entries rest : List Listing} : entries ≠ [] → Tidy entries →
      (∀ inner, .directory name inner ∉ rest) → Tidy rest → Tidy (.directory name entries :: rest)

section

variable {name : String} {problems trail full d : List String} {entries rest : List Listing}
  {change : List Listing → List Listing} {leaf : Leaf}

theorem Tidy.append_file (h : Tidy entries) : Tidy (entries ++ [.file name problems]) := by
  induction h with
  | nil => exact .file .nil
  | file _ ih => exact .file ih
  | directory hne hinner honce _ _ ih => exact .directory hne hinner (by simpa using honce) ih

theorem mem_of_mem_inDirectory {other : String} {inner : List Listing}
    (h : .directory other inner ∈ inDirectory name change entries) :
    other = name ∨ ∃ inner, .directory other inner ∈ entries := by
  induction entries with
  | nil =>
    simp only [inDirectory, List.mem_singleton, Listing.directory.injEq] at h
    exact .inl h.1
  | cons entry rest ih =>
    have hrest : other = name ∨ (∃ inner, .directory other inner ∈ rest) →
        other = name ∨ ∃ inner, .directory other inner ∈ entry :: rest := by
      refine Or.imp_right ?_
      rintro ⟨inner, hinner⟩
      exact ⟨inner, List.mem_cons_of_mem _ hinner⟩
    cases entry with
    | file first problems =>
      rcases List.mem_cons.1 h with heq | h
      · cases heq
      · exact hrest (ih h)
    | directory first firstEntries =>
      unfold inDirectory at h
      split at h
      · rcases List.mem_cons.1 h with heq | h
        · exact .inr ⟨firstEntries, by simp [(Listing.directory.inj heq).1]⟩
        · exact .inr ⟨inner, List.mem_cons_of_mem _ h⟩
      · rcases List.mem_cons.1 h with heq | h
        · exact .inr ⟨firstEntries, by simp [(Listing.directory.inj heq).1]⟩
        · exact hrest (ih h)

theorem inDirectory_ne_nil : inDirectory name change entries ≠ [] := by
  cases entries with
  | nil => simp [inDirectory]
  | cons entry rest =>
    cases entry with
    | file _ _ => simp [inDirectory]
    | directory _ _ =>
      unfold inDirectory
      split <;> simp

theorem Tidy.inDirectory (hchange : ∀ entries, Tidy entries → Tidy (change entries) ∧ change entries ≠ [])
    (h : Tidy entries) : Tidy (ResultsTree.inDirectory name change entries) := by
  induction h with
  | nil =>
    obtain ⟨htidy, hne⟩ := hchange [] .nil
    exact .directory hne htidy (by simp) .nil
  | file _ ih => exact .file ih
  | directory hne hinner honce hrest _ ih =>
    unfold ResultsTree.inDirectory
    split
    · obtain ⟨htidy, hne⟩ := hchange _ hinner
      exact .directory hne htidy honce hrest
    · next hother =>
      refine .directory hne hinner (fun inner hmem => ?_) ih
      rcases mem_of_mem_inDirectory hmem with heq | ⟨inner, hmem⟩
      · exact hother heq
      · exact honce inner hmem

theorem Tidy.addFile (directories : List String) (h : Tidy entries) :
    Tidy (addFile (.file name problems) directories entries) ∧
      addFile (.file name problems) directories entries ≠ [] := by
  induction directories generalizing entries with
  | nil => exact ⟨h.append_file, by simp [ResultsTree.addFile]⟩
  | cons directory rest ih => exact ⟨h.inDirectory fun _ => ih, inDirectory_ne_nil⟩

/-! ## Where files and directories stand -/

/-- At most one name follows the trail in a path. -/
theorem eq_of_trail {other : String} (h : trail ++ [name] <+: d) (h' : trail ++ [other] <+: d) : name = other := by
  have hsame := (List.prefix_of_prefix_length_le h h' (by simp)).eq_of_length (by simp)
  exact List.singleton_injective (List.append_cancel_left hsame)

theorem prefix_of_mem_leavesOf (h : Tidy entries) (hleaf : leaf ∈ leavesOf trail entries) :
    trail <+: leaf.directories := by
  induction h generalizing trail with
  | nil => cases hleaf
  | file _ ih =>
    rcases List.mem_cons.1 hleaf with rfl | hleaf
    · exact List.prefix_refl _
    · exact ih hleaf
  | directory _ _ _ _ ihInner ihRest =>
    rcases List.mem_append.1 hleaf with hleaf | hleaf
    · exact (List.prefix_append ..).trans (ihInner hleaf)
    · exact ihRest hleaf

theorem leavesOf_ne_nil (trail : List String) (h : Tidy entries) (hne : entries ≠ []) :
    leavesOf trail entries ≠ [] := by
  induction h generalizing trail with
  | nil => exact absurd rfl hne
  | file _ _ => simp [leavesOf, Listing.leaves]
  | directory hinner _ _ _ ihInner _ => simp [leavesOf, Listing.leaves, ihInner _ hinner]

/-- A file inside a directory stands in a `directory` entry for it. -/
theorem exists_directory_of_leaf (h : Tidy entries) (hleaf : leaf ∈ leavesOf trail entries)
    (hname : trail ++ [name] <+: leaf.directories) : ∃ inner, .directory name inner ∈ entries := by
  induction h with
  | nil => cases hleaf
  | file _ ih =>
    rcases List.mem_cons.1 hleaf with rfl | hleaf
    · exact absurd hname.length_le (by simp)
    · obtain ⟨inner, hinner⟩ := ih hleaf
      exact ⟨inner, List.mem_cons_of_mem _ hinner⟩
  | directory _ hinner _ _ _ ih =>
    rcases List.mem_append.1 hleaf with hleaf | hleaf
    · rw [eq_of_trail hname (prefix_of_mem_leavesOf hinner hleaf)]
      exact ⟨_, List.mem_cons_self⟩
    · obtain ⟨inner, hinner⟩ := ih hleaf
      exact ⟨inner, List.mem_cons_of_mem _ hinner⟩

/-- The `directoriesOf` a listing are the ones that lead to its files. -/
theorem mem_directoriesOf (h : Tidy entries) :
    d ∈ directoriesOf trail entries ↔
      trail <+: d ∧ d ≠ trail ∧ ∃ leaf ∈ leavesOf trail entries, d <+: leaf.directories := by
  induction h generalizing trail with
  | nil => simp [directoriesOf, leavesOf]
  | @file name problems rest hrest ih =>
    have hsplit : d ∈ directoriesOf trail (.file name problems :: rest) ↔ d ∈ directoriesOf trail rest := Iff.rfl
    rw [hsplit, ih]
    refine and_congr_right fun htrail => and_congr_right fun hne => ?_
    change _ ↔ ∃ leaf ∈ ⟨trail, name, problems⟩ :: leavesOf trail rest, _
    rw [List.exists_mem_cons_iff]
    -- the file itself stands in no directory below the trail
    exact (or_iff_right fun hd => hne (hd.eq_of_length_le htrail.length_le)).symm
  | @directory name entries rest hne hinner _ _ ihInner ihRest =>
    have hsplit : d ∈ directoriesOf trail (.directory name entries :: rest) ↔
        d = trail ++ [name] ∨ d ∈ directoriesOf (trail ++ [name]) entries ∨ d ∈ directoriesOf trail rest := by
      simp [directoriesOf, Listing.directories]
    have hleaves : leavesOf trail (.directory name entries :: rest) =
        leavesOf (trail ++ [name]) entries ++ leavesOf trail rest := rfl
    rw [hsplit, ihInner, ihRest, hleaves]
    constructor
    · rintro (rfl | ⟨hunder, -, leaf, hleaf, hd⟩ | ⟨hunder, hd, leaf, hleaf, hbelow⟩)
      · obtain ⟨leaf, hleaf⟩ := List.exists_mem_of_ne_nil _ (leavesOf_ne_nil (trail ++ [name]) hinner hne)
        exact ⟨List.prefix_append .., by simp, leaf, List.mem_append_left _ hleaf, prefix_of_mem_leavesOf hinner hleaf⟩
      · refine ⟨(List.prefix_append ..).trans hunder, ?_, leaf, List.mem_append_left _ hleaf, hd⟩
        rintro rfl
        exact absurd hunder.length_le (by simp)
      · exact ⟨hunder, hd, leaf, List.mem_append_right _ hleaf, hbelow⟩
    · rintro ⟨hunder, hd, leaf, hleaf, hbelow⟩
      rcases List.mem_append.1 hleaf with hleaf | hleaf
      · have hname := prefix_of_mem_leavesOf hinner hleaf
        by_cases heq : d = trail ++ [name]
        · exact .inl heq
        · refine .inr (.inl ⟨?_, heq, leaf, hleaf, hbelow⟩)
          refine List.prefix_of_prefix_length_le hname hbelow ?_
          have hlength := lt_of_le_of_ne hunder.length_le fun h => hd (hunder.eq_of_length h).symm
          simpa using hlength
      · exact .inr (.inr ⟨hunder, hd, leaf, hleaf, hbelow⟩)

theorem nodup_directoriesOf (h : Tidy entries) : (directoriesOf trail entries).Nodup := by
  induction h generalizing trail with
  | nil => exact List.nodup_nil
  | file _ ih => exact ih
  | @directory name entries rest _ hinner honce hrest ihInner ihRest =>
    change (((trail ++ [name]) :: directoriesOf (trail ++ [name]) entries) ++ directoriesOf trail rest).Nodup
    rw [List.nodup_append', List.nodup_cons]
    refine ⟨⟨fun h => ((mem_directoriesOf hinner).1 h).2.1 rfl, ihInner⟩, ihRest, fun d hd hd' => ?_⟩
    -- what stands in the rest is below another name
    have hname : trail ++ [name] <+: d := by
      rcases List.mem_cons.1 hd with rfl | hd
      · exact List.prefix_refl _
      · exact ((mem_directoriesOf hinner).1 hd).1
    obtain ⟨-, -, leaf, hleaf, hbelow⟩ := (mem_directoriesOf hrest).1 hd'
    obtain ⟨inner, hmem⟩ := exists_directory_of_leaf hrest hleaf (hname.trans hbelow)
    exact honce inner hmem

/-! ## Files at the end -/

/-- For each directory on a way, the files inside it are the last ones. -/
def Last (full : List String) (leaves : List Leaf) : Prop :=
  leaves.Pairwise fun a b => ∀ q, q <+: full → q <+: a.directories → q <+: b.directories

/-- A change that `inDirectory` makes, and that adds a file at the end of the directory, adds it at the end of the
listing, if the files inside this directory are the `Last` ones. -/
theorem leavesOf_inDirectory_last (hname : trail ++ [name] <+: full)
    (hchange : ∀ entries, Tidy entries → Last full (leavesOf (trail ++ [name]) entries) →
      leavesOf (trail ++ [name]) (change entries) = leavesOf (trail ++ [name]) entries ++ [leaf])
    (h : Tidy entries) (hlast : Last full (leavesOf trail entries)) :
    leavesOf trail (inDirectory name change entries) = leavesOf trail entries ++ [leaf] := by
  induction h with
  | nil => simpa [inDirectory, leavesOf, Listing.leaves] using hchange [] .nil List.Pairwise.nil
  | file _ ih =>
    change _ :: leavesOf trail (inDirectory name change _) = _ :: (leavesOf trail _ ++ [leaf])
    rw [ih hlast.of_cons]
  | @directory other entries rest hne hinner honce hrest _ ih =>
    obtain ⟨hlastInner, hlastRest, hcross⟩ := List.pairwise_append.1 hlast
    unfold inDirectory
    split
    · next heq =>
      subst heq
      -- a file behind this directory would have to be inside it
      have hnil : rest = [] := by
        by_contra hrestNe
        obtain ⟨a, ha⟩ := List.exists_mem_of_ne_nil _ (leavesOf_ne_nil (trail ++ [other]) hinner hne)
        obtain ⟨b, hb⟩ := List.exists_mem_of_ne_nil _ (leavesOf_ne_nil trail hrest hrestNe)
        have hinside := hcross a ha b hb _ hname (prefix_of_mem_leavesOf hinner ha)
        obtain ⟨inner, hmem⟩ := exists_directory_of_leaf hrest hb hinside
        exact honce inner hmem
      subst hnil
      simpa [leavesOf, Listing.leaves] using hchange entries hinner hlastInner
    · change leavesOf (trail ++ [other]) entries ++ leavesOf trail (inDirectory name change rest) =
        leavesOf (trail ++ [other]) entries ++ leavesOf trail rest ++ [leaf]
      rw [ih hlastRest, List.append_assoc]

theorem leavesOf_addFile_last {directories : List String} (h : Tidy entries)
    (hlast : Last (trail ++ directories) (leavesOf trail entries)) :
    leavesOf trail (addFile (.file name problems) directories entries) =
      leavesOf trail entries ++ [⟨trail ++ directories, name, problems⟩] := by
  induction directories generalizing trail entries with
  | nil => rw [addFile, leavesOf_append, List.append_nil]; rfl
  | cons directory rest ih =>
    have hfull : trail ++ directory :: rest = trail ++ [directory] ++ rest := by simp
    rw [hfull] at hlast ⊢
    exact leavesOf_inDirectory_last (List.prefix_append ..) (fun _ => ih) h hlast

end

/-! ## Paths in order -/

/-- The directories of a shown path. -/
abbrev directoriesTo (p : Path) : List String := p.components.dropLast

theorem exists_of_cons_prefix_dropLast {s : String} {q a : List String} (h : s :: q <+: a.dropLast) :
    ∃ rest, a = s :: rest ∧ q <+: rest.dropLast := by
  rcases a with _ | ⟨first, _ | ⟨second, rest⟩⟩
  · simp at h
  · simp at h
  · rw [List.dropLast_cons_cons, List.cons_prefix_cons] at h
    exact ⟨second :: rest, by rw [h.1], h.2⟩

/-- Between two paths inside a directory there are only paths inside it. -/
theorem prefix_dropLast_of_between {q a b c : List String} (hab : a < b) (hbc : b < c) (ha : q <+: a.dropLast)
    (hc : q <+: c.dropLast) : q <+: b.dropLast := by
  induction q generalizing a b c with
  | nil => exact List.nil_prefix
  | cons s q ih =>
    obtain ⟨a, rfl, hqa⟩ := exists_of_cons_prefix_dropLast ha
    obtain ⟨c, rfl, hqc⟩ := exists_of_cons_prefix_dropLast hc
    cases b with
    | nil => exact absurd hab (List.not_lt_nil _)
    | cons first b =>
      rw [List.cons_lt_cons_iff] at hab hbc
      -- the first names go up from `s` to `s`, so that all three are `s`
      have hfirst : s = first := by
        rcases hab with hlt | ⟨heq, -⟩
        · rcases hbc with hlt' | ⟨heq, -⟩
          · exact absurd (hlt.trans hlt') (lt_irrefl s)
          · exact heq.symm
        · exact heq
      subst hfirst
      have hab : a < b := (hab.resolve_left (lt_irrefl s)).2
      have hbc : b < c := (hbc.resolve_left (lt_irrefl s)).2
      cases b with
      | nil => exact absurd hab (List.not_lt_nil _)
      | cons second b =>
        rw [List.dropLast_cons_cons, List.cons_prefix_cons]
        exact ⟨rfl, ih hab hbc hqa hqc⟩

/-- What stands inside a directory stands together. -/
def Grouped (trails : List (List String)) : Prop :=
  ∀ a b c q, [a, b, c].Sublist trails → q <+: a → q <+: c → q <+: b

theorem grouped_of_sorted {shown : List (Path × FileReport)} (h : shown.Pairwise fun x y => x.1.less y.1 = true) :
    Grouped (shown.map fun x => directoriesTo x.1) := by
  intro a b c q hsub ha hc
  obtain ⟨triple, htriple, heq⟩ := List.sublist_map_iff.1 hsub
  obtain ⟨x, y, z, rfl⟩ := List.length_eq_three.1 (by simpa using (congrArg List.length heq).symm)
  simp only [List.map_cons, List.map_nil, List.cons.injEq, and_true] at heq
  obtain ⟨rfl, rfl, rfl⟩ := heq
  have hsorted := h.sublist htriple
  simp only [List.pairwise_cons, List.mem_cons, List.not_mem_nil, or_false, forall_eq_or_imp, forall_eq] at hsorted
  exact prefix_dropLast_of_between (Path.less_iff.1 hsorted.1.1) (Path.less_iff.1 hsorted.2.1) ha hc

section

variable {root : Path} {r : FileReport} {shown done : List (Path × FileReport)}

theorem fst_of_mem_insertReport {x : Path × FileReport} (h : x ∈ insertReport root r shown) :
    x.1 = shownPath root r ∨ x ∈ shown := by
  induction shown with
  | nil => exact .inl (congrArg Prod.fst (List.mem_singleton.1 h))
  | cons y rest ih =>
    unfold insertReport at h
    dsimp only at h
    split at h
    · rcases List.mem_cons.1 h with rfl | h
      · exact .inl rfl
      · exact .inr h
    · split at h
      · rcases List.mem_cons.1 h with rfl | h
        · exact .inr List.mem_cons_self
        · exact (ih h).imp_right (List.mem_cons_of_mem _)
      · rcases List.mem_cons.1 h with rfl | h
        · exact .inl rfl
        · exact .inr (List.mem_cons_of_mem _ h)

theorem sorted_insertReport (h : shown.Pairwise fun x y => x.1.less y.1 = true) :
    (insertReport root r shown).Pairwise fun x y => x.1.less y.1 = true := by
  induction shown with
  | nil => exact List.pairwise_singleton ..
  | cons y rest ih =>
    obtain ⟨hfirst, hsorted⟩ := List.pairwise_cons.1 h
    unfold insertReport
    dsimp only
    split
    · next hless =>
      refine List.pairwise_cons.2 ⟨fun x hx => ?_, h⟩
      rcases List.mem_cons.1 hx with rfl | hx
      · exact hless
      · exact Path.less_trans hless (hfirst x hx)
    · next hnot =>
      split
      · next hless =>
        refine List.pairwise_cons.2 ⟨fun x hx => ?_, ih hsorted⟩
        rcases fst_of_mem_insertReport hx with heq | hx
        · rwa [heq]
        · exact hfirst x hx
      · next hnot' =>
        -- a report under the same path takes the place of the other one
        refine List.pairwise_cons.2 ⟨fun x hx => ?_, hsorted⟩
        have hless := hfirst x hx
        rw [Path.less_iff] at hless ⊢
        rwa [Path.components_eq_of_not_less hnot hnot']

theorem sorted_shownReports (root : Path) (results : Results) :
    (shownReports root results).Pairwise fun x y => x.1.less y.1 = true := by
  have hfold : ∀ (reports : List FileReport) (shown : List (Path × FileReport)),
      shown.Pairwise (fun x y => x.1.less y.1 = true) →
        (reports.foldl (fun shown r => insertReport root r shown) shown).Pairwise fun x y => x.1.less y.1 = true := by
    intro reports
    induction reports with
    | nil => exact fun _ h => h
    | cons r rest ih => exact fun _ h => ih _ (sorted_insertReport h)
  exact hfold _ [] List.Pairwise.nil

/-! ## The listing in order -/

theorem map_directories {leaves : List Leaf} (h : List.Forall₂ (fun x leaf => LeafOf x.1 x.2 leaf) shown leaves) :
    leaves.map (·.directories) = shown.map fun x => directoriesTo x.1 := by
  induction h with
  | nil => rfl
  | cons hleaf _ ih => rw [List.map_cons, List.map_cons, hleaf.directories, ih]

/-- Where paths are `Grouped`, the files inside the directories to the next path are the `Last` ones. -/
theorem last_of_grouped {p : Path} {trails : List (List String)} {leaves : List Leaf}
    (hleaves : List.Forall₂ (fun x leaf => LeafOf x.1 x.2 leaf) done leaves)
    (hgrouped : Grouped (done.map (fun x => directoriesTo x.1) ++ directoriesTo p :: trails)) :
    Last (directoriesTo p) leaves := by
  have hpairwise : (leaves.map (·.directories)).Pairwise fun a b => ∀ q, q <+: directoriesTo p → q <+: a → q <+: b := by
    rw [map_directories hleaves, List.pairwise_iff_forall_sublist]
    intro a b hsub q hp ha
    exact hgrouped a b _ q (hsub.append (List.singleton_sublist.2 List.mem_cons_self)) ha hp
  exact List.pairwise_map.1 hpairwise

theorem leavesOf_foldlM_sorted (done shown : List (Path × FileReport)) {entries entries' : List Listing}
    (hgrouped : Grouped ((done ++ shown).map fun x => directoriesTo x.1))
    (hleaves : List.Forall₂ (fun x leaf => LeafOf x.1 x.2 leaf) done (leavesOf [] entries)) (htidy : Tidy entries)
    (h : shown.foldlM addReport entries = .ok entries') :
    Tidy entries' ∧ List.Forall₂ (fun x leaf => LeafOf x.1 x.2 leaf) (done ++ shown) (leavesOf [] entries') := by
  induction shown generalizing done entries with
  | nil =>
    cases h
    rw [List.append_nil]
    exact ⟨htidy, hleaves⟩
  | cons x rest ih =>
    rw [List.foldlM_cons] at h
    obtain ⟨mid, hmid, h⟩ := bind_ok h
    obtain ⟨problems, hproblems, heq⟩ := bind_ok hmid
    cases heq
    have hnext : done ++ x :: rest = (done ++ [x]) ++ rest := by simp
    have hlast : Last (directoriesTo x.1) (leavesOf [] entries) := by
      rw [List.map_append, List.map_cons] at hgrouped
      exact last_of_grouped hleaves hgrouped
    rw [hnext] at hgrouped ⊢
    refine ih _ hgrouped ?_ (htidy.addFile _).1 h
    rw [leavesOf_addFile_last htidy hlast]
    exact List.rel_append hleaves (.cons ⟨rfl, rfl, hproblems⟩ .nil)

end

/-- The `problems` of a report can be written if it has an error, or else if it is `Writable`. -/
theorem problems_succeeds_iff {r : FileReport}
    (h : ∀ d ∈ r.diagnostics, d.node.CountedLocation ∧ (d.name = .null ∨ ∃ s, d.name = .text s)) :
    Succeeds (problems r) ↔ r.failed = true ∨ r.Writable := by
  rw [r.problems_eq]
  exact FileReport.entries_succeeds_iff (fun d hd => (h d hd).1)
    fun d hd => problemText_succeeds_iff (h d hd).1 (h d hd).2

/-- The `listings` of reports under different paths can be made exactly if the `problems` of those with something to
show can be written. Its files, from the start to the end, are those of these reports in the order of their paths,
each inside the directories of its path. It has the directories that lead to these paths, and none of them twice. -/
theorem listings_grouped {root : Path} {results : Results}
    (hpaths : ((results.reports.filter hasEntries).map (shownParts root)).Nodup) :
    (Succeeds (listings root results) ↔ ∀ r ∈ results.reports, hasEntries r = true → Succeeds (problems r)) ∧
    (∀ r : FileReport, (∀ d ∈ r.diagnostics, d.node.CountedLocation ∧ (d.name = .null ∨ ∃ s, d.name = .text s)) →
      (Succeeds (problems r) ↔ r.failed = true ∨ r.Writable)) ∧
    ∀ entries, listings root results = .ok entries → ∃ shown : List (Path × FileReport),
      shown.Perm ((results.reports.filter hasEntries).map fun r => (shownPath root r, r)) ∧
      shown.Pairwise (fun x y => x.1.less y.1 = true) ∧
      List.Forall₂ (fun x leaf => LeafOf x.1 x.2 leaf) shown (leavesOf [] entries) ∧
      (directoriesOf [] entries).Nodup ∧
      ∀ d, d ∈ directoriesOf [] entries ↔ d ≠ [] ∧ ∃ x ∈ shown, d <+: x.1.components.dropLast := by
  refine ⟨listings_succeeds_iff hpaths, fun _ => problems_succeeds_iff, fun entries h => ?_⟩
  have hsorted := sorted_shownReports root results
  obtain ⟨htidy, hleaves⟩ :=
    leavesOf_foldlM_sorted [] (shownReports root results) (grouped_of_sorted hsorted) .nil .nil h
  rw [List.nil_append] at hleaves
  refine ⟨_, shownReports_perm hpaths, hsorted, hleaves, nodup_directoriesOf htidy, fun d => ?_⟩
  have hbelow : (∃ leaf ∈ leavesOf [] entries, d <+: leaf.directories) ↔
      ∃ x ∈ shownReports root results, d <+: directoriesTo x.1 := by
    have hmap : (∃ trail ∈ (leavesOf [] entries).map (·.directories), d <+: trail) ↔
        ∃ trail ∈ (shownReports root results).map fun x => directoriesTo x.1, d <+: trail := by
      rw [map_directories hleaves]
    simpa using hmap
  rw [mem_directoriesOf htidy, and_iff_right List.nil_prefix, hbelow]

namespace Sample

def project : Path := ⟨"/", ["p"]⟩

def unreadable (file : Path) : FileReport := ⟨file, [], some "no dump"⟩

/-- Two files that share a directory, one in a directory with a longer name, one outside the project, and a clean
one. -/
def mixed : Results := ⟨none, [unreadable ⟨"/", ["p", "a", "b", "y"]⟩, unreadable ⟨"/", ["p", "a-b", "z"]⟩,
  ⟨⟨"/", ["p", "c"]⟩, [], none⟩, unreadable ⟨"/", ["q", "x"]⟩, unreadable ⟨"/", ["p", "a", "x"]⟩]⟩

/-- A catch clause without a binding at a column that gets one digit too many by counting from one. -/
def farRight : Diagnostic :=
  ⟨"", .missingBinding, "", "", .mk (.text "CatchClause") ⟨0, 1⟩
    (some ⟨⟨.int 1, .int (Nat.pow 10 Text.maxDigits - 1 : Nat)⟩, ⟨.int 1, .int 0⟩⟩) [], [], .error⟩

def tooFar : Results := ⟨none, [⟨⟨"", ["a"]⟩, [farRight], none⟩]⟩

theorem farRight_counted : farRight.node.CountedLocation := by
  rintro l ⟨⟩
  exact ⟨rfl, rfl⟩

end Sample

/-- All files of `Sample.mixed` but the clean one are listed. -/
theorem listings_grouped_sample :
    ((Sample.mixed.reports.filter hasEntries).map (shownParts Sample.project)).Nodup ∧
      ∃ entries, listings Sample.project Sample.mixed = .ok entries ∧ (leavesOf [] entries).length = 4 ∧
        (directoriesOf [] entries).Nodup ∧ ["a", "b"] ∈ directoriesOf [] entries := by
  have hpaths : ((Sample.mixed.reports.filter hasEntries).map (shownParts Sample.project)).Nodup := by decide +kernel
  obtain ⟨hsucceeds, -, hgrouped⟩ := listings_grouped hpaths
  have hproblems : ∀ r ∈ Sample.mixed.reports, hasEntries r = true → Succeeds (problems r) := by decide +kernel
  obtain ⟨entries, hentries⟩ := hsucceeds.2 hproblems
  obtain ⟨shown, hperm, -, hleaves, hnodup, hdirectories⟩ := hgrouped entries hentries
  refine ⟨hpaths, entries, hentries, ?_, hnodup, (hdirectories _).2 ⟨by decide, ?_⟩⟩
  · rw [← hleaves.length_eq, hperm.length_eq]
    decide +kernel
  · simp only [hperm.mem_iff]
    decide +kernel

/-- In `Sample.tooFar` a report has whole positions, one of them too long to be written: its listing cannot be made.
-/
theorem listings_fail_on_long_column :
    ((Sample.tooFar.reports.filter hasEntries).map (shownParts Sample.project)).Nodup ∧
      (∀ r ∈ Sample.tooFar.reports, ∀ d ∈ r.diagnostics, d.node.CountedLocation) ∧
      ¬ Succeeds (listings Sample.project Sample.tooFar) := by
  have hpaths : ((Sample.tooFar.reports.filter hasEntries).map (shownParts Sample.project)).Nodup := by decide +kernel
  refine ⟨hpaths, by simpa [Sample.tooFar] using Sample.farRight_counted, ?_⟩
  rw [listings_succeeds_iff hpaths]
  intro h
  have hfar := h _ List.mem_cons_self rfl
  rw [problems_succeeds_iff (List.forall_mem_singleton.2 ⟨Sample.farRight_counted, .inl rfl⟩)] at hfar
  revert hfar
  decide +kernel

end CatchAudit.ResultsTree
