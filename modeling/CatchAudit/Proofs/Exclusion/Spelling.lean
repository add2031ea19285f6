/-
Whether a file is left out depends on how its path is spelled. Exclusion looks at what lies below the root of
the project, and the root is a full path, so that a relative path is never seen below it and never left out.
In full spelling the patterns have their say. Hence a directory that is searched under its relative path
gives every file that it gives under its full path, and those that are excluded besides.
-/
import CatchAudit.Proofs.Exclusion.Found
import CatchAudit.Proofs.Exclusion.Lists
import Mathlib

namespace CatchAudit

namespace Excluder

theorem root_of_load [TomlReader] [LineReader] {σ : Type} [FileSystem σ] {t : σ} {root : Path} {x : Excluder}
    {includeIgnored : Bool} {extra : Document} (hx : (load t root includeIgnored extra).outcome.1 = .ok x) :
    x.root = root ∧ x.includeIgnored = includeIgnored := by
  cases includeIgnored with
  | true =>
    cases hx
    exact ⟨rfl, rfl⟩
  | false =>
    rw [load_outcome] at hx
    obtain ⟨ignored, -, hx⟩ := bind_ok hx
    obtain ⟨project, -, hx⟩ := bind_ok hx
    obtain ⟨added, rules, -, -, rfl⟩ := make_ok_iff.1 hx
    exact ⟨rfl, rfl⟩

variable {t : FileTree} {p : Path} {x : Excluder}

/-- A relative path is kept by `excludes`, whatever the patterns say. -/
theorem excludes_relative (hx : x.root = t.here) (hp : p.root = "") : x.excludes p = false := by
  refine excludes_outside ?_
  rw [hx]
  exact Path.relativeTo?_of_relative hp (by simp [FileTree.here])

theorem excludes_full (hx : x.root = t.here) (hignored : x.includeIgnored = false) (hp : p.root = "") :
    x.excludes (t.here.below p) = true ↔
      ExclusionRule.verdict x.rules p.text = true ∨
        ∃ name ∈ p.parts.dropLast, ExclusionRule.verdict x.rules name = true := by
  rw [← hx, excludes_below hignored hp, Bool.or_eq_true, List.any_eq_true]

end Excluder

namespace Discovery

variable {t : FileTree} {x : Excluder} {p q : Path} {found full relative : List Path}

/-! ## Files found in either spelling -/

/-- What has been found in full spelling is what has been found in the other, less what is excluded. -/
structure Kept (t : FileTree) (x : Excluder) (full relative : List Path) : Prop where
  sorted : Sorted full
  sorted' : Sorted relative
  root : ∀ p ∈ relative, p.root = ""
  mem : ∀ q, q ∈ full ↔ ∃ p ∈ relative, x.excludes (t.here.below p) = false ∧ q = t.here.below p

namespace Kept

theorem nil (t : FileTree) (x : Excluder) : Kept t x [] [] :=
  ⟨List.Pairwise.nil, List.Pairwise.nil, by simp, by simp⟩

/-- Sorted lists with the same members are the same, so that `Kept` tells what the full spellings are. -/
theorem eq (h : Kept t x full relative) :
    full = (relative.filter fun p => !x.excludes (t.here.below p)).map t.here.below := by
  refine List.Pairwise.eq_of_mem_iff h.sorted ?_ fun q => ?_
  · -- the order of relative paths is the order of their full spellings
    rw [List.pairwise_map]
    refine (h.sorted'.filter _).imp_of_mem fun {p q} hp hq hless => ?_
    rw [Path.less_below t.here (h.root p (List.mem_of_mem_filter hp)) (h.root q (List.mem_of_mem_filter hq))]
    exact hless
  · simp only [h.mem, List.mem_map, List.mem_filter, Bool.not_eq_true', and_assoc, eq_comm (a := q)]

theorem root_full (h : Kept t x full relative) : ∀ q ∈ full, t.here.root = q.root := by
  intro q hq
  obtain ⟨p, -, -, rfl⟩ := (h.mem q).1 hq
  rfl

/-- One more file, by `Discovery.insert`, which counts in full spelling only if it is not excluded. -/
theorem insert (h : Kept t x full relative) (hp : p.root = "") :
    Kept t x (if x.excludes (t.here.below p) then full else Discovery.insert (t.here.below p) full)
      (Discovery.insert p relative) := by
  have hsame : ∀ r ∈ relative, p.components = r.components → p = r := fun r hr =>
    Path.eq_of_components (hp.trans (h.root r hr).symm)
  have hrelative : ∀ q ∈ Discovery.insert p relative, q.root = "" := by
    intro q hq
    rcases mem_of_mem_insert hq with rfl | hq
    · exact hp
    · exact h.root q hq
  cases hexcluded : x.excludes (t.here.below p) with
  | true =>
    -- the file is new in relative spelling only, and no full spelling that is kept can be that of this one
    refine ⟨h.sorted, h.sorted'.insert p, hrelative, fun q => ?_⟩
    rw [if_pos rfl, h.mem]
    constructor
    · rintro ⟨r, hr, hkept, rfl⟩
      exact ⟨r, (mem_insert hsame).2 (.inr hr), hkept, rfl⟩
    · rintro ⟨r, hr, hkept, rfl⟩
      rcases mem_of_mem_insert hr with rfl | hr
      · rw [hexcluded] at hkept
        cases hkept
      · exact ⟨r, hr, hkept, rfl⟩
  | false =>
    have hfull : ∀ r ∈ full, (t.here.below p).components = r.components → t.here.below p = r := fun r hr =>
      Path.eq_of_components (h.root_full r hr)
    refine ⟨h.sorted.insert (t.here.below p), h.sorted'.insert p, hrelative, fun q => ?_⟩
    rw [if_neg Bool.false_ne_true, mem_insert hfull, h.mem]
    constructor
    · rintro (rfl | ⟨r, hr, hkept, rfl⟩)
      · exact ⟨p, (mem_insert hsame).2 (.inl rfl), hexcluded, rfl⟩
      · exact ⟨r, (mem_insert hsame).2 (.inr hr), hkept, rfl⟩
    · rintro ⟨r, hr, hkept, rfl⟩
      rcases mem_of_mem_insert hr with rfl | hr
      · exact .inl rfl
      · exact .inr ⟨r, hr, hkept, rfl⟩

theorem insertAll {files : List Path} (hroot : ∀ p ∈ files, p.root = "") (h : Kept t x full relative) :
    Kept t x (Discovery.insertAll full (x.filter (files.map t.here.below))) (Discovery.insertAll relative files) := by
  induction files generalizing full relative with
  | nil => exact h
  | cons p rest ih =>
    obtain ⟨hp, hrest⟩ := List.forall_mem_cons.1 hroot
    have hstep := ih hrest (h.insert hp)
    cases hexcluded : x.excludes (t.here.below p) <;>
      simpa [Discovery.insertAll, Excluder.filter, hexcluded] using hstep

end Kept

/-! ## Searches in either spelling -/

theorem ofFile_below {fulls : Except FileError (List Path)} {relatives : Except FileError (List Path)}
    (h : Yields (Glob.Respelled t) fulls relatives) :
    Yields (Glob.Respelled t) (Settings.ofFile fulls) (Settings.ofFile relatives) := by
  rcases fulls with e | full
  · intro _ hfull
    cases hfull
  · obtain ⟨relative, rfl, hrespelled⟩ := h full rfl
    exact .ok hrespelled

/-- The files among paths; `acc` are those found before, last first. -/
theorem filterAuxM_below (hclean : t.CleanHere) : ∀ {relative acc acc' : List Path}, (∀ p ∈ relative, p.root = "") →
    Glob.Respelled t acc acc' →
      Yields (Glob.Respelled t) (List.filterAuxM t.isFile (relative.map t.here.below) acc)
        (List.filterAuxM t.isFile relative acc')
  | [], acc, acc', _, hacc => .ok hacc
  | p :: rest, acc, acc', hroot, hacc => by
    obtain ⟨hp, hrest⟩ := List.forall_mem_cons.1 hroot
    rw [List.map_cons, List.filterAuxM, List.filterAuxM]
    refine (FileTree.isFile_below hclean hp).bind fun b b' heq => ?_
    subst heq
    cases b with
    | false => exact filterAuxM_below hclean hrest hacc
    | true =>
      have hone : Glob.Respelled t [t.here.below p] [p] := ⟨rfl, by simpa using hp⟩
      exact filterAuxM_below hclean hrest (hone.append hacc)

theorem filterM_below (hclean : t.CleanHere) (h : Glob.Respelled t full relative) :
    Yields (Glob.Respelled t) (full.filterM t.isFile) (relative.filterM t.isFile) := by
  obtain ⟨rfl, hroot⟩ := h
  refine (filterAuxM_below hclean hroot .nil).bind fun found found' hfound => .ok ?_
  obtain ⟨rfl, hroot'⟩ := hfound
  exact ⟨List.map_reverse.symm, by simpa using hroot'⟩

theorem globFiles_below (hclean : t.CleanHere) (glob : Document) (hp : p.root = "") :
    Yields (Glob.Respelled t) (globFiles t (t.here.below p) glob) (globFiles t p glob) := by
  unfold globFiles
  split
  · split
    · next g _ => exact ofFile_below ((Glob.find_below hclean g hp).bind fun _ _ h => filterM_below hclean h)
    · intro _ h
      cases h
  · intro _ h
    cases h

/-- By `searchAll` the globs find the same files in either spelling, and only in full spelling some are left out. -/
theorem searchAll_below (hclean : t.CleanHere) (hx : x.root = t.here) (hp : p.root = "") :
    ∀ (globs : List Document) {full relative : List Path}, Kept t x full relative →
      Yields (Kept t x) (searchAll t x (t.here.below p) full globs) (searchAll t x p relative globs)
  | [], _, _, h => .ok h
  | glob :: rest, full, relative, h => by
    unfold searchAll
    refine (globFiles_below hclean glob hp).bind fun files files' hfiles => ?_
    obtain ⟨rfl, hroot⟩ := hfiles
    -- the files of this glob are relative paths, of which none is left out
    have hall : x.filter files' = files' := by
      refine List.filter_eq_self.2 fun q hq => ?_
      rw [Excluder.excludes_relative hx (hroot q hq)]
      rfl
    rw [hall]
    exact searchAll_below hclean hx hp rest (h.insertAll hroot)

/-- For a directory, `discover` is the search by all globs, `searchAll`. -/
theorem discover_directory {includes : Document} (h : t.isDirectory p = .ok true) :
    (discover t x includes [p]).outcome.1 =
      (match (if includes.truthy then includes else defaultIncludes).iterate with
        | .ok globs => searchAll t x p [] globs
        | .error f => .error (.fault f)) := by
  have hone : (discover t x includes [p]).outcome.1 =
      gather t x (if includes.truthy then includes else defaultIncludes).iterate [] p >>= fun found => .ok found :=
    discoverFrom_outcome _
  rw [hone, gather_directory (FileTree.isFile_of_isDirectory h) h]
  cases (if includes.truthy then includes else defaultIncludes).iterate with
  | error f => rfl
  | ok globs => cases hsearch : searchAll t x p [] globs <;> simp [Settings.ofFault, hsearch, bind, Except.bind]

/-- The spelling of a path matters to `excludes` exactly if something is to be left out and the `verdict` of the
patterns leaves out the path or the name of one of its directories. A directory in full spelling gives `discover` the
files that it gives in the other, less those that are left out, so that both give the same files exactly if the
spelling of no file matters. It holds with any reader of TOML and of exclusion lines. -/
theorem spelling_matters_iff [TomlReader] [LineReader] {includeIgnored : Bool} {extra : Document}
    (hx : (Excluder.load t t.here includeIgnored extra).outcome.1 = .ok x) (hp : p.root = "") :
    (x.excludes p ≠ x.excludes (t.here.below p) ↔ includeIgnored = false ∧
      (ExclusionRule.verdict x.rules p.text = true ∨
        ∃ name ∈ p.parts.dropLast, ExclusionRule.verdict x.rules name = true)) ∧
    ∀ includes full, t.isDirectory (t.here.below p) = .ok true →
      (discover t x includes [t.here.below p]).outcome.1 = .ok full →
        ∃ files, (discover t x includes [p]).outcome.1 = .ok files ∧ (∀ q ∈ files, q.root = "") ∧
          full = (files.filter fun q => !x.excludes (t.here.below q)).map t.here.below ∧
          (full = files.map t.here.below ↔ ∀ q ∈ files, x.excludes q = x.excludes (t.here.below q)) := by
  obtain ⟨hroot, hignored⟩ := Excluder.root_of_load hx
  constructor
  · rw [Excluder.excludes_relative hroot hp, ne_comm, ne_eq, Bool.not_eq_false]
    cases includeIgnored with
    | true =>
      have hkept : x.excludes (t.here.below p) = false := by simp [Excluder.excludes, hignored]
      simp [hkept]
    | false => simp only [Excluder.excludes_full hroot hignored hp, true_and]
  · intro includes full hdirectory hfull
    have hclean := FileTree.cleanHere_of_isDirectory hdirectory
    -- what is a directory in full spelling is one in the other, and both are searched by the same globs
    obtain ⟨_, hdirectory', rfl⟩ := FileTree.isDirectory_below hclean hp true hdirectory
    rw [discover_directory hdirectory] at hfull
    rw [discover_directory hdirectory']
    split at hfull
    · next globs _ =>
      obtain ⟨files, hfiles, hkept⟩ := searchAll_below hclean hroot hp globs (.nil t x) full hfull
      refine ⟨files, hfiles, hkept.root, hkept.eq, ?_⟩
      have hsame : full = files.map t.here.below ↔ files.filter (fun q => !x.excludes (t.here.below q)) = files := by
        rw [hkept.eq]
        constructor
        · -- full spellings are as many as the files that are kept, so that all are kept
          intro h
          have hlength := congrArg List.length h
          rw [List.length_map, List.length_map] at hlength
          exact List.filter_sublist.eq_of_length hlength
        · intro h
          rw [h]
      rw [hsame, List.filter_eq_self]
      refine forall_congr' fun q => forall_congr' fun hq => ?_
      rw [Excluder.excludes_relative hroot (hkept.root q hq), Bool.not_eq_true', eq_comm]
    · cases hfull

/-! ## Samples

A directory with one file, and another one in a directory whose name the defaults leave out. -/

namespace Sample

def tree : FileTree :=
  ⟨[("p", .directory [("d", .directory [("a", .file []), ("dist", .directory [("a", .file [])])])])], ["p"]⟩

/-- Of the names on the two paths, the defaults leave out `dist`. -/
theorem verdict_tree {rules : List ExclusionRule} (h : Excluder.rulesOf (Excluder.defaults.map .text) = .ok rules) :
    ExclusionRule.verdict rules "d" = false ∧ ExclusionRule.verdict rules "d/a" = false ∧
      ExclusionRule.verdict rules "dist" = true := by
  have hverdict : ∀ names, Excluder.Proper names → ExclusionLine.OneLine names → names ≠ [] →
      (ExclusionRule.verdict rules (Path.text ⟨"", names⟩) = true ↔ ∃ name ∈ names, name ∈ Excluder.defaults) :=
    fun names => Excluder.verdict_defaults ExclusionLine.readsNames h
  unfold Excluder.Proper ExclusionLine.OneLine at hverdict
  refine ⟨Bool.eq_false_iff.2 ?_, Bool.eq_false_iff.2 ?_, ?_⟩
  · exact mt (hverdict ["d"] (by decide +kernel) (by decide +kernel) (by simp)).1 (by decide +kernel)
  · exact mt (hverdict ["d", "a"] (by decide +kernel) (by decide +kernel) (by simp)).1 (by decide +kernel)
  · exact (hverdict ["dist"] (by decide +kernel) (by decide +kernel) (by simp)).2 (by decide +kernel)

/-- The excluder of the project is made, and it keeps `d/a` and leaves out what is in `d/dist`. -/
theorem load_tree : ∃ x, (Excluder.load tree tree.here false .null).outcome.1 = .ok x ∧
    Excluder.rulesOf (Excluder.defaults.map .text) = .ok x.rules ∧
    x.excludes (.parse "/p/d/a") = false ∧ x.excludes (.parse "/p/d/dist/a") = true := by
  have hignored : tree.exists? (tree.here.child ".gitignore") = .ok false := ok_of_toOption (by decide +kernel)
  have hproject : tree.exists? (tree.here.child Settings.projectFile) = .ok false := ok_of_toOption (by decide +kernel)
  have hdefaults := Excluder.rulesOf_names ExclusionLine.readsNames Excluder.defaults_nameLine
  have hnone : Excluder.additional .null = .ok [] := rfl
  obtain ⟨x, hx, hpatterns⟩ :=
    Excluder.load_additional (t := tree) hignored hproject hnone (by rwa [List.append_nil])
  have hrules := Excluder.rules_of_load hx
  rw [hpatterns, List.append_nil] at hrules
  obtain ⟨hroot, hall⟩ := Excluder.root_of_load hx
  have hkept : Path.parse "/p/d/a" = tree.here.below (.parse "d/a") := by decide +kernel
  have hleft : Path.parse "/p/d/dist/a" = tree.here.below (.parse "d/dist/a") := by decide +kernel
  obtain ⟨hd, hfile, hdist⟩ := verdict_tree hrules
  refine ⟨x, hx, hrules, ?_, ?_⟩
  · rw [hkept, Bool.eq_false_iff, ne_eq, Excluder.excludes_full hroot hall (by decide +kernel)]
    have htext : (Path.parse "d/a").text = "d/a" := by decide +kernel
    have hparts : (Path.parse "d/a").parts.dropLast = ["d"] := by decide +kernel
    rw [htext, hparts]
    simp [hd, hfile]
  · rw [hleft, Excluder.excludes_full hroot hall (by decide +kernel)]
    exact .inr ⟨"dist", by decide +kernel, hdist⟩

/-- A glob for files named `a`. -/
def includes : Document := .list [.text "**/a"]

theorem discover_glob {x : Excluder} {p : Path} {files : List Path} (hdirectory : tree.isDirectory p = .ok true)
    (hglob : globFiles tree p (.text "**/a") = .ok files) :
    (discover tree x includes [p]).outcome.1 = .ok (insertAll [] (x.filter files)) := by
  have hincludes : (if includes.truthy then includes else defaultIncludes).iterate = .ok [.text "**/a"] := rfl
  rw [discover_directory hdirectory, hincludes]
  simp only [searchAll, hglob, bind, Except.bind]

/-- In full spelling the directory `d` of the `tree` gives one of its two files. -/
theorem discover_full {x : Excluder} (hkept : x.excludes (.parse "/p/d/a") = false)
    (hleft : x.excludes (.parse "/p/d/dist/a") = true) :
    (discover tree x includes [.parse "/p/d"]).outcome.1 = .ok [.parse "/p/d/a"] := by
  have hfilter : x.filter [.parse "/p/d/a", .parse "/p/d/dist/a"] = [.parse "/p/d/a"] := by
    simp [Excluder.filter, hkept, hleft]
  rw [discover_glob (ok_of_toOption (by decide +kernel))
    (ok_of_toOption (a := [.parse "/p/d/a", .parse "/p/d/dist/a"]) (by decide +kernel)), hfilter]
  rfl

end Sample

/-- The spelling of `d/dist/a` matters, and a search of `d` finds `d/a` and what is left out in full spelling. -/
theorem spelling_matters_iff_sample :
    ∃ x files, (Excluder.load Sample.tree Sample.tree.here false .null).outcome.1 = .ok x ∧
      x.excludes (.parse "d/dist/a") ≠ x.excludes (Sample.tree.here.below (.parse "d/dist/a")) ∧
      (discover Sample.tree x Sample.includes [.parse "d"]).outcome.1 = .ok files ∧
      [Path.parse "/p/d/a"] =
        (files.filter fun q => !x.excludes (Sample.tree.here.below q)).map Sample.tree.here.below := by
  obtain ⟨x, hx, hrules, hkept, hleft⟩ := Sample.load_tree
  have hd : Path.parse "/p/d" = Sample.tree.here.below (.parse "d") := by decide +kernel
  have hfull := Sample.discover_full hkept hleft
  rw [hd] at hfull
  obtain ⟨files, hfiles, -, hsame, -⟩ := (spelling_matters_iff hx (p := .parse "d") (by decide +kernel)).2 _ _
    (ok_of_toOption (by decide +kernel)) hfull
  refine ⟨x, files, hx, ?_, hfiles, hsame⟩
  exact (spelling_matters_iff hx (by decide +kernel)).1.2
    ⟨rfl, .inr ⟨"dist", by decide +kernel, (Sample.verdict_tree hrules).2.2⟩⟩

/-- The file `d/dist/a` stands in a directory that the defaults leave out: in relative spelling it is found all the
same. -/
theorem relative_spelling_not_excluded :
    ∃ x, (Excluder.load Sample.tree Sample.tree.here false .null).outcome.1 = .ok x ∧
      x.excludes (.parse "/p/d/dist/a") = true ∧ x.excludes (.parse "d/dist/a") = false ∧
      (discover Sample.tree x Sample.includes [.parse "/p/d"]).outcome.1 = .ok [.parse "/p/d/a"] ∧
      (discover Sample.tree x Sample.includes [.parse "d"]).outcome.1 = .ok [.parse "d/a", .parse "d/dist/a"] := by
  obtain ⟨x, hx, -, hkept, hleft⟩ := Sample.load_tree
  obtain ⟨hroot, -⟩ := Excluder.root_of_load hx
  have hrelative : ∀ {p : Path}, p.root = "" → x.excludes p = false := Excluder.excludes_relative hroot
  have hfilter : x.filter [.parse "d/a", .parse "d/dist/a"] = [.parse "d/a", .parse "d/dist/a"] := by
    have hroots : (Path.parse "d/a").root = "" ∧ (Path.parse "d/dist/a").root = "" := by decide +kernel
    simp [Excluder.filter, hrelative hroots.1, hrelative hroots.2]
  refine ⟨x, hx, hleft, hrelative (by decide +kernel), Sample.discover_full hkept hleft, ?_⟩
  rw [Sample.discover_glob (ok_of_toOption (by decide +kernel))
    (ok_of_toOption (a := [.parse "d/a", .parse "d/dist/a"]) (by decide +kernel)), hfilter]
  exact congrArg Except.ok (by decide +kernel)

end Discovery

end CatchAudit
