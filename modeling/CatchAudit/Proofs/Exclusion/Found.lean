/-
What discovery finds in a file system. It comes to a result exactly if the file system answers what is asked of it:
whether each named path is a file or a directory, what the globs find below named directories, and which of that are
files. The result is the sorted set of the named files and of the files below named directories that some glob finds
and that are not left out. So the order of paths and globs does not matter, nor does their repetition, and to name
another path loses no file.
-/
import CatchAudit.Exclusion.Discovery
import CatchAudit.Proofs.Exclusion.Verdict
import CatchAudit.Proofs.Files.Reasons
import CatchAudit.Proofs.Files.WellFormed

namespace CatchAudit

/-- What holds of every file system: nothing is both a file and a directory, and globs find paths that are
`WellFormed`, in the form in which paths are read. -/
structure FileSystem.Lawful {σ : Type} [FileSystem σ] (t : σ) : Prop where
  not_both : ∀ p, isFile t p = .ok true → isDirectory t p ≠ .ok true
  wellFormed : ∀ {s g p found}, Glob.parse s = .ok g → p.WellFormed → glob t g p = .ok found →
    ∀ q ∈ found, q.WellFormed

/-- A `FileTree` is `Lawful` if the names in it are names. -/
theorem FileTree.WellNamed.lawful {t : FileTree} (ht : t.WellNamed) : FileSystem.Lawful t where
  not_both p hfile hdirectory := by
    cases hfile.symm.trans (FileTree.isFile_of_isDirectory hdirectory)
  wellFormed hg hp hfound := Glob.find_wellFormed ht hg hp hfound

namespace Discovery

variable {σ : Type} [FileSystem σ] {t : σ} {x : Excluder} {p q : Path} {found files paths : List Path}

/-! ## Sorted lists of paths -/

/-- In order, and none twice. -/
def Sorted (found : List Path) : Prop := found.Pairwise fun p q => p.less q = true

theorem mem_of_mem_insert (h : q ∈ insert p found) : q = p ∨ q ∈ found := by
  induction found with
  | nil => exact .inl (List.mem_singleton.1 h)
  | cons r rest ih =>
    unfold insert at h
    split at h
    · exact List.mem_cons.1 h
    · split at h
      · rcases List.mem_cons.1 h with rfl | h
        · exact .inr List.mem_cons_self
        · exact (ih h).imp_right (List.mem_cons_of_mem _)
      · exact .inr h

/-- By `insert` a path is left out where one with its components stands, which must be the path itself. -/
theorem mem_insert (hsame : ∀ r ∈ found, p.components = r.components → p = r) :
    q ∈ insert p found ↔ q = p ∨ q ∈ found := by
  refine ⟨mem_of_mem_insert, ?_⟩
  induction found with
  | nil => simp [insert]
  | cons r rest ih =>
    obtain ⟨hr, hrest⟩ := List.forall_mem_cons.1 hsame
    unfold insert
    split
    · exact List.mem_cons.2
    · next hpr =>
      split
      · rw [List.mem_cons, or_left_comm, List.mem_cons]
        exact Or.imp_right (ih hrest)
      · next hrp =>
        rw [hr (Path.components_eq_of_not_less hpr hrp), List.mem_cons, or_self_left]
        exact id

theorem Sorted.insert (h : Sorted found) (p : Path) : Sorted (insert p found) := by
  induction found with
  | nil => exact List.pairwise_singleton ..
  | cons r rest ih =>
    obtain ⟨hfirst, hsorted⟩ := List.pairwise_cons.1 h
    unfold Discovery.insert
    split
    · next hpr =>
      refine List.pairwise_cons.2 ⟨fun q hq => ?_, h⟩
      rcases List.mem_cons.1 hq with rfl | hq
      · exact hpr
      · exact Path.less_trans hpr (hfirst q hq)
    · split
      · next hrp =>
        refine List.pairwise_cons.2 ⟨fun q hq => ?_, ih hsorted⟩
        rcases mem_of_mem_insert hq with rfl | hq
        · exact hrp
        · exact hfirst q hq
      · exact h

/-- The paths with the property `S`, sorted. -/
structure Holds (S : Path → Prop) (found : List Path) : Prop where
  sorted : Sorted found
  wellFormed : ∀ q ∈ found, q.WellFormed
  mem : ∀ q, q ∈ found ↔ S q

namespace Holds

variable {S S' : Path → Prop} {found' : List Path}

theorem nil : Holds (fun _ => False) [] := ⟨List.Pairwise.nil, by simp, by simp⟩

theorem congr (h : Holds S found) (hS : ∀ q, S q ↔ S' q) : Holds S' found :=
  ⟨h.sorted, h.wellFormed, fun q => (h.mem q).trans (hS q)⟩

/-- There is one sorted list that `Holds` the paths with a property. -/
theorem unique (h : Holds S found) (h' : Holds S found') : found = found' :=
  List.Pairwise.eq_of_mem_iff h.sorted h'.sorted fun q => (h.mem q).trans (h'.mem q).symm

theorem insert (h : Holds S found) (hp : p.WellFormed) : Holds (fun q => S q ∨ q = p) (Discovery.insert p found) := by
  have hmem : ∀ q, q ∈ Discovery.insert p found ↔ q = p ∨ q ∈ found := fun q =>
    mem_insert fun r hr => hp.eq_of_components (h.wellFormed r hr)
  refine ⟨h.sorted.insert p, fun q hq => ?_, fun q => ?_⟩
  · rcases (hmem q).1 hq with rfl | hq
    · exact hp
    · exact h.wellFormed q hq
  · rw [hmem, h.mem, or_comm]

theorem insertAll (h : Holds S found) (hfiles : ∀ p ∈ files, p.WellFormed) :
    Holds (fun q => S q ∨ q ∈ files) (Discovery.insertAll found files) := by
  induction files generalizing S found with
  | nil => exact h.congr fun q => by simp
  | cons p rest ih =>
    obtain ⟨hp, hrest⟩ := List.forall_mem_cons.1 hfiles
    exact (ih (h.insert hp) hrest).congr fun q => by rw [List.mem_cons, or_assoc]

end Holds

/-! ## Files that a glob finds -/

theorem filterAuxM_ok {ε α : Type} {f : α → Except ε Bool} {xs acc ys : List α}
    (h : List.filterAuxM f xs acc = .ok ys) :
    ∀ y, y ∈ ys ↔ y ∈ acc ∨ y ∈ xs ∧ f y = .ok true := by
  induction xs generalizing acc with
  | nil =>
    cases h
    simp
  | cons x rest ih =>
    rw [List.filterAuxM] at h
    obtain ⟨b, hb, h⟩ := bind_ok h
    intro y
    rw [ih h y]
    cases b with
    | false =>
      rw [cond_false, List.mem_cons]
      refine or_congr_right (and_congr_left fun hy => (or_iff_right ?_).symm)
      rintro rfl
      rw [hb] at hy
      cases hy
    | true =>
      rw [cond_true, List.mem_cons, List.mem_cons]
      constructor
      · rintro ((rfl | hy) | ⟨hy, htrue⟩)
        · exact .inr ⟨.inl rfl, hb⟩
        · exact .inl hy
        · exact .inr ⟨.inr hy, htrue⟩
      · rintro (hy | ⟨rfl | hy, htrue⟩)
        · exact .inl (.inr hy)
        · exact .inl (.inl rfl)
        · exact .inr ⟨hy, htrue⟩

theorem mem_of_filterM_ok {ε α : Type} {f : α → Except ε Bool} {xs ys : List α} (h : xs.filterM f = .ok ys) (y : α) :
    y ∈ ys ↔ y ∈ xs ∧ f y = .ok true := by
  unfold List.filterM at h
  obtain ⟨kept, hkept, h⟩ := bind_ok h
  cases h
  rw [List.mem_reverse, filterAuxM_ok hkept]
  simp

theorem filterAuxM_succeeds_iff {ε α : Type} {f : α → Except ε Bool} {xs acc : List α} :
    Succeeds (List.filterAuxM f xs acc) ↔ ∀ x ∈ xs, Succeeds (f x) := by
  induction xs generalizing acc with
  | nil => exact iff_of_true (succeeds_ok _) (by simp)
  | cons x rest ih =>
    rw [List.filterAuxM, List.forall_mem_cons]
    cases hx : f x with
    | error e =>
      refine iff_of_false ?_ ?_
      · rintro ⟨_, ⟨⟩⟩
      · rintro ⟨⟨_, ⟨⟩⟩, -⟩
    | ok b => exact ih.trans (and_iff_right (succeeds_ok b)).symm

theorem filterM_succeeds_iff {ε α : Type} {f : α → Except ε Bool} {xs : List α} :
    Succeeds (xs.filterM f) ↔ ∀ x ∈ xs, Succeeds (f x) := by
  have haux : Succeeds (xs.filterM f) ↔ Succeeds (List.filterAuxM f xs []) := by
    unfold List.filterM
    constructor
    · rintro ⟨ys, h⟩
      obtain ⟨kept, hkept, -⟩ := bind_ok h
      exact ⟨kept, hkept⟩
    · exact fun h => h.bind fun _ _ => succeeds_ok _
  rw [haux, filterAuxM_succeeds_iff]

/-- Below the directory, the glob finds these paths, by `FileSystem.glob`. -/
def Finds (t : σ) (directory : Path) (glob : Document) (found : List Path) : Prop :=
  ∃ s g, glob = .text s ∧ Glob.parse s = .ok g ∧ FileSystem.glob t g directory = .ok found

/-- The document is a glob that `Finds` something or nothing below the directory, and of each path that it finds it
can be told whether it is a file. -/
def Followed (t : σ) (directory : Path) (glob : Document) : Prop :=
  ∃ found, Finds t directory glob found ∧ ∀ q ∈ found, Succeeds (FileSystem.isFile t q)

variable {directory : Path} {glob : Document} {globs : List Document}

theorem globFiles_eq_ok_iff : globFiles t directory glob = .ok files ↔
    ∃ found, Finds t directory glob found ∧ found.filterM (FileSystem.isFile t) = .ok files := by
  unfold globFiles
  constructor
  · intro h
    split at h
    · next s =>
      split at h
      · next g hg =>
        cases hfiles : (do (← FileSystem.glob t g directory).filterM (FileSystem.isFile t) :
            Except FileError (List Path)) with
        | error e =>
          rw [hfiles] at h
          cases h
        | ok kept =>
          rw [hfiles] at h
          cases h
          obtain ⟨found, hfound, hkept⟩ := bind_ok hfiles
          exact ⟨found, ⟨s, g, rfl, hg, hfound⟩, hkept⟩
      · cases h
    · cases h
  · rintro ⟨found, ⟨s, g, rfl, hg, hfound⟩, hfiles⟩
    simp only [hg, hfound, bind, Except.bind, hfiles]
    rfl

theorem globFiles_succeeds_iff : Succeeds (globFiles t directory glob) ↔ Followed t directory glob := by
  unfold Followed
  simp only [← filterM_succeeds_iff]
  unfold Succeeds
  simp only [globFiles_eq_ok_iff]
  constructor
  · rintro ⟨files, found, hfinds, hfiles⟩
    exact ⟨found, hfinds, files, hfiles⟩
  · rintro ⟨found, hfinds, files, hfiles⟩
    exact ⟨files, found, hfinds, hfiles⟩

/-- Below the directory, the glob finds this file, and the excluder does not leave it out. -/
def Takes (t : σ) (x : Excluder) (directory : Path) (glob : Document) (q : Path) : Prop :=
  ∃ found, Finds t directory glob found ∧ q ∈ found ∧ FileSystem.isFile t q = .ok true ∧ x.excludes q = false

theorem Finds.unique {found' : List Path} (h : Finds t directory glob found) (h' : Finds t directory glob found') :
    found = found' := by
  obtain ⟨s, g, rfl, hg, hfound⟩ := h
  obtain ⟨s', g', hs, hg', hfound'⟩ := h'
  cases hs
  cases hg.symm.trans hg'
  exact Except.ok.inj (hfound.symm.trans hfound')

theorem mem_filter_globFiles (h : globFiles t directory glob = .ok files) :
    q ∈ x.filter files ↔ Takes t x directory glob q := by
  obtain ⟨found, hfinds, hfiles⟩ := globFiles_eq_ok_iff.1 h
  unfold Excluder.filter
  rw [List.mem_filter, mem_of_filterM_ok hfiles, Bool.not_eq_true']
  constructor
  · rintro ⟨⟨hq, hfile⟩, hkept⟩
    exact ⟨found, hfinds, hq, hfile, hkept⟩
  · rintro ⟨found', hfinds', hq, hfile, hkept⟩
    rw [hfinds'.unique hfinds] at hq
    exact ⟨⟨hq, hfile⟩, hkept⟩

theorem wellFormed_of_globFiles (ht : FileSystem.Lawful t) (hdirectory : directory.WellFormed)
    (h : globFiles t directory glob = .ok files) : ∀ q ∈ x.filter files, q.WellFormed := by
  intro q hq
  obtain ⟨found, ⟨s, g, -, hg, hfound⟩, hq, -⟩ := (mem_filter_globFiles h).1 hq
  exact ht.wellFormed hg hdirectory hfound q hq

/-! ## Directories -/

theorem searchAll_succeeds_iff :
    Succeeds (searchAll t x directory found globs) ↔ ∀ glob ∈ globs, Followed t directory glob := by
  induction globs generalizing found with
  | nil => exact iff_of_true (succeeds_ok _) (by simp)
  | cons glob rest ih =>
    rw [List.forall_mem_cons, ← globFiles_succeeds_iff]
    unfold searchAll
    cases hfiles : globFiles t directory glob with
    | error e =>
      refine iff_of_false ?_ ?_
      · rintro ⟨_, ⟨⟩⟩
      · rintro ⟨⟨_, ⟨⟩⟩, -⟩
    | ok files => exact ih.trans (and_iff_right (succeeds_ok files)).symm

theorem Holds.searchAll {S : Path → Prop} {found' : List Path} (ht : FileSystem.Lawful t)
    (hdirectory : directory.WellFormed)
    (h : Holds S found) (hsearch : Discovery.searchAll t x directory found globs = .ok found') :
    Holds (fun q => S q ∨ ∃ glob ∈ globs, Takes t x directory glob q) found' := by
  induction globs generalizing S found with
  | nil =>
    cases hsearch
    exact h.congr fun q => by simp
  | cons glob rest ih =>
    obtain ⟨files, hfiles, hsearch⟩ := bind_ok hsearch
    have hinsert := h.insertAll (wellFormed_of_globFiles (x := x) ht hdirectory hfiles)
    refine (ih hinsert hsearch).congr fun q => ?_
    rw [mem_filter_globFiles hfiles, List.exists_mem_cons_iff, or_assoc]

/-! ## Named paths -/

/-- Adds what one named path stands for; `globs` are asked for only if it is a directory. -/
def gather (t : σ) (x : Excluder) (globs : Except Fault (List Document)) (found : List Path) (p : Path) :
    Except Failure (List Path) := do
  if ← Settings.ofFile (FileSystem.isFile t p) then return insert p found
  else if ← Settings.ofFile (FileSystem.isDirectory t p) then searchAll t x p found (← Settings.ofFault globs)
  else return found

/-- What a file system tells of a named path when it is asked for a file by `isFile` and then for a directory by
`isDirectory`. -/
inductive Told (t : σ) (p : Path) : Prop
  | untold {e : FileError} (isFile : FileSystem.isFile t p = .error e)
  | file (isFile : FileSystem.isFile t p = .ok true)
  | notAFile {e : FileError} (isFile : FileSystem.isFile t p = .ok false)
      (isDirectory : FileSystem.isDirectory t p = .error e)
  | directory (isFile : FileSystem.isFile t p = .ok false) (isDirectory : FileSystem.isDirectory t p = .ok true)
  | neither (isFile : FileSystem.isFile t p = .ok false) (isDirectory : FileSystem.isDirectory t p = .ok false)

theorem told (t : σ) (p : Path) : Told t p := by
  rcases hfile : FileSystem.isFile t p with e | _ | _
  · exact .untold hfile
  · rcases hdirectory : FileSystem.isDirectory t p with e | _ | _
    · exact .notAFile hfile hdirectory
    · exact .neither hfile hdirectory
    · exact .directory hfile hdirectory
  · exact .file hfile

section Gather

variable {iterated : Except Fault (List Document)}

theorem gather_file (h : FileSystem.isFile t p = .ok true) : gather t x iterated found p = .ok (insert p found) := by
  unfold gather
  rw [h]
  rfl

theorem gather_directory (hfile : FileSystem.isFile t p = .ok false) (h : FileSystem.isDirectory t p = .ok true) :
    gather t x iterated found p = Settings.ofFault iterated >>= searchAll t x p found := by
  unfold gather
  rw [hfile, h]
  rfl

theorem gather_neither (hfile : FileSystem.isFile t p = .ok false) (h : FileSystem.isDirectory t p = .ok false) :
    gather t x iterated found p = .ok found := by
  unfold gather
  rw [hfile, h]
  rfl

theorem gather_untold {e : FileError} (h : FileSystem.isFile t p = .error e) :
    gather t x iterated found p = .error (.file e) := by
  unfold gather
  rw [h]
  rfl

theorem gather_notAFile {e : FileError} (hfile : FileSystem.isFile t p = .ok false)
    (h : FileSystem.isDirectory t p = .error e) : gather t x iterated found p = .error (.file e) := by
  unfold gather
  rw [hfile, h]
  rfl

end Gather

theorem discoverFrom_blind (includes : Document) (found paths : List Path) :
    (discoverFrom t x includes found paths).Blind := by
  induction paths generalizing found with
  | nil => exact .pure _
  | cons p rest ih =>
    unfold discoverFrom
    refine (Excluder.ofFile_blind _).bind fun file => ?_
    split
    · exact ih _
    · refine (Excluder.ofFile_blind _).bind fun directory => ?_
      split
      · exact (Logged.Blind.note _).bind fun _ => ih _
      · cases includes.iterate with
        | error f => exact fun _ _ => rfl
        | ok globs =>
          refine (Logged.Blind.pure globs).bind fun globs => ?_
          dsimp only
          cases searchAll t x p found globs with
          | error e => exact fun _ _ => rfl
          | ok found => exact (Logged.Blind.pure found).bind fun _ => ih _

/-- `discoverFrom` takes one named path after the other, each by `gather`. -/
theorem discoverFrom_outcome (includes : Document) :
    (discoverFrom t x includes found paths).outcome.1 = paths.foldlM (gather t x includes.iterate) found := by
  induction paths generalizing found with
  | nil => rfl
  | cons p rest ih =>
    rw [List.foldlM_cons]
    unfold discoverFrom
    cases told t p with
    | untold hfile =>
      rw [gather_untold hfile, hfile]
      rfl
    | file hfile =>
      rw [gather_file hfile, hfile]
      exact ih
    | notAFile hfile hdirectory =>
      rw [gather_notAFile hfile hdirectory, hfile, hdirectory]
      rfl
    | neither hfile hdirectory =>
      rw [gather_neither hfile hdirectory, hfile, hdirectory]
      -- the warning that is left has no bearing on what is found
      exact (discoverFrom_blind includes found rest _ _).trans ih
    | directory hfile hdirectory =>
      rw [gather_directory hfile hdirectory, hfile, hdirectory]
      rcases hglobs : includes.iterate with f | globs
      · rfl
      · rw [hglobs] at ih
        change _ = searchAll t x p found globs >>= _
        simp only [pure_bind]
        rcases searchAll t x p found globs with e | found
        · rfl
        · exact ih

/-- It can be told whether the path is a file and, if it is none, whether it is a directory; and each glob can be
`Followed` below it if it is one. -/
def Searchable (t : σ) (globs : List Document) (p : Path) : Prop :=
  Succeeds (FileSystem.isFile t p) ∧ (FileSystem.isFile t p = .ok false →
    Succeeds (FileSystem.isDirectory t p) ∧
      (FileSystem.isDirectory t p = .ok true → ∀ glob ∈ globs, Followed t p glob))

/-- The named path stands for this file: it is the file, or it is a directory below which some glob `Takes` it. -/
def StandsFor (t : σ) (x : Excluder) (globs : List Document) (p q : Path) : Prop :=
  p = q ∧ FileSystem.isFile t p = .ok true ∨
    FileSystem.isDirectory t p = .ok true ∧ ∃ glob ∈ globs, Takes t x p glob q

theorem gather_succeeds_iff (x : Excluder) (found : List Path) :
    Succeeds (gather t x (.ok globs) found p) ↔ Searchable t globs p := by
  have herror : ∀ {α : Type} {e : FileError}, ¬ Succeeds (.error e : Except FileError α) := by
    rintro α e ⟨_, ⟨⟩⟩
  unfold Searchable
  cases told t p with
  | untold hfile =>
    rw [gather_untold hfile, hfile]
    refine iff_of_false ?_ fun h => herror h.1
    rintro ⟨_, ⟨⟩⟩
  | file hfile =>
    rw [gather_file hfile, hfile]
    exact iff_of_true (succeeds_ok _) ⟨succeeds_ok _, fun h => by cases h⟩
  | notAFile hfile hdirectory =>
    rw [gather_notAFile hfile hdirectory, hfile, hdirectory]
    refine iff_of_false ?_ fun h => herror (h.2 rfl).1
    rintro ⟨_, ⟨⟩⟩
  | directory hfile hdirectory =>
    rw [gather_directory hfile hdirectory, hfile, hdirectory]
    refine searchAll_succeeds_iff.trans ⟨fun h => ⟨succeeds_ok _, fun _ => ⟨succeeds_ok _, fun _ => h⟩⟩, ?_⟩
    exact fun h => (h.2 rfl).2 rfl
  | neither hfile hdirectory =>
    rw [gather_neither hfile hdirectory, hfile, hdirectory]
    exact iff_of_true (succeeds_ok _) ⟨succeeds_ok _, fun _ => ⟨succeeds_ok _, fun h => by cases h⟩⟩

theorem Holds.gather {S : Path → Prop} {found' : List Path} (ht : FileSystem.Lawful t) (hp : p.WellFormed)
    (h : Holds S found)
    (hgather : Discovery.gather t x (.ok globs) found p = .ok found') :
    Holds (fun q => S q ∨ StandsFor t x globs p q) found' := by
  unfold StandsFor
  cases told t p with
  | untold hfile =>
    rw [gather_untold hfile] at hgather
    cases hgather
  | file hfile =>
    rw [gather_file hfile] at hgather
    cases hgather
    exact (h.insert hp).congr fun q => by simp [hfile, ht.not_both p hfile, eq_comm]
  | notAFile hfile hdirectory =>
    rw [gather_notAFile hfile hdirectory] at hgather
    cases hgather
  | directory hfile hdirectory =>
    rw [gather_directory hfile hdirectory] at hgather
    exact (h.searchAll ht hp hgather).congr fun q => by simp [hfile, hdirectory]
  | neither hfile hdirectory =>
    rw [gather_neither hfile hdirectory] at hgather
    cases hgather
    exact h.congr fun q => by simp [hfile, hdirectory]

/-! ## All named paths -/

theorem foldlM_gather_succeeds_iff :
    Succeeds (paths.foldlM (gather t x (.ok globs)) found) ↔ ∀ p ∈ paths, Searchable t globs p := by
  induction paths generalizing found with
  | nil => exact iff_of_true (succeeds_ok _) (by simp)
  | cons p rest ih =>
    rw [List.foldlM_cons, List.forall_mem_cons, ← gather_succeeds_iff x found]
    cases gather t x (.ok globs) found p with
    | error e =>
      refine iff_of_false ?_ ?_
      · rintro ⟨_, ⟨⟩⟩
      · rintro ⟨⟨_, ⟨⟩⟩, -⟩
    | ok found' => exact ih.trans (and_iff_right (succeeds_ok found')).symm

theorem Holds.foldlM_gather {S : Path → Prop} {found' : List Path} (ht : FileSystem.Lawful t)
    (hpaths : ∀ p ∈ paths, p.WellFormed)
    (h : Holds S found) (hfold : paths.foldlM (Discovery.gather t x (.ok globs)) found = .ok found') :
    Holds (fun q => S q ∨ ∃ p ∈ paths, StandsFor t x globs p q) found' := by
  induction paths generalizing S found with
  | nil =>
    cases hfold
    exact h.congr fun q => by simp
  | cons p rest ih =>
    obtain ⟨hp, hrest⟩ := List.forall_mem_cons.1 hpaths
    rw [List.foldlM_cons] at hfold
    obtain ⟨next, hnext, hfold⟩ := bind_ok hfold
    exact (ih hrest (h.gather ht hp hnext) hfold).congr fun q => by rw [List.exists_mem_cons_iff, or_assoc]

/-- The globs that are followed: those of `defaultIncludes` if none are given. -/
def globsOf (includes : List Document) : List Document :=
  if includes.isEmpty then [.text "**/*.scope.json"] else includes

variable {includes includes' : List Document} {paths' : List Path}

theorem discover_eq_foldlM :
    (discover t x (.list includes) paths).outcome.1 = paths.foldlM (gather t x (.ok (globsOf includes))) [] := by
  cases includes with
  | nil => exact discoverFrom_outcome _
  | cons glob rest => exact discoverFrom_outcome _

theorem discover_succeeds_iff :
    Succeeds (discover t x (.list includes) paths).outcome.1 ↔ ∀ p ∈ paths, Searchable t (globsOf includes) p := by
  rw [discover_eq_foldlM, foldlM_gather_succeeds_iff]

theorem holds_of_discover (ht : FileSystem.Lawful t) (hpaths : ∀ p ∈ paths, p.WellFormed)
    (h : (discover t x (.list includes) paths).outcome.1 = .ok found) :
    Holds (fun q => ∃ p ∈ paths, StandsFor t x (globsOf includes) p q) found := by
  rw [discover_eq_foldlM] at h
  exact (Holds.nil.foldlM_gather ht hpaths h).congr fun q => by simp

theorem mem_globsOf_congr (h : ∀ glob, glob ∈ includes' ↔ glob ∈ includes) (glob : Document) :
    glob ∈ globsOf includes' ↔ glob ∈ globsOf includes := by
  unfold globsOf
  have hempty : includes' = [] ↔ includes = [] := by
    rw [List.eq_nil_iff_forall_not_mem, List.eq_nil_iff_forall_not_mem]
    exact forall_congr' fun glob => not_congr (h glob)
  by_cases hnil : includes = []
  · simp [hnil, hempty.2 hnil]
  · simp [hnil, mt hempty.1 hnil, h]

/-- In any file system, `discover` comes to a result exactly if each named path is `Searchable`. It is the sorted list,
without repetitions, of the files among the named paths and of those that a glob `Takes` below a named directory. Paths
and globs with the same members give the same result, and with further paths no file is lost. -/
theorem discover_union (ht : FileSystem.Lawful t) (hpaths : ∀ p ∈ paths, p.WellFormed) (includes : List Document) :
    (Succeeds (discover t x (.list includes) paths).outcome.1 ↔ ∀ p ∈ paths, Searchable t (globsOf includes) p) ∧
    discover t x .null paths = discover t x (.list []) paths ∧
    ∀ found, (discover t x (.list includes) paths).outcome.1 = .ok found →
      found.Pairwise (fun p q => p.less q = true) ∧
      (∀ q, q ∈ found ↔ q ∈ paths ∧ FileSystem.isFile t q = .ok true ∨
        ∃ p ∈ paths, FileSystem.isDirectory t p = .ok true ∧ ∃ glob ∈ globsOf includes, Takes t x p glob q) ∧
      (∀ includes' paths', (∀ glob, glob ∈ includes' ↔ glob ∈ includes) → (∀ p, p ∈ paths' ↔ p ∈ paths) →
        (discover t x (.list includes') paths').outcome.1 = .ok found) ∧
      ∀ paths' found', paths ⊆ paths' → (∀ p ∈ paths', p.WellFormed) →
        (discover t x (.list includes) paths').outcome.1 = .ok found' → found ⊆ found' := by
  refine ⟨discover_succeeds_iff, rfl, fun found hfound => ?_⟩
  have hholds := holds_of_discover ht hpaths hfound
  refine ⟨hholds.sorted, fun q => ?_, ?_, ?_⟩
  · rw [hholds.mem]
    constructor
    · rintro ⟨p, hp, ⟨rfl, hfile⟩ | hdirectory⟩
      · exact .inl ⟨hp, hfile⟩
      · exact .inr ⟨p, hp, hdirectory⟩
    · rintro (⟨hq, hfile⟩ | ⟨p, hp, hdirectory⟩)
      · exact ⟨q, hq, .inl ⟨rfl, hfile⟩⟩
      · exact ⟨p, hp, .inr hdirectory⟩
  · intro includes' paths' hincludes hsame
    -- what can be told of the paths depends on their members and those of the globs only, and the list is unique
    have hglobs := mem_globsOf_congr hincludes
    have hsearchable : ∀ p ∈ paths', Searchable t (globsOf includes') p := by
      intro p hp
      obtain ⟨hfile, hsearched⟩ := discover_succeeds_iff.1 ⟨found, hfound⟩ p ((hsame p).1 hp)
      refine ⟨hfile, fun hnone => ⟨(hsearched hnone).1, fun hdirectory glob hglob => ?_⟩⟩
      exact (hsearched hnone).2 hdirectory glob ((hglobs glob).1 hglob)
    obtain ⟨found', hfound'⟩ := discover_succeeds_iff.2 hsearchable
    have hholds' := holds_of_discover ht (fun p hp => hpaths p ((hsame p).1 hp)) hfound'
    rw [hfound']
    refine congrArg _ (hholds'.unique (hholds.congr fun q => ?_))
    simp only [hsame, StandsFor, hglobs]
  · intro paths' found' hsub hpaths' hfound' q hq
    obtain ⟨p, hp, hstands⟩ := (hholds.mem q).1 hq
    exact ((holds_of_discover ht hpaths' hfound').mem q).2 ⟨p, hsub hp, hstands⟩

namespace Sample

/-- A file `a` at the root, which is the current directory, and another one in the directory `d`. -/
def project : FileTree := ⟨[("a", .file []), ("d", .directory [("a", .file [])])], []⟩

def keepAll : Excluder := ⟨.parse "/", true, [], [], []⟩

theorem project_wellNamed : project.WellNamed := by
  refine .directory (by decide +kernel) fun x hx => ?_
  rcases List.mem_cons.1 hx with rfl | hx
  · exact .file []
  · obtain rfl := List.mem_singleton.1 hx
    refine .directory (by decide +kernel) fun x hx => ?_
    obtain rfl := List.mem_singleton.1 hx
    exact .file []

theorem utf8ByteSize_replicate (n : Nat) : (String.ofList (List.replicate n 'a')).utf8ByteSize = n := by
  induction n with
  | zero => rfl
  | succ n ih =>
    rw [List.replicate_succ, String.ofList_cons, String.utf8ByteSize_append, ih]
    exact Nat.add_comm 1 n

theorem find_long {n : Nat} (hn : FileTree.maxNameBytes < n) :
    project.find ⟨"", [String.ofList (List.replicate n 'a')]⟩ = .error .nameTooLong := by
  have hnull : (String.ofList (List.replicate n 'a')).toList.contains '\x00' = false := by simp
  have hlong := utf8ByteSize_replicate n
  generalize String.ofList (List.replicate n 'a') = name at hnull hlong ⊢
  have hup : name ≠ ".." := by
    rintro rfl
    exact absurd (hlong ▸ hn) (by decide +kernel)
  have htext : Path.text ⟨"", [name]⟩ = name := by simp [Path.text]
  have hparts : project.fullParts ⟨"", [name]⟩ = [name] := rfl
  unfold FileTree.find
  rw [htext, hnull, if_neg Bool.false_ne_true, hparts]
  split
  · rfl
  · rw [FileTree.follow, if_neg hup, if_pos (hlong ▸ hn)]

/-- A name that is longer than names may be. -/
def overlong : String := String.ofList (List.replicate 256 'a')

theorem find_overlong : project.find ⟨"", [overlong]⟩ = .error .nameTooLong := find_long (by decide)

end Sample

/-- In `Sample.project` a file below a named directory that is also named itself, in either order, by one glob or by
two. -/
theorem discover_union_sample :
    Sample.project.WellNamed ∧
      (discover Sample.project Sample.keepAll (.list [.text "**/a"]) [.parse "d/a", .parse "."]).outcome.1 =
        .ok [.parse "a", .parse "d/a"] ∧
      (discover Sample.project Sample.keepAll (.list [.text "**/a", .text "**/a"])
          [.parse ".", .parse "d/a"]).outcome.1 =
        .ok [.parse "a", .parse "d/a"] := by
  have hfound : (discover Sample.project Sample.keepAll (.list [.text "**/a"]) [.parse "d/a", .parse "."]).outcome.1 =
      .ok [.parse "a", .parse "d/a"] := by
    rw [discover_eq_foldlM]
    exact ok_of_toOption (by decide +kernel)
  have hpaths : ∀ p ∈ [Path.parse "d/a", Path.parse "."], p.WellFormed := by
    simp [Path.wellFormed_parse]
  obtain ⟨-, -, hunion⟩ := discover_union (x := Sample.keepAll) Sample.project_wellNamed.lawful hpaths [.text "**/a"]
  refine ⟨Sample.project_wellNamed, hfound, (hunion _ hfound).2.2.1 _ _ (fun glob => ?_) fun p => ?_⟩
  · simp
  · simp [or_comm]

/-- The name `overlong` is too long for a `FileTree`: there is no directory to follow a glob in, and yet no result. -/
theorem discover_overlong_fails :
    (∀ p ∈ [Path.mk "" [Sample.overlong]], Sample.project.isDirectory p = .ok true → ∀ glob ∈ globsOf [], ∃ found,
      Finds Sample.project p glob found) ∧
    ¬ Succeeds (discover Sample.project Sample.keepAll (.list []) [⟨"", [Sample.overlong]⟩]).outcome.1 := by
  constructor
  · intro p hp h
    rw [List.mem_singleton.1 hp] at h
    have hfile : Succeeds (Sample.project.isFile ⟨"", [Sample.overlong]⟩) := ⟨_, FileTree.isFile_of_isDirectory h⟩
    exact absurd Sample.find_overlong ((FileTree.isFile_succeeds_iff _ _).1 hfile)
  · rw [discover_succeeds_iff]
    exact fun h => (FileTree.isFile_succeeds_iff _ _).1 (h _ List.mem_cons_self).1 Sample.find_overlong

end Discovery

end CatchAudit
