/-
Paths as they are read from texts: no slash stands inside a part, and the root is nothing or one or two slashes.
Such paths are told apart by their components. Where no name in a file system has a slash in it, a glob finds
well-formed paths below well-formed ones.
-/
import CatchAudit.Files.Glob
import CatchAudit.Proofs.Outcome

namespace CatchAudit

namespace Path

structure WellFormed (p : Path) : Prop where
  root : p.root = "" ∨ p.root = "/" ∨ p.root = "//"
  slashless : ∀ part ∈ p.parts, '/' ∉ part.toList

variable {p q : Path}

theorem slashless_of_splitFrom {part piece cs : List Char} (hpart : '/' ∉ part) (h : piece ∈ splitFrom part cs) :
    '/' ∉ piece := by
  induction cs generalizing part with
  | nil =>
    rw [splitFrom, List.mem_singleton] at h
    rw [h, List.mem_reverse]
    exact hpart
  | cons c rest ih =>
    unfold splitFrom at h
    split at h
    · rcases List.mem_cons.1 h with rfl | h
      · rw [List.mem_reverse]
        exact hpart
      · exact ih List.not_mem_nil h
    · next hc =>
      refine ih ?_ h
      rw [List.mem_cons, not_or]
      exact ⟨Ne.symm hc, hpart⟩

theorem wellFormed_parse (s : String) : (parse s).WellFormed := by
  constructor
  · unfold parse
    dsimp only
    split
    · exact .inl rfl
    · split
      · exact .inr (.inr rfl)
      · exact .inr (.inl rfl)
  · intro part hpart
    obtain ⟨piece, hpiece, hsome⟩ := List.mem_filterMap.1 hpart
    split at hsome
    · cases hsome
    · cases hsome
      rw [String.toList_ofList]
      exact slashless_of_splitFrom List.not_mem_nil hpiece

theorem WellFormed.child (h : p.WellFormed) {name : String} (hname : '/' ∉ name.toList) :
    (p.child name).WellFormed := by
  refine ⟨h.root, fun part hpart => ?_⟩
  rcases List.mem_append.1 hpart with hpart | hpart
  · exact h.slashless part hpart
  · rw [List.mem_singleton] at hpart
    rw [hpart]
    exact hname

theorem WellFormed.eq_of_components (hp : p.WellFormed) (hq : q.WellFormed) (h : p.components = q.components) :
    p = q := by
  obtain ⟨root, parts⟩ := p
  obtain ⟨root', parts'⟩ := q
  -- the root of the one would have to be a part of the other
  have hmixed : ∀ {root : String} {parts parts' : List String}, root = "/" ∨ root = "//" →
      (∀ part ∈ parts', '/' ∉ part.toList) → root :: parts ≠ parts' := by
    rintro root parts parts' hroot hslashless rfl
    rcases hroot with rfl | rfl <;> exact hslashless _ List.mem_cons_self (by decide)
  by_cases hroot : root = "" <;> by_cases hroot' : root' = ""
  · simpa [components, isAbsolute, hroot, hroot'] using h
  · have hcomponents : root' :: parts' = parts := by simpa [components, isAbsolute, hroot, hroot'] using h.symm
    exact absurd hcomponents (hmixed (hq.root.resolve_left hroot') hp.slashless)
  · have hcomponents : root :: parts = parts' := by simpa [components, isAbsolute, hroot, hroot'] using h
    exact absurd hcomponents (hmixed (hp.root.resolve_left hroot) hq.slashless)
  · simpa [components, isAbsolute, hroot, hroot'] using h

end Path

/-- No name of an entry, however deep, has a slash in it. -/
inductive Entry.WellNamed : Entry → Prop
  | file (bytes : List UInt8) : WellNamed (.file bytes)
  | directory {entries : List (String × Entry)} : (∀ x ∈ entries, '/' ∉ x.1.toList) → (∀ x ∈ entries, WellNamed x.2) →
      WellNamed (.directory entries)

namespace FileTree

variable {t : FileTree} {p : Path}

def WellNamed (t : FileTree) : Prop := (Entry.directory t.root).WellNamed

theorem wellNamed_of_follow {parts : List String} {above : List Entry} {here e : Entry}
    (habove : ∀ up ∈ above, up.WellNamed) (hhere : here.WellNamed) (h : follow above here parts = .ok e) :
    e.WellNamed := by
  induction parts generalizing above here with
  | nil =>
    cases h
    exact hhere
  | cons part rest ih =>
    unfold follow at h
    cases hhere with
    | file bytes => cases h
    | @directory entries hnames hentries =>
      dsimp only at h
      split at h
      · cases above with
        | nil => exact ih habove (.directory hnames hentries) h
        | cons up above =>
          obtain ⟨hup, habove⟩ := List.forall_mem_cons.1 habove
          exact ih habove hup h
      · split at h
        · cases h
        · split at h
          · cases h
          · next inner hinner =>
            refine ih ?_ (hentries _ (mem_of_memberOf? hinner)) h
            exact List.forall_mem_cons.2 ⟨.directory hnames hentries, habove⟩

theorem WellNamed.of_find (ht : t.WellNamed) {e : Entry} (h : t.find p = .ok e) : e.WellNamed := by
  unfold find at h
  split at h
  · cases h
  · split at h
    · cases h
    · exact wellNamed_of_follow (by simp) ht h

theorem WellNamed.of_list (ht : t.WellNamed) {entries : List (String × Entry)} (h : t.list p = .ok entries) :
    ∀ x ∈ entries, '/' ∉ x.1.toList := by
  unfold list at h
  split at h
  · next hfind =>
    cases h
    cases ht.of_find hfind with
    | directory hnames _ => exact hnames
  · cases h
  · cases h

end FileTree

namespace Glob

variable {t : FileTree} {p : Path}

/-- Whatever is found is `WellFormed`. -/
def FindsWell (x : Except FileError (List Path)) : Prop :=
  Answers (fun _ => True) (fun found => ∀ q ∈ found, q.WellFormed) x

theorem findsWell_append {x y : Except FileError (List Path)} (hx : FindsWell x) (hy : FindsWell y) :
    FindsWell (do return (← x) ++ (← y)) := by
  refine hx.bind fun found hfound => hy.bind fun others hothers q hq => ?_
  rcases List.mem_append.1 hq with hq | hq
  · exact hfound q hq
  · exact hothers q hq

mutual
theorem belowEntry_findsWell {each : Path → Except FileError (List Path)}
    (heach : ∀ q : Path, q.WellFormed → FindsWell (each q)) :
    ∀ (p : Path) (e : Entry), p.WellFormed → e.WellNamed → FindsWell (belowEntry t each p e)
  | p, .file bytes, _, _ => fun q hq => by cases hq
  | p, .directory entries, hp, .directory hnames hentries => by
    unfold belowEntry
    refine (heach p hp).bind fun found hfound => ?_
    cases t.list p with
    | error e => exact trivial
    | ok _ =>
      refine (belowEntries_findsWell heach p entries hp hnames hentries).bind fun inner hinner q hq => ?_
      rcases List.mem_append.1 hq with hq | hq
      · exact hfound q hq
      · exact hinner q hq

theorem belowEntries_findsWell {each : Path → Except FileError (List Path)}
    (heach : ∀ q : Path, q.WellFormed → FindsWell (each q)) :
    ∀ (p : Path) (entries : List (String × Entry)), p.WellFormed →
      (∀ x ∈ entries, '/' ∉ x.1.toList) → (∀ x ∈ entries, x.2.WellNamed) → FindsWell (belowEntries t each p entries)
  | p, [], _, _, _ => fun q hq => by cases hq
  | p, (name, e) :: rest, hp, hnames, hentries => by
    obtain ⟨hname, hnames⟩ := List.forall_mem_cons.1 hnames
    obtain ⟨hentry, hentries⟩ := List.forall_mem_cons.1 hentries
    unfold belowEntries
    exact findsWell_append (belowEntry_findsWell heach (p.child name) e (hp.child hname) hentry)
      (belowEntries_findsWell heach p rest hp hnames hentries)
end

theorem findsWell_flatten {α : Type} {f : α → Except FileError (List Path)} {xs : List α}
    (h : ∀ x ∈ xs, FindsWell (f x)) : FindsWell (do return (← xs.mapM f).flatten) := by
  cases hfound : xs.mapM f with
  | error e => exact trivial
  | ok found =>
    intro q hq
    obtain ⟨paths, hpaths, hq⟩ := List.mem_flatten.1 hq
    obtain ⟨x, hx, hpaths⟩ := exists_of_mapM_ok hfound hpaths
    have hwell := h x hx
    rw [hpaths] at hwell
    exact hwell q hq

theorem select_findsWell (ht : t.WellNamed) (directoriesOnly : Bool) {parts : List Part}
    (hparts : ∀ name, Part.named name ∈ parts → '/' ∉ name.toList) (hp : p.WellFormed) :
    FindsWell (select t directoriesOnly p parts) := by
  induction parts generalizing p with
  | nil =>
    intro q hq
    rw [List.mem_singleton.1 hq]
    exact hp
  | cons part rest ih =>
    have hrest : ∀ name, Part.named name ∈ rest → '/' ∉ name.toList :=
      fun name h => hparts name (List.mem_cons_of_mem _ h)
    unfold select
    cases part with
    | directories =>
      dsimp only
      cases hfind : t.find p with
      | error reason => exact (ih hrest hp).bind fun _ _ => trivial
      | ok e => exact belowEntry_findsWell (fun q hq => ih hrest hq) p e hp (ht.of_find hfind)
    | named name =>
      dsimp only
      have hchild := ih hrest (hp.child (hparts name List.mem_cons_self))
      -- the entry is asked for in one of two ways; what is found after that is the same
      have hgo : ∀ found : Bool,
          FindsWell (if found = true then select t directoriesOnly (p.child name) rest else pure []) := by
        intro found
        cases found with
        | true => exact hchild
        | false => exact fun q hq => by cases hq
      split
      · cases t.isDirectory (p.child name) with
        | error e => exact trivial
        | ok found => exact hgo found
      · cases t.exists? (p.child name) with
        | error e => exact trivial
        | ok found => exact hgo found
    | matching pieces =>
      dsimp only
      cases hlist : t.list p with
      | error e => exact trivial
      | ok entries =>
        refine findsWell_flatten fun x hx => ih hrest (hp.child ?_)
        exact ht.of_list hlist x (List.mem_of_mem_filter hx)

theorem named_of_partOf {s name : String} (h : partOf s = .ok (.named name)) : name = s := by
  unfold partOf at h
  dsimp only at h
  split at h
  · cases h
  · split at h
    · cases h
    · split at h
      · cases h
      · cases h
        rfl

theorem parts_of_parse {s : String} {g : Glob} (h : parse s = .ok g) :
    (Path.parse s).parts.mapM partOf = .ok g.parts := by
  unfold parse at h
  dsimp only at h
  split at h
  · cases h
  · split at h
    · cases h
    · split at h
      · cases h
      · obtain ⟨parts, hparts, h⟩ := bind_ok h
        cases h
        exact hparts

/-- What a glob finds by `Glob.find` below a `WellFormed` path is well formed. -/
theorem find_wellFormed (ht : t.WellNamed) {s : String} {g : Glob} (hg : parse s = .ok g) (hp : p.WellFormed)
    {found : List Path} (h : g.find t p = .ok found) : ∀ q ∈ found, q.WellFormed := by
  have hparts : ∀ name, Part.named name ∈ g.parts → '/' ∉ name.toList := by
    intro name hname
    obtain ⟨part, hpart, hnamed⟩ := exists_of_mapM_ok (parts_of_parse hg) hname
    rw [named_of_partOf hnamed]
    exact (Path.wellFormed_parse s).slashless part hpart
  obtain ⟨directory, -, h⟩ := bind_ok h
  cases directory with
  | false =>
    cases h
    simp
  | true =>
    have hwell := select_findsWell ht g.directoriesOnly hparts hp
    have hselect : select t g.directoriesOnly p g.parts = .ok found := h
    rw [hselect] at hwell
    exact hwell

end Glob

end CatchAudit
