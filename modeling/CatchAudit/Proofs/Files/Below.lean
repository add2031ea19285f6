/-
Two spellings of one path: seen from the current directory, and in full from the root on. Both lead to
the same entry, except that the full spelling may be too long for the file system. Hence what can be
looked up, listed or found by a glob in the full spelling comes out the same, path by path, in the other.
-/
import CatchAudit.Files.Glob
import CatchAudit.Proofs.Outcome

namespace CatchAudit

namespace Path

variable {base p q : Path}

/-- A relative path seen from a base. -/
def below (base p : Path) : Path := ⟨base.root, base.parts ++ p.parts⟩

theorem below_child (base p : Path) (name : String) : (base.below p).child name = base.below (p.child name) := by
  simp [below, child]

/-- Leaving the base out, by `relativeTo?`, gives the relative path back, and only paths below the base have one. -/
theorem relativeTo?_eq_some_iff : q.relativeTo? base = some p ↔ p.root = "" ∧ q = base.below p := by
  unfold relativeTo? below
  split
  · next h =>
    rw [Option.some.injEq]
    constructor
    · rintro rfl
      refine ⟨rfl, ?_⟩
      obtain ⟨hroot, htake⟩ := h
      obtain ⟨root, parts⟩ := q
      simp only at hroot htake ⊢
      rw [hroot]
      congr 1
      conv_lhs => rw [← List.take_append_drop base.parts.length parts, htake]
    · rintro ⟨hroot, rfl⟩
      obtain ⟨root, parts⟩ := p
      simp only at hroot
      simp [hroot]
  · next h =>
    constructor
    · intro h'; cases h'
    · rintro ⟨-, rfl⟩
      exact absurd ⟨rfl, List.take_left'  rfl⟩ h

theorem relativeTo?_below (base : Path) (hp : p.root = "") : (base.below p).relativeTo? base = some p :=
  relativeTo?_eq_some_iff.2 ⟨hp, rfl⟩

theorem components_of_relative (hp : p.root = "") : p.components = p.parts := by
  simp [components, isAbsolute, hp]

/-- A relative path is never below an absolute one. -/
theorem relativeTo?_of_relative (hp : p.root = "") (hbase : base.root ≠ "") : p.relativeTo? base = none := by
  rcases h : p.relativeTo? base with _ | q
  · rfl
  · obtain ⟨-, rfl⟩ := relativeTo?_eq_some_iff.1 h
    exact absurd hp hbase

/-! ## Texts -/

theorem text_of_relative (hp : p.root = "") (hparts : p.parts ≠ []) : p.text = "/".intercalate p.parts := by
  simp [text, hp, hparts]

/-- The text of the full spelling, by `below`, ends with that of the relative path, unless that is the base itself. -/
theorem text_below (base : Path) (hp : p.root = "") (hparts : p.parts ≠ []) :
    ∃ lead, (base.below p).text = lead ++ p.text ∧ lead.toList ⊆ '/' :: base.text.toList := by
  have htext : (base.below p).text = base.root ++ "/".intercalate (base.parts ++ p.parts) := by
    simp [text, below, hparts]
  rw [htext, text_of_relative hp hparts]
  by_cases hbase : base.parts = []
  · refine ⟨base.root, by rw [hbase, List.nil_append], fun c hc => ?_⟩
    have hroot : base.root.isEmpty = false := by
      rw [String.isEmpty_eq_false_iff]
      rintro hempty
      simp [hempty] at hc
    simp [text, hbase, hroot, hc]
  · refine ⟨base.text ++ "/", ?_, ?_⟩
    · rw [String.intercalate_append_of_ne_nil hbase hparts]
      simp [text, hbase, String.append_assoc]
    · intro c hc
      rw [String.toList_append, List.mem_append] at hc
      rcases hc with hc | hc
      · exact List.mem_cons_of_mem _ hc
      · exact List.mem_cons.2 (.inl (List.mem_singleton.1 hc))

theorem mem_text_below {c : Char} (hp : p.root = "") (hparts : p.parts ≠ []) (hslash : c ≠ '/')
    (hbase : c ∉ base.text.toList) : c ∈ (base.below p).text.toList ↔ c ∈ p.text.toList := by
  obtain ⟨lead, htext, hlead⟩ := text_below base hp hparts
  rw [htext, String.toList_append, List.mem_append]
  refine or_iff_right fun hc => ?_
  rcases List.mem_cons.1 (hlead hc) with h | h
  · exact hslash h
  · exact hbase h

theorem mem_text_of_mem_base {c : Char} (hbase : base.root ≠ "") (hc : c ∈ base.text.toList) :
    c ∈ (base.below p).text.toList := by
  have hroot : base.root.isEmpty = false := String.isEmpty_eq_false_iff.2 hbase
  by_cases hparts : base.parts = [] ∨ p.parts = []
  · rcases hparts with hparts | hparts <;> simp_all [text, below]
  · rw [not_or] at hparts
    have htext : (base.below p).text = base.root ++ ("/".intercalate base.parts ++ "/" ++ "/".intercalate p.parts) := by
      rw [← String.intercalate_append_of_ne_nil hparts.1 hparts.2]
      simp [text, below, hroot]
    have hleft : base.text = base.root ++ "/".intercalate base.parts := by simp [text, hroot]
    rw [hleft] at hc
    rw [htext]
    simp only [String.toList_append, List.mem_append] at hc ⊢
    tauto

theorem size_text_below (base : Path) (hp : p.root = "") (hparts : p.parts ≠ []) :
    p.text.utf8ByteSize ≤ (base.below p).text.utf8ByteSize := by
  obtain ⟨lead, htext, -⟩ := text_below base hp hparts
  rw [htext, String.utf8ByteSize_append]
  omega

/-! ## Order -/

theorem lessParts_iff : ∀ {xs ys : List String}, lessParts xs ys = true ↔ xs < ys
  | _, [] => by simp [lessParts]
  | [], y :: ys => by simp [lessParts]
  | x :: xs, y :: ys => by
    rw [lessParts, List.cons_lt_cons_iff, ← lessParts_iff]
    by_cases h : x = y
    · simp [h]
    · simp [h]

theorem less_iff : p.less q = true ↔ p.components < q.components := lessParts_iff

instance : Std.Irrefl fun p q : Path => p.less q = true :=
  ⟨fun _ h => List.lt_irrefl _ (less_iff.1 h)⟩

instance : Std.Antisymm fun p q : Path => p.less q = true :=
  ⟨fun _ _ h h' => absurd (List.lt_trans (less_iff.1 h) (less_iff.1 h')) (List.lt_irrefl _)⟩

theorem less_trans {r : Path} (h : p.less q = true) (h' : q.less r = true) : p.less r = true :=
  less_iff.2 (List.lt_trans (less_iff.1 h) (less_iff.1 h'))

/-- Of two paths, one comes first by `less` unless they have the same components. -/
theorem components_eq_of_not_less (hpq : ¬ p.less q = true) (hqp : ¬ q.less p = true) :
    p.components = q.components := by
  rw [less_iff] at hpq hqp
  exact Std.Trichotomous.trichotomous _ _ hpq hqp

theorem eq_of_components (hroot : p.root = q.root) (hcomponents : p.components = q.components) : p = q := by
  obtain ⟨root, parts⟩ := p
  obtain ⟨root', parts'⟩ := q
  simp only at hroot
  subst hroot
  by_cases h : root = "" <;> simpa [components, isAbsolute, h] using hcomponents

/-- The order of relative paths by `less` is that of their full spellings. -/
theorem less_below (base : Path) (hp : p.root = "") (hq : q.root = "") :
    (base.below p).less (base.below q) = p.less q := by
  have happend : ∀ lead xs ys : List String, lessParts (lead ++ xs) (lead ++ ys) = lessParts xs ys := by
    intro lead xs ys
    induction lead with
    | nil => rfl
    | cons x rest ih => rw [List.cons_append, List.cons_append, lessParts, if_pos rfl, ih]
  have hcomponents : ∀ r : Path, (base.below r).components = base.components ++ r.parts := by
    intro r
    by_cases h : base.isAbsolute = true <;> simp [components, below, isAbsolute] at h ⊢ <;> simp [h]
  unfold less
  rw [hcomponents, hcomponents, happend, components_of_relative hp, components_of_relative hq]

end Path

/-! ## Entries -/

namespace FileTree

variable {t : FileTree} {p : Path}

/-- The path of the current directory. -/
def here (t : FileTree) : Path := ⟨"/", t.current⟩

/-- No null character stands in the path of the current directory. -/
def CleanHere (t : FileTree) : Prop := '\x00' ∉ t.here.text.toList

theorem fullParts_below (hp : p.root = "") : t.fullParts (t.here.below p) = t.fullParts p := by
  simp [fullParts, Path.below, here, Path.isAbsolute, hp]

/-- Where something is found below the current directory, its path is clean: `CleanHere`. -/
theorem cleanHere_of_isDirectory (h : t.isDirectory (t.here.below p) = .ok true) : t.CleanHere := by
  intro hnull
  have hfind : t.find (t.here.below p) = .error .nullInPath := by
    unfold find
    rw [if_pos (List.contains_iff_mem.2 (Path.mem_text_of_mem_base (by simp [here]) hnull))]
  have hlook : t.look (t.here.below p) = .ok none := by
    unfold look
    rw [hfind]
    rfl
  unfold isDirectory at h
  rw [hlook] at h
  cases h

/-- Both spellings lead `find` to the same, unless the full one is too long. -/
theorem find_below (hclean : t.CleanHere) (hp : p.root = "") :
    t.find (t.here.below p) = t.find p ∨ t.find (t.here.below p) = .error .nameTooLong := by
  have hnull : (t.here.below p).text.toList.contains '\x00' = p.text.toList.contains '\x00' := by
    rw [Bool.eq_iff_iff, List.contains_iff_mem, List.contains_iff_mem]
    -- the text of the current directory itself is a point, which the text of the full spelling does not end with
    by_cases hparts : p.parts = []
    · have hsame : t.here.below p = t.here := by simp [Path.below, hparts]
      have hpoint : p.text = "." := by simp [Path.text, hp, hparts]
      rw [hsame, hpoint]
      exact ⟨fun h => absurd h hclean, fun h => absurd h (by decide)⟩
    · exact Path.mem_text_below hp hparts (by decide) hclean
  have hsize : p.text.utf8ByteSize ≤ maxPathBytes ∨ p.text.utf8ByteSize ≤ (t.here.below p).text.utf8ByteSize := by
    by_cases hparts : p.parts = []
    · have hpoint : p.text = "." := by simp [Path.text, hp, hparts]
      rw [hpoint]
      exact .inl (by decide)
    · exact .inr (Path.size_text_below t.here hp hparts)
  -- both go the same way from the root on; only their lengths may tell them apart
  unfold find
  rw [hnull, fullParts_below hp]
  split
  · exact .inl rfl
  · split
    · exact .inr rfl
    · next hshort =>
      rw [if_neg (by omega)]
      exact .inl rfl

/-- What the full spelling leads `find` to, the other one leads to. -/
theorem find_of_below {e : Entry} (hclean : t.CleanHere) (hp : p.root = "") (h : t.find (t.here.below p) = .ok e) :
    t.find p = .ok e := by
  rcases find_below hclean hp with hfind | hfind
  · rw [← hfind, h]
  · rw [h] at hfind
    cases hfind

/-- Looking a path up by `look` in the full spelling gives what the other spelling gives, or fails. -/
theorem look_below (hclean : t.CleanHere) (hp : p.root = "") : Yields Eq (t.look (t.here.below p)) (t.look p) := by
  intro found h
  unfold look at h ⊢
  rcases find_below hclean hp with hfind | hfind
  · rw [hfind] at h
    rcases hp' : t.find p with reason | e
    · rw [hp'] at h
      dsimp only at h ⊢
      split at h
      · next habsent =>
        rw [if_pos habsent]
        exact ⟨found, h, rfl⟩
      · cases h
    · rw [hp'] at h
      exact ⟨found, h, rfl⟩
  · rw [hfind] at h
    cases h

theorem exists?_below (hclean : t.CleanHere) (hp : p.root = "") :
    Yields Eq (t.exists? (t.here.below p)) (t.exists? p) :=
  (look_below hclean hp).bind fun _ _ heq b hb => ⟨b, heq ▸ hb, rfl⟩

theorem isFile_below (hclean : t.CleanHere) (hp : p.root = "") :
    Yields Eq (t.isFile (t.here.below p)) (t.isFile p) :=
  (look_below hclean hp).bind fun _ _ heq b hb => ⟨b, heq ▸ hb, rfl⟩

theorem isDirectory_below (hclean : t.CleanHere) (hp : p.root = "") :
    Yields Eq (t.isDirectory (t.here.below p)) (t.isDirectory p) :=
  (look_below hclean hp).bind fun _ _ heq b hb => ⟨b, heq ▸ hb, rfl⟩

theorem list_below (hclean : t.CleanHere) (hp : p.root = "") : Yields Eq (t.list (t.here.below p)) (t.list p) := by
  intro entries h
  unfold list at h ⊢
  rcases hfind : t.find (t.here.below p) with reason | (bytes | inner) <;> rw [hfind] at h
  · cases h
  · cases h
  · rw [find_of_below hclean hp hfind]
    exact ⟨entries, h, rfl⟩

end FileTree

/-! ## Globs -/

namespace Glob

variable {t : FileTree} {p : Path}

/-- The same paths in full spelling. -/
def Respelled (t : FileTree) (full relative : List Path) : Prop :=
  full = relative.map t.here.below ∧ ∀ q ∈ relative, q.root = ""

theorem Respelled.nil : Respelled t [] [] := ⟨rfl, fun q hq => by cases hq⟩

theorem Respelled.append {full full' relative relative' : List Path} (h : Respelled t full relative)
    (h' : Respelled t full' relative') : Respelled t (full ++ full') (relative ++ relative') := by
  obtain ⟨rfl, hroot⟩ := h
  obtain ⟨rfl, hroot'⟩ := h'
  refine ⟨(List.map_append ..).symm, fun q hq => ?_⟩
  rcases List.mem_append.1 hq with hq | hq
  · exact hroot q hq
  · exact hroot' q hq

mutual
theorem belowEntry_below {each each' : Path → Except FileError (List Path)} (hclean : t.CleanHere)
    (heach : ∀ q : Path, q.root = "" → Yields (Respelled t) (each (t.here.below q)) (each' q)) :
    ∀ (p : Path) (e : Entry), p.root = "" →
      Yields (Respelled t) (belowEntry t each (t.here.below p) e) (belowEntry t each' p e)
  | p, .file bytes, _ => .ok .nil
  | p, .directory entries, hp => by
    unfold belowEntry
    refine (heach p hp).bind fun found found' hfound => ?_
    refine (FileTree.list_below hclean hp).bind fun _ _ _ => ?_
    refine (belowEntries_below hclean heach p entries hp).bind fun inner inner' hinner => ?_
    exact .ok (hfound.append hinner)

theorem belowEntries_below {each each' : Path → Except FileError (List Path)} (hclean : t.CleanHere)
    (heach : ∀ q : Path, q.root = "" → Yields (Respelled t) (each (t.here.below q)) (each' q)) :
    ∀ (p : Path) (entries : List (String × Entry)), p.root = "" →
      Yields (Respelled t) (belowEntries t each (t.here.below p) entries) (belowEntries t each' p entries)
  | p, [], _ => .ok .nil
  | p, (name, e) :: rest, hp => by
    unfold belowEntries
    rw [Path.below_child]
    refine (belowEntry_below hclean heach (p.child name) e hp).bind fun first first' hfirst => ?_
    refine (belowEntries_below hclean heach p rest hp).bind fun others others' hothers => ?_
    exact .ok (hfirst.append hothers)
end

/-- Paths that are gone through in both spellings. -/
theorem flatten_below {α : Type} {f g : α → Except FileError (List Path)} :
    ∀ {xs : List α}, (∀ x ∈ xs, Yields (Respelled t) (f x) (g x)) →
      Yields (fun full relative => Respelled t full.flatten relative.flatten) (xs.mapM f) (xs.mapM g)
  | [], _ => .ok .nil
  | x :: rest, h => by
    rw [List.mapM_cons, List.mapM_cons]
    refine (h x (List.mem_cons_self ..)).bind fun first first' hfirst => ?_
    refine (flatten_below fun y hy => h y (List.mem_cons_of_mem _ hy)).bind fun others others' hothers => ?_
    exact .ok (hfirst.append hothers)

/-- What the parts of a glob `select` in the full spelling, they select in the other. -/
theorem select_below (hclean : t.CleanHere) (directoriesOnly : Bool) : ∀ (parts : List Part) {p : Path}, p.root = "" →
    Yields (Respelled t) (select t directoriesOnly (t.here.below p) parts) (select t directoriesOnly p parts)
  | [], p, hp => .ok ⟨rfl, by simpa using hp⟩
  | .directories :: rest, p, hp => by
    unfold select
    dsimp only
    rcases hfind : t.find (t.here.below p) with reason | e
    · -- where nothing is found there is nothing to list, and the search fails
      intro found h
      obtain ⟨_, -, h⟩ := bind_ok h
      cases h
    · rw [FileTree.find_of_below hclean hp hfind]
      exact belowEntry_below hclean (fun q hq => select_below hclean directoriesOnly rest hq) p e hp
  | .named name :: rest, p, hp => by
    unfold select
    dsimp only
    rw [Path.below_child]
    have hq : (p.child name).root = "" := hp
    have hgo : ∀ b b' : Bool, b = b' → Yields (Respelled t)
        (if b = true then select t directoriesOnly (t.here.below (p.child name)) rest else pure [])
        (if b' = true then select t directoriesOnly (p.child name) rest else pure []) := by
      rintro b _ rfl
      cases b with
      | true => exact select_below hclean directoriesOnly rest hq
      | false => exact .ok .nil
    split
    · exact (FileTree.isDirectory_below hclean hq).bind hgo
    · exact (FileTree.exists?_below hclean hq).bind hgo
  | .matching pieces :: rest, p, hp => by
    unfold select
    dsimp only
    refine (FileTree.list_below hclean hp).bind fun entries entries' heq => ?_
    subst heq
    have hstep : ∀ f ∈ entries.filter (fits (directoriesOnly || !rest.isEmpty) pieces),
        Yields (Respelled t) (select t directoriesOnly ((t.here.below p).child f.1) rest)
          (select t directoriesOnly (p.child f.1) rest) := by
      intro f _
      rw [Path.below_child]
      exact select_below hclean directoriesOnly rest hp
    exact (flatten_below hstep).bind fun full relative h => .ok h

/-- What a glob finds by `Glob.find` below a directory in full spelling, it finds below it in the other. -/
theorem find_below (hclean : t.CleanHere) (g : Glob) (hp : p.root = "") :
    Yields (Respelled t) (g.find t (t.here.below p)) (g.find t p) := by
  unfold find
  refine (FileTree.isDirectory_below hclean hp).bind fun b b' heq => ?_
  subst heq
  cases b with
  | true => exact select_below hclean g.directoriesOnly g.parts hp
  | false => exact .ok .nil

end Glob

end CatchAudit
