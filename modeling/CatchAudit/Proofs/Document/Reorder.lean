/-
Reordering the members of objects. Two documents are the same up to the order of members when their lists
correspond item by item and their objects hold, under the same names but in any order, documents that
are again the same up to that order. Where no two members of an object share a name, what stands under a
name does not depend on the order.
-/
import CatchAudit.Proofs.Analysis.Likeness
import CatchAudit.Proofs.Document.Key
import CatchAudit.Proofs.Document.Members
import CatchAudit.Proofs.Document.Role
import Mathlib.Data.Multiset.Bind

namespace CatchAudit

/-! ## Lists in any order -/

section

variable {α β : Type} {R : α → β → Prop} {xs : List α} {ys : List β}

theorem rel_of_forall₂ (h : List.Forall₂ R xs ys) : Multiset.Rel R (xs : Multiset α) ys := by
  induction h with
  | nil => exact .zero
  | cons hab _ ih => exact ih.cons hab

theorem rel_filter {p : α → Bool} {q : β → Bool} (h : Multiset.Rel R (xs : Multiset α) ys)
    (hpq : ∀ a b, R a b → p a = q b) : Multiset.Rel R (xs.filter p : Multiset α) (ys.filter q) := by
  have hfilter : ∀ {s : Multiset α} {t : Multiset β}, Multiset.Rel R s t →
      Multiset.Rel R (s.filter (p · = true)) (t.filter (q · = true)) := by
    intro s t hst
    induction hst with
    | zero => exact .zero
    | @cons a b s t hab _ ih =>
      by_cases hp : p a = true
      · rw [Multiset.filter_cons_of_pos s hp, Multiset.filter_cons_of_pos (p := (q · = true)) t (hpq a b hab ▸ hp)]
        exact ih.cons hab
      · rw [Multiset.filter_cons_of_neg s hp, Multiset.filter_cons_of_neg (p := (q · = true)) t (hpq a b hab ▸ hp)]
        exact ih
  simpa using hfilter h

/-- Members with one name and values related by `R`. -/
def SameMember (R : α → β → Prop) (x : String × α) (y : String × β) : Prop := x.1 = y.1 ∧ R x.2 y.2

end

section

variable {α β : Type} {R : α → β → Prop} {xs : List (String × α)} {ys : List (String × β)} {name : String}

theorem memberOf?_eq_none_iff : memberOf? name xs = none ↔ name ∉ xs.map Prod.fst := by
  induction xs with
  | nil => simp [memberOf?]
  | cons x rest ih =>
    obtain ⟨key, v⟩ := x
    by_cases hkey : key = name
    · simp [memberOf?, hkey]
    · simp [memberOf?, hkey, ih, Ne.symm hkey]

theorem memberOf?_of_mem {v : α} (hnames : (xs.map Prod.fst).Nodup) (h : (name, v) ∈ xs) :
    memberOf? name xs = some v := by
  rcases hw : memberOf? name xs with _ | w
  · exact absurd (List.mem_map_of_mem (f := Prod.fst) h) (memberOf?_eq_none_iff.1 hw)
  · have heq := List.inj_on_of_nodup_map hnames (mem_of_memberOf? hw) h rfl
    rw [show w = v from congrArg Prod.snd heq]

theorem names_perm (h : Multiset.Rel (SameMember R) (xs : Multiset (String × α)) ys) :
    (xs.map Prod.fst).Perm (ys.map Prod.fst) := by
  have hnames : Multiset.Rel Eq (xs.map Prod.fst : Multiset String) (ys.map Prod.fst) := by
    rw [← Multiset.map_coe, ← Multiset.map_coe, Multiset.rel_map]
    exact h.mono fun _ _ _ _ hxy => hxy.1
  exact Multiset.coe_eq_coe.1 (Multiset.rel_eq.1 hnames)

/-- What `memberOf?` finds under a name does not depend on the order of members with different names. -/
theorem rel_memberOf? (hnames : (xs.map Prod.fst).Nodup)
    (h : Multiset.Rel (SameMember R) (xs : Multiset (String × α)) ys) (name : String) :
    Option.Rel R (memberOf? name xs) (memberOf? name ys) := by
  rcases hx : memberOf? name xs with _ | v
  · have hy : memberOf? name ys = none := by
      rw [memberOf?_eq_none_iff, ← (names_perm h).mem_iff]
      exact memberOf?_eq_none_iff.1 hx
    rw [hy]
    exact .none
  · obtain ⟨⟨key, w⟩, hw, hkey, hvw⟩ := Multiset.exists_mem_of_rel_of_mem h (Multiset.mem_coe.2 (mem_of_memberOf? hx))
    cases hkey
    rw [memberOf?_of_mem ((names_perm h).nodup_iff.1 hnames) (Multiset.mem_coe.1 hw)]
    exact .some hvw

end

/-! ## Documents -/

namespace Document

mutual
/-- The same document up to the order of the members of objects, at any depth. -/
def Reordered : Document → Document → Prop
  | .list xs, .list ys => ReorderedItems xs ys
  | .object xs, .object ys => ∃ zs, ReorderedMembers xs zs ∧ zs.Perm ys
  | d, d' => d = d'

def ReorderedItems : List Document → List Document → Prop
  | [], [] => True
  | d :: rest, d' :: rest' => d.Reordered d' ∧ ReorderedItems rest rest'
  | _, _ => False

/-- Member by member, without a change of order. -/
def ReorderedMembers : List (String × Document) → List (String × Document) → Prop
  | [], [] => True
  | (name, d) :: rest, (name', d') :: rest' => (name = name' ∧ d.Reordered d') ∧ ReorderedMembers rest rest'
  | _, _ => False
end

variable {d d' : Document} {xs : List (String × Document)}

theorem reorderedItems_iff : ∀ {xs ys : List Document}, ReorderedItems xs ys ↔ List.Forall₂ Reordered xs ys
  | [], [] => by simp [ReorderedItems]
  | [], _ :: _ => by simp [ReorderedItems]
  | _ :: _, [] => by simp [ReorderedItems]
  | d :: rest, d' :: rest' => by
    have ih : ReorderedItems rest rest' ↔ _ := reorderedItems_iff
    simp [ReorderedItems, ih]

theorem reorderedMembers_iff : ∀ {xs ys : List (String × Document)},
    ReorderedMembers xs ys ↔ List.Forall₂ (SameMember Reordered) xs ys
  | [], [] => by simp [ReorderedMembers]
  | [], _ :: _ => by simp [ReorderedMembers]
  | _ :: _, [] => by simp [ReorderedMembers]
  | (name, d) :: rest, (name', d') :: rest' => by
    have ih : ReorderedMembers rest rest' ↔ _ := reorderedMembers_iff
    simp [ReorderedMembers, SameMember, ih]

mutual
theorem Reordered.refl : ∀ d : Document, d.Reordered d
  | .list items => by simpa [Reordered] using ReorderedItems.refl items
  | .object members => by simpa [Reordered] using ⟨members, ReorderedMembers.refl members, .refl _⟩
  | .null | .bool _ | .int _ | .float _ | .text _ | .moment _ => by simp [Reordered]

theorem ReorderedItems.refl : ∀ items : List Document, ReorderedItems items items
  | [] => by simp [ReorderedItems]
  | d :: rest => by simpa [ReorderedItems] using ⟨Reordered.refl d, ReorderedItems.refl rest⟩

theorem ReorderedMembers.refl : ∀ members : List (String × Document), ReorderedMembers members members
  | [] => by simp [ReorderedMembers]
  | (_, d) :: rest => by simpa [ReorderedMembers] using ⟨Reordered.refl d, ReorderedMembers.refl rest⟩
end

theorem reordered_list {xs : List Document} (h : (list xs).Reordered d') :
    ∃ ys, d' = .list ys ∧ List.Forall₂ Reordered xs ys := by
  cases d' with
  | list ys => exact ⟨ys, rfl, reorderedItems_iff.1 (by simpa [Reordered] using h)⟩
  | _ => simp [Reordered] at h

theorem reordered_object (h : (object xs).Reordered d') :
    ∃ ys zs, d' = .object ys ∧ List.Forall₂ (SameMember Reordered) xs zs ∧ zs.Perm ys := by
  cases d' with
  | object ys =>
    obtain ⟨zs, hmembers, hperm⟩ : ∃ zs, ReorderedMembers xs zs ∧ zs.Perm ys := by simpa [Reordered] using h
    exact ⟨ys, zs, rfl, reorderedMembers_iff.1 hmembers, hperm⟩
  | _ => simp [Reordered] at h

theorem reordered_members (h : (object xs).Reordered d') :
    ∃ ys, d' = .object ys ∧ Multiset.Rel (SameMember Reordered) (xs : Multiset (String × Document)) ys := by
  obtain ⟨ys, zs, rfl, hmembers, hperm⟩ := reordered_object h
  exact ⟨ys, rfl, Multiset.coe_eq_coe.2 hperm ▸ rel_of_forall₂ hmembers⟩

/-- What is fit for a key holds no members and no items, so that it stays when it is `Reordered`. -/
theorem Reordered.eq_of_key {k : KeyValue} (h : d.Reordered d') (hkey : d.keyValue? = some k) : d' = d := by
  cases d with
  | list items => cases hkey
  | object members => cases hkey
  | _ => simpa [Reordered, eq_comm] using h

theorem Reordered.asKey (h : d.Reordered d') : Yields Eq d.asKey d'.asKey := by
  intro k hk
  obtain ⟨rfl, v, hv⟩ := keyValue?_of_asKey hk
  exact ⟨k, h.eq_of_key hv ▸ hk, rfl⟩

theorem Reordered.toInteger (h : d.Reordered d') : Yields Eq d.toInteger d'.toInteger := by
  intro i hi
  cases d with
  | list items => cases hi
  | object members => cases hi
  | _ => exact ⟨i, h.eq_of_key rfl ▸ hi, rfl⟩

theorem Reordered.alike (h : d.Reordered d') : d.Alike d' := by
  cases d with
  | list items =>
    obtain ⟨ys, rfl, hitems⟩ := reordered_list h
    exact ⟨rfl, by cases hitems <;> rfl, fun s hs => by cases hs⟩
  | object members =>
    obtain ⟨ys, zs, rfl, hmembers, hperm⟩ := reordered_object h
    refine ⟨rfl, ?_, fun s hs => by cases hs⟩
    show (!members.isEmpty) = !ys.isEmpty
    rw [← hperm.isEmpty_eq]
    cases hmembers <;> rfl
  | _ => exact h.eq_of_key rfl ▸ .refl _

/-- Lists and objects have no `successor`, and all else stays. -/
theorem Reordered.successor_eq (h : d.Reordered d') : d.successor = d'.successor := by
  cases d with
  | list items =>
    obtain ⟨ys, rfl, -⟩ := reordered_list h
    rfl
  | object members =>
    obtain ⟨ys, -, rfl, -⟩ := reordered_object h
    rfl
  | _ => rw [h.eq_of_key rfl]

theorem sizeMembers_eq_sum : ∀ members : List (String × Document),
    sizeMembers members = (members.map fun m => m.2.size).sum
  | [] => rfl
  | (_, d) :: rest => by simp [sizeMembers, sizeMembers_eq_sum rest]

mutual
theorem Reordered.size_eq : ∀ {d d' : Document}, d.Reordered d' → d.size = d'.size
  | .list xs, d', h => by
    obtain ⟨ys, rfl, hitems⟩ := reordered_list h
    rw [size, size, sizeItems_eq_of_reordered hitems]
  | .object xs, d', h => by
    obtain ⟨ys, zs, rfl, hmembers, hperm⟩ := reordered_object h
    rw [size, size, sizeMembers_eq_of_reordered hmembers, sizeMembers_eq_sum, sizeMembers_eq_sum, (hperm.map _).sum_eq]
  | .null, _, h | .bool _, _, h | .int _, _, h | .float _, _, h | .text _, _, h | .moment _, _, h => by
    rw [h.eq_of_key rfl]

theorem sizeItems_eq_of_reordered : ∀ {xs ys : List Document}, List.Forall₂ Reordered xs ys →
    sizeItems xs = sizeItems ys
  | [], _, .nil => rfl
  | d :: rest, _, .cons hd hrest => by rw [sizeItems, sizeItems, hd.size_eq, sizeItems_eq_of_reordered hrest]

theorem sizeMembers_eq_of_reordered : ∀ {xs ys : List (String × Document)}, List.Forall₂ (SameMember Reordered) xs ys →
    sizeMembers xs = sizeMembers ys
  | [], _, .nil => rfl
  | (_, d) :: rest, (_, d') :: rest', .cons hd hrest => by
    rw [sizeMembers, sizeMembers, hd.2.size_eq, sizeMembers_eq_of_reordered hrest]
end

/-- No two members of an object share a name. -/
def DistinctNames (_ : Role) (d : Document) : Prop :=
  ∀ members, d = .object members → (members.map Prod.fst).Nodup

/-- A range is a list of two. -/
def PairRanges (r : Role) (d : Document) : Prop := r = .range → ∃ a b, d = .list [a, b]

def Regular (r : Role) (d : Document) : Prop := DistinctNames r d ∧ PairRanges r d

theorem regular_of_key {r : Role} {k : KeyValue} (hkey : d.keyValue? = some k) (hr : r ≠ .range) :
    d.Everywhere Regular r := by
  cases d with
  | list items => cases hkey
  | object members => cases hkey
  | _ => exact ⟨fun members h => (by cases h), fun h => absurd h hr⟩

/-- A document of a role, `Regular` all through, and the same document up to the order of members. -/
def ReorderedAs (r : Role) (d d' : Document) : Prop := d.Reordered d' ∧ d.Everywhere Regular r

namespace ReorderedAs

variable {r : Role}

theorem list {xs : List Document} (h : ReorderedAs r (.list xs) d') :
    ∃ ys, d' = .list ys ∧ List.Forall₂ (ReorderedAs r.item) xs ys := by
  obtain ⟨ys, rfl, hitems⟩ := reordered_list h.1
  have hmem := (List.forall₂_and_left (p := (· ∈ xs)) xs ys).2 ⟨fun _ h => h, hitems⟩
  exact ⟨ys, rfl, hmem.imp fun d d' hd => ⟨hd.2, h.2.item hd.1⟩⟩

theorem object (h : ReorderedAs r (.object xs) d') :
    ∃ ys, d' = .object ys ∧ ∀ name,
      Option.Rel (ReorderedAs (r.member xs name)) (memberOf? name xs) (memberOf? name ys) := by
  obtain ⟨ys, rfl, hmembers⟩ := reordered_members h.1
  refine ⟨ys, rfl, fun name => ?_⟩
  have hmember := rel_memberOf? (h.2.self.1 xs rfl) hmembers name
  rcases hx : memberOf? name xs with _ | x <;> rcases hy : memberOf? name ys with _ | y <;> rw [hx, hy] at hmember
  · exact .none
  · cases hmember
  · cases hmember
  · cases hmember with
    | some hxy => exact .some ⟨hxy, h.2.member hx⟩

/-- The ends of a range. -/
theorem pair (h : ReorderedAs .range d d') :
    Yields (fun x y => x.1.Reordered y.1 ∧ x.2.Reordered y.2) d.pair d'.pair := by
  obtain ⟨a, b, rfl⟩ := h.2.self.2 rfl
  obtain ⟨ys, rfl, hitems⟩ := reordered_list h.1
  intro x hx
  cases hx
  cases hitems with
  | cons ha hrest =>
    cases hrest with
    | cons hb hnil =>
      cases hnil
      exact ⟨_, rfl, ha, hb⟩

end ReorderedAs

end Document

end CatchAudit
