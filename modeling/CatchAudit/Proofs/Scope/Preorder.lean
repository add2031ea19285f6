/-
Scope trees. In a forest in which every scope was created after the scope around it, the walk with a
stack visits a scope and all scopes inside it exactly once, in recursive pre-order: the scope, then
for each child in order of creation what the child holds.
-/
import CatchAudit.Proofs.StackWalk
import CatchAudit.Scope.Forest

namespace CatchAudit.Forest

/-! ## Building forests -/

theorem empty_ordered : empty.Ordered := by
  intro s scope h
  cases h

/-- The scope that `create` adds stands in a scope that is there already. -/
theorem Ordered.create {f : Forest} (hf : f.Ordered) (kind : ScopeKind) (block : Place) {upper : Option Nat}
    (hu : ∀ u, upper = some u → u < f.size) : (f.create kind block upper).Ordered := by
  intro s scope h u hsu
  unfold scope? Forest.create at h
  rcases lt_or_ge s f.size with hs | hs
  · rw [List.getElem?_append_left hs] at h
    exact hf s scope h u hsu
  · rw [List.getElem?_append_right hs] at h
    obtain ⟨_, hscope⟩ := List.getElem?_eq_some_iff.1 h
    have hupper : scope.upper = upper := by rw [← hscope]; simp
    exact lt_of_lt_of_le (hu u (hupper ▸ hsu)) hs

theorem Ordered.addVariable {f : Forest} (hf : f.Ordered) (s : Nat) (v : Variable) : (f.addVariable s v).Ordered := by
  intro i scope h u hu
  unfold scope? Forest.addVariable at h
  rw [List.getElem?_modify] at h
  obtain ⟨old, hold, rfl⟩ := Option.map_eq_some_iff.1 h
  refine hf i old hold u ?_
  split at hu <;> exact hu

/-! ## Children -/

theorem upper?_lt_size {f : Forest} {i u : Nat} (h : f.upper? i = some u) : i < f.size := by
  unfold upper? scope? at h
  by_contra hi
  rw [List.getElem?_eq_none (by unfold size at hi; omega)] at h
  cases h

theorem mem_children {f : Forest} {s c : Nat} : c ∈ f.children s ↔ f.upper? c = some s := by
  unfold children
  rw [List.mem_filter, List.mem_range, beq_iff_eq]
  exact ⟨fun h => h.2, fun h => ⟨upper?_lt_size h, h⟩⟩

theorem children_lt_size {f : Forest} {s c : Nat} (h : c ∈ f.children s) : c < f.size :=
  upper?_lt_size (mem_children.1 h)

theorem children_nodup (f : Forest) (s : Nat) : (f.children s).Nodup :=
  List.nodup_range.filter _

theorem Ordered.upper?_lt {f : Forest} (hf : f.Ordered) {i u : Nat} (h : f.upper? i = some u) : u < i := by
  unfold upper? at h
  obtain ⟨scope, hs, hu⟩ := Option.bind_eq_some_iff.1 h
  exact hf i scope hs u hu

theorem Ordered.lt_of_mem_children {f : Forest} (hf : f.Ordered) {s c : Nat} (h : c ∈ f.children s) : s < c :=
  hf.upper?_lt (mem_children.1 h)

/-- Induction from the leaves of a scope tree upwards. -/
theorem Ordered.induction {f : Forest} (hf : f.Ordered) {P : Nat → Prop}
    (step : ∀ s, (∀ c ∈ f.children s, P c) → P s) (s : Nat) : P s := by
  -- a child has a larger number, and all numbers of children lie below the size
  induction hn : f.size - s using Nat.strong_induction_on generalizing s with
  | _ n ih =>
    apply step
    intro c hc
    have hlt := hf.lt_of_mem_children hc
    have hsize := children_lt_size hc
    exact ih (f.size - c) (by omega) c rfl

/-! ## Pre-order -/

/-- A scope, then for each of its `children` in order what lies in the child. Scopes that are not younger than the one
around them are left out, so that the recursion ends on every forest. -/
def preorder (f : Forest) (s : Nat) : List Nat :=
  s :: (f.children s).attach.flatMap fun c => if s < c.1 then f.preorder c.1 else []
termination_by f.size - s
decreasing_by
  have := children_lt_size c.2
  omega

/-- The recursive pre-order of a scope tree. -/
theorem Ordered.preorder_eq {f : Forest} (hf : f.Ordered) (s : Nat) :
    f.preorder s = s :: (f.children s).flatMap f.preorder := by
  have hif : ∀ c : { c // c ∈ f.children s }, (if s < c.1 then f.preorder c.1 else []) = f.preorder c.1 :=
    fun c => if_pos (hf.lt_of_mem_children c.2)
  rw [preorder]
  simp only [hif]
  rw [List.flatMap_subtype (g := f.preorder) (fun _ _ => rfl), List.unattach_attach]

/-- `i` is the scope `s` or lies inside it. -/
inductive Within (f : Forest) (s : Nat) : Nat → Prop
  | self : Within f s s
  | inner {i u : Nat} : f.upper? i = some u → Within f s u → Within f s i

theorem Ordered.le_of_within {f : Forest} (hf : f.Ordered) {s i : Nat} (h : f.Within s i) : s ≤ i := by
  induction h with
  | self => exact le_rfl
  | inner hu _ ih => exact le_trans ih (hf.upper?_lt hu).le

theorem Within.child {f : Forest} {s c i : Nat} (hc : f.upper? c = some s) (h : f.Within c i) : f.Within s i := by
  induction h with
  | self => exact .inner hc .self
  | inner hu _ ih => exact .inner hu ih

/-- What lies inside a scope is the scope itself or lies inside one of its `children`. -/
theorem within_iff {f : Forest} {s i : Nat} :
    f.Within s i ↔ i = s ∨ ∃ c ∈ f.children s, f.Within c i := by
  constructor
  · intro h
    induction h with
    | self => exact .inl rfl
    | @inner i u hu _ ih =>
      rcases ih with rfl | ⟨c, hc, hw⟩
      · exact .inr ⟨i, mem_children.2 hu, .self⟩
      · exact .inr ⟨c, hc, .inner hu hw⟩
  · rintro (rfl | ⟨c, hc, hw⟩)
    · exact .self
    · exact hw.child (mem_children.1 hc)

/-- `preorder` holds the scope and what lies inside it, nothing else. -/
theorem Ordered.mem_preorder {f : Forest} (hf : f.Ordered) {s i : Nat} : i ∈ f.preorder s ↔ f.Within s i := by
  induction s using hf.induction generalizing i with
  | step s ih =>
    rw [hf.preorder_eq, within_iff, List.mem_cons, List.mem_flatMap]
    constructor
    · rintro (rfl | ⟨c, hc, hi⟩)
      · exact .inl rfl
      · exact .inr ⟨c, hc, (ih c hc).1 hi⟩
    · rintro (rfl | ⟨c, hc, hi⟩)
      · exact .inl rfl
      · exact .inr ⟨c, hc, (ih c hc).2 hi⟩

/-- No scope lies inside two scopes that have the same scope around them. -/
theorem Ordered.eq_of_within {f : Forest} (hf : f.Ordered) {s c d i : Nat} (hc : f.upper? c = some s)
    (hd : f.upper? d = some s) (h : f.Within c i) (h' : f.Within d i) : c = d := by
  have hcs := hf.upper?_lt hc
  have hds := hf.upper?_lt hd
  -- going outwards from `i`, both ways pass the same scopes and meet `c` and `d` at the same step
  induction h with
  | self =>
    cases h' with
    | self => rfl
    | inner hu hw =>
      rw [hc] at hu
      cases hu
      exact absurd (hf.le_of_within hw) (by omega)
  | inner hu hw ih =>
    cases h' with
    | self =>
      rw [hd] at hu
      cases hu
      exact absurd (hf.le_of_within hw) (by omega)
    | inner hu' hw' =>
      rw [hu] at hu'
      cases hu'
      exact ih hw'

/-- No scope occurs twice in the `preorder`. -/
theorem Ordered.preorder_nodup {f : Forest} (hf : f.Ordered) (s : Nat) : (f.preorder s).Nodup := by
  induction s using hf.induction with
  | step s ih =>
    rw [hf.preorder_eq, List.nodup_cons]
    constructor
    · intro hs
      obtain ⟨c, hc, hw⟩ := List.mem_flatMap.1 hs
      have hle := hf.le_of_within (hf.mem_preorder.1 hw)
      exact absurd (hf.lt_of_mem_children hc) (by omega)
    · rw [List.nodup_flatMap]
      refine ⟨ih, (f.children_nodup s).imp_of_mem fun {c d} hc hd hne => ?_⟩
      intro i hi hi'
      exact hne (hf.eq_of_within (mem_children.1 hc) (mem_children.1 hd) (hf.mem_preorder.1 hi)
        (hf.mem_preorder.1 hi'))

/-! ## The walk -/

theorem Within.lt_size {f : Forest} {s i : Nat} (h : f.Within s i) (hs : s < f.size) : i < f.size := by
  cases h with
  | self => exact hs
  | inner hu _ => exact upper?_lt_size hu

/-- The walk with a stack is `preorder`, whatever fuel is left over. -/
theorem Ordered.walkStack_eq {f : Forest} (hf : f.Ordered) {s : Nat} (hs : s < f.size) {fuel : Nat}
    (hfuel : f.size ≤ fuel) : f.walkStack fuel [s] = f.preorder s := by
  -- no scope is listed twice, so there are at most as many as the forest has
  have hsub : f.preorder s ⊆ List.range f.size := fun i hi =>
    List.mem_range.2 ((hf.mem_preorder.1 hi).lt_size hs)
  have hlen : (f.preorder s).length ≤ f.size := by
    simpa using (List.subperm_of_subset (hf.preorder_nodup s) hsub).length_le
  have h : f.walkStack fuel [s] = [s].flatMap f.preorder :=
    stackWalk_eq hf.preorder_eq (fun fuel => by cases fuel <;> rfl) (fun _ _ _ => rfl) _ _
      (by simpa using hlen.trans hfuel)
  simpa using h

theorem Ordered.walk_eq {f : Forest} (hf : f.Ordered) {s : Nat} (hs : s < f.size) :
    f.walk s = f.preorder s := hf.walkStack_eq hs le_rfl

end CatchAudit.Forest
