/-
Forests that come about by creating scopes, each in none or in a scope that is there, and by adding
variables, in any order. Every scope with a scope around it is listed there once, after those created
before it, and nowhere else. The nearest function-level scope is found by going outwards, and does not
change on the way to it, so that scopes fall into groups: those of one function-level scope, and single
scopes that stand in none.
-/
import CatchAudit.Proofs.Scope.Preorder

namespace CatchAudit.Forest

/-! ## Constructions -/

/-- The lists of scopes created in each scope, after one more scope. It goes to the end of the list of the
scope around it, and starts with a list of its own. -/
def listChild (lists : List (List Nat)) (upper : Option Nat) (child : Nat) : List (List Nat) :=
  (match upper with
  | none => lists
  | some u => lists.modify u (· ++ [child])) ++ [[]]

/-- Forests after any number of steps of `create`, with the lists that the scopes keep of the scopes created in them.
-/
inductive Constructed : Forest → List (List Nat) → Prop
  | empty : Constructed empty []
  | create {f : Forest} {lists : List (List Nat)} {kind : ScopeKind} {block : Place} {upper : Option Nat} :
    Constructed f lists → (∀ u, upper = some u → u < f.size) →
      Constructed (f.create kind block upper) (listChild lists upper f.size)
  | addVariable {f : Forest} {lists : List (List Nat)} {s : Nat} {name : String} :
    Constructed f lists → s < f.size → Constructed (f.addVariable s (bareVariable s name)) lists

theorem Constructed.ordered {f : Forest} {lists : List (List Nat)} (h : Constructed f lists) : f.Ordered := by
  induction h with
  | empty => exact empty_ordered
  | create _ hupper ih => exact ih.create _ _ hupper
  | addVariable _ _ ih => exact ih.addVariable _ _

section Steps

variable {f : Forest} {kind : ScopeKind} {block : Place} {upper : Option Nat} {v : Variable} {s i : Nat}

@[simp] theorem size_create : (f.create kind block upper).size = f.size + 1 := by
  simp [size, create]

@[simp] theorem size_addVariable : (f.addVariable s v).size = f.size := by
  simp [size, addVariable]

theorem upper?_create : (f.create kind block upper).upper? i = if i = f.size then upper else f.upper? i := by
  unfold upper? scope? create
  rcases lt_trichotomy i f.size with hi | rfl | hi
  · rw [List.getElem?_append_left hi, if_neg hi.ne]
  · simp [size]
  · have hnone : f.scopes[i]? = none := List.getElem?_eq_none hi.le
    have hlong : (f.scopes ++ [⟨kind, block, upper, []⟩])[i]? = none :=
      List.getElem?_eq_none (by simpa [size] using hi)
    rw [if_neg hi.ne', hnone, hlong]

@[simp] theorem upper?_addVariable : (f.addVariable s v).upper? i = f.upper? i := by
  unfold upper? scope? addVariable
  rw [List.getElem?_modify]
  cases f.scopes[i]? with
  | none => rfl
  | some scope =>
    simp only [Option.bind_some]
    split <;> rfl

@[simp] theorem children_addVariable : (f.addVariable s v).children = f.children := by
  funext i
  simp [children]

/-- The scope that `create` adds comes after the children that the scope around it has. -/
theorem children_create : (f.create kind block upper).children s =
    f.children s ++ if upper = some s then [f.size] else [] := by
  have hold : ((List.range f.size).filter fun i => (f.create kind block upper).upper? i == some s) = f.children s := by
    refine List.filter_congr fun i hi => ?_
    rw [upper?_create, if_neg (List.mem_range.1 hi).ne]
  have hnew : (f.create kind block upper).upper? f.size = upper := by rw [upper?_create, if_pos rfl]
  rw [children, size_create, List.range_succ, List.filter_append, hold]
  simp [List.filter_cons, hnew]

end Steps

theorem getElem?_listChild {lists : List (List Nat)} {upper : Option Nat} {child i : Nat} (hi : i < lists.length) :
    (listChild lists upper child)[i]? = lists[i]?.map (· ++ if upper = some i then [child] else []) := by
  cases upper with
  | none => simp [listChild, List.getElem?_append_left hi]
  | some u =>
    have hlength : i < (lists.modify u (· ++ [child])).length := by simpa using hi
    simp only [listChild, List.getElem?_append_left hlength, List.getElem?_modify, Option.some.injEq]
    congr 1
    funext list
    split <;> simp

theorem length_listChild (lists : List (List Nat)) (upper : Option Nat) (child : Nat) :
    (listChild lists upper child).length = lists.length + 1 := by
  cases upper <;> simp [listChild]

theorem getElem?_listChild_length (lists : List (List Nat)) (upper : Option Nat) (child : Nat) :
    (listChild lists upper child)[lists.length]? = some [] := by
  cases upper <;> simp [listChild]

/-- The lists that the scopes keep are the `children`, read off the links from each scope to the one around it. -/
theorem Constructed.lists_eq {f : Forest} {lists : List (List Nat)} (h : Constructed f lists) :
    lists = (List.range f.size).map f.children := by
  induction h with
  | empty => rfl
  | @create f lists kind block upper hf hupper ih =>
    have hlength : lists.length = f.size := by simp [ih]
    -- nothing stands in the new scope yet
    have hnew : (f.create kind block upper).children f.size = [] := by
      have hold : f.children f.size = [] := by
        refine List.eq_nil_iff_forall_not_mem.2 fun c hc => ?_
        have hlt := hf.ordered.lt_of_mem_children hc
        have hsize := children_lt_size hc
        omega
      have hne : upper ≠ some f.size := fun heq => lt_irrefl _ (hupper _ heq)
      rw [children_create, hold, if_neg hne, List.append_nil]
    apply List.ext_getElem?
    intro i
    rw [List.getElem?_map, size_create]
    rcases lt_trichotomy i f.size with hi | rfl | hi
    · have hlist : lists[i]? = some (f.children i) := by rw [ih]; simp [hi]
      have hrange : (List.range (f.size + 1))[i]? = some i := by simp [show i < f.size + 1 by omega]
      rw [getElem?_listChild (hlength ▸ hi), hlist, hrange, Option.map_some, Option.map_some, children_create]
    · rw [← hlength, getElem?_listChild_length, hlength]
      simp [hnew]
    · have hlong : (listChild lists upper f.size).length ≤ i := by rw [length_listChild]; omega
      rw [List.getElem?_eq_none hlong, List.getElem?_eq_none (by simpa using hi)]
      rfl
  | addVariable _ _ ih => rw [ih, size_addVariable, children_addVariable]

/-! ## Going outwards -/

theorem Within.trans {f : Forest} {s a b : Nat} (hab : f.Within a b) (hbs : f.Within b s) : f.Within a s := by
  induction hbs with
  | self => exact hab
  | inner hu _ ih => exact .inner hu ih

/-- A scope lies inside itself, and otherwise inside what its `upper?` scope lies inside. -/
theorem within_iff_upper {f : Forest} {s a : Nat} : f.Within a s ↔ a = s ∨ ∃ u, f.upper? s = some u ∧ f.Within a u := by
  constructor
  · intro h
    cases h with
    | self => exact .inl rfl
    | inner hu hw => exact .inr ⟨_, hu, hw⟩
  · rintro (rfl | ⟨u, hu, hw⟩)
    · exact .self
    · exact .inner hu hw

namespace Ordered

variable {f : Forest} {s t a b u : Nat}

theorem within_antisymm (hf : f.Ordered) (hab : f.Within a b) (hba : f.Within b a) : a = b :=
  le_antisymm (hf.le_of_within hab) (hf.le_of_within hba)

/-- Induction from the outermost scopes inwards. -/
theorem induction_inwards (hf : f.Ordered) {P : Nat → Prop} (step : ∀ s, (∀ u, f.upper? s = some u → P u) → P s)
    (s : Nat) : P s := by
  induction s using Nat.strong_induction_on with
  | _ s ih => exact step s fun u hu => ih u (hf.upper?_lt hu)

theorem chainFrom_eq_cons (hf : f.Ordered) {fuel : Nat} (hfuel : s ≤ fuel) :
    f.chainFrom fuel s = s :: match f.upper? s with
      | none => []
      | some u => f.chainFrom (fuel - 1) u := by
  cases fuel with
  | succ fuel => rfl
  | zero =>
    -- the scope that was created first stands in no other one
    have hnone : f.upper? s = none := by
      refine Option.eq_none_iff_forall_ne_some.2 fun u hu => ?_
      have hlt := hf.upper?_lt hu
      omega
    rw [hnone]
    rfl

/-- With enough fuel, more fuel changes nothing in `chainFrom`. -/
theorem chainFrom_eq (hf : f.Ordered) {fuel fuel' : Nat} (hfuel : s ≤ fuel) (hfuel' : s ≤ fuel') :
    f.chainFrom fuel s = f.chainFrom fuel' s := by
  induction s using hf.induction_inwards generalizing fuel fuel' with
  | step s ih =>
    rw [hf.chainFrom_eq_cons hfuel, hf.chainFrom_eq_cons hfuel']
    cases hu : f.upper? s with
    | none => rfl
    | some u =>
      have hlt := hf.upper?_lt hu
      have hrest : f.chainFrom (fuel - 1) u = f.chainFrom (fuel' - 1) u := ih u hu (by omega) (by omega)
      exact congrArg (s :: ·) hrest

/-- A scope, then the `chain` of the scope around it. -/
theorem chain_eq (hf : f.Ordered) (hs : s < f.size) :
    f.chain s = s :: match f.upper? s with
      | none => []
      | some u => f.chain u := by
  rw [chain, hf.chainFrom_eq_cons hs.le]
  cases hu : f.upper? s with
  | none => rfl
  | some u =>
    have hlt := hf.upper?_lt hu
    exact congrArg (s :: ·) (hf.chainFrom_eq (by omega) (by omega))

end Ordered

/-! ## The nearest function-level scope -/

/-- `a` is function-level and around `s`, and so is no scope further inside. -/
structure Nearest (f : Forest) (s a : Nat) : Prop where
  level : f.isFunctionLevel a = true
  around : f.Within a s
  innermost : ∀ b, f.isFunctionLevel b = true → f.Within b s → f.Within b a

namespace Nearest

variable {f : Forest} {s t a b u : Nat}

theorem self (h : f.isFunctionLevel s = true) : f.Nearest s s := ⟨h, .self, fun _ _ hb => hb⟩

theorem unique (hf : f.Ordered) (ha : f.Nearest s a) (hb : f.Nearest s b) : a = b :=
  hf.within_antisymm (hb.innermost a ha.level ha.around) (ha.innermost b hb.level hb.around)

/-- What is not function-level itself has the `Nearest` scope of the scope around it. -/
theorem of_upper (hs : f.isFunctionLevel s = false) (hu : f.upper? s = some u) (h : f.Nearest u a) : f.Nearest s a := by
  refine ⟨h.level, .inner hu h.around, fun b hb hbs => ?_⟩
  rcases within_iff_upper.1 hbs with rfl | ⟨u', hu', hbu⟩
  · rw [hs] at hb
    cases hb
  · cases hu.symm.trans hu'
    exact h.innermost b hb hbu

/-- On the way from a scope to its `Nearest` function-level scope the latter stays the same. -/
theorem between (h : f.Nearest s a) (hbs : f.Within b s) (hab : f.Within a b) : f.Nearest b a :=
  ⟨h.level, hab, fun c hc hcb => h.innermost c hc (hcb.trans hbs)⟩

end Nearest

namespace Ordered

variable {f : Forest} {s t a b u : Nat}

/-- The first function-level scope of the `chain` is the `Nearest` one; if there is none, no scope around is
function-level. -/
theorem find_chain (hf : f.Ordered) (hs : s < f.size) :
    (∃ a, (f.chain s).find? f.isFunctionLevel = some a ∧ f.Nearest s a) ∨
    ((f.chain s).find? f.isFunctionLevel = none ∧ ¬ ∃ a, f.isFunctionLevel a = true ∧ f.Within a s) := by
  induction s using hf.induction_inwards with
  | step s ih =>
    rw [hf.chain_eq hs]
    cases hlevel : f.isFunctionLevel s with
    | true => exact .inl ⟨s, by rw [List.find?_cons_of_pos hlevel], .self hlevel⟩
    | false =>
      rw [List.find?_cons_of_neg (by rw [hlevel]; exact Bool.false_ne_true)]
      cases hu : f.upper? s with
      | none =>
        refine .inr ⟨rfl, ?_⟩
        rintro ⟨a, ha, has⟩
        rcases within_iff_upper.1 has with rfl | ⟨u, hu', -⟩
        · cases hlevel.symm.trans ha
        · cases hu.symm.trans hu'
      | some u =>
        rcases ih u hu (lt_trans (hf.upper?_lt hu) hs) with ⟨a, hfind, ha⟩ | ⟨hfind, hnone⟩
        · exact .inl ⟨a, hfind, ha.of_upper hlevel hu⟩
        · refine .inr ⟨hfind, ?_⟩
          rintro ⟨a, ha, has⟩
          rcases within_iff_upper.1 has with rfl | ⟨u', hu', hau⟩
          · cases hlevel.symm.trans ha
          · cases hu.symm.trans hu'
            exact hnone ⟨a, ha, hau⟩

theorem nearest_variableScope (hf : f.Ordered) (hs : s < f.size) (h : ∃ a, f.isFunctionLevel a = true ∧ f.Within a s) :
    f.Nearest s (f.variableScope s) := by
  unfold variableScope
  rcases hf.find_chain hs with ⟨a, hfind, ha⟩ | ⟨-, hnone⟩
  · rw [hfind]
    exact ha
  · exact absurd h hnone

theorem variableScope_eq_self (hf : f.Ordered) (hs : s < f.size)
    (h : ¬ ∃ a, f.isFunctionLevel a = true ∧ f.Within a s) : f.variableScope s = s := by
  unfold variableScope
  rcases hf.find_chain hs with ⟨a, -, ha⟩ | ⟨hfind, -⟩
  · exact absurd ⟨a, ha.level, ha.around⟩ h
  · rw [hfind]
    rfl

theorem variableScope_eq (hf : f.Ordered) (hs : s < f.size) (h : f.Nearest s a) : f.variableScope s = a :=
  (hf.nearest_variableScope hs ⟨a, h.level, h.around⟩).unique hf h

theorem variableScope_le (hf : f.Ordered) (hs : s < f.size) : f.variableScope s ≤ s := by
  by_cases h : ∃ a, f.isFunctionLevel a = true ∧ f.Within a s
  · exact hf.le_of_within (hf.nearest_variableScope hs h).around
  · exact (hf.variableScope_eq_self hs h).le

/-- The `variableScope` of a scope is function-level exactly if some scope around is. -/
theorem isFunctionLevel_variableScope_iff (hf : f.Ordered) (hs : s < f.size) :
    f.isFunctionLevel (f.variableScope s) = true ↔ ∃ a, f.isFunctionLevel a = true ∧ f.Within a s := by
  refine ⟨fun hlevel => ?_, fun h => (hf.nearest_variableScope hs h).level⟩
  by_contra h
  rw [hf.variableScope_eq_self hs h] at hlevel
  exact h ⟨s, hlevel, .self⟩

theorem variableScope_idem (hf : f.Ordered) (hs : s < f.size) :
    f.variableScope (f.variableScope s) = f.variableScope s := by
  by_cases h : ∃ a, f.isFunctionLevel a = true ∧ f.Within a s
  · have hlt := lt_of_le_of_lt (hf.variableScope_le hs) hs
    exact hf.variableScope_eq hlt (.self (hf.nearest_variableScope hs h).level)
  · rw [hf.variableScope_eq_self hs h, hf.variableScope_eq_self hs h]

/-- Two scopes have one `variableScope` exactly if they stand in one function-level scope, or are the same scope. -/
theorem variableScope_eq_variableScope_iff (hf : f.Ordered) (hs : s < f.size) (ht : t < f.size) :
    f.variableScope s = f.variableScope t ↔ s = t ∨ ∃ a, f.Nearest s a ∧ f.Nearest t a := by
  constructor
  · intro heq
    have hiff := hf.isFunctionLevel_variableScope_iff ht
    rw [← heq, hf.isFunctionLevel_variableScope_iff hs] at hiff
    by_cases h : ∃ a, f.isFunctionLevel a = true ∧ f.Within a s
    · have hns := hf.nearest_variableScope hs h
      have hnt := hf.nearest_variableScope ht (hiff.1 h)
      exact .inr ⟨_, hns, heq ▸ hnt⟩
    · -- a scope that stands in no function-level scope is alone
      have hss := hf.variableScope_eq_self hs h
      have htt := hf.variableScope_eq_self ht (mt hiff.2 h)
      exact .inl (hss.symm.trans (heq.trans htt))
  · rintro (rfl | ⟨a, hsa, hta⟩)
    · rfl
    · rw [hf.variableScope_eq hs hsa, hf.variableScope_eq ht hta]

end Ordered

/-! ## The tree of a construction -/

/-- The kinds of scopes for which `isFunctionLevel` holds, which own the variables of a function. -/
def functionLevelKinds : List ScopeKind := [.global, .module, .function, .classFieldInitializer, .classStaticBlock]

theorem isFunctionLevel_iff {f : Forest} {s : Nat} :
    f.isFunctionLevel s = true ↔ ∃ scope, f.scope? s = some scope ∧ scope.kind ∈ functionLevelKinds := by
  unfold isFunctionLevel
  cases f.scope? s with
  | none => simp
  | some scope =>
    have hkind : scope.kind.isFunctionLevel = true ↔ scope.kind ∈ functionLevelKinds := by
      cases scope.kind <;> simp [ScopeKind.isFunctionLevel, functionLevelKinds]
    simpa using hkind

theorem children_ascending (f : Forest) (s : Nat) : (f.children s).Pairwise (· < ·) :=
  List.pairwise_lt_range.filter _

/-- The `walk` from a scope goes on with the walks from its children. -/
theorem Ordered.walk_eq_cons {f : Forest} (hf : f.Ordered) {s : Nat} (hs : s < f.size) :
    f.walk s = s :: (f.children s).flatMap f.walk := by
  have hchildren : (f.children s).flatMap f.walk = (f.children s).flatMap f.preorder :=
    List.flatMap_congr fun c hc => hf.walk_eq (children_lt_size hc)
  rw [hf.walk_eq hs, hf.preorder_eq, hchildren]

/-- After any construction by `create`: the lists of the scopes hold exactly the scopes created in them, each scope
once, in the order of creation, and a scope is younger than the one around it. A `walk` ends, whatever fuel is left
over, and lists a scope and all scopes inside it once, in recursive `preorder`. The `variableScope` of a scope is the
nearest function-level one, or the scope itself; it is its own; and it is the same for all scopes on the way to it, so
that the scopes with the same one are those of one function-level scope, or a single scope. -/
theorem Constructed.scopes_form_trees {f : Forest} {lists : List (List Nat)} (h : Constructed f lists) :
    (lists = (List.range f.size).map f.children ∧ (∀ s, (f.children s).Pairwise (· < ·)) ∧
      ∀ c u, f.upper? c = some u → u < c ∧ (f.children u).count c = 1 ∧ ∀ s, s ≠ u → c ∉ f.children s) ∧
    (∀ s < f.size, (∀ fuel, f.size ≤ fuel → f.walkStack fuel [s] = f.walk s) ∧
      f.walk s = s :: (f.children s).flatMap f.walk ∧ (f.walk s).Nodup ∧ ∀ i, i ∈ f.walk s ↔ f.Within s i) ∧
    (∀ s, f.isFunctionLevel s = true ↔ ∃ scope, f.scope? s = some scope ∧ scope.kind ∈ functionLevelKinds) ∧
    (∀ s < f.size,
      ((∃ a, f.isFunctionLevel a = true ∧ f.Within a s) → f.Nearest s (f.variableScope s)) ∧
      ((¬ ∃ a, f.isFunctionLevel a = true ∧ f.Within a s) → f.variableScope s = s) ∧
      f.variableScope (f.variableScope s) = f.variableScope s ∧
      (f.isFunctionLevel (f.variableScope s) = true → ∀ a, f.Within a s → f.Within (f.variableScope s) a →
        f.variableScope a = f.variableScope s)) ∧
    Equivalence (fun s t => f.variableScope s = f.variableScope t) ∧
    ∀ s < f.size, ∀ t < f.size,
      f.variableScope s = f.variableScope t ↔ s = t ∨ ∃ a, f.Nearest s a ∧ f.Nearest t a := by
  have hf := h.ordered
  refine ⟨⟨h.lists_eq, f.children_ascending, fun c u hu => ⟨hf.upper?_lt hu, ?_, fun s hne hc => ?_⟩⟩,
    fun s hs => ⟨fun fuel hfuel => ?_, hf.walk_eq_cons hs, ?_, fun i => ?_⟩, fun s => isFunctionLevel_iff,
    fun s hs => ⟨hf.nearest_variableScope hs, hf.variableScope_eq_self hs, hf.variableScope_idem hs,
      fun hlevel a has hin => ?_⟩,
    ⟨fun _ => rfl, Eq.symm, Eq.trans⟩, fun s hs t ht => hf.variableScope_eq_variableScope_iff hs ht⟩
  · exact List.count_eq_one_of_mem (f.children_nodup u) (mem_children.2 hu)
  · cases hu.symm.trans (mem_children.1 hc)
    exact hne rfl
  · rw [hf.walkStack_eq hs hfuel, hf.walk_eq hs]
  · rw [hf.walk_eq hs]
    exact hf.preorder_nodup s
  · rw [hf.walk_eq hs, hf.mem_preorder]
  · have hnearest := hf.nearest_variableScope hs ((hf.isFunctionLevel_variableScope_iff hs).1 hlevel)
    exact hf.variableScope_eq (lt_of_le_of_lt (hf.le_of_within has) hs) (hnearest.between has hin)

/-! A block with a function in it, where a catch clause declares a variable, and with another block beside it. -/

namespace Sample

def outer : Forest := empty.create .block default none

def withFunction : Forest := outer.create .function default (some 0)

def withCatch : Forest := withFunction.create .«catch» default (some 1)

def forest : Forest := (withCatch.addVariable 2 (bareVariable 2 "e")).create .block default (some 0)

theorem constructed : Constructed forest [[1, 3], [2], [], []] := by
  have houter : Constructed outer [[]] := .create .empty (by simp)
  have hfunction : Constructed withFunction [[1], []] := .create houter (by decide)
  have hcatch : Constructed withCatch [[1], [2], []] := .create hfunction (by decide)
  exact .create (.addVariable hcatch (by decide)) (by decide)

end Sample

/-- In `Sample.forest` the catch clause belongs to the function, the block beside it to no function-level scope. -/
theorem Constructed.scopes_form_trees_sample :
    Constructed Sample.forest [[1, 3], [2], [], []] ∧ Sample.forest.children 0 = [1, 3] ∧
    Sample.forest.Nearest 2 (Sample.forest.variableScope 2) ∧ Sample.forest.variableScope 3 = 3 := by
  obtain ⟨⟨hlists, -⟩, -, -, hscopes, -⟩ := Sample.constructed.scopes_form_trees
  have hchildren : [1, 3] = Sample.forest.children 0 := congrArg (fun ls => ls.headD []) hlists
  have hfunction : ∃ a, Sample.forest.isFunctionLevel a = true ∧ Sample.forest.Within a 2 :=
    ⟨1, rfl, .inner rfl .self⟩
  -- around the second block there are only the block itself and the first one
  have hnone : ¬ ∃ a, Sample.forest.isFunctionLevel a = true ∧ Sample.forest.Within a 3 := by
    rintro ⟨a, ha, has⟩
    rcases within_iff_upper.1 has with rfl | ⟨u, hu, has⟩
    · cases ha
    · cases hu
      rcases within_iff_upper.1 has with rfl | ⟨u, hu, -⟩
      · cases ha
      · cases hu
  exact ⟨Sample.constructed, hchildren.symm, (hscopes 2 (by decide)).1 hfunction, (hscopes 3 (by decide)).2.1 hnone⟩

end CatchAudit.Forest
