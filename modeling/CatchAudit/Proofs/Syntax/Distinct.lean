/-
Trees in which no node has two fields of one name. The children of a node then differ in their steps, so
that places with different addresses are visited at different times and the walk visits no place twice.
What lies at or below a place is visited in the same order as in the walk of the whole tree. All trees
that are built from documents with distinct names are of this kind.
-/
import CatchAudit.Proofs.Syntax.Reach
import CatchAudit.Proofs.Syntax.Reorder

namespace CatchAudit

/-- No node of the tree has two fields of one name. -/
def Node.DistinctFields (program : Node) : Prop := ∀ a, program.Reaches a → (a.fields.map Prod.fst).Nodup

/-! ## Steps -/

namespace Field

variable {name : String} {step : Step} {n : Node}

/-- The index of a step that `itemNodes` gives is the position in the list. -/
theorem getElem?_of_itemNodes : ∀ {i : Nat} {items : List Field}, (step, n) ∈ itemNodes name i items →
    ∃ j, step = ⟨name, some (i + j)⟩ ∧ items[j]? = some (.node n)
  | _, [], h => by cases h
  | i, .node m :: rest, h => by
    rcases List.mem_cons.1 h with heq | h
    · cases heq
      exact ⟨0, rfl, rfl⟩
    · obtain ⟨j, hj, hitem⟩ := getElem?_of_itemNodes h
      exact ⟨j + 1, by rw [hj]; congr 2; omega, hitem⟩
  | i, .list _ :: rest, h => by
    obtain ⟨j, hj, hitem⟩ := getElem?_of_itemNodes (i := i + 1) h
    exact ⟨j + 1, by rw [hj]; congr 2; omega, hitem⟩
  | i, .data _ :: rest, h => by
    obtain ⟨j, hj, hitem⟩ := getElem?_of_itemNodes (i := i + 1) h
    exact ⟨j + 1, by rw [hj]; congr 2; omega, hitem⟩

theorem itemNodes_step {i : Nat} {items : List Field} (h : (step, n) ∈ itemNodes name i items) :
    step.field = name ∧ ∃ j, step.index = some j ∧ i ≤ j := by
  obtain ⟨j, rfl, -⟩ := getElem?_of_itemNodes h
  exact ⟨rfl, i + j, rfl, by omega⟩

theorem nodup_itemNodes (name : String) : ∀ (i : Nat) (items : List Field),
    ((itemNodes name i items).map Prod.fst).Nodup
  | _, [] => .nil
  | i, .node m :: rest => by
    refine List.nodup_cons.2 ⟨fun hmem => ?_, nodup_itemNodes name (i + 1) rest⟩
    obtain ⟨⟨step, n⟩, hn, hstep⟩ := List.mem_map.1 hmem
    obtain ⟨-, j, hj, hle⟩ := itemNodes_step hn
    rw [show step = ⟨name, some i⟩ from hstep] at hj
    cases hj
    omega
  | i, .list _ :: rest => nodup_itemNodes name (i + 1) rest
  | i, .data _ :: rest => nodup_itemNodes name (i + 1) rest

theorem children_step {f : Field} (h : (step, n) ∈ f.children name) : step.field = name := by
  cases f with
  | node m =>
    cases List.mem_singleton.1 h
    rfl
  | list items => exact (itemNodes_step h).1
  | data d => cases h

theorem nodup_children (name : String) (f : Field) : ((f.children name).map Prod.fst).Nodup := by
  cases f with
  | node m => exact List.nodup_singleton _
  | list items => exact nodup_itemNodes name 0 items
  | data d => exact .nil

end Field

namespace Node

variable {n a c : Node}

/-- Where names differ, the step to a child says where `field?` finds it: in a field, or in a list there. -/
theorem field?_of_child {name : String} (hnames : (n.fields.map Prod.fst).Nodup)
    (h : (⟨name, none⟩, c) ∈ n.children) : n.field? name = some (.node c) := by
  obtain ⟨⟨_, f⟩, hf, hc⟩ := List.mem_flatMap.1 h
  have hname := Field.children_step hc
  subst hname
  cases f with
  | node m =>
    cases List.mem_singleton.1 hc
    exact memberOf?_of_mem hnames hf
  | list items =>
    obtain ⟨-, j, hj, -⟩ := Field.itemNodes_step hc
    cases hj
  | data d => cases hc

theorem field?_of_item {name : String} {i : Nat} (hnames : (n.fields.map Prod.fst).Nodup)
    (h : (⟨name, some i⟩, c) ∈ n.children) :
    ∃ items, n.field? name = some (.list items) ∧ items[i]? = some (.node c) := by
  obtain ⟨⟨_, f⟩, hf, hc⟩ := List.mem_flatMap.1 h
  have hname := Field.children_step hc
  subst hname
  cases f with
  | node m => cases List.mem_singleton.1 hc
  | list items =>
    obtain ⟨j, heq, hj⟩ := Field.getElem?_of_itemNodes hc
    cases heq
    rw [Nat.zero_add]
    exact ⟨items, memberOf?_of_mem hnames hf, hj⟩
  | data d => cases hc

/-- Fields with different names contribute different steps. -/
theorem nodup_steps (h : (n.fields.map Prod.fst).Nodup) : (n.children.map Prod.fst).Nodup := by
  unfold children
  rw [List.map_flatMap, List.nodup_flatMap]
  refine ⟨fun f _ => f.2.nodup_children f.1, ?_⟩
  refine (List.pairwise_map.1 h).imp fun {f g} hne step hf hg => ?_
  obtain ⟨⟨_, m⟩, hm, rfl⟩ := List.mem_map.1 hf
  obtain ⟨⟨_, m'⟩, hm', hstep⟩ := List.mem_map.1 hg
  rw [← Field.children_step hm, ← Field.children_step hm'] at hne
  exact hne (congrArg Step.field hstep).symm

theorem Reaches.trans (h : n.Reaches a) (h' : a.Reaches c) : n.Reaches c := by
  induction h' with
  | self => exact h
  | child _ hc ih => exact .child ih hc

end Node

/-! ## Walks -/

namespace Place

variable {p q : Place}

theorem Within.address_suffix (h : p.Within q) : p.address <:+ q.address := by
  induction h with
  | self => exact List.suffix_refl _
  | child _ hc ih =>
    obtain ⟨step, hstep⟩ := address_of_mem_children hc
    exact hstep ▸ ih.trans (List.suffix_cons step _)

theorem nodup_addresses (h : (p.node.fields.map Prod.fst).Nodup) : (p.children.map address).Nodup := by
  have haddresses : p.children.map address = (p.node.children.map Prod.fst).map (· :: p.address) := by
    simp [children, address, child, Function.comp_def]
  rw [haddresses]
  exact (Node.nodup_steps h).map fun _ _ heq => (List.cons.inj heq).1

theorem length_address_of_mem_children {c : Place} (hc : c ∈ p.children) :
    c.address.length = p.address.length + 1 := by
  obtain ⟨step, hstep⟩ := address_of_mem_children hc
  rw [hstep, List.length_cons]

/-- In a tree with `DistinctFields` no place is visited twice: below two children the addresses end in different ways.
-/
theorem nodup_preorder (h : p.node.DistinctFields) : p.preorder.Nodup := by
  induction p using Place.induction with
  | step p ih =>
    rw [preorder_eq, List.nodup_cons, List.nodup_flatMap]
    refine ⟨fun hmem => ?_, fun c hc => ih c hc ?_, ?_⟩
    · obtain ⟨c, hc, hp⟩ := List.mem_flatMap.1 hmem
      have hle := (mem_preorder.1 hp).address_suffix.length_le
      rw [length_address_of_mem_children hc] at hle
      omega
    · obtain ⟨step, n, hn, rfl⟩ := mem_children.1 hc
      exact fun a ha => h a ((Node.Reaches.child .self hn).trans ha)
    · have hne := List.pairwise_map.1 (nodup_addresses (h p.node .self))
      refine hne.imp_of_mem fun {c d} hc hd hne q hcq hdq => hne ?_
      have hlength : c.address.length = d.address.length := by
        rw [length_address_of_mem_children hc, length_address_of_mem_children hd]
      have hsuffix := List.suffix_of_suffix_length_le (mem_preorder.1 hcq).address_suffix
        (mem_preorder.1 hdq).address_suffix hlength.le
      exact hsuffix.eq_of_length hlength

/-- What lies at or below a place is visited by `preorder` in the order of the walk from above. -/
theorem Within.preorder_sublist (h : p.Within q) : q.preorder.Sublist p.preorder := by
  induction h with
  | self => exact .refl _
  | @child q c _ hc ih =>
    refine .trans ?_ ih
    obtain ⟨before, after, hsplit⟩ := List.append_of_mem hc
    rw [q.preorder_eq, hsplit, List.flatMap_append, List.flatMap_cons]
    exact .cons _ ((List.sublist_append_left _ _).trans (List.sublist_append_right _ _))

end Place

/-! ## Documents -/

namespace Node

open Document

variable {d : Document} {n c : Node}

theorem parts_of_buildField (h : buildField d = .ok (.node n)) :
    ∃ members, d = .object members ∧ (memberOf? "type" members).isSome = true ∧ buildFields members = .ok n.fields := by
  cases d with
  | object members =>
    rw [buildField] at h
    split at h
    · next htype =>
      obtain ⟨⟨kind, span, location⟩, -, h⟩ := bind_ok h
      obtain ⟨fields, hfields, h⟩ := bind_ok h
      cases h
      exact ⟨members, rfl, htype, hfields⟩
    · cases h
  | list items =>
    rw [buildField] at h
    obtain ⟨xs, -, h⟩ := bind_ok h
    cases h
  | _ => cases h

theorem items_of_buildField {items : List Field} (h : buildField d = .ok (.list items)) :
    ∃ ds, d = .list ds ∧ buildItems ds = .ok items := by
  cases d with
  | object members =>
    rw [buildField] at h
    split at h
    · obtain ⟨⟨kind, span, location⟩, -, h⟩ := bind_ok h
      obtain ⟨fields, -, h⟩ := bind_ok h
      cases h
    · cases h
  | list ds =>
    rw [buildField] at h
    obtain ⟨xs, hxs, h⟩ := bind_ok h
    cases h
    exact ⟨ds, rfl, hxs⟩
  | _ => cases h

theorem exists_of_buildItems : ∀ {ds : List Document} {items : List Field} {x : Field}, buildItems ds = .ok items →
    x ∈ items → ∃ d ∈ ds, buildField d = .ok x
  | [], _, _, h, hx => by
    cases h
    cases hx
  | d :: rest, _, x, h, hx => by
    obtain ⟨y, hy, h⟩ := bind_ok h
    obtain ⟨others, hothers, h⟩ := bind_ok h
    cases h
    rcases List.mem_cons.1 hx with rfl | hx
    · exact ⟨d, List.mem_cons_self, hy⟩
    · obtain ⟨d', hd', hx⟩ := exists_of_buildItems hothers hx
      exact ⟨d', List.mem_cons_of_mem _ hd', hx⟩

theorem mem_of_itemNodes {name : String} {step : Step} {i : Nat} {items : List Field}
    (h : (step, c) ∈ Field.itemNodes name i items) : .node c ∈ items := by
  obtain ⟨j, -, hj⟩ := Field.getElem?_of_itemNodes h
  exact List.mem_of_getElem? hj

/-- The node is built from a document with `DistinctNames`. -/
def FromDistinct (n : Node) : Prop := ∃ d : Document, d.Everywhere DistinctNames .tree ∧ buildField d = .ok (.node n)

theorem FromDistinct.names (h : n.FromDistinct) : (n.fields.map Prod.fst).Nodup := by
  obtain ⟨d, hd, hbuild⟩ := h
  obtain ⟨members, rfl, -, hfields⟩ := parts_of_buildField hbuild
  exact names_buildFields (hd.self members rfl) hfields

/-- A child is built from a member, or from an item of one. -/
theorem FromDistinct.child {step : Step} (h : n.FromDistinct) (hc : (step, c) ∈ n.children) : c.FromDistinct := by
  obtain ⟨d, hd, hbuild⟩ := h
  obtain ⟨members, rfl, htype, hfields⟩ := parts_of_buildField hbuild
  obtain ⟨⟨name, x⟩, hx, hc⟩ := List.mem_flatMap.1 hc
  obtain ⟨⟨_, d'⟩, hd', hname, hx⟩ :=
    Multiset.exists_mem_of_rel_of_mem (Multiset.rel_flip.2 (rel_of_forall₂ (buildFields_ok_iff.1 hfields)))
      (Multiset.mem_coe.2 hx)
  cases hname
  obtain ⟨hmember, hheader⟩ := List.mem_filter.1 (Multiset.mem_coe.1 hd')
  have hd' : d'.Everywhere DistinctNames .tree := by
    have hrole : Role.tree.member members name = .tree := by
      rw [Role.member, if_pos htype]
      exact nodeMember_eq_tree members name (by simpa using hheader)
    exact hrole ▸ everywhereUnder_iff.1 hd.2 _ hmember
  cases x with
  | node m =>
    cases List.mem_singleton.1 hc
    exact ⟨d', hd', hx⟩
  | list items =>
    obtain ⟨ds, rfl, hitems⟩ := items_of_buildField hx
    obtain ⟨e, he, hbuild⟩ := exists_of_buildItems hitems (mem_of_itemNodes hc)
    exact ⟨e, hd'.item he, hbuild⟩
  | data value => cases hc

theorem distinctFields_of_ofDocument (hd : d.Everywhere DistinctNames .tree) (h : ofDocument d = .ok n) :
    n.DistinctFields := by
  have hall : ∀ a, n.Reaches a → a.FromDistinct := by
    intro a ha
    induction ha with
    | self => exact ⟨d, hd, ofDocument_ok_iff.1 h⟩
    | child _ hc ih => exact ih.child hc
  exact fun a ha => (hall a ha).names

end Node

end CatchAudit
