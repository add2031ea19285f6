/-
The nodes of a tree. A node is reached from the root through children, which are the nodes that stand in
fields, directly or as items of a list; these are the nodes that the places of the walk hold.
-/
import CatchAudit.Proofs.Analysis.Likeness
import CatchAudit.Proofs.Syntax.Preorder

namespace CatchAudit

namespace Field

theorem mem_itemNodes {name : String} {n : Node} : ∀ {items : List Field} {i : Nat}, .node n ∈ items →
    ∃ step, (step, n) ∈ itemNodes name i items
  | [], _, h => by cases h
  | .node m :: rest, i, h => by
    rcases List.mem_cons.1 h with heq | h
    · cases heq
      exact ⟨_, List.mem_cons_self ..⟩
    · obtain ⟨step, hstep⟩ := mem_itemNodes h
      exact ⟨step, List.mem_cons_of_mem _ hstep⟩
  | .list _ :: rest, i, h => by
    rcases List.mem_cons.1 h with heq | h
    · cases heq
    · obtain ⟨step, hstep⟩ := mem_itemNodes h
      exact ⟨step, hstep⟩
  | .data _ :: rest, i, h => by
    rcases List.mem_cons.1 h with heq | h
    · cases heq
    · obtain ⟨step, hstep⟩ := mem_itemNodes h
      exact ⟨step, hstep⟩

end Field

namespace Node

/-- `a` is the node `n` or lies below it. -/
inductive Reaches (n : Node) : Node → Prop
  | self : Reaches n n
  | child {a c : Node} {step : Step} : Reaches n a → (step, c) ∈ a.children → Reaches n c

variable {n a c : Node} {name : String}

theorem Reaches.field (h : n.Reaches a) (hc : a.field? name = some (.node c)) : n.Reaches c :=
  .child h (List.mem_flatMap.2 ⟨(name, .node c), mem_of_memberOf? hc, List.mem_singleton_self _⟩)

theorem Reaches.item {items : List Field} (h : n.Reaches a) (hitems : a.field? name = some (.list items))
    (hc : .node c ∈ items) : n.Reaches c := by
  obtain ⟨step, hstep⟩ : ∃ step, (step, c) ∈ Field.itemNodes name 0 items := Field.mem_itemNodes hc
  exact .child h (List.mem_flatMap.2 ⟨(name, .list items), mem_of_memberOf? hitems, hstep⟩)

end Node

namespace Place

variable {program : Node} {p : Place}

/-- The tree `Reaches` the node of the place and the nodes above it. -/
structure InTree (program : Node) (p : Place) : Prop where
  node : program.Reaches p.node
  frames : ∀ f ∈ p.frames, program.Reaches f.parent

theorem inTree_root (program : Node) : (root program).InTree program := ⟨.self, fun f hf => by cases hf⟩

theorem Within.inTree {q : Place} (h : p.Within q) (hp : p.InTree program) : q.InTree program := by
  induction h with
  | self => exact hp
  | child _ hc ih =>
    obtain ⟨step, n, hn, rfl⟩ := mem_children.1 hc
    refine ⟨.child ih.node hn, fun f hf => ?_⟩
    rcases List.mem_cons.1 hf with rfl | hf
    · exact ih.node
    · exact ih.frames f hf

theorem inTree_of_mem_walk (h : p ∈ (root program).walk) : p.InTree program :=
  (mem_walk.1 h).inTree (inTree_root program)

theorem exists_mem_walk {a : Node} (h : program.Reaches a) : ∃ p ∈ (root program).walk, p.node = a := by
  induction h with
  | self => exact ⟨root program, mem_walk.2 .self, rfl⟩
  | child _ hc ih =>
    obtain ⟨p, hp, rfl⟩ := ih
    exact ⟨_, mem_walk.2 (.child (mem_walk.1 hp) (mem_children.2 ⟨_, _, hc, rfl⟩)), rfl⟩

end Place

/-! ## Likeness within a tree -/

/-- The relation between nodes, for nodes of a tree only. -/
def Reached (program : Node) (N : Node → Node → Prop) (a b : Node) : Prop := N a b ∧ program.Reaches a

variable {program : Node} {N : Node → Node → Prop}

/-- What the fields of a node hold that the tree `Reaches` are nodes of the tree. -/
theorem Field.Alike.reached {a : Node} {name : String} {x y : Field} (ha : program.Reaches a)
    (hx : a.field? name = some x) (h : x.Alike N y) : x.Alike (Reached program N) y := by
  cases h with
  | node hab => exact .node ⟨hab, ha.field hx⟩
  | @list xs ys hitems =>
    have hmem : List.Forall₂ (fun x y => x ∈ xs ∧ ItemAlike N x y) xs ys :=
      (List.forall₂_and_left (p := (· ∈ xs)) xs ys).2 ⟨fun _ h => h, hitems⟩
    refine .list (hmem.imp fun x y hxy => ?_)
    cases hxy.2 with
    | node hab => exact .node ⟨hab, ha.item hx hxy.1⟩
    | list hempty => exact .list hempty
    | data hd => exact .data hd
  | data hd => exact .data hd

theorem rel_field?_reached {a b : Node} {name : String} (ha : program.Reaches a)
    (h : Option.Rel (Field.Alike N) (a.field? name) (b.field? name)) :
    Option.Rel (Field.Alike (Reached program N)) (a.field? name) (b.field? name) := by
  rcases hx : a.field? name with _ | x <;> rcases hy : b.field? name with _ | y <;> rw [hx, hy] at h
  · exact .none
  · cases h
  · cases h
  · cases h with
    | some hxy => exact .some (hxy.reached ha hx)

theorem Likeness.reached (hN : Likeness N) (program : Node) : Likeness (Reached program N) where
  kind := fun h => hN.kind h.1
  contains := fun h h' => hN.contains h.1 h'.1
  field? := fun h name => rel_field?_reached h.2 (hN.field? h.1 name)

theorem Place.Alike.reached {p q : Place} (h : p.Alike N q) (hp : p.InTree program) :
    p.Alike (Reached program N) q := by
  refine ⟨⟨h.node, hp.node⟩, ?_⟩
  have hmem := (List.forall₂_and_left (p := (· ∈ p.frames)) p.frames q.frames).2 ⟨fun _ h => h, h.frames⟩
  exact hmem.imp fun fr gr hfr => ⟨⟨hfr.2.1, hp.frames fr hfr.1⟩, hfr.2.2⟩

theorem Place.Alike.of_reached {p q : Place} (h : p.Alike (Reached program N) q) : p.Alike N q :=
  ⟨h.node.1, h.frames.imp fun _ _ hfr => ⟨hfr.1.1, hfr.2⟩⟩

theorem Place.Alike.inTree {p q : Place} (h : p.Alike (Reached program N) q) : p.InTree program := by
  refine ⟨h.node.2, ?_⟩
  have hframes := h.frames
  generalize p.frames = fs at hframes
  generalize q.frames = gs at hframes
  induction hframes with
  | nil => exact fun f hf => by cases hf
  | cons hfg _ ih =>
    intro f hf
    rcases List.mem_cons.1 hf with rfl | hf
    · exact hfg.1.2
    · exact ih f hf

end CatchAudit
