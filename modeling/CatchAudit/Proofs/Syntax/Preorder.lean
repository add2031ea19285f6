/-
Syntax trees seen from their places. The walk with a stack visits a place and all places below it in
recursive pre-order: the place, then for each child in field order what lies below the child. The
places below the root are those that the root reaches through children, and each of them has a chain
of ancestors that ends at the root.
-/
import CatchAudit.Proofs.StackWalk
import CatchAudit.Syntax.Place

namespace CatchAudit

/-! ## Sizes -/

theorem Field.sum_size_itemNodes (name : String) : ∀ (i : Nat) (items : List Field),
    ((itemNodes name i items).map fun c => c.2.size).sum ≤ Node.sizeItems items
  | _, [] => by simp [itemNodes, Node.sizeItems]
  | i, .node n :: rest => by
    have := sum_size_itemNodes name (i + 1) rest
    simpa [itemNodes, Node.sizeItems, Node.sizeField] using this
  | i, .list items :: rest => by
    -- a list in a list is not gone into
    have := sum_size_itemNodes name (i + 1) rest
    simp only [itemNodes, Node.sizeItems]
    omega
  | i, .data d :: rest => by
    have := sum_size_itemNodes name (i + 1) rest
    simp only [itemNodes, Node.sizeItems]
    omega

theorem Field.sum_size_children (name : String) (f : Field) :
    ((f.children name).map fun c => c.2.size).sum ≤ Node.sizeField f := by
  cases f with
  | node n => simp [children, Node.sizeField]
  | list items => exact sum_size_itemNodes name 0 items
  | data d => simp [children]

namespace Node

theorem sum_size_fields : ∀ fields : List (String × Field),
    ((fields.flatMap fun f => f.2.children f.1).map fun c => c.2.size).sum ≤ sizeFields fields
  | [] => by simp
  | (name, f) :: rest => by
    have hf := f.sum_size_children name
    have hrest := sum_size_fields rest
    simp only [List.flatMap_cons, List.map_append, List.sum_append, sizeFields]
    omega

/-- The trees below a node are together smaller, by `size`, than the tree of the node. -/
theorem sum_size_children (n : Node) : (n.children.map fun c => c.2.size).sum < n.size := by
  obtain ⟨kind, span, location, fields⟩ := n
  have := sum_size_fields fields
  simp only [children, Node.fields, size]
  omega

theorem size_lt_of_mem_children {n : Node} {c : Step × Node} (h : c ∈ n.children) : c.2.size < n.size :=
  lt_of_le_of_lt (List.le_sum_of_mem (List.mem_map_of_mem (f := fun c => c.2.size) h)) n.sum_size_children

end Node

namespace Place

/-! ## Children and chains -/

theorem mem_children {p c : Place} :
    c ∈ p.children ↔ ∃ step n, (step, n) ∈ p.node.children ∧ c = p.child step n := by
  unfold children
  rw [List.mem_map]
  constructor
  · rintro ⟨⟨step, n⟩, h, rfl⟩
    exact ⟨step, n, h, rfl⟩
  · rintro ⟨step, n, h, rfl⟩
    exact ⟨⟨step, n⟩, h, rfl⟩

theorem size_lt_of_mem_children {p c : Place} (h : c ∈ p.children) : c.node.size < p.node.size := by
  obtain ⟨step, n, hn, rfl⟩ := mem_children.1 h
  exact Node.size_lt_of_mem_children hn

@[simp] theorem chain_root (n : Node) : (root n).chain = [root n] := rfl

theorem chain_of_mem_children {p c : Place} (h : c ∈ p.children) : c.chain = c :: p.chain := by
  obtain ⟨step, n, -, rfl⟩ := mem_children.1 h
  rfl

theorem parent?_of_mem_children {p c : Place} (h : c ∈ p.children) : c.parent? = some p := by
  obtain ⟨step, n, -, rfl⟩ := mem_children.1 h
  rfl

/-- No place is a child of two places. -/
theorem eq_of_mem_children {p q c : Place} (hp : c ∈ p.children) (hq : c ∈ q.children) : p = q := by
  have heq : some p = some q := (parent?_of_mem_children hp).symm.trans (parent?_of_mem_children hq)
  exact Option.some.inj heq

/-- The `address` of a child is that of its parent with one step more. -/
theorem address_of_mem_children {p c : Place} (h : c ∈ p.children) : ∃ step, c.address = step :: p.address := by
  obtain ⟨step, n, -, rfl⟩ := mem_children.1 h
  exact ⟨step, rfl⟩

theorem mem_chain_self (p : Place) : p ∈ p.chain := by
  obtain ⟨n, _ | ⟨f, rest⟩⟩ := p
  · exact List.mem_singleton_self _
  · exact List.mem_cons_self ..

/-! ## Pre-order -/

/-- A place, then for each of its children in order what lies at or below the child. -/
def preorder (p : Place) : List Place := p :: p.children.attach.flatMap fun c => c.1.preorder
termination_by p.node.size
decreasing_by exact size_lt_of_mem_children c.2

/-- The recursive pre-order of a syntax tree. -/
theorem preorder_eq (p : Place) : p.preorder = p :: p.children.flatMap preorder := by
  rw [preorder, List.flatMap_subtype (g := preorder) (fun _ _ => rfl), List.unattach_attach]

/-- Induction from the leaves of a syntax tree upwards. -/
theorem induction {P : Place → Prop} (step : ∀ p : Place, (∀ c ∈ p.children, P c) → P p) (p : Place) : P p := by
  induction hn : p.node.size using Nat.strong_induction_on generalizing p with
  | _ n ih =>
    apply step
    intro c hc
    exact ih c.node.size (hn ▸ size_lt_of_mem_children hc) c rfl

theorem length_preorder_le (p : Place) : p.preorder.length ≤ p.node.size := by
  induction p using Place.induction with
  | step p ih =>
    -- child by child, and the children leave room for the node itself
    have hsum : (p.children.map fun c => c.preorder.length).sum ≤ (p.children.map fun c => c.node.size).sum :=
      List.sum_le_sum ih
    have hnode : (p.children.map fun c => c.node.size) = p.node.children.map fun c => c.2.size := by
      simp [children, child, Function.comp_def]
    have hlt := p.node.sum_size_children
    rw [hnode] at hsum
    rw [preorder_eq, List.length_cons, List.length_flatMap]
    omega

/-- The walk with a stack is `preorder`, whatever fuel is left over. -/
theorem walkStack_eq_preorder (p : Place) {fuel : Nat} (hfuel : p.node.size ≤ fuel) :
    walkStack fuel [p] = p.preorder := by
  have h : walkStack fuel [p] = [p].flatMap preorder :=
    stackWalk_eq preorder_eq (fun fuel => by cases fuel <;> rfl) (fun _ _ _ => rfl) _ _
      (by simpa using p.length_preorder_le.trans hfuel)
  simpa using h

theorem walk_eq_preorder (p : Place) : p.walk = p.preorder := p.walkStack_eq_preorder le_rfl

/-- `q` is the place `p` or lies below it. -/
inductive Within (p : Place) : Place → Prop
  | self : Within p p
  | child {q c : Place} : Within p q → c ∈ q.children → Within p c

theorem Within.of_child {p c q : Place} (hc : c ∈ p.children) (h : c.Within q) : p.Within q := by
  induction h with
  | self => exact .child .self hc
  | child _ hd ih => exact .child ih hd

theorem Within.trans {p q r : Place} (hpq : p.Within q) (hqr : q.Within r) : p.Within r := by
  induction hqr with
  | self => exact hpq
  | child _ hc ih => exact .child ih hc

theorem within_iff {p q : Place} : p.Within q ↔ q = p ∨ ∃ c ∈ p.children, c.Within q := by
  constructor
  · intro h
    induction h with
    | self => exact .inl rfl
    | @child q c _ hc ih =>
      rcases ih with rfl | ⟨d, hd, hw⟩
      · exact .inr ⟨c, hc, .self⟩
      · exact .inr ⟨d, hd, .child hw hc⟩
  · rintro (rfl | ⟨c, hc, hw⟩)
    · exact .self
    · exact hw.of_child hc

/-- `preorder` holds the place and what lies below it, nothing else. -/
theorem mem_preorder {p q : Place} : q ∈ p.preorder ↔ p.Within q := by
  induction p using Place.induction generalizing q with
  | step p ih =>
    rw [preorder_eq, within_iff, List.mem_cons, List.mem_flatMap]
    constructor
    · rintro (rfl | ⟨c, hc, hq⟩)
      · exact .inl rfl
      · exact .inr ⟨c, hc, (ih c hc).1 hq⟩
    · rintro (rfl | ⟨c, hc, hq⟩)
      · exact .inl rfl
      · exact .inr ⟨c, hc, (ih c hc).2 hq⟩

theorem mem_walk {p q : Place} : q ∈ p.walk ↔ p.Within q := by
  rw [walk_eq_preorder, mem_preorder]

/-- The place with this number in the `walk` of a program, the root having number 0. -/
def nth (program : Node) (i : Nat) : Place := (root program).walk.getD i default

theorem nth_mem_walk {program : Node} {i : Nat} (h : i < (root program).walk.length) :
    nth program i ∈ (root program).walk := by
  unfold nth
  rw [List.getD_eq_getElem?_getD, List.getElem?_eq_getElem h, Option.getD_some]
  exact List.getElem_mem h

end Place

/-- A node of a named kind without a location. -/
def Node.plain (kind : String) (start stop : Int) (fields : List (String × Field)) : Node :=
  .mk (.text kind) ⟨start, stop⟩ none fields

end CatchAudit
