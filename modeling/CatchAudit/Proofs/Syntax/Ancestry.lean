/-
Spans and ancestors. In a tree whose spans are not empty, nest like the nodes and do not overlap among
siblings, the span of a place with a sibling contains exactly the spans of the places at or below it.
Without the sibling this fails: a node may have the same span as its parent.
-/
import CatchAudit.Proofs.Syntax.Preorder

namespace CatchAudit

/-- Two spans that share no offset. -/
def Span.Disjoint (a b : Span) : Prop := a.stop ≤ b.start ∨ b.stop ≤ a.start

instance (a b : Span) : Decidable (a.Disjoint b) := inferInstanceAs (Decidable (_ ∨ _))

theorem Span.contains_iff {a b : Span} : a.contains b = true ↔ a.start ≤ b.start ∧ b.stop ≤ a.stop := by
  unfold contains
  rw [Bool.and_eq_true, decide_eq_true_iff, decide_eq_true_iff]

/-- The spans of a tree fit its shape: none is empty, every child lies inside its parent, and the children of one node
are `Disjoint`. -/
structure Node.Nested (program : Node) : Prop where
  nonempty : ∀ p ∈ (Place.root program).walk, p.node.span.start < p.node.span.stop
  inside : ∀ p ∈ (Place.root program).walk, ∀ c ∈ p.children, p.contains c = true
  apart : ∀ p ∈ (Place.root program).walk, p.children.Pairwise fun c d => c.node.span.Disjoint d.node.span

namespace Place

theorem contains_iff {p q : Place} :
    p.contains q = true ↔ p.node.span.start ≤ q.node.span.start ∧ q.node.span.stop ≤ p.node.span.stop :=
  Span.contains_iff

theorem contains_trans {p q r : Place} (hpq : p.contains q = true) (hqr : q.contains r = true) :
    p.contains r = true := by
  rw [contains_iff] at *
  omega

/-! ## Chains -/

theorem chainFrom_subset {q : Place} : ∀ {n : Node} {frames : List Frame},
    q ∈ chainFrom n frames → q.chain ⊆ chainFrom n frames
  | n, [], h => by
    rw [chainFrom, List.mem_singleton] at h
    subst h
    exact fun _ h => h
  | n, f :: rest, h => by
    rw [chainFrom] at h ⊢
    rcases List.mem_cons.1 h with rfl | h
    · exact fun _ h => h
    · exact fun x hx => List.mem_cons_of_mem _ (chainFrom_subset h hx)

/-- What `chainFrom` puts above a node has no more frames than the node. -/
theorem length_frames_le {q : Place} : ∀ {n : Node} {frames : List Frame}, q ∈ chainFrom n frames →
    q.frames.length ≤ frames.length
  | n, [], h => by
    rw [chainFrom, List.mem_singleton] at h
    subst h
    exact le_rfl
  | n, f :: rest, h => by
    rw [chainFrom] at h
    rcases List.mem_cons.1 h with rfl | h
    · exact le_rfl
    · exact (length_frames_le h).trans (Nat.le_succ _)

/-- The `chain` of an ancestor is part of the chain of the place. -/
theorem chain_subset {p q : Place} (h : q ∈ p.chain) : q.chain ⊆ p.chain := chainFrom_subset h

variable {program : Node} {p q r : Place}

/-- The `chain` of a place of the tree stays in the tree. -/
theorem Within.of_mem_chain (hp : (root program).Within p) (hq : q ∈ p.chain) : (root program).Within q := by
  induction hp with
  | self =>
    rw [chain_root, List.mem_singleton] at hq
    exact hq ▸ .self
  | child hw hc ih =>
    rw [chain_of_mem_children hc] at hq
    rcases List.mem_cons.1 hq with rfl | hq
    · exact .child hw hc
    · exact ih hq

/-- The `root` stands in every chain. -/
theorem Within.root_mem_chain (hp : (root program).Within p) : root program ∈ p.chain := by
  induction hp with
  | self => exact mem_chain_self _
  | child _ hc ih =>
    rw [chain_of_mem_children hc]
    exact List.mem_cons_of_mem _ ih

/-- Below an ancestor of a place, other than the place itself, one of its `children` stands in the chain. -/
theorem Within.child_mem_chain (hp : (root program).Within p) (hq : q ∈ p.chain) :
    q = p ∨ ∃ c ∈ q.children, c ∈ p.chain := by
  induction hp with
  | self =>
    rw [chain_root, List.mem_singleton] at hq
    exact .inl hq
  | @child _ c _ hc ih =>
    rw [chain_of_mem_children hc] at hq ⊢
    rcases List.mem_cons.1 hq with rfl | hq
    · exact .inl rfl
    · rcases ih hq with rfl | ⟨d, hd, hmem⟩
      · exact .inr ⟨c, hc, List.mem_cons_self ..⟩
      · exact .inr ⟨d, hd, List.mem_cons_of_mem _ hmem⟩

/-- Two places of a tree: one stands in the `chain` of the other, or their chains part at two children of a common
ancestor. -/
theorem Within.chains (hp : (root program).Within p) (hr : (root program).Within r) :
    r ∈ p.chain ∨ p ∈ r.chain ∨
      ∃ q ∈ p.chain, ∃ c ∈ q.children, ∃ d ∈ q.children, c ≠ d ∧ c ∈ p.chain ∧ d ∈ r.chain := by
  induction hp with
  | self => exact .inr (.inl hr.root_mem_chain)
  | @child q c hw hc ih =>
    have hsub : q.chain ⊆ c.chain := by
      rw [chain_of_mem_children hc]
      exact fun _ h => List.mem_cons_of_mem _ h
    rcases ih with h | h | ⟨a, ha, b, hb, d, hd, hne, hbm, hdm⟩
    · exact .inl (hsub h)
    · -- `q` is an ancestor of `r`: the chain of `r` comes through `c`, or through another child of `q`
      rcases hr.child_mem_chain h with rfl | ⟨d, hd, hdm⟩
      · exact .inl (hsub (mem_chain_self _))
      · by_cases hcd : c = d
        · exact .inr (.inl (hcd ▸ hdm))
        · exact .inr (.inr ⟨q, hsub (mem_chain_self q), c, hc, d, hd, hcd, mem_chain_self c, hdm⟩)
    · exact .inr (.inr ⟨a, hsub ha, b, hb, d, hd, hne, hsub hbm, hdm⟩)

/-- Where every child lies inside its parent, the span of an ancestor `contains` the span of the place. -/
theorem Within.contains_of_mem_chain (hp : (root program).Within p)
    (hinside : ∀ p ∈ (root program).walk, ∀ c ∈ p.children, p.contains c = true) (hq : q ∈ p.chain) :
    q.contains p = true := by
  induction hp with
  | self =>
    rw [chain_root, List.mem_singleton] at hq
    subst hq
    exact contains_iff.2 ⟨le_rfl, le_rfl⟩
  | child hw hc ih =>
    rw [chain_of_mem_children hc] at hq
    rcases List.mem_cons.1 hq with rfl | hq
    · exact contains_iff.2 ⟨le_rfl, le_rfl⟩
    · exact contains_trans (ih hq) (hinside _ (mem_walk.2 hw) _ hc)

end Place

/-! ## Nested spans -/

namespace Node.Nested

open Place

variable {program : Node} {p q r c d : Place}

/-- In a `Nested` tree the span of an ancestor `contains` the span of the place. -/
theorem contains_of_mem_chain (h : program.Nested) (hp : (root program).Within p) (hq : q ∈ p.chain) :
    q.contains p = true := hp.contains_of_mem_chain h.inside hq

theorem disjoint_of_ne (h : program.Nested) (hq : (root program).Within q) (hc : c ∈ q.children)
    (hd : d ∈ q.children) (hne : c ≠ d) : c.node.span.Disjoint d.node.span := by
  have : Std.Symm fun a b : Place => a.node.span.Disjoint b.node.span := ⟨fun _ _ hab => hab.symm⟩
  exact (h.apart q (mem_walk.2 hq)).forall hc hd hne

/-- In a `Nested` tree a span that two siblings contain would be empty. -/
theorem not_contains_of_siblings (h : program.Nested) (hq : (root program).Within q) (hc : c ∈ q.children)
    (hd : d ∈ q.children) (hne : c ≠ d) (hp : (root program).Within p) (hcp : c.contains p = true) :
    ¬ d.contains p = true := by
  intro hdp
  have hapart := h.disjoint_of_ne hq hc hd hne
  have hnonempty := h.nonempty p (mem_walk.2 hp)
  rw [contains_iff] at hcp hdp
  unfold Span.Disjoint at hapart
  omega

/-- In a `Nested` tree the span of a place with a sibling contains the spans of the places at or below it and no
others: places beside it lie in another child of a common ancestor, and those above it reach further, since they
contain the sibling too. -/
theorem contains_iff_mem_chain (h : program.Nested) (hq : (root program).Within q) (hr : r ∈ q.children)
    (hd : d ∈ q.children) (hne : d ≠ r) (hp : (root program).Within p) : r.contains p = true ↔ r ∈ p.chain := by
  have hrw : (root program).Within r := .child hq hr
  have hdw : (root program).Within d := .child hq hd
  refine ⟨fun hrp => ?_, h.contains_of_mem_chain hp⟩
  rcases hp.chains hrw with hmem | hmem | ⟨a, ha, b, hb, e, he, hbe, hbm, hem⟩
  · exact hmem
  · rw [chain_of_mem_children hr] at hmem
    rcases List.mem_cons.1 hmem with rfl | hmem
    · exact mem_chain_self p
    · -- `p` stands above `r`, so it contains the sibling, and `r` contains `p`
      exfalso
      have hpd : p.contains d = true := by
        refine h.contains_of_mem_chain hdw ?_
        rw [chain_of_mem_children hd]
        exact List.mem_cons_of_mem _ hmem
      have hdd : d.contains d = true := contains_iff.2 ⟨le_rfl, le_rfl⟩
      exact h.not_contains_of_siblings hq hd hr hne hdw hdd (contains_trans hrp hpd)
  · -- `p` lies in `b` and `r` in `e`, so `p` would lie in two siblings
    exfalso
    have hep : e.contains p = true := contains_trans (h.contains_of_mem_chain hrw hem) hrp
    exact h.not_contains_of_siblings (hp.of_mem_chain ha) hb he hbe hp (h.contains_of_mem_chain hp hbm) hep

end Node.Nested

end CatchAudit
