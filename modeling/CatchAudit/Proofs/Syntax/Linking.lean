/-
The parents that one pass over the walk writes down, each place visited becoming the parent of its
children. In a tree built from a document no two places have the same address, so no parent is ever
overwritten: a place has the one parent that has it for a child, and following parents leads to the root,
which has none. The walk goes forwards in the text if the spans do.
-/
import CatchAudit.Analysis.Unhandled
import CatchAudit.Proofs.Syntax.Ancestry
import CatchAudit.Proofs.Syntax.Distinct
import Mathlib.Data.List.Chain
import Mathlib.Logic.Function.Basic

namespace CatchAudit

open Document

/-! ## The pass -/

/-- The parent that each address has by now. -/
abbrev ParentLinks := List Step → Option Place

namespace Place

/-- The place becomes the parent of its `children`. -/
def adopt (links : ParentLinks) (p : Place) : ParentLinks :=
  p.children.foldl (fun links c => Function.update links c.address (some p)) links

/-- The parents after each place of the `walk` has been an argument of `adopt`. The root loses the one that it may
have had. -/
def linkParents (links : ParentLinks) (program : Node) : ParentLinks :=
  (root program).walk.foldl adopt (Function.update links (root program).address none)

section Links

variable {links : ParentLinks} {p q : Place} {ps : List Place} {a : List Step}

theorem foldl_update_apply (v : Option Place) : ∀ (cs : List Place) (links : ParentLinks),
    cs.foldl (fun links c => Function.update links c.address v) links a =
      if a ∈ cs.map address then v else links a
  | [], _ => rfl
  | c :: cs, links => by
    rw [List.foldl_cons, foldl_update_apply v cs, Function.update_apply]
    by_cases hcs : a ∈ cs.map address
    · rw [if_pos hcs, List.map_cons, if_pos (List.mem_cons_of_mem _ hcs)]
    · rw [if_neg hcs]
      exact if_congr (by simp [hcs]) rfl rfl

theorem adopt_apply : adopt links p a = if a ∈ p.children.map address then some p else links a :=
  foldl_update_apply (some p) p.children links

/-- By `adopt` only children get a parent. -/
theorem foldl_adopt_of_not_mem (h : ∀ p ∈ ps, a ∉ p.children.map address) : ps.foldl adopt links a = links a := by
  induction ps generalizing links with
  | nil => rfl
  | cons p ps ih =>
    have hp : a ∉ p.children.map address := h p List.mem_cons_self
    rw [List.foldl_cons, ih fun q hq => h q (List.mem_cons_of_mem _ hq), adopt_apply, if_neg hp]

/-- A parent stays through every `adopt` if all that have a child at this address are this parent. -/
theorem foldl_adopt_of_mem (hp : p ∈ ps) (ha : a ∈ p.children.map address)
    (hall : ∀ q ∈ ps, a ∈ q.children.map address → q = p) : ps.foldl adopt links a = some p := by
  induction ps using List.reverseRecOn with
  | nil => cases hp
  | append_singleton ps q ih =>
    rw [List.foldl_append, List.foldl_cons, List.foldl_nil, adopt_apply]
    by_cases hq : a ∈ q.children.map address
    · rw [if_pos hq, hall q (by simp) hq]
    · rw [if_neg hq]
      have hmem : p ∈ ps := by
        rcases List.mem_append.1 hp with hp | hp
        · exact hp
        · cases List.mem_singleton.1 hp
          exact absurd ha hq
      exact ih hmem fun r hr => hall r (List.mem_append_left _ hr)

end Links

/-! ## Addresses -/

variable {program : Node} {p q : Place} {links : ParentLinks}

theorem Within.nodup_names (hfields : program.DistinctFields) (hp : (root program).Within p) :
    (p.node.fields.map Prod.fst).Nodup := hfields p.node (hp.inTree (inTree_root program)).node

/-- Places of a tree with one `address` are the same. -/
theorem Within.eq_of_address (hfields : program.DistinctFields) (hp : (root program).Within p)
    (hq : (root program).Within q) (h : p.address = q.address) : p = q := by
  induction hp generalizing q with
  | self =>
    cases hq with
    | self => rfl
    | child _ hc =>
      obtain ⟨step, hstep⟩ := address_of_mem_children hc
      cases h.trans hstep
  | @child p c hw hc ih =>
    obtain ⟨step, hstep⟩ := address_of_mem_children hc
    cases hq with
    | self => cases hstep.symm.trans h
    | @child q d hw' hd =>
      -- the parents have one address, and among the children of one place addresses differ
      obtain ⟨step', hstep'⟩ := address_of_mem_children hd
      have haddress : p.address = q.address := (List.cons.inj (hstep.symm.trans (h.trans hstep'))).2
      cases ih hw' haddress
      have hnodup := nodup_addresses (hw.nodup_names hfields)
      exact List.inj_on_of_nodup_map hnodup hc hd h

theorem nodup_walk_addresses (hfields : program.DistinctFields) : ((root program).walk.map address).Nodup := by
  have hnodup : (root program).walk.Nodup := walk_eq_preorder _ ▸ nodup_preorder hfields
  refine hnodup.map_on fun p hp q hq h => ?_
  exact (mem_walk.1 hp).eq_of_address hfields (mem_walk.1 hq) h

/-! ## Parents -/

/-- By `linkParents` a place gets its `parent?`, the one that it has by its frames, whatever was there before. -/
theorem linkParents_apply (hfields : program.DistinctFields) (hp : (root program).Within p) :
    linkParents links program p.address = p.parent? := by
  unfold linkParents
  cases hp with
  | self =>
    have hroot : ∀ q ∈ (root program).walk, (root program).address ∉ q.children.map address := by
      intro q _ hmem
      obtain ⟨c, hc, haddress⟩ := List.mem_map.1 hmem
      obtain ⟨step, hstep⟩ := address_of_mem_children hc
      cases haddress.symm.trans hstep
    rw [foldl_adopt_of_not_mem hroot, Function.update_self]
    rfl
  | @child q _ hw hc =>
    rw [parent?_of_mem_children hc]
    refine foldl_adopt_of_mem (mem_walk.2 hw) (List.mem_map_of_mem hc) fun r hr hmem => ?_
    obtain ⟨d, hd, haddress⟩ := List.mem_map.1 hmem
    have heq : d = p := Within.eq_of_address hfields (.child (mem_walk.1 hr) hd) (.child hw hc) haddress
    exact eq_of_mem_children (heq ▸ hd) hc

theorem linkParents_child (hfields : program.DistinctFields) (hq : (root program).Within q) (hp : p ∈ q.children) :
    linkParents links program p.address = some q := by
  rw [linkParents_apply hfields (.child hq hp), parent?_of_mem_children hp]

/-- A place below the root is a child of its `parent?` and of nothing else. -/
theorem Within.parent?_eq_some_iff (hp : (root program).Within p) (hne : p ≠ root program) :
    p.parent? = some q ↔ p ∈ q.children := by
  refine ⟨fun h => ?_, parent?_of_mem_children⟩
  cases hp with
  | self => exact absurd rfl hne
  | child _ hc => exact Option.some.inj ((parent?_of_mem_children hc).symm.trans h) ▸ hc

@[simp] theorem head?_chain (p : Place) : p.chain.head? = some p := by
  obtain ⟨n, _ | ⟨f, rest⟩⟩ := p <;> rfl

/-- In the `chain` of a place comes each time the parent, and the root comes last. -/
theorem Within.chain_follows (hp : (root program).Within p) :
    p.chain.IsChain (fun a b => a.parent? = some b) ∧ p.chain.getLast? = some (root program) := by
  induction hp with
  | self => exact ⟨.singleton _, rfl⟩
  | @child q c _ hc ih =>
    rw [chain_of_mem_children hc]
    refine ⟨ih.1.cons fun a ha => ?_, ?_⟩
    · rw [head?_chain] at ha
      cases ha
      exact parent?_of_mem_children hc
    · rw [List.getLast?_cons, ih.2]
      rfl

end Place

/-! ## Order in the text -/

open Place

/-- The spans of a tree go forwards with its nodes: none ends before it starts, every child lies inside its
parent, and no child ends behind the start of one after it. -/
structure Node.InOrder (program : Node) : Prop where
  proper : ∀ p ∈ (root program).walk, p.node.span.start ≤ p.node.span.stop
  inside : ∀ p ∈ (root program).walk, ∀ c ∈ p.children, p.contains c = true
  apart : ∀ p ∈ (root program).walk, p.children.Pairwise fun c d => c.node.span.stop ≤ d.node.span.start

namespace Node.InOrder

variable {program : Node} {p q : Place}

/-- What lies at or below a place starts in its span. -/
theorem start_mem (h : program.InOrder) (hp : (root program).Within p) (hq : p.Within q) :
    p.node.span.start ≤ q.node.span.start ∧ q.node.span.start ≤ p.node.span.stop := by
  have hcontains : p.contains q = true := by
    induction hq with
    | self => exact contains_iff.2 ⟨le_rfl, le_rfl⟩
    | child hw hc ih => exact contains_trans ih (h.inside _ (mem_walk.2 (hp.trans hw)) _ hc)
  have hproper := h.proper q (mem_walk.2 (hp.trans hq))
  rw [contains_iff] at hcontains
  exact ⟨hcontains.1, hproper.trans hcontains.2⟩

theorem pairwise_preorder (h : program.InOrder) (hp : (root program).Within p) :
    p.preorder.Pairwise fun a b => a.node.span.start ≤ b.node.span.start := by
  induction p using Place.induction with
  | step p ih =>
    rw [preorder_eq, List.pairwise_cons, List.pairwise_flatMap]
    refine ⟨fun q hq => ?_, fun c hc => ih c hc (.child hp hc), ?_⟩
    · obtain ⟨c, hc, hq⟩ := List.mem_flatMap.1 hq
      exact (h.start_mem hp ((mem_preorder.1 hq).of_child hc)).1
    · -- between what lies below two children stand the end of the first one and the start of the second one
      refine (h.apart p (mem_walk.2 hp)).imp_of_mem fun {c d} hc hd hcd a ha b hb => ?_
      have hleft := (h.start_mem (.child hp hc) (mem_preorder.1 ha)).2
      have hright := (h.start_mem (.child hp hd) (mem_preorder.1 hb)).1
      exact hleft.trans (hcd.trans hright)

theorem pairwise_bareCatches (h : program.InOrder) :
    ((root program).bareCatches.map fun p => p.node.span.start).Pairwise (· ≤ ·) := by
  have hwalk := h.pairwise_preorder .self
  rw [← walk_eq_preorder] at hwalk
  exact List.pairwise_map.2 (hwalk.filter _)

end Node.InOrder

/-! ## Trees of documents -/

namespace Node

/-- In the tree that `ofDocument` makes of a document, whose objects have distinct names as in all that is read, the
walk from any place comes to an end, with enough steps for the nodes, and is the recursive `preorder`. From the root
it comes to every place of the tree once. After `linkParents` the root has no parent, any other place has the one that
it is a child of, and parents lead from every place to the root. If the tree is `InOrder`, with spans that go
forwards, the catch clauses without a binding are listed in the order of their starts. -/
theorem walk_and_links_exact {d : Document} {program : Node} (hd : d.Everywhere DistinctNames .tree)
    (h : ofDocument d = .ok program) (links : ParentLinks) :
    (∀ p : Place, p.preorder = p :: p.children.flatMap preorder ∧
      ∀ fuel, p.node.size ≤ fuel → walkStack fuel [p] = p.preorder) ∧
    ((root program).walk.map address).Nodup ∧ (∀ p, p ∈ (root program).walk ↔ (root program).Within p) ∧
    (∀ p ∈ (root program).walk, linkParents links program p.address = p.parent?) ∧
    linkParents links program (root program).address = none ∧
    (∀ m ∈ (root program).walk, m ≠ root program →
      ∀ p, linkParents links program m.address = some p ↔ m ∈ p.children) ∧
    (∀ m ∈ (root program).walk, m.chain.head? = some m ∧
      m.chain.IsChain (fun a b => linkParents links program a.address = some b) ∧
      m.chain.getLast? = some (root program)) ∧
    (program.InOrder → ((root program).bareCatches.map fun p => p.node.span.start).Pairwise (· ≤ ·)) := by
  have hfields := distinctFields_of_ofDocument hd h
  have hlinks : ∀ p ∈ (root program).walk, linkParents links program p.address = p.parent? :=
    fun p hp => linkParents_apply hfields (mem_walk.1 hp)
  refine ⟨fun p => ⟨p.preorder_eq, fun _ => p.walkStack_eq_preorder⟩, nodup_walk_addresses hfields,
    fun p => mem_walk, hlinks, hlinks _ (mem_walk.2 .self), fun m hm hne p => ?_, fun m hm => ?_,
    InOrder.pairwise_bareCatches⟩
  · rw [hlinks m hm]
    exact (mem_walk.1 hm).parent?_eq_some_iff hne
  · obtain ⟨hchain, hlast⟩ := (mem_walk.1 hm).chain_follows
    refine ⟨m.head?_chain, ?_, hlast⟩
    -- a chain stays in the tree
    refine hchain.imp_of_mem_imp fun a b ha _ hab => ?_
    rw [hlinks a (mem_walk.2 ((mem_walk.1 hm).of_mem_chain ha)), hab]

/-! `try{}catch{try{}catch{}}`, whose clauses are places 3 and 7. -/

namespace Sample

def document (kind : String) (start stop : Int) (fields : List (String × Document)) : Document :=
  .object ([("type", .text kind), ("range", .list [.int start, .int stop])] ++ fields)

def tryCatch (start : Int) (body : List Document) (stop : Int) : Document :=
  document "TryStatement" start stop [
    ("block", document "BlockStatement" (start + 3) (start + 5) [("body", .list [])]),
    ("handler", document "CatchClause" (start + 5) stop [
      ("param", .null), ("body", document "BlockStatement" (start + 10) stop [("body", .list body)])])]

def nested : Document := document "Program" 0 24 [("body", .list [tryCatch 0 [tryCatch 11 [] 23] 24])]

/-- A clause inside a block, and behind the block an empty span that starts where the block does. -/
def emptyBehind : Document :=
  document "Program" 0 10 [("body", .list [
    document "BlockStatement" 5 9 [("body", .list [document "CatchClause" 7 8 []])],
    document "CatchClause" 5 5 []])]

end Sample

theorem walk_and_links_exact_sample :
    Sample.nested.Everywhere DistinctNames .tree ∧ ∃ program, ofDocument Sample.nested = .ok program ∧
      program.InOrder ∧ (root program).bareCatches = [.nth program 3, .nth program 7] ∧
      ([Place.nth program 3, .nth program 7].map fun p => p.node.span.start).Pairwise (· ≤ ·) ∧
      linkParents (fun _ => none) program (Place.nth program 3).address = some (.nth program 1) := by
  have hnames : Sample.nested.Everywhere DistinctNames .tree := by
    simp [Sample.nested, Sample.tryCatch, Sample.document, Everywhere, EverywhereUnder, EverywhereIn, DistinctNames]
  obtain ⟨program, h, horder, hclauses, hlength, hchild, hroot⟩ :
      ∃ program, ofDocument Sample.nested = .ok program ∧ program.InOrder ∧
        (root program).bareCatches = [.nth program 3, .nth program 7] ∧ 3 < (root program).walk.length ∧
        Place.nth program 3 ∈ (Place.nth program 1).children ∧ (Place.nth program 3).address ≠ [] :=
    ⟨_, rfl, ⟨by decide, by decide, by decide⟩, rfl, by decide, .tail _ (.head _), by decide⟩
  obtain ⟨-, -, -, -, -, hparents, -, hstarts⟩ := walk_and_links_exact hnames h fun _ => none
  have hne : Place.nth program 3 ≠ root program := fun heq => hroot (heq ▸ rfl)
  exact ⟨hnames, program, h, horder, hclauses, hclauses ▸ hstarts horder,
    (hparents _ (Place.nth_mem_walk hlength) hne _).2 hchild⟩

/-- A tree need not be `InOrder` if children start in their order, inside their parent and apart from each other: in
`Sample.emptyBehind` an empty span stands behind a block, before all that the block holds. -/
theorem bareCatches_not_in_order :
    Sample.emptyBehind.Everywhere DistinctNames .tree ∧ ∃ program, ofDocument Sample.emptyBehind = .ok program ∧
      (∀ p ∈ (root program).walk, p.node.span.start ≤ p.node.span.stop) ∧
      (∀ p ∈ (root program).walk, ∀ c ∈ p.children, p.contains c = true) ∧
      (∀ p ∈ (root program).walk, p.children.Pairwise fun c d =>
        c.node.span.start ≤ d.node.span.start ∧ c.node.span.Disjoint d.node.span) ∧
      ¬ ((root program).bareCatches.map fun p => p.node.span.start).Pairwise (· ≤ ·) := by
  have hnames : Sample.emptyBehind.Everywhere DistinctNames .tree := by
    simp [Sample.emptyBehind, Sample.document, Everywhere, EverywhereUnder, EverywhereIn, DistinctNames]
  exact ⟨hnames, _, rfl, by decide, by decide, by decide, by decide⟩

end Node

end CatchAudit
