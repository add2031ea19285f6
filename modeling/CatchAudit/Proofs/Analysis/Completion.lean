/-
The analysis of a variable has a result on every tree in which the nodes of each kind have the fields
that are read off them. Each question of the analysis asks about the places above an identifier, and a
field is read only where the kind of the node promises it. The right-hand side that is pending from one
reference to the next is always a node.
-/
import CatchAudit.Proofs.Analysis.Enclosure

namespace CatchAudit

/-! ## Nodes with the fields that are read off them -/

namespace Field

def isNode (f : Field) : Bool := f.node?.isSome

/-- A list that is not empty. -/
def isFilledList : Field → Bool
  | .list items => !items.isEmpty
  | _ => false

/-- A list of nodes. -/
def isNodeList : Field → Bool
  | .list items => items.all isNode
  | _ => false

theorem isNode_iff {f : Field} : f.isNode = true ↔ ∃ n, f = .node n := by
  cases f <;> simp [isNode, node?]

theorem isFilledList_iff {f : Field} : f.isFilledList = true ↔ ∃ items, f = .list items ∧ items ≠ [] := by
  cases f <;> simp [isFilledList]

theorem isNodeList_iff {f : Field} :
    f.isNodeList = true ↔ ∃ items, f = .list items ∧ ∀ x ∈ items, ∃ n, x = .node n := by
  cases f <;> simp [isNodeList, isNode_iff]

end Field

namespace Node

/-- `n.field? name` is there and passes a test. -/
def HasField (n : Node) (name : String) (test : Field → Bool) : Prop := (n.field? name).any test = true

instance (n : Node) (name : String) (test : Field → Bool) : Decidable (n.HasField name test) :=
  inferInstanceAs (Decidable (_ = true))

theorem hasField_iff {n : Node} {name : String} {test : Field → Bool} :
    n.HasField name test ↔ ∃ f, n.field? name = some f ∧ test f = true :=
  Option.any_eq_true ..

/-- The kind is a text, and nodes of certain kinds have certain fields: a `SequenceExpression` its `expressions`, a
`CallExpression` its `callee`, an `AssignmentExpression` both sides, a `ForInStatement` its body and a
`BlockStatement` its statements. -/
@[mk_iff]
structure Shaped (n : Node) : Prop where
  kind : n.kind.shape = .text
  sequence : n.isKind "SequenceExpression" = true → n.HasField "expressions" Field.isFilledList
  call : n.isKind "CallExpression" = true ∨ n.isKind "NewExpression" = true → n.HasField "callee" fun _ => true
  left : n.isKind "AssignmentExpression" = true → n.HasField "left" fun _ => true
  right : n.isKind "AssignmentExpression" = true → n.HasField "right" Field.isNode
  forIn : n.isKind "ForInStatement" = true → n.HasField "body" Field.isNode
  block : n.isKind "BlockStatement" = true → n.HasField "body" Field.isNodeList

instance (n : Node) : Decidable n.Shaped := decidable_of_iff' _ n.shaped_iff

namespace Shaped

variable {n : Node}

theorem kind_eq (h : n.Shaped) : ∃ name, n.kind = .text name := by
  have hkind := h.kind
  cases hn : n.kind with
  | text name => exact ⟨name, rfl⟩
  | moment m => cases m <;> simp [hn, Document.shape] at hkind
  | _ => simp [hn, Document.shape] at hkind

theorem hasKindIn_eq (h : n.Shaped) (names : List String) : n.hasKindIn names = .ok (names.any n.isKind) := by
  obtain ⟨name, hname⟩ := h.kind_eq
  unfold hasKindIn isKind
  rw [hname]
  rfl

theorem isFunction_succeeds (h : n.Shaped) : Succeeds n.isFunction := ⟨_, h.hasKindIn_eq functionKinds⟩

theorem isLoop_succeeds (h : n.Shaped) : Succeeds n.isLoop := ⟨_, h.hasKindIn_eq loopKinds⟩

theorem isStatement_succeeds (h : n.Shaped) : Succeeds n.isStatement := by
  obtain ⟨name, hname⟩ := h.kind_eq
  unfold isStatement
  rw [hname]
  exact succeeds_ok _

end Shaped

end Node

/-! ## Fields of a place -/

namespace Place

variable {p q : Place} {n : Node} {frames : List Frame} {name : String}

theorem field_eq (hname : isReserved name = false) {f : Field} (h : p.node.field? name = some f) :
    p.field name = .ok (p.operand name f) := by
  simp [field, hname, operand?, h]

theorem field_succeeds (hname : isReserved name = false) {test : Field → Bool} (h : p.node.HasField name test) :
    Succeeds (p.field name) := by
  obtain ⟨f, hf, -⟩ := Node.hasField_iff.1 h
  exact ⟨_, field_eq hname hf⟩

/-- A field that `HasField` says holds a node is one of the `children`. -/
theorem exists_child_of_isNode (hname : isReserved name = false) (h : p.node.HasField name Field.isNode) :
    ∃ c ∈ p.children, p.field name = .ok (.place c) := by
  obtain ⟨f, hf, hnode⟩ := Node.hasField_iff.1 h
  obtain ⟨m, rfl⟩ := Field.isNode_iff.1 hnode
  have hfield := field_eq hname hf
  exact ⟨_, (field_place hfield).1, hfield⟩

theorem lastItem_succeeds (hname : isReserved name = false) (h : p.node.HasField name Field.isFilledList) :
    Succeeds (p.lastItem name) := by
  obtain ⟨f, hf, hlist⟩ := Node.hasField_iff.1 h
  obtain ⟨items, rfl, hne⟩ := Field.isFilledList_iff.1 hlist
  have hlast := List.getLast?_eq_some_getLast hne
  unfold lastItem
  rw [field_eq hname hf]
  refine (succeeds_ok _).bind fun x hx => ?_
  cases hx
  simp only [operand, hlast]
  cases items.getLast hne <;> exact succeeds_ok _

/-! ## Questions about the places above -/

theorem loopFirst_succeeds : ∀ {ps : List Place}, (∀ p ∈ ps, p.node.Shaped) → Succeeds (loopFirst ps)
  | [], _ => succeeds_ok _
  | p :: rest, h => by
    have hp := h p (List.mem_cons_self ..)
    unfold loopFirst
    refine hp.isFunction_succeeds.bind fun function _ => ?_
    cases function with
    | true => exact succeeds_ok _
    | false =>
      refine hp.isLoop_succeeds.bind fun loop _ => ?_
      cases loop with
      | true => exact succeeds_ok _
      | false => exact loopFirst_succeeds fun q hq => h q (List.mem_cons_of_mem _ hq)

theorem firstFunction?_succeeds : ∀ {ps : List Place}, (∀ p ∈ ps, p.node.Shaped) → Succeeds (firstFunction? ps)
  | [], _ => succeeds_ok _
  | p :: rest, h => by
    unfold firstFunction?
    refine (h p (List.mem_cons_self ..)).isFunction_succeeds.bind fun function _ => ?_
    cases function with
    | true => exact succeeds_ok _
    | false => exact firstFunction?_succeeds fun q hq => h q (List.mem_cons_of_mem _ hq)

theorem unusedFrom_succeeds : ∀ {n : Node} {frames : List Frame}, (∀ q ∈ chainFrom n frames, q.node.Shaped) →
    Succeeds (unusedFrom n frames)
  | _, [], _ => succeeds_ok _
  | n, f :: rest, h => by
    have hrest : ∀ q ∈ chainFrom f.parent rest, q.node.Shaped := fun q hq => h q (List.mem_cons_of_mem _ hq)
    have hparent : f.parent.Shaped := hrest _ (mem_chain_self ⟨f.parent, rest⟩)
    unfold unusedFrom
    split
    · exact succeeds_ok _
    · split
      · next hsequence =>
        -- the list of a sequence is not empty, so that there is a last item to compare with
        refine (lastItem_succeeds (by decide) (hparent.sequence hsequence)).bind fun last _ => ?_
        split
        · exact unusedFrom_succeeds hrest
        · exact succeeds_ok _
      · exact succeeds_ok _

theorem closureShape_succeeds {parent : Place} (h : parent.node.Shaped) : Succeeds (closureShape p parent) := by
  unfold closureShape
  dsimp only
  split
  · next hsequence =>
    exact (lastItem_succeeds (by decide) (h.sequence hsequence)).bind fun _ _ => succeeds_ok _
  · split
    · next hcall =>
      rw [Bool.or_eq_true] at hcall
      exact (field_succeeds (by decide) (h.call hcall)).bind fun _ _ => succeeds_ok _
    · repeat' split
      · exact succeeds_ok _
      · exact succeeds_ok _
      · exact succeeds_ok _
      · exact h.isStatement_succeeds.bind fun _ _ => succeeds_ok _

/-- A right-hand side that is a `.place` can always be asked what it contains, so that `storableFrom` has a result
where all nodes on the way are `Shaped`. -/
theorem storableFrom_succeeds {r : Place} : ∀ {n : Node} {frames : List Frame},
    (∀ q ∈ chainFrom n frames, q.node.Shaped) → Succeeds (storableFrom (.place r) n frames)
  | _, [], _ => succeeds_ok _
  | n, f :: rest, h => by
    have hrest : ∀ q ∈ chainFrom f.parent rest, q.node.Shaped := fun q hq => h q (List.mem_cons_of_mem _ hq)
    have hparent : f.parent.Shaped := hrest _ (mem_chain_self ⟨f.parent, rest⟩)
    unfold storableFrom
    -- whether `r` contains the place is a comparison of spans, as `r` is a node
    refine (succeeds_ok _).bind fun inside _ => ?_
    cases inside with
    | false => exact succeeds_ok _
    | true =>
      refine (closureShape_succeeds hparent).bind fun shape _ => ?_
      cases shape.verdict? with
      | some kept => exact succeeds_ok _
      | none => exact storableFrom_succeeds hrest

theorem isInsideStorable_succeeds {r : Place} (h : ∀ q ∈ p.chain, q.node.Shaped) :
    Succeeds (p.isInsideStorable (.place r)) := by
  unfold isInsideStorable
  refine (firstFunction?_succeeds h).bind fun function hf => ?_
  cases function with
  | none => exact succeeds_ok _
  | some function =>
    refine (succeeds_ok _).bind fun inside _ => ?_
    cases inside with
    | false => exact succeeds_ok _
    | true => exact storableFrom_succeeds fun q hq => h q (chain_subset (mem_of_firstFunction? hf) hq)

end Place

/-! ## Trees -/

/-- Every node of the tree is `Shaped`. -/
def Node.WellShaped (program : Node) : Prop := ∀ p ∈ (Place.root program).walk, p.node.Shaped

instance (program : Node) : Decidable program.WellShaped :=
  inferInstanceAs (Decidable (∀ p ∈ (Place.root program).walk, p.node.Shaped))

namespace Node.WellShaped

variable {program : Node} {p q : Place}

theorem shaped (h : program.WellShaped) (hp : (Place.root program).Within p) : p.node.Shaped :=
  h p (Place.mem_walk.2 hp)

theorem chain (h : program.WellShaped) (hp : (Place.root program).Within p) : ∀ q ∈ p.chain, q.node.Shaped :=
  fun _ hq => h.shaped (hp.of_mem_chain hq)

theorem isUnusedExpression_succeeds (h : program.WellShaped) (hp : (Place.root program).Within p) :
    Succeeds p.isUnusedExpression := Place.unusedFrom_succeeds (h.chain hp)

/-- The body of a `ForInStatement` is a node, and if that is a block, so is its first statement; hence `leavesAtOnce`
has a result. -/
theorem leavesAtOnce_succeeds (h : program.WellShaped) (hp : (Place.root program).Within p)
    (hkind : p.node.isKind "ForInStatement" = true) : Succeeds (Reference.leavesAtOnce p) := by
  obtain ⟨block, hchild, hbody⟩ := Place.exists_child_of_isNode (by decide) ((h.shaped hp).forIn hkind)
  have hblock := h.shaped (hp.child hchild)
  unfold Reference.leavesAtOnce
  rw [hbody]
  refine (succeeds_ok (Operand.place block)).bind fun _ heq => ?_
  cases heq
  refine (succeeds_ok block.node.kind).bind fun kind heq => ?_
  cases heq
  by_cases hempty : block.node.kind.isText "EmptyStatement" = true
  · rw [if_pos hempty]
    exact succeeds_ok _
  · rw [if_neg hempty]
    by_cases hkind : block.node.kind.isText "BlockStatement" = true
    · dsimp only
      rw [if_pos hkind]
      obtain ⟨f, hf, hlist⟩ := Node.hasField_iff.1 (hblock.block hkind)
      obtain ⟨items, rfl, hitems⟩ := Field.isNodeList_iff.1 hlist
      have hfield := Place.field_eq (p := block) (by decide) hf
      rw [hfield]
      -- an empty block ends here; the first statement of any other is asked for its kind
      cases items with
      | nil => exact succeeds_ok _
      | cons x rest =>
        obtain ⟨n, rfl⟩ := hitems x (List.mem_cons_self ..)
        unfold Place.firstItem
        rw [hfield]
        exact succeeds_ok _
    · dsimp only
      rw [if_neg hkind]
      exact succeeds_ok _

end Node.WellShaped

/-! ## References -/

/-- The operand is a node. -/
def Operand.IsNode (x : Operand) : Prop := ∃ p, x = .place p

namespace Reference

variable {program : Node} {forest : Forest} {ref : Reference} {pending : Option Operand}

theorem canBeUsedLater_succeeds (h : program.WellShaped) (hr : (Place.root program).Within ref.identifier) :
    Succeeds (ref.canBeUsedLater forest) := by
  unfold canBeUsedLater
  split
  · exact Place.loopFirst_succeeds (h.chain hr)
  · exact succeeds_ok _

theorem opens_succeeds (h : program.WellShaped) (hr : (Place.root program).Within ref.identifier) :
    Succeeds (ref.opens forest) := by
  unfold opens
  cases hp : ref.identifier.parent? with
  | none => exact succeeds_ok _
  | some parent =>
    dsimp only
    cases hg : parent.parent? with
    | none => exact succeeds_ok _
    | some grandparent =>
      dsimp only
      split
      · next hkinds =>
        have hshaped := h.shaped (hr.parent?_eq_some hp)
        have hkind := (Bool.and_eq_true_iff.1 hkinds).1
        refine (Place.field_succeeds (by decide) (hshaped.left hkind)).bind fun left _ => ?_
        split
        · exact succeeds_ok _
        · refine (canBeUsedLater_succeeds h hr).bind fun later _ => ?_
          cases later with
          | true => exact succeeds_ok _
          | false =>
            refine (Place.field_succeeds (by decide) (hshaped.right hkind)).bind fun right _ => ?_
            split <;> exact succeeds_ok _
      · exact succeeds_ok _

/-- What `Reference.opens` gives is the right-hand side of an assignment, hence a node. -/
theorem opens_isNode (h : program.WellShaped) (hr : (Place.root program).Within ref.identifier) {right : Operand}
    (hopens : ref.opens forest = .ok (some right)) : right.IsNode := by
  unfold opens at hopens
  cases hp : ref.identifier.parent? with
  | none => rw [hp] at hopens; cases hopens
  | some parent =>
    rw [hp] at hopens
    dsimp only at hopens
    cases hg : parent.parent? with
    | none => rw [hg] at hopens; cases hopens
    | some grandparent =>
      rw [hg] at hopens
      dsimp only at hopens
      split at hopens
      · next hkinds =>
        obtain ⟨left, -, hopens⟩ := bind_ok hopens
        split at hopens
        · cases hopens
        · obtain ⟨later, -, hopens⟩ := bind_ok hopens
          cases later with
          | true => cases hopens
          | false =>
            have hshaped := h.shaped (hr.parent?_eq_some hp)
            obtain ⟨c, -, hc⟩ := Place.exists_child_of_isNode (by decide)
              (hshaped.right (Bool.and_eq_true_iff.1 hkinds).1)
            obtain ⟨value, hvalue, hopens⟩ := bind_ok hopens
            rw [hc] at hvalue
            cases hvalue
            cases hopens
            exact ⟨c, rfl⟩
      · cases hopens

theorem nextPending_succeeds (h : program.WellShaped) (hr : (Place.root program).Within ref.identifier)
    (hpending : ∀ right ∈ pending, right.IsNode) : Succeeds (ref.nextPending forest pending) := by
  cases pending with
  | none => exact opens_succeeds h hr
  | some right =>
    obtain ⟨r, rfl⟩ := hpending right rfl
    unfold nextPending
    refine (succeeds_ok (r.contains ref.identifier)).bind fun inside _ => ?_
    cases inside with
    | true => exact succeeds_ok _
    | false => exact opens_succeeds h hr

theorem nextPending_isNode (h : program.WellShaped) (hr : (Place.root program).Within ref.identifier)
    (hpending : ∀ right ∈ pending, right.IsNode) {next : Option Operand}
    (hnext : ref.nextPending forest pending = .ok next) : ∀ right ∈ next, right.IsNode := by
  rintro right rfl
  cases pending with
  | none => exact opens_isNode h hr hnext
  | some old =>
    obtain ⟨inside, -, hnext⟩ := bind_ok hnext
    cases inside with
    | true => cases hnext; exact hpending _ rfl
    | false => exact opens_isNode h hr hnext

theorem isSelfUpdate_succeeds (h : program.WellShaped) (hr : (Place.root program).Within ref.identifier) :
    Succeeds ref.isSelfUpdate := by
  unfold isSelfUpdate
  cases hp : ref.identifier.parent? with
  | none => exact succeeds_ok _
  | some parent =>
    have hparent := hr.parent?_eq_some hp
    dsimp only
    split
    · next hkind =>
      refine (Place.field_succeeds (by decide) ((h.shaped hparent).left hkind)).bind fun left _ => ?_
      split
      · exact h.isUnusedExpression_succeeds hparent
      · exact succeeds_ok _
    · split
      · exact h.isUnusedExpression_succeeds hparent
      · exact succeeds_ok _

theorem isReadForItself_succeeds (h : program.WellShaped) (hr : (Place.root program).Within ref.identifier)
    (hpending : ∀ right ∈ pending, right.IsNode) : Succeeds (ref.isReadForItself pending) := by
  unfold isReadForItself
  split
  · exact succeeds_ok _
  · refine (isSelfUpdate_succeeds h hr).bind fun update _ => ?_
    cases update with
    | true => exact succeeds_ok _
    | false =>
      cases pending with
      | none => exact succeeds_ok _
      | some right =>
        obtain ⟨r, rfl⟩ := hpending right rfl
        refine (succeeds_ok (r.contains ref.identifier)).bind fun inside _ => ?_
        cases inside with
        | false => exact succeeds_ok _
        | true => exact (Place.isInsideStorable_succeeds (h.chain hr)).bind fun _ _ => succeeds_ok _

theorem loopHead?_within (hr : (Place.root program).Within ref.identifier) {loop : Place}
    (hloop : ref.loopHead? = some loop) : (Place.root program).Within loop := by
  unfold loopHead? at hloop
  cases hp : ref.identifier.parent? with
  | none => rw [hp] at hloop; cases hloop
  | some target =>
    rw [hp] at hloop
    dsimp only at hloop
    split at hloop
    · obtain ⟨declaration, hd, hloop⟩ := Option.bind_eq_some_iff.1 hloop
      exact ((hr.parent?_eq_some hp).parent?_eq_some hd).parent?_eq_some hloop
    · cases hloop
      exact hr.parent?_eq_some hp

theorem isForIn_succeeds (h : program.WellShaped) (hr : (Place.root program).Within ref.identifier) :
    Succeeds ref.isForIn := by
  unfold isForIn
  cases hloop : ref.loopHead? with
  | none => exact succeeds_ok _
  | some loop =>
    dsimp only
    split
    · next hkind => exact h.leavesAtOnce_succeeds (loopHead?_within hr hloop) hkind
    · exact succeeds_ok _

end Reference

/-! ## Runs over references -/

namespace Usage

variable {program : Node} {forest : Forest} {u : Usage} {ref : Reference}

theorem step_succeeds (h : program.WellShaped) (hr : (Place.root program).Within ref.identifier)
    (hu : ∀ right ∈ u.pending, right.IsNode) : Succeeds (u.step forest ref) := by
  unfold step
  refine (ref.isForIn_succeeds h hr).bind fun forIn _ => ?_
  cases forIn with
  | true => exact succeeds_ok _
  | false =>
    refine (ref.isReadForItself_succeeds h hr hu).bind fun forItself _ => ?_
    exact (ref.nextPending_succeeds h hr hu).bind fun _ _ => succeeds_ok _

/-- One `Usage.step` keeps what is pending a node. -/
theorem step_isNode (h : program.WellShaped) (hr : (Place.root program).Within ref.identifier)
    (hu : ∀ right ∈ u.pending, right.IsNode) {u' : Usage} (hstep : u.step forest ref = .ok u') :
    ∀ right ∈ u'.pending, right.IsNode := by
  obtain ⟨forIn, -, hstep⟩ := bind_ok hstep
  cases forIn with
  | true => cases hstep; exact hu
  | false =>
    obtain ⟨forItself, -, hstep⟩ := bind_ok hstep
    obtain ⟨pending, hpending, hstep⟩ := bind_ok hstep
    cases hstep
    exact ref.nextPending_isNode h hr hu hpending

theorem anyUse_succeeds (h : program.WellShaped) : ∀ {refs : List Reference} {u : Usage},
    (∀ ref ∈ refs, (Place.root program).Within ref.identifier) → (∀ right ∈ u.pending, right.IsNode) →
    Succeeds (u.anyUse forest refs)
  | [], _, _, _ => succeeds_ok _
  | ref :: rest, u, hrefs, hu => by
    have hr := hrefs ref (List.mem_cons_self ..)
    unfold anyUse
    -- what is pending is a node before each step: at first nothing is, and `step_isNode` hands it on
    refine (step_succeeds h hr hu).bind fun u' hu' => ?_
    split
    · exact succeeds_ok _
    · exact anyUse_succeeds h (fun r hr => hrefs r (List.mem_cons_of_mem _ hr)) (step_isNode h hr hu hu')

end Usage

/-- The analysis of a variable by `isUsed` has a result if the tree is `WellShaped`. -/
theorem Variable.isUsed_succeeds {program : Node} (h : program.WellShaped) (forest : Forest) {v : Variable}
    (hv : ∀ ref ∈ v.references, (Place.root program).Within ref.identifier) : Succeeds (v.isUsed forest) :=
  Usage.anyUse_succeeds h hv fun _ hright => by cases hright

end CatchAudit
