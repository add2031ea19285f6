/-
Variables of loops over keys. A loop `for (x in o)` whose body leaves it at once counts as a use of the
variable that it assigns to. The analysis looks for such a loop above an identifier, but not at the role in
which the identifier stands there. It finds every variable that a loop assigns to; in trees whose nodes have
the fields of their kind it also takes the object that a loop goes through, and the initial value of a
declaration in the head, for the variable. In these two roles, and in no other, the answer is wrong.
-/
import CatchAudit.Proofs.Analysis.Enclosure
import CatchAudit.Proofs.Syntax.Distinct

namespace CatchAudit

/-! ## Loops that are left at once -/

theorem Document.isText_iff {d : Document} {s : String} : d.isText s = true ↔ d = .text s := by
  cases d <;> simp [isText]

theorem Node.isKind_iff {n : Node} {name : String} : n.isKind name = true ↔ n.kind = .text name :=
  Document.isText_iff

/-- A node has one kind. -/
theorem Node.isKind_eq_false {n : Node} {name other : String} (h : n.isKind name = true) (hne : name ≠ other) :
    n.isKind other = false := by
  rw [← Bool.not_eq_true, isKind_iff, isKind_iff.1 h, Document.text.injEq]
  exact hne

/-- A body that leaves its loop at once: a `ReturnStatement`, an `EmptyStatement`, an empty `BlockStatement`, or one
that starts with a return. -/
inductive Node.Leaves (body : Node) : Prop
  | returns (kind : body.isKind "ReturnStatement" = true)
  | empty (kind : body.isKind "EmptyStatement" = true)
  | emptyBlock {x : Field} (kind : body.isKind "BlockStatement" = true) (field : body.field? "body" = some x)
      (nothing : x.truthy = false)
  | block {first : Node} {rest : List Field} (kind : body.isKind "BlockStatement" = true)
      (field : body.field? "body" = some (.list (.node first :: rest)))
      (returns : first.isKind "ReturnStatement" = true)

/-- What a `BlockStatement` holds decides whether it `Leaves` its loop at once. -/
theorem Node.leaves_iff_of_block {body : Node} {x : Field} (hblock : body.isKind "BlockStatement" = true)
    (hx : body.field? "body" = some x) : body.Leaves ↔
      x.truthy = false ∨ ∃ first rest, x = .list (.node first :: rest) ∧ first.isKind "ReturnStatement" = true := by
  constructor
  · intro h
    cases h with
    | returns hkind => cases hblock.symm.trans (isKind_eq_false hkind (by decide))
    | empty hkind => cases hblock.symm.trans (isKind_eq_false hkind (by decide))
    | emptyBlock _ hfield hnothing =>
      cases hx.symm.trans hfield
      exact .inl hnothing
    | block _ hfield hreturns =>
      cases hx.symm.trans hfield
      exact .inr ⟨_, _, rfl, hreturns⟩
  · rintro (hnothing | ⟨first, rest, rfl, hreturns⟩)
    · exact .emptyBlock hblock hx hnothing
    · exact .block hblock hx hreturns

/-- What is neither an `EmptyStatement` nor a `BlockStatement` leaves its loop at once only as a return. -/
theorem Node.leaves_iff_returns {body : Node} (hempty : ¬ body.isKind "EmptyStatement" = true)
    (hblock : ¬ body.isKind "BlockStatement" = true) : body.Leaves ↔ body.isKind "ReturnStatement" = true := by
  constructor
  · intro h
    cases h with
    | returns hkind => exact hkind
    | empty hkind => exact absurd hkind hempty
    | emptyBlock hkind _ _ => exact absurd hkind hblock
    | block hkind _ _ => exact absurd hkind hblock
  · exact .returns

namespace Place

/-- A `ForInStatement` whose body `Leaves` it at once. -/
structure LeftAtOnce (loop : Place) : Prop where
  isForIn : loop.node.isKind "ForInStatement" = true
  body : ∃ body, loop.node.field? "body" = some (.node body) ∧ body.Leaves

variable {loop p q : Place} {name : String} {found : Bool}

theorem field_ok_iff (hname : isReserved name = false) {x : Operand} :
    p.field name = .ok x ↔ ∃ f, p.node.field? name = some f ∧ x = p.operand name f := by
  unfold field operand?
  rw [hname, if_neg Bool.false_ne_true]
  cases p.node.field? name with
  | none => simp
  | some f => simp [eq_comm]

theorem operand_truthy (p : Place) (name : String) (f : Field) : (p.operand name f).truthy = f.truthy := by
  cases f <;> rfl

/-- The `firstItem` of a field that is not empty has a kind only if it is a node in a list. -/
theorem firstItem_kind {x : Operand} {kind : Document} (hname : isReserved name = false) {f : Field}
    (hf : p.node.field? name = some f) (h : p.firstItem name = .ok x) (hkind : x.kind = .ok kind) :
    ∃ first rest, f = .list (.node first :: rest) ∧ kind = first.kind := by
  unfold firstItem at h
  obtain ⟨y, hy, h⟩ := bind_ok h
  obtain ⟨g, hg, rfl⟩ := (field_ok_iff hname).1 hy
  cases hf.symm.trans hg
  cases f with
  | node n => cases h
  | list items =>
    cases items with
    | nil => cases h
    | cons item rest =>
      cases item with
      | node first =>
        cases h
        cases hkind
        exact ⟨first, rest, rfl, rfl⟩
      | list inner => cases h; cases hkind
      | data d => cases h; cases hkind
  | data d =>
    -- an item of a text is a text again, and no other data have items
    exfalso
    cases d with
    | text s =>
      dsimp only [operand] at h
      split at h
      · cases h
      · cases h
        cases hkind
    | _ => cases h

end Place

namespace Reference

open Place

variable {ref : Reference} {loop : Place} {found : Bool}

theorem leavesAtOnce_ok (h : leavesAtOnce loop = .ok found) :
    found = true ↔ ∃ body, loop.node.field? "body" = some (.node body) ∧ body.Leaves := by
  unfold leavesAtOnce at h
  obtain ⟨x, hx, h⟩ := bind_ok h
  obtain ⟨kind, hkind, h⟩ := bind_ok h
  obtain ⟨f, hf, rfl⟩ := (field_ok_iff (by decide)).1 hx
  cases f with
  | list items => cases hkind
  | data d => cases hkind
  | node body =>
    cases hkind
    have hbody : (∃ body', loop.node.field? "body" = some (.node body') ∧ body'.Leaves) ↔ body.Leaves := by
      rw [hf]
      simp
    rw [hbody]
    split at h
    · next hempty =>
      cases h
      exact iff_of_true rfl (.empty hempty)
    · next hempty =>
      dsimp only [operand] at h
      split at h
      · next hblock =>
        obtain ⟨content, hcontent, h⟩ := bind_ok h
        obtain ⟨g, hg, rfl⟩ := (field_ok_iff (by decide)).1 hcontent
        rw [operand_truthy] at h
        have hleaves : body.Leaves ↔ _ := Node.leaves_iff_of_block hblock hg
        rw [hleaves]
        -- an empty body counts as leaving at once, so that only a body with a first statement is looked into
        cases htruthy : g.truthy with
        | false =>
          rw [htruthy] at h
          cases h
          exact iff_of_true rfl (.inl rfl)
        | true =>
          rw [htruthy] at h
          obtain ⟨x, hx, h⟩ := bind_ok h
          obtain ⟨kind, hkind, h⟩ := bind_ok h
          obtain ⟨first, rest, rfl, rfl⟩ := firstItem_kind (by decide) hg hx hkind
          cases h
          simp [Node.isKind]
      · next hblock =>
        cases h
        exact (Node.leaves_iff_returns hempty hblock).symm

end Reference

/-! ## Roles at the head of a loop -/

namespace Place

/-- `q` is a node in the list `name` of `p`. -/
def Item (p : Place) (name : String) (q : Place) : Prop :=
  ∃ items i n, p.node.field? name = some (.list items) ∧ items[i]? = some (.node n) ∧
    q = p.child ⟨name, some i⟩ n

/-- The loop has a `VariableDeclaration` on its left, with this declarator. -/
structure Declares (loop declarator : Place) : Prop where
  isDeclarator : declarator.node.isKind "VariableDeclarator" = true
  declaration : ∃ declaration, loop.field "left" = .ok (.place declaration) ∧
    declaration.node.isKind "VariableDeclaration" = true ∧ declaration.Item "declarations" declarator

/-- The loop assigns to `p`: it stands on the left, or a declarator there declares it. -/
inductive Targets (loop p : Place) : Prop
  | left (left : loop.field "left" = .ok (.place p))
  | declared {declarator : Place} (declares : loop.Declares declarator)
      (id : declarator.field "id" = .ok (.place p))

/-- The loop reads `p` before its first turn: it goes through `p`, or a declarator on its left starts with
`p`. -/
inductive Reads (loop p : Place) : Prop
  | right (right : loop.field "right" = .ok (.place p))
  | initial {declarator : Place} (declares : loop.Declares declarator)
      (init : declarator.field "init" = .ok (.place p))

/-- Where the analysis finds a loop: right above `p`, or two steps above a declarator right above `p`. -/
inductive HasAtHead (loop p : Place) : Prop
  | parent (parent : p.parent? = some loop)
  | declarator {declarator declaration : Place} (parent : p.parent? = some declarator)
      (isDeclarator : declarator.node.isKind "VariableDeclarator" = true)
      (outer : declarator.parent? = some declaration) (outermost : declaration.parent? = some loop)

variable {loop p declarator : Place}

theorem Item.parent? {q : Place} {name : String} (h : p.Item name q) : q.parent? = some p := by
  obtain ⟨_, _, _, _, _, rfl⟩ := h
  rfl

theorem Declares.hasAtHead (h : loop.Declares declarator) (hp : p.parent? = some declarator) : loop.HasAtHead p := by
  obtain ⟨declaration, hleft, -, hitem⟩ := h.declaration
  exact .declarator hp h.isDeclarator hitem.parent? (parent?_of_field hleft)

theorem Targets.hasAtHead (h : loop.Targets p) : loop.HasAtHead p := by
  cases h with
  | left left => exact .parent (parent?_of_field left)
  | declared declares id => exact declares.hasAtHead (parent?_of_field id)

theorem Reads.hasAtHead (h : loop.Reads p) : loop.HasAtHead p := by
  cases h with
  | right right => exact .parent (parent?_of_field right)
  | initial declares init => exact declares.hasAtHead (parent?_of_field init)

end Place

namespace Reference

open Place

variable {ref : Reference} {found : Bool}

/-- The loop that `loopHead?` gives is the one that has the identifier at its head. -/
theorem hasAtHead_iff_loopHead? {loop : Place} (hloop : loop.node.isKind "ForInStatement" = true) :
    loop.HasAtHead ref.identifier ↔ ref.loopHead? = some loop := by
  unfold loopHead?
  constructor
  · intro h
    cases h with
    | parent hp =>
      rw [hp]
      dsimp only
      rw [if_neg]
      rw [Node.isKind_eq_false hloop (by decide)]
      exact Bool.false_ne_true
    | declarator hp hkind hd hl =>
      rw [hp]
      dsimp only
      rw [if_pos hkind, hd, Option.bind_some, hl]
  · intro h
    cases hp : ref.identifier.parent? with
    | none =>
      rw [hp] at h
      cases h
    | some target =>
      rw [hp] at h
      dsimp only at h
      split at h
      · next hkind =>
        obtain ⟨declaration, hd, hl⟩ := Option.bind_eq_some_iff.1 h
        exact .declarator hp hkind hd hl
      · cases h
        exact .parent hp

/-- What `isForIn` finds: a loop that is `LeftAtOnce` and has the identifier at its head, in any role. -/
theorem isForIn_ok (h : ref.isForIn = .ok found) :
    found = true ↔ ∃ loop : Place, loop.LeftAtOnce ∧ loop.HasAtHead ref.identifier := by
  unfold isForIn at h
  cases hhead : ref.loopHead? with
  | none =>
    rw [hhead] at h
    cases h
    refine iff_of_false (by simp) ?_
    rintro ⟨loop, hleft, hat⟩
    rw [hasAtHead_iff_loopHead? hleft.isForIn, hhead] at hat
    cases hat
  | some loop =>
    rw [hhead] at h
    -- there is one loop to look at
    have hone : ∀ {other : Place}, other.LeftAtOnce → other.HasAtHead ref.identifier → other = loop := by
      intro other hleft hat
      rw [hasAtHead_iff_loopHead? hleft.isForIn, hhead] at hat
      exact (Option.some.inj hat).symm
    dsimp only at h
    split at h
    · next hkind =>
      rw [leavesAtOnce_ok h]
      constructor
      · intro hbody
        exact ⟨loop, ⟨hkind, hbody⟩, (hasAtHead_iff_loopHead? hkind).2 hhead⟩
      · rintro ⟨other, hleft, hat⟩
        cases hone hleft hat
        exact hleft.body
    · next hkind =>
      cases h
      refine iff_of_false (by simp) ?_
      rintro ⟨other, hleft, hat⟩
      cases hone hleft hat
      exact hkind hleft.isForIn

end Reference

/-! ## Trees whose nodes have the fields of their kind -/

namespace Node

/-- No two fields have one name. The nodes below a `ForInStatement` are its variable, the object, which is no
declaration, and the body; those below a declarator its name and its initial value; and declarators stand in the lists
of declarations. -/
@[mk_iff]
structure LoopShaped (n : Node) : Prop where
  names : (n.fields.map Prod.fst).Nodup
  loop : n.isKind "ForInStatement" = true → ∀ c ∈ n.children,
    c.1 = ⟨"left", none⟩ ∨ c.1 = ⟨"right", none⟩ ∧ c.2.isKind "VariableDeclaration" = false ∨ c.1 = ⟨"body", none⟩
  declarator : n.isKind "VariableDeclarator" = true → ∀ c ∈ n.children, c.1 = ⟨"id", none⟩ ∨ c.1 = ⟨"init", none⟩
  declared : ∀ c ∈ n.children, c.2.isKind "VariableDeclarator" = true →
    n.isKind "VariableDeclaration" = true ∧ c.1.field = "declarations" ∧ c.1.index.isSome = true

instance (n : Node) : Decidable n.LoopShaped := decidable_of_iff' _ n.loopShaped_iff

/-- What `Leaves` a loop is a return, an empty statement or a block. -/
theorem Leaves.isKind_eq_false {body : Node} {name : String} (h : body.Leaves)
    (hname : name ∉ ["ReturnStatement", "EmptyStatement", "BlockStatement"]) : body.isKind name = false := by
  simp only [List.mem_cons, List.not_mem_nil, or_false, not_or] at hname
  cases h with
  | returns hkind => exact Node.isKind_eq_false hkind (Ne.symm hname.1)
  | empty hkind => exact Node.isKind_eq_false hkind (Ne.symm hname.2.1)
  | emptyBlock hkind _ _ => exact Node.isKind_eq_false hkind (Ne.symm hname.2.2)
  | block hkind _ _ => exact Node.isKind_eq_false hkind (Ne.symm hname.2.2)

end Node

namespace Place

variable {program : Node} {loop p declarator : Place}

theorem field_of_child {name : String} {n : Node} (hname : isReserved name = false)
    (hnames : (p.node.fields.map Prod.fst).Nodup) (h : (⟨name, none⟩, n) ∈ p.node.children) :
    p.field name = .ok (.place (p.child ⟨name, none⟩ n)) :=
  (field_ok_iff hname).2 ⟨_, Node.field?_of_child hnames h, rfl⟩

/-- A place that is not the root is a `child` of its `parent?` by some step. -/
theorem Within.exists_step {q : Place} (hp : (root program).Within p) (hq : p.parent? = some q) :
    (root program).Within q ∧ ∃ step, (step, p.node) ∈ q.node.children ∧ p = q.child step p.node := by
  cases hp with
  | self => cases hq
  | child hw hc =>
    obtain ⟨step, n, hn, rfl⟩ := mem_children.1 hc
    cases hq
    exact ⟨hw, step, hn, rfl⟩

/-- A node of a kind that ends no loop stands on the left of a loop that is `LeftAtOnce`, or on its right. -/
theorem LeftAtOnce.left_or_right (h : loop.LeftAtOnce) (hshaped : loop.node.LoopShaped) {step : Step} {n : Node}
    (hn : (step, n) ∈ loop.node.children) {name : String} (hkind : n.isKind name = true)
    (hname : name ∉ ["ReturnStatement", "EmptyStatement", "BlockStatement"]) :
    loop.field "left" = .ok (.place (loop.child step n)) ∨
      loop.field "right" = .ok (.place (loop.child step n)) ∧ n.isKind "VariableDeclaration" = false := by
  rcases hshaped.loop h.isForIn _ hn with rfl | ⟨rfl, hno⟩ | rfl
  · exact .inl (field_of_child (by decide) hshaped.names hn)
  · exact .inr ⟨field_of_child (by decide) hshaped.names hn, hno⟩
  · obtain ⟨body, hbody, hleaves⟩ := h.body
    cases hbody.symm.trans (Node.field?_of_child hshaped.names hn)
    cases hkind.symm.trans (hleaves.isKind_eq_false hname)

/-- What a loop that is `LeftAtOnce` has at its head, by `HasAtHead`, it `Targets` or `Reads`. -/
theorem LeftAtOnce.hasAtHead_iff (h : loop.LeftAtOnce)
    (hshaped : ∀ p ∈ (root program).walk, p.node.LoopShaped) (hp : (root program).Within p)
    (hkind : p.node.isKind "Identifier" = true) : loop.HasAtHead p ↔ loop.Targets p ∨ loop.Reads p := by
  constructor
  · intro hat
    cases hat with
    | parent hparent =>
      obtain ⟨hw, step, hstep, heq⟩ := hp.exists_step hparent
      rcases h.left_or_right (hshaped _ (mem_walk.2 hw)) hstep hkind (by decide) with hleft | ⟨hright, -⟩
      · exact .inl (.left (heq ▸ hleft))
      · exact .inr (.right (heq ▸ hright))
    | @declarator declarator declaration hparent hdeclarator houter houtermost =>
      obtain ⟨hw, step, hstep, heq⟩ := hp.exists_step hparent
      obtain ⟨hw', step', hstep', heq'⟩ := hw.exists_step houter
      obtain ⟨hw'', step'', hstep'', heq''⟩ := hw'.exists_step houtermost
      -- above the declarator stands a declaration, which is on the left of the loop
      obtain ⟨hdeclaration, hfield, hindex⟩ :=
        (hshaped _ (mem_walk.2 hw')).declared _ hstep' hdeclarator
      have hleft : loop.field "left" = .ok (.place declaration) := by
        rcases h.left_or_right (hshaped _ (mem_walk.2 hw'')) hstep'' hdeclaration (by decide) with hleft | ⟨-, hno⟩
        · exact heq'' ▸ hleft
        · cases hdeclaration.symm.trans hno
      obtain ⟨i, hi⟩ := Option.isSome_iff_exists.1 hindex
      have hitem : declaration.Item "declarations" declarator := by
        have hstep'' : step' = ⟨"declarations", some i⟩ := by
          rw [← hfield, ← hi]
        subst hstep''
        obtain ⟨items, hitems, hget⟩ := Node.field?_of_item (hshaped _ (mem_walk.2 hw')).names hstep'
        exact ⟨items, i, _, hitems, hget, heq'⟩
      have hdeclares : loop.Declares declarator := ⟨hdeclarator, declaration, hleft, hdeclaration, hitem⟩
      have hshape := hshaped _ (mem_walk.2 hw)
      rcases hshape.declarator hdeclarator _ hstep with rfl | rfl
      · exact .inl (.declared hdeclares (heq ▸ field_of_child (by decide) hshape.names hstep))
      · exact .inr (.initial hdeclares (heq ▸ field_of_child (by decide) hshape.names hstep))
  · rintro (htargets | hreads)
    · exact htargets.hasAtHead
    · exact hreads.hasAtHead

/-- No name is in both `Targets` and `Reads` of loops that are left at once: it stands in one place only. -/
theorem Targets.not_reads {other : Place} (h : loop.Targets p) (h' : other.Reads p) (hloop : loop.LeftAtOnce)
    (hother : other.LeftAtOnce) : False := by
  -- two fields of one place hold different places, and no loop is a declarator
  have hfields : ∀ {q q' : Place} {name name' : String}, q.field name = .ok (.place p) →
      q'.field name' = .ok (.place p) → q = q' ∧ name = name' := by
    intro q q' name name' hq hq'
    obtain ⟨-, n, rfl⟩ := field_place hq
    obtain ⟨-, m, heq⟩ := field_place hq'
    simp only [child, mk.injEq, List.cons.injEq, Frame.mk.injEq, Step.mk.injEq] at heq
    obtain ⟨-, ⟨hnode, hname, -⟩, hframes⟩ := heq
    refine ⟨?_, hname⟩
    obtain ⟨node, frames⟩ := q
    obtain ⟨node', frames'⟩ := q'
    cases hnode
    cases hframes
    rfl
  cases h with
  | left left =>
    cases h' with
    | right right => exact absurd (hfields left right).2 (by decide)
    | initial declares init =>
      obtain ⟨rfl, -⟩ := hfields left init
      cases declares.isDeclarator.symm.trans (Node.isKind_eq_false hloop.isForIn (by decide))
  | declared declares id =>
    cases h' with
    | right right =>
      obtain ⟨rfl, -⟩ := hfields id right
      cases declares.isDeclarator.symm.trans (Node.isKind_eq_false hother.isForIn (by decide))
    | initial _ init => exact absurd (hfields id init).2 (by decide)

end Place

/-! ## Variables of loops -/

/-- Where `isForIn` has an answer, it is that some loop which is `LeftAtOnce` has the identifier at its head. It is so
for every identifier that such a loop `Targets`. In trees whose nodes are `LoopShaped` it is so for what the loop
`Reads` as well, and for nothing else; hence the answer is right exactly if the identifier is not read at the head of
such a loop. -/
theorem Reference.isForIn_iff_target {ref : Reference} {found : Bool} (h : ref.isForIn = .ok found) :
    (found = true ↔ ∃ loop : Place, loop.LeftAtOnce ∧ loop.HasAtHead ref.identifier) ∧
      (∀ loop : Place, loop.LeftAtOnce → loop.Targets ref.identifier → found = true) ∧
      ∀ program : Node, (∀ p ∈ (Place.root program).walk, p.node.LoopShaped) →
        ref.identifier ∈ (Place.root program).walk → ref.identifier.node.isKind "Identifier" = true →
          (found = true ↔
            ∃ loop : Place, loop.LeftAtOnce ∧ (loop.Targets ref.identifier ∨ loop.Reads ref.identifier)) ∧
          ((found = true ↔ ∃ loop : Place, loop.LeftAtOnce ∧ loop.Targets ref.identifier) ↔
            ¬ ∃ loop : Place, loop.LeftAtOnce ∧ loop.Reads ref.identifier) := by
  have hfound := isForIn_ok h
  refine ⟨hfound, fun loop hleft htargets => hfound.2 ⟨loop, hleft, htargets.hasAtHead⟩, ?_⟩
  intro program hshaped hmem hkind
  have hroles : found = true ↔
      ∃ loop : Place, loop.LeftAtOnce ∧ (loop.Targets ref.identifier ∨ loop.Reads ref.identifier) := by
    rw [hfound]
    refine exists_congr fun loop => and_congr_right fun hleft => ?_
    exact hleft.hasAtHead_iff hshaped (Place.mem_walk.1 hmem) hkind
  refine ⟨hroles, ?_⟩
  constructor
  · rintro hright ⟨other, hother, hreads⟩
    obtain ⟨loop, hleft, htargets⟩ := hright.1 (hroles.2 ⟨other, hother, .inr hreads⟩)
    exact htargets.not_reads hreads hleft hother
  · intro hnone
    rw [hroles]
    refine exists_congr fun loop => and_congr_right fun hleft => ?_
    exact or_iff_left fun hreads => hnone ⟨loop, hleft, hreads⟩

/-! ## A sample

In `e=function(){for(x in e);}();` the loop, which is place number 7, goes through the name at place number 9. -/

namespace LoopTarget.Sample

def loop : Node :=
  .plain "ForInStatement" 13 25 [("left", .node (.plain "Identifier" 17 18 [])),
    ("right", .node (.plain "Identifier" 22 23 [])), ("body", .node (.plain "EmptyStatement" 24 25 []))]

def function : Node :=
  .plain "FunctionExpression" 2 26 [("body", .node (.plain "BlockStatement" 12 26 [("body", .list [.node loop])]))]

def assignment : Node :=
  .plain "AssignmentExpression" 0 28 [("left", .node (.plain "Identifier" 0 1 [])),
    ("right", .node (.plain "CallExpression" 2 28 [("callee", .node function), ("arguments", .list [])]))]

def program : Node :=
  .plain "Program" 0 29 [("body", .list [.node (.plain "ExpressionStatement" 0 29 [("expression", .node assignment)])])]

def through : Reference := ⟨.nth program 9, 1, true, false, ⟨0, 0⟩⟩

def assigned : Variable where
  name := "e"
  scope := 0
  definitions := []
  identifiers := []
  references := [⟨.nth program 3, 0, false, true, ⟨0, 0⟩⟩, through]

def forest : Forest :=
  ((Forest.empty.create .global (.root program) none).addVariable 0 assigned).create .function (.nth program 5) (some 0)

theorem leftAtOnce : (Place.nth program 7).LeftAtOnce := ⟨rfl, _, rfl, .empty rfl⟩

theorem reads : (Place.nth program 7).Reads through.identifier := .right rfl

end LoopTarget.Sample

open LoopTarget.Sample in
/-- For `through` the loop is found, since it reads the name, and the answer is wrong. -/
theorem Reference.isForIn_iff_target_sample :
    through.isForIn = .ok true ∧ (Place.nth program 7).LeftAtOnce ∧ (Place.nth program 7).Reads through.identifier ∧
      ¬ ∃ loop : Place, loop.LeftAtOnce ∧ loop.Targets through.identifier := by
  have hfound : through.isForIn = .ok true := by rfl
  have hshaped : ∀ p ∈ (Place.root program).walk, p.node.LoopShaped := by decide
  have hnumber : 9 < (Place.root program).walk.length := by decide
  have hmem : through.identifier ∈ (Place.root program).walk := Place.nth_mem_walk hnumber
  obtain ⟨-, -, hroles⟩ := isForIn_iff_target hfound
  refine ⟨hfound, leftAtOnce, reads, fun htargets => ?_⟩
  exact (hroles program hshaped hmem rfl).2.1 (iff_of_true rfl htargets) ⟨_, leftAtOnce, reads⟩

open LoopTarget.Sample in
/-- No loop `Targets` the name of `through`, and the read serves nothing but the new value of the variable; all the
same it counts as the variable of the loop, and so as a use. -/
theorem Reference.isForIn_through_variable :
    through.isForIn = .ok true ∧ (¬ ∃ loop : Place, loop.LeftAtOnce ∧ loop.Targets through.identifier) ∧
      through.isReadForItself (some (.place (.nth program 4))) = .ok true ∧ assigned.isUsed forest = .ok true := by
  refine ⟨rfl, ?_, rfl, rfl⟩
  rintro ⟨loop, hleft, htargets⟩
  exact htargets.not_reads reads hleft leftAtOnce

end CatchAudit
