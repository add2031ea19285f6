/-
Analysis cannot tell trees apart that are alike. What it reads of a tree is the kind of a node, whether
one span contains another, and the field under a name; the order of fields, the offsets themselves and
locations are never read. So on scopes over two trees that are alike in this sense every question has
the same answer, or fails with the same fault.
-/
import CatchAudit.Analysis.Usage
import CatchAudit.Proofs.Outcome

namespace CatchAudit

/-! ## Trees that are alike -/

/-- The same `shape`, the same `truthy`, and the same text if it is one. -/
structure Document.Alike (d e : Document) : Prop where
  shape : d.shape = e.shape
  truthy : d.truthy = e.truthy
  text : ∀ s, d = .text s → e = .text s

namespace Document

variable {d e : Document}

theorem shape_eq_null : d.shape = .null ↔ d = .null := by
  cases d with
  | moment m => cases m <;> simp [shape]
  | _ => simp [shape]

theorem shape_eq_text : d.shape = .text ↔ ∃ s, d = .text s := by
  cases d with
  | moment m => cases m <;> simp [shape]
  | _ => simp [shape]

theorem shape_eq_object : d.shape = .object ↔ ∃ members, d = .object members := by
  cases d with
  | moment m => cases m <;> simp [shape]
  | _ => simp [shape]

theorem Alike.null_iff (h : d.Alike e) : d = .null ↔ e = .null := by
  rw [← shape_eq_null, ← shape_eq_null, h.shape]

theorem Alike.text_iff (h : d.Alike e) (s : String) : d = .text s ↔ e = .text s := by
  refine ⟨h.text s, fun he => ?_⟩
  obtain ⟨t, ht⟩ := shape_eq_text.1 (h.shape.trans (shape_eq_text.2 ⟨s, he⟩))
  rw [h.text t ht] at he
  rw [ht, he]

theorem Alike.object_iff (h : d.Alike e) : (∃ xs, d = .object xs) ↔ ∃ ys, e = .object ys := by
  rw [← shape_eq_object, ← shape_eq_object, h.shape]

end Document

/-- Items of lists: a list inside a list is not looked into. -/
inductive Field.ItemAlike (N : Node → Node → Prop) : Field → Field → Prop
  | node {a b : Node} : N a b → ItemAlike N (.node a) (.node b)
  | list {xs ys : List Field} : xs.isEmpty = ys.isEmpty → ItemAlike N (.list xs) (.list ys)
  | data {d e : Document} : d.Alike e → ItemAlike N (.data d) (.data e)

inductive Field.Alike (N : Node → Node → Prop) : Field → Field → Prop
  | node {a b : Node} : N a b → Alike N (.node a) (.node b)
  | list {xs ys : List Field} : List.Forall₂ (ItemAlike N) xs ys → Alike N (.list xs) (.list ys)
  | data {d e : Document} : d.Alike e → Alike N (.data d) (.data e)

/-- Nodes related by `N` have the same kind, their spans nest alike, and their fields are related by name. -/
structure Likeness (N : Node → Node → Prop) : Prop where
  kind : ∀ {a b}, N a b → a.kind = b.kind
  contains : ∀ {a b c d}, N a b → N c d → a.span.contains c.span = b.span.contains d.span
  field? : ∀ {a b}, N a b → ∀ name, Option.Rel (Field.Alike N) (a.field? name) (b.field? name)

/-- Places that are reached by the same steps through nodes related by `N`. -/
structure Place.Alike (N : Node → Node → Prop) (p q : Place) : Prop where
  node : N p.node q.node
  frames : List.Forall₂ (fun f g => N f.parent g.parent ∧ f.step = g.step) p.frames q.frames

inductive Operand.Alike (N : Node → Node → Prop) : Operand → Operand → Prop
  | place {p q : Place} : p.Alike N q → Alike N (.place p) (.place q)
  | list {xs ys : List Field} : xs.isEmpty = ys.isEmpty → Alike N (.list xs) (.list ys)
  | data {d e : Document} : d.Alike e → Alike N (.data d) (.data e)

/-- Operands that are fields: the items of lists are related too. -/
inductive Operand.FieldAlike (N : Node → Node → Prop) : Operand → Operand → Prop
  | place {p q : Place} : p.Alike N q → FieldAlike N (.place p) (.place q)
  | list {xs ys : List Field} : List.Forall₂ (Field.ItemAlike N) xs ys → FieldAlike N (.list xs) (.list ys)
  | data {d e : Document} : d.Alike e → FieldAlike N (.data d) (.data e)

variable {N : Node → Node → Prop} {p q p' q' : Place} {x y : Operand} {name : String}

namespace Place.Alike

theorem address_eq (h : p.Alike N q) : p.address = q.address := by
  unfold address
  have hframes := h.frames
  generalize p.frames = fs at hframes
  generalize q.frames = gs at hframes
  induction hframes with
  | nil => rfl
  | cons hfg _ ih => rw [List.map_cons, List.map_cons, ih, hfg.2]

theorem same_eq (h : p.Alike N q) (h' : p'.Alike N q') : p.same p' = q.same q' := by
  unfold same
  rw [h.address_eq, h'.address_eq]

theorem parent? (h : p.Alike N q) : Option.Rel (Place.Alike N) p.parent? q.parent? := by
  obtain ⟨a, fs⟩ := p
  obtain ⟨b, gs⟩ := q
  cases h.frames with
  | nil => exact .none
  | cons hfg hrest => exact .some ⟨hfg.1, hrest⟩

theorem child (h : p.Alike N q) (step : Step) {a b : Node} (hab : N a b) : (p.child step a).Alike N (q.child step b) :=
  ⟨hab, .cons ⟨h.node, rfl⟩ h.frames⟩

theorem chain (h : p.Alike N q) : List.Forall₂ (Place.Alike N) p.chain q.chain := by
  obtain ⟨a, fs⟩ := p
  obtain ⟨b, gs⟩ := q
  obtain ⟨hab, hframes⟩ := h
  unfold Place.chain
  dsimp only at *
  induction hframes generalizing a b with
  | nil => exact .cons ⟨hab, .nil⟩ .nil
  | cons hfg hrest ih => exact .cons ⟨hab, .cons hfg hrest⟩ (ih _ _ hfg.1)

end Place.Alike

namespace Likeness

theorem isKind (hN : Likeness N) {a b : Node} (h : N a b) : a.isKind = b.isKind := by
  unfold Node.isKind
  rw [hN.kind h]

theorem isFunction (hN : Likeness N) {a b : Node} (h : N a b) : a.isFunction = b.isFunction := by
  unfold Node.isFunction Node.hasKindIn
  rw [hN.kind h]

theorem isLoop (hN : Likeness N) {a b : Node} (h : N a b) : a.isLoop = b.isLoop := by
  unfold Node.isLoop Node.hasKindIn
  rw [hN.kind h]

theorem isStatement (hN : Likeness N) {a b : Node} (h : N a b) : a.isStatement = b.isStatement := by
  unfold Node.isStatement
  rw [hN.kind h]

end Likeness

/-! ## Fields -/

theorem Operand.FieldAlike.alike (h : x.FieldAlike N y) : x.Alike N y := by
  cases h with
  | place hp => exact .place hp
  | list hitems => exact .list (by cases hitems <;> rfl)
  | data hd => exact .data hd

theorem rel_getLast? {α β : Type} {R : α → β → Prop} {xs : List α} {ys : List β} (h : List.Forall₂ R xs ys) :
    Option.Rel R xs.getLast? ys.getLast? := by
  rw [← List.head?_reverse, ← List.head?_reverse]
  have hreverse := List.rel_reverse h
  generalize xs.reverse = xs' at hreverse
  generalize ys.reverse = ys' at hreverse
  cases hreverse with
  | nil => exact .none
  | cons hab _ => exact .some hab

theorem Document.Alike.refl (d : Document) : d.Alike d := ⟨rfl, rfl, fun _ h => h⟩

namespace Likeness

theorem operand? (hN : Likeness N) (h : p.Alike N q) (name : String) :
    Option.Rel (Operand.FieldAlike N) (p.operand? name) (q.operand? name) := by
  unfold Place.operand?
  have hfield := hN.field? h.node name
  generalize p.node.field? name = f at hfield
  generalize q.node.field? name = g at hfield
  cases hfield with
  | none => exact .none
  | some hfg =>
    cases hfg with
    | node hab => exact .some (.place (h.child _ hab))
    | list hitems => exact .some (.list hitems)
    | data hd => exact .some (.data hd)

theorem fieldAlike (hN : Likeness N) (h : p.Alike N q) (name : String) :
    Agree (Operand.FieldAlike N) (p.field name) (q.field name) := by
  unfold Place.field
  split
  · exact rfl
  · have hoperand := hN.operand? h name
    generalize p.operand? name = x at hoperand
    generalize q.operand? name = y at hoperand
    cases hoperand with
    | none => exact congrArg (Fault.noField · name) (hN.kind h.node)
    | some hxy => exact hxy

theorem field (hN : Likeness N) (h : p.Alike N q) (name : String) :
    Agree (Operand.Alike N) (p.field name) (q.field name) :=
  (hN.fieldAlike h name).mono fun _ _ => Operand.FieldAlike.alike

/-- Reading on from a field, where of data only texts have something to give, and objects and all other
data have their fault. -/
theorem read_on (hN : Likeness N) (h : p.Alike N q) (name : String) {f g : Operand → Except Fault Operand}
    (hplace : ∀ r r', Agree (Operand.Alike N) (f (.place r)) (g (.place r')))
    (hlist : ∀ xs ys, List.Forall₂ (Field.ItemAlike N) xs ys → Agree (Operand.Alike N) (f (.list xs)) (g (.list ys)))
    (htext : ∀ s, Agree (Operand.Alike N) (f (.data (.text s))) (g (.data (.text s))))
    (hobject : ∀ xs ys, Agree (Operand.Alike N) (f (.data (.object xs))) (g (.data (.object ys))))
    (hother : ∀ d, (∀ s, d ≠ .text s) → (∀ xs, d ≠ .object xs) → f (.data d) = .error (.notSubscriptable d.shape) ∧
      g (.data d) = .error (.notSubscriptable d.shape)) :
    Agree (Operand.Alike N) (p.field name >>= f) (q.field name >>= g) := by
  refine (hN.fieldAlike h name).bind fun x y hxy => ?_
  cases hxy with
  | place _ => exact hplace _ _
  | list hitems => exact hlist _ _ hitems
  | @data d e hd =>
    by_cases htd : ∃ s, d = .text s
    · obtain ⟨s, rfl⟩ := htd
      rw [hd.text s rfl]
      exact htext s
    by_cases hod : ∃ xs, d = .object xs
    · obtain ⟨ys, rfl⟩ := hd.object_iff.1 hod
      obtain ⟨xs, rfl⟩ := hod
      exact hobject xs ys
    have hte : ∀ s, e ≠ .text s := fun s hs => htd ⟨s, (hd.text_iff s).2 hs⟩
    have hoe : ∀ ys, e ≠ .object ys := fun ys hs => hod (hd.object_iff.2 ⟨ys, hs⟩)
    rw [(hother d (fun s hs => htd ⟨s, hs⟩) fun xs hs => hod ⟨xs, hs⟩).1, (hother e hte hoe).2, hd.shape]
    exact rfl

theorem lastItem (hN : Likeness N) (h : p.Alike N q) (name : String) :
    Agree (Operand.Alike N) (p.lastItem name) (q.lastItem name) := by
  refine hN.read_on h name (fun _ _ => rfl) ?_ ?_ (fun _ _ => rfl) ?_
  · intro xs ys hitems
    have hlast := rel_getLast? hitems
    dsimp only
    rw [hitems.length_eq]
    generalize xs.getLast? = f at hlast
    generalize ys.getLast? = g at hlast
    cases hlast with
    | none => exact rfl
    | some hfg =>
      cases hfg with
      | node hab => exact .place (h.child _ hab)
      | list hempty => exact .list hempty
      | data hd => exact .data hd
  · intro s
    dsimp only
    cases s.toList.getLast? with
    | none => exact rfl
    | some c => exact .data (.refl _)
  · intro d htext hobject
    cases d with
    | text s => exact absurd rfl (htext s)
    | object members => exact absurd rfl (hobject members)
    | _ => exact ⟨rfl, rfl⟩

theorem firstItem (hN : Likeness N) (h : p.Alike N q) (name : String) :
    Agree (Operand.Alike N) (p.firstItem name) (q.firstItem name) := by
  refine hN.read_on h name (fun _ _ => rfl) ?_ ?_ (fun _ _ => rfl) ?_
  · intro xs ys hitems
    cases hitems with
    | nil => exact rfl
    | cons hfg _ =>
      cases hfg with
      | node hab => exact .place (h.child _ hab)
      | list hempty => exact .list hempty
      | data hd => exact .data hd
  · intro s
    dsimp only
    cases s.toList with
    | nil => exact rfl
    | cons c rest => exact .data (.refl _)
  · intro d htext hobject
    cases d with
    | text s => exact absurd rfl (htext s)
    | object members => exact absurd rfl (hobject members)
    | _ => exact ⟨rfl, rfl⟩

end Likeness

namespace Operand.Alike

theorem isPlace_eq (h : x.Alike N y) (hp : p.Alike N q) : x.isPlace p = y.isPlace q := by
  cases h with
  | place hr => exact hr.same_eq hp
  | list _ => rfl
  | data _ => rfl

theorem truthy_eq (h : x.Alike N y) : x.truthy = y.truthy := by
  cases h with
  | place _ => rfl
  | list hempty => exact congrArg (! ·) hempty
  | data hd => exact hd.truthy

theorem kind_eq (hN : Likeness N) (h : x.Alike N y) : x.kind = y.kind := by
  cases h with
  | place hr => exact congrArg Except.ok (hN.kind hr.node)
  | list _ => rfl
  | data hd => exact congrArg (Except.error <| Fault.noOperation · "type") hd.shape

theorem contains_eq (hN : Likeness N) (h : x.Alike N y) (hp : p.Alike N q) : x.contains p = y.contains q := by
  cases h with
  | place hr => exact congrArg Except.ok (hN.contains hr.node hp.node)
  | list _ => rfl
  | data hd => exact congrArg (Except.error <| Fault.noOperation · "contains") hd.shape

end Operand.Alike

/-! ## Questions about places -/

namespace Likeness

theorem loopFirst (hN : Likeness N) {ps qs : List Place} (h : List.Forall₂ (Place.Alike N) ps qs) :
    Place.loopFirst ps = Place.loopFirst qs := by
  induction h with
  | nil => rfl
  | cons hpq _ ih =>
    unfold Place.loopFirst
    rw [hN.isFunction hpq.node, hN.isLoop hpq.node, ih]

theorem firstFunction? (hN : Likeness N) {ps qs : List Place} (h : List.Forall₂ (Place.Alike N) ps qs) :
    Agree (Option.Rel (Place.Alike N)) (Place.firstFunction? ps) (Place.firstFunction? qs) := by
  induction h with
  | nil => exact Option.Rel.none
  | cons hpq _ ih =>
    unfold Place.firstFunction?
    rw [hN.isFunction hpq.node]
    refine (Agree.of_eq rfl).bind fun found _ heq => ?_
    cases heq
    cases found with
    | true => exact Option.Rel.some hpq
    | false => exact ih

theorem unusedFrom (hN : Likeness N) : ∀ {a b : Node} {fs gs : List Frame}, N a b →
    List.Forall₂ (fun f g => N f.parent g.parent ∧ f.step = g.step) fs gs →
    Place.unusedFrom a fs = Place.unusedFrom b gs
  | _, _, [], [], _, _ => rfl
  | a, b, f :: fs, g :: gs, hab, hframes => by
    obtain ⟨hfg, hrest⟩ := List.forall₂_cons.1 hframes
    have hparent : (⟨f.parent, fs⟩ : Place).Alike N ⟨g.parent, gs⟩ := ⟨hfg.1, hrest⟩
    have hplace : (⟨a, f :: fs⟩ : Place).Alike N ⟨b, g :: gs⟩ := ⟨hab, hframes⟩
    unfold Place.unusedFrom
    rw [hN.isKind hfg.1, hN.unusedFrom hfg.1 hrest]
    split
    · rfl
    · split
      · refine (hN.lastItem hparent "expressions").bind_eq fun x y hxy => ?_
        rw [hxy.isPlace_eq hplace]
      · rfl

theorem isUnusedExpression (hN : Likeness N) (h : p.Alike N q) : p.isUnusedExpression = q.isUnusedExpression :=
  hN.unusedFrom h.node h.frames

theorem closureShape (hN : Likeness N) (h : p.Alike N q) (h' : p'.Alike N q') :
    p.closureShape p' = q.closureShape q' := by
  unfold Place.closureShape
  rw [hN.isKind h'.node, hN.isStatement h'.node]
  dsimp only
  split
  · refine (hN.lastItem h' "expressions").bind_eq fun x y hxy => ?_
    rw [hxy.isPlace_eq h]
  · split
    · refine (hN.field h' "callee").bind_eq fun x y hxy => ?_
      rw [hxy.isPlace_eq h]
    · rfl

theorem storableFrom (hN : Likeness N) (hxy : x.Alike N y) : ∀ {a b : Node} {fs gs : List Frame}, N a b →
    List.Forall₂ (fun f g => N f.parent g.parent ∧ f.step = g.step) fs gs →
    Place.storableFrom x a fs = Place.storableFrom y b gs
  | _, _, [], [], _, _ => rfl
  | a, b, f :: fs, g :: gs, hab, hframes => by
    obtain ⟨hfg, hrest⟩ := List.forall₂_cons.1 hframes
    have hparent : (⟨f.parent, fs⟩ : Place).Alike N ⟨g.parent, gs⟩ := ⟨hfg.1, hrest⟩
    have hplace : (⟨a, f :: fs⟩ : Place).Alike N ⟨b, g :: gs⟩ := ⟨hab, hframes⟩
    unfold Place.storableFrom
    dsimp only
    rw [hxy.contains_eq hN hparent, hN.closureShape hplace hparent, hN.storableFrom hxy hfg.1 hrest]

theorem isInsideStorable (hN : Likeness N) (h : p.Alike N q) (hxy : x.Alike N y) :
    p.isInsideStorable x = q.isInsideStorable y := by
  unfold Place.isInsideStorable Place.upperFunction?
  refine (hN.firstFunction? h.chain).bind_eq fun r r' hrr' => ?_
  cases hrr' with
  | none => rfl
  | some hr =>
    dsimp only
    unfold Place.isStorable
    rw [hxy.contains_eq hN hr, hN.storableFrom hxy hr.node hr.frames]

end Likeness

/-! ## Scopes that are alike -/

structure Reference.Alike (N : Node → Node → Prop) (r r' : Reference) : Prop where
  identifier : r.identifier.Alike N r'.identifier
  scope : r.scope = r'.scope
  read : r.read = r'.read
  write : r.write = r'.write
  resolved : r.resolved = r'.resolved

structure Definition.Alike (N : Node → Node → Prop) (d d' : Definition) : Prop where
  kind : d.kind = d'.kind
  name : d.name.Alike N d'.name
  node : Option.Rel (Place.Alike N) d.node d'.node

structure Variable.Alike (N : Node → Node → Prop) (v v' : Variable) : Prop where
  name : v.name = v'.name
  scope : v.scope = v'.scope
  definitions : List.Forall₂ (Definition.Alike N) v.definitions v'.definitions
  identifiers : List.Forall₂ (Place.Alike N) v.identifiers v'.identifiers
  references : List.Forall₂ (Reference.Alike N) v.references v'.references

structure Scope.Alike (N : Node → Node → Prop) (s s' : Scope) : Prop where
  kind : s.kind = s'.kind
  block : s.block.Alike N s'.block
  upper : s.upper = s'.upper
  bindings : List.Forall₂ (Variable.Alike N) s.bindings s'.bindings

/-- Forests of the same form over trees that are related by `N`. -/
def Forest.Alike (N : Node → Node → Prop) (f f' : Forest) : Prop := List.Forall₂ (Scope.Alike N) f.scopes f'.scopes

namespace Forest.Alike

variable {f f' : Forest}

theorem size_eq (h : f.Alike N f') : f.size = f'.size := h.length_eq

theorem rel_getElem? {α β : Type} {R : α → β → Prop} {xs : List α} {ys : List β} (h : List.Forall₂ R xs ys) (i : Nat) :
    Option.Rel R xs[i]? ys[i]? := by
  induction h generalizing i with
  | nil => exact .none
  | cons hab _ ih =>
    cases i with
    | zero => exact .some hab
    | succ i => exact ih i

theorem scope? (h : f.Alike N f') (s : Nat) : Option.Rel (Scope.Alike N) (f.scope? s) (f'.scope? s) :=
  rel_getElem? h s

theorem upper?_eq (h : f.Alike N f') : f.upper? = f'.upper? := by
  funext s
  unfold upper?
  have hscope := h.scope? s
  generalize f.scope? s = a at hscope
  generalize f'.scope? s = b at hscope
  cases hscope with
  | none => rfl
  | some hs => exact hs.upper

theorem isFunctionLevel_eq (h : f.Alike N f') : f.isFunctionLevel = f'.isFunctionLevel := by
  funext s
  unfold isFunctionLevel
  have hscope := h.scope? s
  generalize f.scope? s = a at hscope
  generalize f'.scope? s = b at hscope
  cases hscope with
  | none => rfl
  | some hs => exact congrArg ScopeKind.isFunctionLevel hs.kind

theorem chainFrom_eq (h : f.Alike N f') : ∀ fuel s, f.chainFrom fuel s = f'.chainFrom fuel s
  | 0, s => rfl
  | fuel + 1, s => by
    unfold chainFrom
    rw [h.upper?_eq]
    cases f'.upper? s with
    | none => rfl
    | some u => exact congrArg (s :: ·) (h.chainFrom_eq fuel u)

theorem variableScope_eq (h : f.Alike N f') : f.variableScope = f'.variableScope := by
  funext s
  unfold variableScope chain
  rw [h.isFunctionLevel_eq, h.size_eq, h.chainFrom_eq]

theorem children_eq (h : f.Alike N f') : f.children = f'.children := by
  funext s
  unfold children
  rw [h.upper?_eq, h.size_eq]

theorem walk_eq (h : f.Alike N f') (s : Nat) : f.walk s = f'.walk s := by
  have hstack : ∀ fuel stack, f.walkStack fuel stack = f'.walkStack fuel stack := by
    intro fuel
    induction fuel with
    | zero => intro stack; cases stack <;> rfl
    | succ fuel ih =>
      intro stack
      cases stack with
      | nil => rfl
      | cons s rest =>
        unfold walkStack
        rw [h.children_eq, ih]
  unfold walk
  rw [h.size_eq, hstack]

end Forest.Alike

/-! ## Questions about references -/

namespace Likeness

variable {f f' : Forest} {r r' : Reference} {pending pending' : Option Operand}

theorem canBeUsedLater (hN : Likeness N) (hf : f.Alike N f') (h : r.Alike N r') :
    r.canBeUsedLater f = r'.canBeUsedLater f' := by
  unfold Reference.canBeUsedLater Place.isInLoop
  rw [hf.variableScope_eq, h.scope, h.resolved, hN.loopFirst h.identifier.chain]

theorem opens (hN : Likeness N) (hf : f.Alike N f') (h : r.Alike N r') :
    Agree (Option.Rel (Operand.Alike N)) (r.opens f) (r'.opens f') := by
  unfold Reference.opens
  have hparent := h.identifier.parent?
  generalize r.identifier.parent? = p at hparent
  generalize r'.identifier.parent? = p' at hparent
  cases hparent with
  | none => exact Option.Rel.none
  | @some p p' hp =>
    dsimp only
    have hgrandparent := hp.parent?
    generalize p.parent? = g at hgrandparent
    generalize p'.parent? = g' at hgrandparent
    cases hgrandparent with
    | none => exact Option.Rel.none
    | some hg =>
      dsimp only
      rw [hN.isKind hp.node, hN.isKind hg.node, hN.canBeUsedLater hf h]
      split
      · refine (hN.field hp "left").bind fun x y hxy => ?_
        rw [hxy.isPlace_eq h.identifier]
        split
        · exact Option.Rel.none
        · refine (Agree.of_eq rfl).bind fun later _ heq => ?_
          cases heq
          cases later with
          | true => exact Option.Rel.none
          | false =>
            refine (hN.field hp "right").bind fun x y hxy => ?_
            cases hxy with
            | place hp => exact Option.Rel.some (.place hp)
            | list hempty => exact Option.Rel.some (.list hempty)
            | @data d e hd =>
              -- a right side that is null does not count as one
              have hnull := hd.null_iff
              cases d with
              | null =>
                rw [hnull.1 rfl]
                exact Option.Rel.none
              | _ =>
                cases e with
                | null => exact absurd (hnull.2 rfl) (by simp)
                | _ => exact Option.Rel.some (.data hd)
      · exact Option.Rel.none

theorem nextPending (hN : Likeness N) (hf : f.Alike N f') (h : r.Alike N r')
    (hpending : Option.Rel (Operand.Alike N) pending pending') :
    Agree (Option.Rel (Operand.Alike N)) (r.nextPending f pending) (r'.nextPending f' pending') := by
  cases hpending with
  | none => exact hN.opens hf h
  | some hxy =>
    unfold Reference.nextPending
    dsimp only
    rw [hxy.contains_eq hN h.identifier]
    refine (Agree.of_eq rfl).bind fun inside _ heq => ?_
    cases heq
    cases inside with
    | true => exact Option.Rel.some hxy
    | false => exact hN.opens hf h

theorem isSelfUpdate (hN : Likeness N) (h : r.Alike N r') : r.isSelfUpdate = r'.isSelfUpdate := by
  unfold Reference.isSelfUpdate
  have hparent := h.identifier.parent?
  generalize r.identifier.parent? = p at hparent
  generalize r'.identifier.parent? = p' at hparent
  cases hparent with
  | none => rfl
  | some hp =>
    dsimp only
    rw [hN.isKind hp.node, hN.isUnusedExpression hp]
    split
    · refine (hN.field hp "left").bind_eq fun x y hxy => ?_
      rw [hxy.isPlace_eq h.identifier]
    · rfl

theorem isReadForItself (hN : Likeness N) (h : r.Alike N r')
    (hpending : Option.Rel (Operand.Alike N) pending pending') :
    r.isReadForItself pending = r'.isReadForItself pending' := by
  unfold Reference.isReadForItself
  rw [h.read, hN.isSelfUpdate h]
  cases hpending with
  | none => rfl
  | some hxy =>
    dsimp only
    rw [hxy.contains_eq hN h.identifier, hN.isInsideStorable h.identifier hxy]

theorem loopHead? (hN : Likeness N) (h : r.Alike N r') : Option.Rel (Place.Alike N) r.loopHead? r'.loopHead? := by
  unfold Reference.loopHead?
  have hparent := h.identifier.parent?
  generalize r.identifier.parent? = p at hparent
  generalize r'.identifier.parent? = p' at hparent
  cases hparent with
  | none => exact .none
  | @some p p' hp =>
    dsimp only
    rw [hN.isKind hp.node]
    split
    · have hgrandparent := hp.parent?
      generalize p.parent? = g at hgrandparent
      generalize p'.parent? = g' at hgrandparent
      cases hgrandparent with
      | none => exact .none
      | some hg => exact hg.parent?
    · exact .some hp

theorem leavesAtOnce (hN : Likeness N) (h : p.Alike N q) : Reference.leavesAtOnce p = Reference.leavesAtOnce q := by
  unfold Reference.leavesAtOnce
  refine (hN.field h "body").bind_eq fun x y hxy => ?_
  rw [hxy.kind_eq hN]
  congr 1
  funext kind
  split
  · rfl
  · cases hxy with
    | place hp =>
      dsimp only
      split
      · refine (hN.field hp "body").bind_eq fun x y hxy => ?_
        rw [hxy.truthy_eq]
        split
        · rfl
        · refine (hN.firstItem hp "body").bind_eq fun x y hxy => ?_
          rw [hxy.kind_eq hN]
      · rfl
    | list _ => rfl
    | data _ => rfl

theorem isForIn (hN : Likeness N) (h : r.Alike N r') : r.isForIn = r'.isForIn := by
  unfold Reference.isForIn
  have hloop := hN.loopHead? h
  generalize r.loopHead? = p at hloop
  generalize r'.loopHead? = p' at hloop
  cases hloop with
  | none => rfl
  | some hp =>
    dsimp only
    rw [hN.isKind hp.node, hN.leavesAtOnce hp]

/-- One `Usage.step`: pending right-hand sides stay alike. -/
theorem step (hN : Likeness N) (hf : f.Alike N f') (h : r.Alike N r') {u u' : Usage}
    (hu : Option.Rel (Operand.Alike N) u.pending u'.pending) :
    Agree (fun v v' => Option.Rel (Operand.Alike N) v.pending v'.pending ∧ v.used = v'.used)
      (u.step f r) (u'.step f' r') := by
  unfold Usage.step
  rw [hN.isForIn h, hN.isReadForItself h hu, h.read]
  refine (Agree.of_eq rfl).bind fun forIn _ heq => ?_
  cases heq
  cases forIn with
  | true => exact ⟨hu, rfl⟩
  | false =>
    refine (Agree.of_eq rfl).bind fun forItself _ heq => ?_
    cases heq
    exact (hN.nextPending hf h hu).bind fun pending pending' hpending => ⟨hpending, rfl⟩

/-- All steps of `anyUse`: the same reference is the first use in both. -/
theorem anyUse (hN : Likeness N) (hf : f.Alike N f') {rs rs' : List Reference}
    (h : List.Forall₂ (Reference.Alike N) rs rs') : ∀ {u u' : Usage},
    Option.Rel (Operand.Alike N) u.pending u'.pending → u.anyUse f rs = u'.anyUse f' rs' := by
  induction h with
  | nil => exact fun _ => rfl
  | cons hr _ ih =>
    intro u u' hu
    unfold Usage.anyUse
    refine (hN.step hf hr hu).bind_eq fun v v' hv => ?_
    rw [hv.2, ih hv.1]

theorem isUsed (hN : Likeness N) (hf : f.Alike N f') {v v' : Variable} (h : v.Alike N v') :
    v.isUsed f = v'.isUsed f' := hN.anyUse hf h.references .none

end Likeness

end CatchAudit
