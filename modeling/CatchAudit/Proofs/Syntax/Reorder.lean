/-
Trees up to the order of fields. The tree of a document whose members are reordered has the same nodes with
their fields in another order: the same kinds and spans, under each name the same field up to such a
change further below. So the walk visits the same places in another order, and analysis, which asks
for fields by name, cannot tell the trees apart.
-/
import CatchAudit.Proofs.Document.Reorder
import CatchAudit.Proofs.Syntax.Build
import CatchAudit.Proofs.Syntax.Reach

namespace CatchAudit

/-- The same lines and columns up to the order of members. -/
structure Location.Reordered (l l' : Location) : Prop where
  line : l.start.line.Reordered l'.start.line
  column : l.start.column.Reordered l'.start.column

namespace Node

mutual
/-- The same tree up to the order of fields, at any depth by `ReorderedFields`, no two fields of a node having one
name. -/
def Reordered : Node → Node → Prop
  | .mk kind span location fields, .mk kind' span' location' fields' =>
    (kind.Reordered kind' ∧ span = span' ∧ Option.Rel Location.Reordered location location') ∧
      (fields.map Prod.fst).Nodup ∧ ∃ gs, ReorderedFields fields gs ∧ gs.Perm fields'

/-- Field by field, without a change of order. -/
def ReorderedFields : List (String × Field) → List (String × Field) → Prop
  | [], [] => True
  | (name, x) :: rest, (name', x') :: rest' => (name = name' ∧ ReorderedField x x') ∧ ReorderedFields rest rest'
  | _, _ => False

def ReorderedField : Field → Field → Prop
  | .node a, .node b => a.Reordered b
  | .list xs, .list ys => ReorderedItems xs ys
  | .data d, .data d' => d.Reordered d'
  | _, _ => False

def ReorderedItems : List Field → List Field → Prop
  | [], [] => True
  | x :: rest, x' :: rest' => ReorderedField x x' ∧ ReorderedItems rest rest'
  | _, _ => False
end

variable {a b : Node} {x y : Field}

theorem reorderedFields_iff : ∀ {fields gs : List (String × Field)},
    ReorderedFields fields gs ↔ List.Forall₂ (SameMember ReorderedField) fields gs
  | [], [] => by simp [ReorderedFields]
  | [], _ :: _ => by simp [ReorderedFields]
  | _ :: _, [] => by simp [ReorderedFields]
  | (name, x) :: rest, (name', x') :: rest' => by
    have ih : ReorderedFields rest rest' ↔ _ := reorderedFields_iff
    simp [ReorderedFields, SameMember, ih]

theorem reorderedItems_iff : ∀ {xs ys : List Field}, ReorderedItems xs ys ↔ List.Forall₂ ReorderedField xs ys
  | [], [] => by simp [ReorderedItems]
  | [], _ :: _ => by simp [ReorderedItems]
  | _ :: _, [] => by simp [ReorderedItems]
  | x :: rest, x' :: rest' => by
    have ih : ReorderedItems rest rest' ↔ _ := reorderedItems_iff
    simp [ReorderedItems, ih]

namespace Reordered

theorem kind (h : a.Reordered b) : a.kind.Reordered b.kind := by
  cases a
  cases b
  exact (Reordered.eq_1 .. ▸ h).1.1

theorem span_eq (h : a.Reordered b) : a.span = b.span := by
  cases a
  cases b
  exact (Reordered.eq_1 .. ▸ h).1.2.1

theorem location (h : a.Reordered b) : Option.Rel Location.Reordered a.location b.location := by
  cases a
  cases b
  exact (Reordered.eq_1 .. ▸ h).1.2.2

theorem names (h : a.Reordered b) : (a.fields.map Prod.fst).Nodup := by
  cases a
  cases b
  exact (Reordered.eq_1 .. ▸ h).2.1

theorem fields (h : a.Reordered b) :
    Multiset.Rel (SameMember ReorderedField) (a.fields : Multiset (String × Field)) b.fields := by
  cases a
  cases b
  obtain ⟨gs, hgs, hperm⟩ := (Reordered.eq_1 .. ▸ h).2.2
  exact Multiset.coe_eq_coe.2 hperm ▸ rel_of_forall₂ (reorderedFields_iff.1 hgs)

end Reordered

theorem itemAlike_of_reordered (h : ReorderedField x y) : x.ItemAlike Reordered y := by
  cases x <;> cases y <;> simp only [ReorderedField] at h
  · exact .node h
  · exact .list (by cases reorderedItems_iff.1 h <;> rfl)
  · exact .data h.alike

theorem alike_of_reordered (h : ReorderedField x y) : x.Alike Reordered y := by
  cases x <;> cases y <;> simp only [ReorderedField] at h
  · exact .node h
  · exact .list ((reorderedItems_iff.1 h).imp fun _ _ => itemAlike_of_reordered)
  · exact .data h.alike

theorem Reordered.field? (h : a.Reordered b) (name : String) :
    Option.Rel (Field.Alike Reordered) (a.field? name) (b.field? name) := by
  have hfield := rel_memberOf? h.names h.fields name
  unfold Node.field?
  generalize memberOf? name a.fields = x at hfield
  generalize memberOf? name b.fields = y at hfield
  cases hfield with
  | none => exact .none
  | some hxy => exact .some (alike_of_reordered hxy)

/-! ## Children -/

/-- Children that are reached by the same step. -/
def SameStep (c c' : Step × Node) : Prop := c.1 = c'.1 ∧ c.2.Reordered c'.2

theorem rel_itemNodes (name : String) {xs ys : List Field} (h : List.Forall₂ ReorderedField xs ys) : ∀ i : Nat,
    List.Forall₂ SameStep (Field.itemNodes name i xs) (Field.itemNodes name i ys) := by
  induction h with
  | nil => exact fun _ => .nil
  | @cons x y _ _ hxy _ ih =>
    intro i
    cases x <;> cases y <;> simp only [ReorderedField] at hxy
    · exact .cons ⟨rfl, hxy⟩ (ih (i + 1))
    · exact ih (i + 1)
    · exact ih (i + 1)

theorem rel_fieldChildren (name : String) (h : ReorderedField x y) :
    List.Forall₂ SameStep (x.children name) (y.children name) := by
  cases x <;> cases y <;> simp only [ReorderedField] at h
  · exact .cons ⟨rfl, h⟩ .nil
  · exact rel_itemNodes name (reorderedItems_iff.1 h) 0
  · exact .nil

theorem Reordered.children (h : a.Reordered b) :
    Multiset.Rel SameStep (a.children : Multiset (Step × Node)) b.children := by
  unfold Node.children
  rw [← Multiset.coe_bind, ← Multiset.coe_bind]
  refine Multiset.rel_bind ?_ h.fields
  rintro ⟨name, x⟩ ⟨_, y⟩ ⟨rfl, hxy⟩
  exact rel_of_forall₂ (rel_fieldChildren name hxy)

end Node

namespace Place

variable {p q : Place}

theorem Alike.rel_children (h : p.Alike Node.Reordered q) :
    Multiset.Rel (Place.Alike Node.Reordered) (p.children : Multiset Place) q.children := by
  unfold children
  rw [← Multiset.map_coe, ← Multiset.map_coe, Multiset.rel_map]
  refine h.node.children.mono ?_
  rintro ⟨step, a⟩ - ⟨_, b⟩ - ⟨rfl, hab⟩
  exact h.child step hab

/-- The `walk` over the other tree visits the same places in another order. -/
theorem Alike.rel_walk (h : p.Alike Node.Reordered q) :
    Multiset.Rel (Place.Alike Node.Reordered) (p.walk : Multiset Place) q.walk := by
  rw [walk_eq_preorder, walk_eq_preorder]
  induction p using Place.induction generalizing q with
  | step p ih =>
    -- the induction is on the first tree, so that only pairs with a child of it can be compared further
    rw [preorder_eq, preorder_eq q, ← Multiset.cons_coe, ← Multiset.cons_coe, ← Multiset.coe_bind, ← Multiset.coe_bind]
    refine .cons h (Multiset.rel_bind (r := fun c c' => c ∈ p.children ∧ c.Alike Node.Reordered c') ?_ ?_)
    · exact fun c c' hc => ih c hc.1 hc.2
    · exact h.rel_children.mono fun c hc _ _ hcc' => ⟨Multiset.mem_coe.1 hc, hcc'⟩

theorem Alike.rel_walk_reached {program : Node} (h : p.Alike (Reached program Node.Reordered) q) :
    Multiset.Rel (Place.Alike (Reached program Node.Reordered)) (p.walk : Multiset Place) q.walk :=
  h.of_reached.rel_walk.mono fun _ hc _ _ hcc' => hcc'.reached ((mem_walk.1 (Multiset.mem_coe.1 hc)).inTree h.inTree)

end Place

/-- Where the kinds of all nodes are fit for keys, the order of fields makes no difference to analysis: `Reordered` is
a `Likeness`. -/
theorem Node.likeness_reordered {program : Node}
    (hkinds : ∀ a, program.Reaches a → a.kind.asKey = .ok a.kind) : Likeness (Reached program Node.Reordered) where
  kind := by
    rintro a b ⟨hab, ha⟩
    obtain ⟨-, v, hv⟩ := Document.keyValue?_of_asKey (hkinds a ha)
    exact (hab.kind.eq_of_key hv).symm
  contains := by
    rintro a b c d ⟨hab, -⟩ ⟨hcd, -⟩
    rw [hab.span_eq, hcd.span_eq]
  field? := fun hab name => rel_field?_reached hab.2 (hab.1.field? name)

/-! ## Building -/

namespace Node

open Document

variable {d d' : Document} {xs ys : List (String × Document)}

theorem toBuild_yields {α β : Type} {R : α → β → Prop} {x : Except Fault α} {y : Except Fault β} (h : Yields R x y) :
    Yields R (toBuild x) (toBuild y) := by
  intro a ha
  cases x with
  | error e => cases ha
  | ok a' =>
    cases ha
    obtain ⟨b, rfl, hab⟩ := h a rfl
    exact ⟨b, rfl, hab⟩

theorem ends_yields {a b a' b' : Document} (ha : a.Reordered a') (hb : b.Reordered b') :
    Yields Eq (do let start ← a.toInteger; let stop ← b.toInteger; return Span.mk start stop)
      (do let start ← a'.toInteger; let stop ← b'.toInteger; return Span.mk start stop) := by
  refine ha.toInteger.bind fun start _ hstart => hb.toInteger.bind fun stop _ hstop => ?_
  cases hstart
  cases hstop
  exact fun _ hspan => ⟨_, hspan, rfl⟩

theorem readSpan_yields
    (h : ∀ name, Option.Rel (ReorderedAs (Role.nodeMember xs name)) (memberOf? name xs) (memberOf? name ys))
    (kind kind' : Document) : Yields Eq (readSpan kind xs) (readSpan kind' ys) := by
  have hrange := h "range"
  have hstart := h "start"
  have hend := h "end"
  unfold readSpan
  generalize memberOf? "range" xs = x at hrange
  generalize memberOf? "range" ys = y at hrange
  generalize memberOf? "start" xs = start at hstart
  generalize memberOf? "start" ys = start' at hstart
  generalize memberOf? "end" xs = stop at hend
  generalize memberOf? "end" ys = stop' at hend
  cases hrange with
  | some hxy => exact toBuild_yields (hxy.pair.bind fun _ _ hends => ends_yields hends.1 hends.2)
  | none =>
    cases hstart with
    | none => exact fun _ hspan => by cases hspan
    | some hstart =>
      cases hend with
      | none => exact fun _ hspan => by cases hspan
      | some hend => exact toBuild_yields (ends_yields hstart.1 hend.1)

theorem require_yields (h : ReorderedAs .plain d d') (name : String) :
    Yields (ReorderedAs .plain) (d.require name) (d'.require name) := by
  cases d with
  | object members =>
    obtain ⟨ys, rfl, hmember⟩ := h.object
    have hname : Option.Rel (ReorderedAs .plain) (memberOf? name members) (memberOf? name ys) := hmember name
    unfold Document.require
    dsimp only
    generalize memberOf? name members = x at hname
    generalize memberOf? name ys = y at hname
    intro z hz
    cases hname with
    | none => cases hz
    | some hxy =>
      cases hz
      exact ⟨_, rfl, hxy⟩
  | _ => exact fun x hx => by cases hx

theorem readPosition_yields (h : ReorderedAs .plain d d') (name : String) :
    Yields (fun p p' => p.line.Reordered p'.line ∧ p.column.Reordered p'.column) (readPosition d name)
      (readPosition d' name) := by
  refine (require_yields h name).bind fun x x' hx => (require_yields hx "line").bind fun line line' hline => ?_
  refine (require_yields h name).bind fun y y' hy => (require_yields hy "column").bind fun column column' hcolumn => ?_
  exact fun p hp => ⟨⟨line', column'⟩, rfl, by cases hp; exact ⟨hline.1, hcolumn.1⟩⟩

theorem readLocation_yields (h : ReorderedAs .plain d d') :
    Yields (Option.Rel Location.Reordered) (readLocation d) (readLocation d') := by
  unfold readLocation
  rw [h.1.alike.truthy]
  split
  · refine (readPosition_yields h "start").bind fun start start' hstart => ?_
    refine (readPosition_yields h "end").bind fun stop stop' _ => ?_
    exact fun l hl => ⟨_, rfl, by cases hl; exact .some ⟨hstart.1, hstart.2⟩⟩
  · exact fun l hl => ⟨none, rfl, by cases hl; exact .none⟩

theorem readHeader_yields
    (h : ∀ name, Option.Rel (ReorderedAs (Role.nodeMember xs name)) (memberOf? name xs) (memberOf? name ys)) :
    Yields (fun x y => x.1.Reordered y.1 ∧ x.2.1 = y.2.1 ∧ Option.Rel Location.Reordered x.2.2 y.2.2)
      (readHeader xs) (readHeader ys) := by
  have htype := h "type"
  have hloc : ReorderedAs .plain ((memberOf? "loc" xs).getD .null) ((memberOf? "loc" ys).getD .null) := by
    have hloc : Option.Rel (ReorderedAs .plain) (memberOf? "loc" xs) (memberOf? "loc" ys) := h "loc"
    generalize memberOf? "loc" xs = x at hloc
    generalize memberOf? "loc" ys = y at hloc
    cases hloc with
    | none => exact ⟨Document.Reordered.refl _, regular_of_key rfl (by decide)⟩
    | some hxy => exact hxy
  unfold readHeader
  generalize memberOf? "type" xs = x at htype
  generalize memberOf? "type" ys = y at htype
  cases htype with
  | none => exact fun _ hheader => by cases hheader
  | some hkind =>
    refine (readSpan_yields h _ _).bind fun span _ hspan => ?_
    cases hspan
    refine (toBuild_yields (readLocation_yields hloc)).bind fun location location' hlocation => ?_
    exact fun header hheader => ⟨_, rfl, by cases hheader; exact ⟨hkind.1, rfl, hlocation⟩⟩

/-- By `buildFields` the fields are built one by one from the members that are not in the header. -/
theorem buildFields_ok_iff : ∀ {xs : List (String × Document)} {fields : List (String × Field)},
    buildFields xs = .ok fields ↔ List.Forall₂ (SameMember fun d x => buildField d = .ok x)
      (xs.filter fun m => !headerNames.contains m.1) fields
  | [], fields => by
    simp [buildFields, eq_comm]
  | (name, d) :: rest, fields => by
    have ih : ∀ {gs}, buildFields rest = .ok gs ↔ _ := buildFields_ok_iff
    rw [buildFields]
    split
    · next hname => rw [ih, List.filter_cons_of_neg (by simpa using hname)]
    · next hname =>
      rw [List.filter_cons_of_pos (by simpa using hname), List.forall₂_cons_left_iff]
      constructor
      · intro h
        obtain ⟨x, hx, h⟩ := bind_ok h
        obtain ⟨gs, hgs, h⟩ := bind_ok h
        cases h
        exact ⟨_, gs, ⟨rfl, hx⟩, ih.1 hgs, rfl⟩
      · rintro ⟨⟨name', x⟩, gs, ⟨hname', hx⟩, hgs, rfl⟩
        cases hname'
        rw [hx, ih.2 hgs]
        rfl

theorem buildFields_perm (h : xs.Perm ys) : Yields List.Perm (buildFields xs) (buildFields ys) := by
  intro fields hfields
  obtain ⟨gs, hgs, hperm⟩ := List.perm_comp_forall₂ (h.symm.filter _) (buildFields_ok_iff.1 hfields)
  exact ⟨gs, buildFields_ok_iff.2 hgs, hperm.symm⟩

theorem names_buildFields {fields : List (String × Field)} (hnames : (xs.map Prod.fst).Nodup)
    (h : buildFields xs = .ok fields) : (fields.map Prod.fst).Nodup := by
  have hfields := rel_of_forall₂ (buildFields_ok_iff.1 h)
  exact (names_perm hfields).nodup_iff.1 (hnames.sublist (List.filter_sublist.map _))

theorem buildField_of_key {k : KeyValue} (hkey : d.keyValue? = some k) : buildField d = .ok (.data d) := by
  cases d with
  | list items => cases hkey
  | object members => cases hkey
  | _ => simp [buildField]

theorem isSome_eq {α β : Type} {R : α → β → Prop} {x : Option α} {y : Option β} (h : Option.Rel R x y) :
    x.isSome = y.isSome := by
  cases h <;> rfl

mutual
theorem buildFields_yields : ∀ {xs ys : List (String × Document)} {role : String → Role},
    (∀ name, headerNames.contains name = false → role name = .tree) → EverywhereUnder Regular role xs →
    List.Forall₂ (SameMember Document.Reordered) xs ys →
    Yields (List.Forall₂ (SameMember ReorderedField)) (buildFields xs) (buildFields ys)
  | [], _, _, _, _, .nil => fun fields hfields => ⟨fields, hfields, by cases hfields; exact .nil⟩
  | (name, d) :: rest, (_, d') :: rest', role, hrole, h, .cons ⟨hname, hd⟩ hrest => by
    cases hname
    have ih := buildFields_yields hrole h.2 hrest
    rw [buildFields, buildFields]
    split
    · exact ih
    · next hname =>
      have htree := hrole name (by simpa using hname)
      refine (buildField_yields ⟨hd, htree ▸ h.1⟩).bind fun x y hxy => ih.bind fun fs gs hfs => ?_
      exact fun fields hfields => ⟨_, rfl, by cases hfields; exact .cons ⟨rfl, hxy⟩ hfs⟩

/-- From a document with its members reordered `buildField` makes the same up to the order of fields. -/
theorem buildField_yields : ∀ {d d' : Document}, ReorderedAs .tree d d' →
    Yields ReorderedField (buildField d) (buildField d')
  | .object xs, d', h => by
    obtain ⟨ys, hys, hmember⟩ := h.object
    obtain ⟨_, zs, hys', hmembers, hperm⟩ := reordered_object h.1
    cases hys
    cases hys'
    have hisSome : (memberOf? "type" xs).isSome = (memberOf? "type" ys).isSome := isSome_eq (hmember "type")
    rw [buildField, buildField, ← hisSome]
    split
    · next htype =>
      have hrole : Role.tree.member xs = Role.nodeMember xs := by
        funext name
        rw [Role.member, if_pos htype]
      have hunder : EverywhereUnder Regular (Role.nodeMember xs) xs := hrole ▸ h.2.2
      intro x hx
      obtain ⟨⟨kind, span, location⟩, hheader, hx⟩ := bind_ok hx
      obtain ⟨fields, hfields, hx⟩ := bind_ok hx
      cases hx
      rw [hrole] at hmember
      obtain ⟨⟨kind', span', location'⟩, hheader', halike⟩ := readHeader_yields hmember _ hheader
      -- first the fields of the members in their old order, then these fields in the new order
      obtain ⟨gs, hgs, hsame⟩ := buildFields_yields (nodeMember_eq_tree xs) hunder hmembers fields hfields
      obtain ⟨fields', hfields', hperm'⟩ := buildFields_perm hperm gs hgs
      refine ⟨.node (.mk kind' span' location' fields'), by rw [hheader', hfields']; rfl, ?_⟩
      have hnames := names_buildFields (h.2.self.1 xs rfl) hfields
      simpa [ReorderedField, Reordered] using ⟨halike, hnames, gs, reorderedFields_iff.2 hsame, hperm'⟩
    · exact fun x hx => ⟨_, rfl, by cases hx; simpa only [ReorderedField] using h.1⟩
  | .list xs, d', h => by
    obtain ⟨ys, rfl, hitems⟩ := reordered_list h.1
    refine (buildItems_yields h.2.2 hitems).bind fun fs gs hfs => ?_
    exact fun x hx => ⟨.list gs, rfl, by cases hx; simpa [ReorderedField] using reorderedItems_iff.2 hfs⟩
  | .null, _, h | .bool _, _, h | .int _, _, h | .float _, _, h | .text _, _, h | .moment _, _, h => by
    rw [h.1.eq_of_key rfl, buildField_of_key rfl]
    exact fun x hx => ⟨_, rfl, by cases hx; simpa only [ReorderedField] using Document.Reordered.refl _⟩

theorem buildItems_yields : ∀ {xs ys : List Document}, EverywhereIn Regular .tree xs →
    List.Forall₂ Document.Reordered xs ys →
    Yields (List.Forall₂ ReorderedField) (buildItems xs) (buildItems ys)
  | [], _, _, .nil => fun fields hfields => ⟨fields, hfields, by cases hfields; exact .nil⟩
  | d :: rest, d' :: rest', h, .cons hd hrest => by
    refine (buildField_yields ⟨hd, h.1⟩).bind fun x y hxy => (buildItems_yields h.2 hrest).bind fun fs gs hfs => ?_
    exact fun fields hfields => ⟨_, rfl, by cases hfields; exact .cons hxy hfs⟩
end

/-- From a document with its members reordered `ofDocument` makes a `Reordered` tree. -/
theorem ofDocument_yields (h : ReorderedAs .tree d d') : Yields Reordered (ofDocument d) (ofDocument d') := by
  intro a ha
  obtain ⟨y, hy, hay⟩ := buildField_yields h _ (ofDocument_ok_iff.1 ha)
  cases y <;> simp only [ReorderedField] at hay
  exact ⟨_, ofDocument_ok_iff.2 hy, hay⟩

end Node

end CatchAudit
