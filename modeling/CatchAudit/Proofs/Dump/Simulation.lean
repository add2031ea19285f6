/-
Building scopes from two documents side by side. When the parts of one document correspond, role by role,
to those of another one in what a loader reads of them, and references then resolve to places that are
alike, then building the scopes of the second document succeeds where it succeeds for the first, and
gives scopes that are alike.
-/
import CatchAudit.Proofs.Analysis.Likeness
import CatchAudit.Proofs.Document.Role
import CatchAudit.Proofs.Dump.Rejection

namespace CatchAudit

/-- Whether a place is the key of a shorthand property can be told from what analysis reads. -/
theorem Likeness.isShorthandKey {N : Node → Node → Prop} (hN : Likeness N) {p q : Place} (h : p.Alike N q) :
    p.isShorthandKey = q.isShorthandKey := by
  unfold Place.isShorthandKey
  have hparent := h.parent?
  generalize p.parent? = a at hparent
  generalize q.parent? = b at hparent
  cases hparent with
  | none => rfl
  | @some a b hab =>
    dsimp only
    have hshorthand := hN.operand? hab "shorthand"
    have hkey := hN.operand? hab "key"
    generalize a.operand? "shorthand" = x at hshorthand
    generalize b.operand? "shorthand" = y at hshorthand
    generalize a.operand? "key" = x' at hkey
    generalize b.operand? "key" = y' at hkey
    have htruthy : ((x.map Operand.truthy).getD false) = (y.map Operand.truthy).getD false := by
      cases hshorthand with
      | none => rfl
      | some hxy => exact hxy.alike.truthy_eq
    have hplace : (x'.map (Operand.isPlace p)).getD false = (y'.map (Operand.isPlace q)).getD false := by
      cases hkey with
      | none => rfl
      | some hxy => exact hxy.alike.isPlace_eq h
    rw [hN.isKind hab.node, htruthy, hplace]

/-- Skips that differ only in the documents that they show, which are related by `D`. -/
inductive Skip.Alike (D : Document → Document → Prop) : Skip → Skip → Prop
  | scopeBlock {d d' : Document} : D d d' → Alike D (.scopeBlock d) (.scopeBlock d')
  | scopeKind {d d' : Document} : D d d' → Alike D (.scopeKind d) (.scopeKind d')
  | unnamedVariable : Alike D .unnamedVariable .unnamedVariable
  | identifier (name : String) : Alike D (.identifier name) (.identifier name)
  | definitionKind (name : String) {d d' : Document} :
    D d d' → Alike D (.definitionKind name d) (.definitionKind name d')
  | definitionName (name : String) : Alike D (.definitionName name) (.definitionName name)
  | reference (name : String) : Alike D (.reference name) (.reference name)

namespace Forest.Alike

variable {N : Node → Node → Prop} {f f' : Forest}

theorem bindings (h : f.Alike N f') (s : Nat) : List.Forall₂ (Variable.Alike N) (f.bindings s) (f'.bindings s) := by
  unfold Forest.bindings
  have hscope := h.scope? s
  generalize f.scope? s = a at hscope
  generalize f'.scope? s = b at hscope
  cases hscope with
  | none => exact .nil
  | some hs => exact hs.bindings

theorem forall₂_modify {α β : Type} {R : α → β → Prop} {g : α → α} {g' : β → β} (hg : ∀ a b, R a b → R (g a) (g' b))
    {xs : List α} {ys : List β} (h : List.Forall₂ R xs ys) (i : Nat) :
    List.Forall₂ R (xs.modify i g) (ys.modify i g') := by
  induction h generalizing i with
  | nil => simp
  | cons hab hrest ih =>
    cases i with
    | zero => exact .cons (hg _ _ hab) hrest
    | succ i => exact .cons hab (ih i)

theorem addVariable (h : f.Alike N f') (s : Nat) {v v' : Variable} (hv : v.Alike N v') :
    (f.addVariable s v).Alike N (f'.addVariable s v') :=
  forall₂_modify (fun _ _ hs => ⟨hs.kind, hs.block, hs.upper, List.rel_append hs.bindings (.cons hv .nil)⟩) h s

end Forest.Alike

namespace Dump

/-- Documents of one role that are related by `E` are read alike, and references resolve to places that are alike by
`N`. -/
structure Simulation (E : Role → Document → Document → Prop) (N : Node → Node → Prop) (places places' : List Place) :
    Prop where
  kinds : Yields (fun _ _ => True) (checkKinds places) (checkKinds places')
  get : ∀ {r d d'} (name : String), r.isEntry = true → E r d d' → Yields (E (r.part name)) (d.get name) (d'.get name)
  items : ∀ {r r' d d'} (name : String), r.part name = .each r' → E r d d' →
    Yields (List.Forall₂ (E r')) (items d name) (items d' name)
  member? : ∀ {r d d'} (name : String), r.isEntry = true → E r d d' →
    Option.Rel (E (r.part name)) (d.member? name) (d'.member? name)
  resolve : ∀ {d d'}, E .link d d' → Yields (Option.Rel (Place.Alike N)) (resolve places d) (resolve places' d')
  plain : ∀ {d d'}, E .plain d d' → d.Alike d'
  key : ∀ {d d'}, E .plain d d' → Yields Eq d.asKey d'.asKey
  size : ∀ {d d'}, E .scope d d' → d.size = d'.size

/-- What has been built from two documents side by side, with entries related by `E` and places by `N`. -/
structure Building.Alike (E : Role → Document → Document → Prop) (N : Node → Node → Prop) (b b' : Building) : Prop where
  forest : b.forest.Alike N b'.forest
  entries : List.Forall₂ (E .scope) b.entries b'.entries
  ids : b.ids = b'.ids
  skipped : List.Forall₂ (Skip.Alike (E .plain)) b.skipped b'.skipped

/-! ## Members of two documents -/

section

variable {R : Document → Document → Prop} {d d' : Document} {name : String}

theorem get_yields (hobject : (∃ xs, d = .object xs) → ∃ ys, d' = .object ys)
    (hmember : Option.Rel R (d.member? name) (d'.member? name)) (hnull : R .null .null) :
    Yields R (d.get name) (d'.get name) := by
  intro x hx
  cases d with
  | object xs =>
    obtain ⟨ys, rfl⟩ := hobject ⟨xs, rfl⟩
    cases hx
    refine ⟨_, rfl, ?_⟩
    change Option.Rel R (memberOf? name xs) (memberOf? name ys) at hmember
    generalize memberOf? name xs = y at hmember ⊢
    generalize memberOf? name ys = y' at hmember ⊢
    cases hmember with
    | none => exact hnull
    | some hy => exact hy
  | _ => cases hx

theorem items_yields {S : Document → Document → Prop} (hobject : (∃ xs, d = .object xs) → ∃ ys, d' = .object ys)
    (hmember : Option.Rel R (d.member? name) (d'.member? name))
    (hiterate : ∀ x x', R x x' → Yields (List.Forall₂ S) x.iterate x'.iterate) :
    Yields (List.Forall₂ S) (items d name) (items d' name) := by
  cases d with
  | object xs =>
    obtain ⟨ys, rfl⟩ := hobject ⟨xs, rfl⟩
    show Yields _ (((memberOf? name xs).getD (.list [])).iterate) (((memberOf? name ys).getD (.list [])).iterate)
    change Option.Rel R (memberOf? name xs) (memberOf? name ys) at hmember
    generalize memberOf? name xs = y at hmember ⊢
    generalize memberOf? name ys = y' at hmember ⊢
    cases hmember with
    | none => exact fun zs hzs => ⟨[], rfl, by cases hzs; exact .nil⟩
    | some hy => exact hiterate _ _ hy
  | _ => exact fun zs hzs => by cases hzs

end

theorem isText_eq {d d' : Document} (h : d.Alike d') (s : String) : d.isText s = d'.isText s := by
  have hiff : ∀ x : Document, x.isText s = true ↔ x = .text s := by
    intro x
    cases x <;> simp [Document.isText]
  rw [Bool.eq_iff_iff, hiff, hiff, h.text_iff]

section

variable {E : Role → Document → Document → Prop} {N : Node → Node → Prop} {places places' : List Place}
  {d d' : Document} {name : String}

theorem skip_follows {what what' : Skip} (h : what.Alike (E .plain) what') :
    Follows (Building.Alike E N) (fun _ _ => True) (skip what) (skip what') :=
  .modify fun _ _ hb => ⟨hb.forest, hb.entries, hb.ids, List.rel_append hb.skipped (.cons h .nil)⟩

namespace Simulation

variable (hE : Simulation E N places places')

include hE

theorem readKind (h : E .plain d d') : Follows (Building.Alike E N) Eq (readKind d) (readKind d') := by
  unfold Dump.readKind
  have hkind : ScopeKind.ofDocument? d = ScopeKind.ofDocument? d' := by
    unfold ScopeKind.ofDocument?
    simp only [isText_eq (hE.plain h)]
  rw [hkind]
  cases ScopeKind.ofDocument? d' with
  | some kind => exact .pure rfl
  | none => exact (skip_follows (.scopeKind h)).bind fun _ _ _ => .pure rfl

theorem addScope {kind : ScopeKind} {block block' : Place} (upper : Option Nat) (hblock : block.Alike N block')
    (h : E .scope d d') :
    Follows (Building.Alike E N) Eq (addScope kind block upper d) (addScope kind block' upper d') := by
  unfold Dump.addScope
  refine Follows.get.bind fun b b' hb => ?_
  rw [hb.forest.size_eq]
  refine (Follows.modify ?_).bind fun _ _ _ => ?_
  · intro c c' hc
    exact ⟨List.rel_append hc.forest (.cons ⟨rfl, hblock, rfl, .nil⟩ .nil), List.rel_append hc.entries (.cons h .nil),
      hc.ids, hc.skipped⟩
  · have hid := hE.member? "id" rfl h
    generalize d.member? "id" = x at hid
    generalize d'.member? "id" = x' at hid
    cases hid with
    | none => exact .pure rfl
    | some hid =>
      refine (Follows.lift (hE.key hid)).bind fun key _ heq => ?_
      cases heq
      refine (Follows.modify ?_).bind fun _ _ _ => .pure rfl
      exact fun c c' hc => ⟨hc.forest, hc.entries, congrArg (_ :: ·) hc.ids, hc.skipped⟩

theorem addChild (upper : Nat) (h : E .scope d d') :
    Follows (Building.Alike E N) (Option.Rel fun e e' => e.1 = e'.1 ∧ E .scope e.2 e'.2)
      (addChild places upper d) (addChild places' upper d') := by
  unfold Dump.addChild
  refine (Follows.lift (hE.get "block" rfl h)).bind fun ref ref' href => ?_
  refine (Follows.lift (hE.resolve href)).bind fun found found' hfound => ?_
  cases hfound with
  | none =>
    refine (Follows.lift (hE.get "id" rfl h)).bind fun id id' hid => ?_
    exact (skip_follows (.scopeBlock hid)).bind fun _ _ _ => .pure .none
  | some hblock =>
    refine (Follows.lift (hE.get "type" rfl h)).bind fun kind kind' hkind => ?_
    refine (hE.readKind hkind).bind fun kind _ heq => ?_
    cases heq
    exact (hE.addScope _ hblock h).bind fun s s' hs => .pure (.some ⟨hs, h⟩)

theorem addChildren (upper : Nat) {ds ds' : List Document} (h : List.Forall₂ (E .scope) ds ds') :
    Follows (Building.Alike E N) (List.Forall₂ fun e e' => e.1 = e'.1 ∧ E .scope e.2 e'.2)
      (addChildren places upper ds) (addChildren places' upper ds') := by
  induction h with
  | nil => exact .pure .nil
  | cons hd _ ih =>
    refine (hE.addChild upper hd).bind fun made made' hmade => ih.bind fun others others' hothers => ?_
    cases hmade with
    | none => exact .pure hothers
    | some hpair => exact .pure (.cons hpair hothers)

theorem addScopes : ∀ (fuel : Nat) {stack stack' : List (Nat × Document)},
    List.Forall₂ (fun e e' => e.1 = e'.1 ∧ E .scope e.2 e'.2) stack stack' →
    Follows (Building.Alike E N) (fun _ _ => True) (addScopes places fuel stack) (addScopes places' fuel stack')
  | fuel, [], [], _ => by cases fuel <;> exact .pure trivial
  | 0, _ :: _, _ :: _, _ => .pure trivial
  | fuel + 1, (s, d) :: rest, (s', d') :: rest', h => by
    obtain ⟨⟨hs, hd⟩, hrest⟩ := List.forall₂_cons.1 h
    cases hs
    unfold Dump.addScopes
    rw [lift_bind_lift, lift_bind_lift]
    refine (Follows.lift (hE.items "childScopes" rfl hd)).bind fun ds ds' hds => ?_
    refine (hE.addChildren s hds).bind fun made made' hmade => ?_
    exact addScopes fuel (List.rel_append hmade hrest)

/-! ## Variables -/

theorem addIdentifiers {ds ds' : List Document} (h : List.Forall₂ (E .link) ds ds') :
    Follows (Building.Alike E N) (List.Forall₂ (Place.Alike N))
      (addIdentifiers places name ds) (addIdentifiers places' name ds') := by
  induction h with
  | nil => exact .pure .nil
  | cons hd _ ih =>
    unfold Dump.addIdentifiers
    refine (Follows.lift (hE.resolve hd)).bind fun found found' hfound => ?_
    cases hfound with
    | none => exact (skip_follows (.identifier name)).bind fun _ _ _ => ih
    | some hp => exact ih.bind fun others others' hothers => .pure (.cons hp hothers)

theorem readDefinition (h : E .definition d d') :
    Follows (Building.Alike E N) (Option.Rel (Definition.Alike N))
      (readDefinition places name d) (readDefinition places' name d') := by
  unfold Dump.readDefinition
  refine (Follows.lift (hE.get "type" rfl h)).bind fun kind kind' hkind => ?_
  have hof : DefinitionKind.ofDocument? kind = DefinitionKind.ofDocument? kind' := by
    unfold DefinitionKind.ofDocument?
    simp only [isText_eq (hE.plain hkind)]
  rw [hof]
  cases DefinitionKind.ofDocument? kind' with
  | none => exact (skip_follows (.definitionKind name hkind)).bind fun _ _ _ => .pure .none
  | some _ =>
    refine (Follows.lift (hE.get "name" rfl h)).bind fun ref ref' href => ?_
    refine (Follows.lift (hE.resolve href)).bind fun found found' hfound => ?_
    cases hfound with
    | none => exact (skip_follows (.definitionName name)).bind fun _ _ _ => .pure .none
    | some hp =>
      refine (Follows.lift (hE.get "node" rfl h)).bind fun ref ref' href => ?_
      refine (Follows.lift (hE.resolve href)).bind fun node node' hnode => ?_
      exact .pure (.some ⟨rfl, hp, hnode⟩)

theorem addDefinitions {ds ds' : List Document} (h : List.Forall₂ (E .definition) ds ds') :
    Follows (Building.Alike E N) (List.Forall₂ (Definition.Alike N))
      (addDefinitions places name ds) (addDefinitions places' name ds') := by
  induction h with
  | nil => exact .pure .nil
  | cons hd _ ih =>
    refine (hE.readDefinition hd).bind fun made made' hmade => ih.bind fun others others' hothers => ?_
    cases hmade with
    | none => exact .pure hothers
    | some hx => exact .pure (.cons hx hothers)

theorem readReference (v : VariableId) (h : E .use d d') :
    Follows (Building.Alike E N) (Option.Rel (Reference.Alike N))
      (readReference places v name d) (readReference places' v name d') := by
  unfold Dump.readReference
  refine (Follows.lift (hE.get "identifier" rfl h)).bind fun ref ref' href => ?_
  refine (Follows.lift (hE.resolve href)).bind fun found found' hfound => ?_
  refine (Follows.lift (hE.get "from" rfl h)).bind fun origin origin' horigin => ?_
  refine (Follows.lift (hE.key horigin)).bind fun id _ heq => ?_
  cases heq
  refine Follows.get.bind fun b b' hb => ?_
  rw [hb.ids]
  have hskip : Follows (Building.Alike E N) (Option.Rel (Reference.Alike N))
      (do skip (.reference name); return none) (do skip (.reference name); return none) :=
    (skip_follows (.reference name)).bind fun _ _ _ => .pure .none
  cases hfound with
  | none => exact hskip
  | some hp =>
    cases scopeOf? b'.ids id with
    | none => exact hskip
    | some s =>
      refine (Follows.lift (hE.get "read" rfl h)).bind fun read read' hread => ?_
      refine (Follows.lift (hE.get "write" rfl h)).bind fun write write' hwrite => ?_
      exact .pure (.some ⟨hp, rfl, (hE.plain hread).truthy, (hE.plain hwrite).truthy, rfl⟩)

theorem addReferences (v : VariableId) {ds ds' : List Document} (h : List.Forall₂ (E .use) ds ds') :
    Follows (Building.Alike E N) (List.Forall₂ (Reference.Alike N))
      (addReferences places v name ds) (addReferences places' v name ds') := by
  induction h with
  | nil => exact .pure .nil
  | cons hd _ ih =>
    refine (hE.readReference v hd).bind fun made made' hmade => ih.bind fun others others' hothers => ?_
    cases hmade with
    | none => exact .pure hothers
    | some hx => exact .pure (.cons hx hothers)

theorem addVariable (s : Nat) (h : E .binding d d') :
    Follows (Building.Alike E N) (fun _ _ => True) (addVariable places s d) (addVariable places' s d') := by
  unfold Dump.addVariable
  refine (Follows.lift (hE.get "name" rfl h)).bind fun x x' hx => ?_
  have htext := (hE.plain hx).text_iff
  split
  · next name =>
    cases (htext name).1 rfl
    refine Follows.get.bind fun b b' hb => ?_
    rw [(hb.forest.bindings s).length_eq]
    refine (Follows.lift (hE.items "identifiers" rfl h)).bind fun ds ds' hds => ?_
    refine (hE.addIdentifiers hds).bind fun identifiers identifiers' hidentifiers => ?_
    refine (Follows.lift (hE.items "defs" rfl h)).bind fun ds ds' hds => ?_
    refine (hE.addDefinitions hds).bind fun definitions definitions' hdefinitions => ?_
    refine (Follows.lift (hE.items "references" rfl h)).bind fun ds ds' hds => ?_
    refine (hE.addReferences _ hds).bind fun references references' hreferences => ?_
    refine .modify fun c c' hc => ⟨?_, hc.entries, hc.ids, hc.skipped⟩
    exact hc.forest.addVariable s ⟨rfl, rfl, hdefinitions, hidentifiers, hreferences⟩
  · next hother =>
    split
    · next name => exact absurd ((htext name).2 rfl) (hother name)
    · exact skip_follows .unnamedVariable

theorem addVariables (s : Nat) {ds ds' : List Document} (h : List.Forall₂ (E .binding) ds ds') :
    Follows (Building.Alike E N) (fun _ _ => True) (addVariables places s ds) (addVariables places' s ds') := by
  induction h with
  | nil => exact .pure trivial
  | cons hd _ ih => exact (hE.addVariable s hd).bind fun _ _ _ => ih

theorem addAllVariables {ds ds' : List Document} (h : List.Forall₂ (E .scope) ds ds') : ∀ s : Nat,
    Follows (Building.Alike E N) (fun _ _ => True) (addAllVariables places s ds) (addAllVariables places' s ds') := by
  induction h with
  | nil => exact fun _ => .pure trivial
  | cons hd _ ih =>
    intro s
    refine (Follows.lift (hE.items "variables" rfl hd)).bind fun vs vs' hvs => ?_
    exact (hE.addVariables s hvs).bind fun _ _ _ => ih (s + 1)

/-- Where `addRoot` builds scopes from the first root, it builds alike ones from the second. -/
theorem addRoot {b : Building} (h : E .scope d d') (hrun : (addRoot places d).run Building.start = (.ok none, b)) :
    ∃ b', (Dump.addRoot places' d').run Building.start = (.ok none, b') ∧ b.Alike E N b' := by
  obtain ⟨u, hkinds, hobject⟩ := run_lift_bind_ok hrun
  cases d with
  | object members =>
    -- the second root is an object too, as a member of it can be asked for
    obtain ⟨x, hx, -⟩ := hE.get "block" rfl h _ rfl
    cases d' with
    | object members' =>
      have hfollows : Follows (Building.Alike E N) Eq (Dump.addRoot places (.object members))
          (Dump.addRoot places' (.object members')) := by
        unfold Dump.addRoot
        refine (Follows.lift hE.kinds).bind fun _ _ _ => ?_
        refine (Follows.lift (hE.get "block" rfl h)).bind fun ref ref' href => ?_
        refine (Follows.lift (hE.resolve href)).bind fun found found' hfound => ?_
        cases hfound with
        | none => exact .pure rfl
        | some hblock =>
          refine (Follows.lift (hE.get "type" rfl h)).bind fun kind kind' hkind => ?_
          refine (hE.readKind hkind).bind fun kind _ heq => ?_
          cases heq
          refine (hE.addScope _ hblock h).bind fun s s' hs => ?_
          rw [hE.size h]
          refine (hE.addScopes _ (.cons ⟨hs, h⟩ .nil)).bind fun _ _ _ => ?_
          refine Follows.get.bind fun b b' hb => ?_
          exact (hE.addAllVariables hb.entries 0).bind fun _ _ _ => .pure rfl
      have hstart : Building.start.Alike E N Building.start := ⟨.nil, .nil, rfl, .nil⟩
      obtain ⟨_, b', hrun', rfl, hb⟩ := hfollows _ _ hstart _ _ hrun
      exact ⟨b', hrun', hb⟩
    | _ => cases hx
  | _ => cases hobject

end Simulation

end

/-- A dump whose parts are read alike, by a `Simulation`, is loaded by `ofDocument` as well, and what is built is
alike. -/
theorem ofDocument_simulation (E : Role → Document → Document → Prop) (N : Node → Node → Node → Prop)
    {d source : Document} (d' : Document) {dump : Dump} (h : (ofDocument d source).1 = .ok dump)
    (hast : ∀ ast program, d.member? "ast" = some ast → Node.ofDocument ast = .ok program →
      ∃ ast' program', d'.member? "ast" = some ast' ∧ Node.ofDocument ast' = .ok program' ∧
        Simulation E (N program) (Place.root program).walk (Place.root program').walk)
    (hscopes : ∀ scopes, d.member? "scopes" = some scopes →
      ∃ scopes', d'.member? "scopes" = some scopes' ∧ E .scope scopes scopes') :
    ∃ dump', (ofDocument d' source).1 = .ok dump' ∧ dump.forest.Alike (N dump.program) dump'.forest ∧
      List.Forall₂ (Skip.Alike (E .plain)) dump.skipped dump'.skipped := by
  obtain ⟨ast, scopes, program, hast₀, hscopes₀, hprogram, hload⟩ := ofDocument_ok_iff.1 h
  obtain ⟨ast', program', hast', hprogram', hE⟩ := hast ast program hast₀ hprogram
  obtain ⟨scopes', hscopes', hscope⟩ := hscopes scopes hscopes₀
  unfold withScopes at hload
  rcases hrun : (addRoot (Place.root program).walk scopes).run Building.start with ⟨f | _ | _ | _, b⟩
    <;> rw [hrun] at hload <;> cases hload
  obtain ⟨b', hrun', hb⟩ := hE.addRoot hscope hrun
  refine ⟨⟨program', b'.forest, sourceOf d' source, b'.skipped⟩,
    ofDocument_ok_iff.2 ⟨ast', scopes', program', hast', hscopes', hprogram', ?_⟩, hb.forest, hb.skipped⟩
  unfold withScopes
  rw [hrun']

end Dump

end CatchAudit
