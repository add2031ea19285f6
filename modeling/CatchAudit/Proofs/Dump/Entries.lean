/-
What building the scopes of a dump makes of their entries. The root entry and, below each entry that is
kept, the child entries whose block resolves are made into scopes, siblings in order; the stack on
which entries wait does not show in the result. A scope has the variables of its entry that have a
name, and these have what resolves of their identifiers, definitions and references. Each of the
others is skipped once.
-/
import CatchAudit.Proofs.Dump.Lookup
import CatchAudit.Proofs.Scope.Preorder

namespace CatchAudit

/-! ## What is made of an entry -/

namespace Dump

/-- How many documents a reader finds nothing in. -/
def lost {α : Type} (read : Document → Option α) (ds : List Document) : Nat := ds.countP fun d => (read d).isNone

/-- The kind of scope that an entry names. -/
def scopeKind? (entry : Document) : Option ScopeKind := ScopeKind.ofDocument? (entry.memberD "type")

/-- The block of a scope entry. -/
def block? (places : List Place) (entry : Document) : Option Place := target? places (entry.memberD "block")

/-- The entries that are made into scopes: those with a `block?`. -/
def kept (places : List Place) (entries : List Document) : List Document :=
  entries.filter fun entry => (block? places entry).isSome

/-- The child entries that are made into scopes. -/
def keptChildren (places : List Place) (entry : Document) : List Document :=
  kept places (entry.holdings "childScopes")

/-- The ids of entries with their numbers, the latest first, as `Build.ids` holds them. -/
def idTable (entries : List Document) : List (Document × Nat) :=
  (entries.zipIdx.filterMap fun e => (e.1.member? "id").map (·, e.2)).reverse

/-- A definition of a known kind whose name resolves. -/
def definition? (places : List Place) (d : Document) : Option Definition :=
  match DefinitionKind.ofDocument? (d.memberD "type"), target? places (d.memberD "name") with
  | some kind, some name => some ⟨kind, name, target? places (d.memberD "node")⟩
  | _, _ => none

/-- The identifier of a reference and the scope in which it stands, if both resolve. -/
def referent? (places : List Place) (ids : List (Document × Nat)) (d : Document) : Option (Place × Nat) :=
  match target? places (d.memberD "identifier"), scopeOf? ids (d.memberD "from") with
  | some identifier, some s => some (identifier, s)
  | _, _ => none

/-- A reference to the variable `v`. -/
def reference? (places : List Place) (ids : List (Document × Nat)) (v : VariableId) (d : Document) :
    Option Reference :=
  (referent? places ids d).map fun r => ⟨r.1, r.2, (d.memberD "read").truthy, (d.memberD "write").truthy, v⟩

/-- The name of a variable entry, with the entry. -/
def named? (entry : Document) : Option (String × Document) :=
  match entry.memberD "name" with
  | .text name => some (name, entry)
  | _ => none

/-- The variable of an entry. -/
def variableOf (places : List Place) (ids : List (Document × Nat)) (id : VariableId) (name : String)
    (entry : Document) : Variable where
  name := name
  scope := id.scope
  definitions := (entry.holdings "defs").filterMap (definition? places)
  identifiers := (entry.holdings "identifiers").filterMap (target? places)
  references := (entry.holdings "references").filterMap (reference? places ids id)

/-- The variables of scope number `s`, made from its variable entries, the first being number `i`. -/
def bindingsFrom (places : List Place) (ids : List (Document × Nat)) (s i : Nat) (entries : List Document) :
    List Variable :=
  (entries.filterMap named?).mapIdx fun j v => variableOf places ids ⟨s, i + j⟩ v.1 v.2

/-- What is skipped in a variable entry with a name: `lost` definitions, identifiers and references. -/
def lostInVariable (places : List Place) (ids : List (Document × Nat)) (entry : Document) : Nat :=
  lost (target? places) (entry.holdings "identifiers") + lost (definition? places) (entry.holdings "defs") +
    lost (referent? places ids) (entry.holdings "references")

/-- What is skipped among variable entries: those without a name, and by `lostInVariable` parts of the others. -/
def lostInVariables (places : List Place) (ids : List (Document × Nat)) (entries : List Document) : Nat :=
  lost named? entries + ((entries.filterMap named?).map fun v => lostInVariable places ids v.2).sum

/-- What is skipped in making scopes: an unknown kind, and child entries whose block does not resolve. -/
def lostInScope (places : List Place) (entry : Document) : Nat :=
  (if (scopeKind? entry).isNone then 1 else 0) + lost (block? places) (entry.holdings "childScopes")

theorem lost_cons {α : Type} (read : Document → Option α) (d : Document) (ds : List Document) :
    lost read (d :: ds) = lost read ds + if (read d).isNone then 1 else 0 := by
  unfold lost
  rw [List.countP_cons]

/-! ## Steps that only skip -/

namespace Building

/-- The forest becomes `f`, `n` more entries are skipped, and nothing else changes. -/
structure Turns (b : Building) (f : Forest) (n : Nat) (b' : Building) : Prop where
  forest : b'.forest = f
  entries : b'.entries = b.entries
  ids : b'.ids = b.ids
  skipped : b'.skipped.length = b.skipped.length + n

/-- Nothing changes, except that `n` more entries are skipped. -/
abbrev Skips (b : Building) (n : Nat) (b' : Building) : Prop := b.Turns b.forest n b'

variable {b b' b'' : Building} {f : Forest} {m n : Nat}

theorem Skips.refl (b : Building) : b.Skips 0 b := ⟨rfl, rfl, rfl, rfl⟩

theorem Turns.trans (h : b.Turns f m b') {g : Forest} (h' : b'.Turns g n b'') : b.Turns g (m + n) b'' where
  forest := h'.forest
  entries := h'.entries.trans h.entries
  ids := h'.ids.trans h.ids
  skipped := by rw [h'.skipped, h.skipped, Nat.add_assoc]

theorem Skips.trans (h : b.Skips m b') (h' : b'.Skips n b'') : b.Skips (m + n) b'' := by
  have hall := Turns.trans h h'
  rwa [h.forest] at hall

theorem Turns.of_eq (h : b.Turns f m b') (hmn : m = n) : b.Turns f n b' := hmn ▸ h

end Building

variable {places : List Place} {b b' : Building} {name : String}

theorem skip_ok {what : Skip} {u : Unit} (h : (skip what).run b = (.ok u, b')) : b.Skips 1 b' := by
  cases h
  exact ⟨rfl, rfl, rfl, by simp⟩

theorem skip_return_ok {α : Type} {what : Skip} {a made : α}
    (h : (skip what >>= fun _ => (pure a : Build α)).run b = (.ok made, b')) : made = a ∧ b.Skips 1 b' := by
  obtain ⟨u, mid, hskip, hpure⟩ := run_bind_ok h
  obtain ⟨rfl, rfl⟩ := run_pure_ok hpure
  exact ⟨rfl, skip_ok hskip⟩

theorem readKind_ok {d : Document} {kind : ScopeKind} (h : (readKind d).run b = (.ok kind, b')) :
    kind = (ScopeKind.ofDocument? d).getD .block ∧
      b.Skips (if (ScopeKind.ofDocument? d).isNone then 1 else 0) b' := by
  unfold readKind at h
  cases hk : ScopeKind.ofDocument? d with
  | some k =>
    rw [hk] at h
    obtain ⟨rfl, rfl⟩ := run_pure_ok h
    exact ⟨rfl, .refl _⟩
  | none =>
    rw [hk] at h
    exact skip_return_ok h

/-! ## Variables -/

theorem addIdentifiers_ok : ∀ {ds : List Document} {ps : List Place} {b b' : Building},
    (addIdentifiers places name ds).run b = (.ok ps, b') →
    ps = ds.filterMap (target? places) ∧ b.Skips (lost (target? places) ds) b'
  | [], ps, b, b', h => by
    obtain ⟨rfl, rfl⟩ := run_pure_ok h
    exact ⟨rfl, .refl _⟩
  | d :: rest, ps, b, b', h => by
    obtain ⟨found, hr, h⟩ := run_lift_bind_ok h
    have hd := resolve_ok hr
    rw [lost_cons, hd]
    cases found with
    | none =>
      obtain ⟨u, mid, hskip, h⟩ := run_bind_ok h
      obtain ⟨hps, hrest⟩ := addIdentifiers_ok h
      rw [List.filterMap_cons_none hd]
      exact ⟨hps, ((skip_ok hskip).trans hrest).of_eq (Nat.add_comm ..)⟩
    | some p =>
      obtain ⟨others, mid, ho, h⟩ := run_bind_ok h
      obtain ⟨hps, rfl⟩ := run_pure_ok h
      obtain ⟨hothers, hrest⟩ := addIdentifiers_ok ho
      rw [List.filterMap_cons_some hd, hps, hothers]
      exact ⟨rfl, hrest⟩

/-- A loop that collects what is `meant` by each document, where reading one of them skips it or nothing. -/
theorem collect_ok {α : Type} (read : Document → Build (Option α)) {all : List Document → Build (List α)}
    {meant : Document → Option α} {ids : List (Document × Nat)} (hnil : all [] = pure [])
    (hcons : ∀ d rest, all (d :: rest) = do
      let made ← read d
      let others ← all rest
      return made.toList ++ others)
    (hread : ∀ {d made b b'}, b.ids = ids → (read d).run b = (.ok made, b') →
      made = meant d ∧ b.Skips (if (meant d).isNone then 1 else 0) b') :
    ∀ {ds : List Document} {made : List α} {b b' : Building}, b.ids = ids → (all ds).run b = (.ok made, b') →
      made = ds.filterMap meant ∧ b.Skips (lost meant ds) b'
  | [], made, b, b', _, h => by
    rw [hnil] at h
    obtain ⟨rfl, rfl⟩ := run_pure_ok h
    exact ⟨rfl, .refl _⟩
  | d :: rest, made, b, b', hids, h => by
    rw [hcons] at h
    obtain ⟨first, mid, hfirst, h⟩ := run_bind_ok h
    obtain ⟨others, mid', hothers, h⟩ := run_bind_ok h
    obtain ⟨rfl, rfl⟩ := run_pure_ok h
    obtain ⟨rfl, hskip⟩ := hread hids hfirst
    obtain ⟨rfl, hrest⟩ := collect_ok read hnil hcons hread (hskip.ids.trans hids) hothers
    rw [lost_cons, Nat.add_comm]
    refine ⟨?_, hskip.trans hrest⟩
    rcases hd : meant d with _ | a
    · rw [List.filterMap_cons_none hd]; rfl
    · rw [List.filterMap_cons_some hd]; rfl

theorem readDefinition_ok {d : Document} {made : Option Definition}
    (h : (readDefinition places name d).run b = (.ok made, b')) :
    made = definition? places d ∧ b.Skips (if (definition? places d).isNone then 1 else 0) b' := by
  obtain ⟨kindName, hkind, h⟩ := run_lift_bind_ok h
  rw [Document.get_ok hkind] at h
  unfold definition?
  cases hk : DefinitionKind.ofDocument? (d.memberD "type") with
  | none =>
    rw [hk] at h
    exact skip_return_ok h
  | some kind =>
    rw [hk] at h
    obtain ⟨nameRef, hname, h⟩ := run_lift_bind_ok h
    obtain ⟨found, hfound, h⟩ := run_lift_bind_ok h
    rw [Document.get_ok hname] at hfound
    rw [resolve_ok hfound]
    cases found with
    | none =>
      exact skip_return_ok h
    | some p =>
      obtain ⟨nodeRef, hnode, h⟩ := run_lift_bind_ok h
      obtain ⟨node, hresolve, h⟩ := run_lift_bind_ok h
      rw [Document.get_ok hnode] at hresolve
      rw [resolve_ok hresolve]
      obtain ⟨rfl, rfl⟩ := run_pure_ok h
      exact ⟨rfl, .refl _⟩

theorem readReference_ok {v : VariableId} {d : Document} {made : Option Reference}
    (h : (readReference places v name d).run b = (.ok made, b')) :
    made = reference? places b.ids v d ∧ b.Skips (if (reference? places b.ids v d).isNone then 1 else 0) b' := by
  obtain ⟨identifierRef, hidentifier, h⟩ := run_lift_bind_ok h
  obtain ⟨identifier, hresolve, h⟩ := run_lift_bind_ok h
  obtain ⟨scopeId, hscope, h⟩ := run_lift_bind_ok h
  obtain ⟨id, hkey, h⟩ := run_lift_bind_ok h
  have h := run_get_bind_ok h
  rw [Document.get_ok hidentifier] at hresolve
  have hid : id = d.memberD "from" := by rw [(Document.keyValue?_of_asKey hkey).1, Document.get_ok hscope]
  unfold reference? referent?
  rw [resolve_ok hresolve, ← hid]
  rcases identifier with _ | p
  · exact skip_return_ok h
  · rcases hs : scopeOf? b.ids id with _ | s <;> rw [hs] at h
    · exact skip_return_ok h
    · obtain ⟨read, hread, h⟩ := run_lift_bind_ok h
      obtain ⟨write, hwrite, h⟩ := run_lift_bind_ok h
      obtain ⟨rfl, rfl⟩ := run_pure_ok h
      rw [Document.get_ok hread, Document.get_ok hwrite]
      exact ⟨rfl, .refl _⟩

theorem addDefinitions_ok {ds : List Document} {made : List Definition}
    (h : (addDefinitions places name ds).run b = (.ok made, b')) :
    made = ds.filterMap (definition? places) ∧ b.Skips (lost (definition? places) ds) b' := by
  refine collect_ok (readDefinition places name) ?_ ?_ ?_ rfl h
  · rfl
  · exact fun _ _ => rfl
  · exact fun _ => readDefinition_ok

theorem addReferences_ok {v : VariableId} {ds : List Document} {made : List Reference}
    (h : (addReferences places v name ds).run b = (.ok made, b')) :
    made = ds.filterMap (reference? places b.ids v) ∧ b.Skips (lost (reference? places b.ids v) ds) b' := by
  refine collect_ok (readReference places v name) ?_ ?_ ?_ rfl h
  · rfl
  · exact fun _ _ => rfl
  · exact fun hids hread => hids ▸ readReference_ok hread

theorem isNone_reference? (places : List Place) (ids : List (Document × Nat)) (v : VariableId) (d : Document) :
    (reference? places ids v d).isNone = (referent? places ids d).isNone := by
  unfold reference?
  rw [Option.isNone_map]

theorem bindingsFrom_singleton (places : List Place) (ids : List (Document × Nat)) (s i : Nat) (entry : Document) :
    bindingsFrom places ids s i [entry] = (named? entry).toList.map fun v => variableOf places ids ⟨s, i⟩ v.1 v.2 := by
  unfold bindingsFrom
  rcases hn : named? entry with _ | v
  · simp [List.filterMap_cons_none hn]
  · simp [List.filterMap_cons_some hn]

theorem lostInVariables_singleton (places : List Place) (ids : List (Document × Nat)) (entry : Document) :
    lostInVariables places ids [entry] = match named? entry with
      | some v => lostInVariable places ids v.2
      | none => 1 := by
  unfold lostInVariables
  rcases hn : named? entry with _ | v
  · simp [List.filterMap_cons_none hn, lost, hn]
  · simp [List.filterMap_cons_some hn, lost, hn]

theorem bindingsFrom_cons (places : List Place) (ids : List (Document × Nat)) (s i : Nat) (entry : Document)
    (rest : List Document) :
    bindingsFrom places ids s i (entry :: rest) = bindingsFrom places ids s i [entry] ++
      bindingsFrom places ids s (i + (bindingsFrom places ids s i [entry]).length) rest := by
  unfold bindingsFrom
  rcases hn : named? entry with _ | v
  · simp [List.filterMap_cons_none hn]
  · simp [List.filterMap_cons_some hn, List.mapIdx_cons, Nat.add_assoc, Nat.add_comm 1]

theorem lostInVariables_cons (places : List Place) (ids : List (Document × Nat)) (entry : Document)
    (rest : List Document) :
    lostInVariables places ids (entry :: rest) =
      lostInVariables places ids [entry] + lostInVariables places ids rest := by
  unfold lostInVariables
  rw [lost_cons, lost_cons]
  rcases hn : named? entry with _ | v
  · simp [List.filterMap_cons_none hn, lost]
    omega
  · simp [List.filterMap_cons_some hn, lost]
    omega

end Dump

/-- Adds variables at the end of a scope. -/
def Forest.addVariables (f : Forest) (s : Nat) (vs : List Variable) : Forest :=
  ⟨f.scopes.modify s fun scope => { scope with bindings := scope.bindings ++ vs }⟩

namespace Forest

theorem addVariables_nil (f : Forest) (s : Nat) : f.addVariables s [] = f := by
  show (⟨f.scopes.modify s _⟩ : Forest) = f
  have hid : (fun scope : Scope => { scope with bindings := scope.bindings ++ [] }) = id := by
    funext scope
    rw [List.append_nil]
    rfl
  rw [hid, List.modify_id]

theorem addVariables_append (f : Forest) (s : Nat) (vs ws : List Variable) :
    (f.addVariables s vs).addVariables s ws = f.addVariables s (vs ++ ws) := by
  unfold addVariables
  rw [List.modify_modify_eq]
  simp [Function.comp_def]

theorem size_addVariables (f : Forest) (s : Nat) (vs : List Variable) : (f.addVariables s vs).size = f.size := by
  simp [size, addVariables]

theorem bindings_addVariables {f : Forest} {s : Nat} (hs : s < f.size) (vs : List Variable) :
    (f.addVariables s vs).bindings s = f.bindings s ++ vs := by
  unfold size at hs
  simp [bindings, scope?, addVariables, List.getElem?_eq_getElem hs]

/-- The same scopes, with other variables. -/
def withBindings (f : Forest) (g : Nat → List Variable) : Forest :=
  ⟨f.scopes.mapIdx fun i scope => { scope with bindings := g i }⟩

theorem scope?_withBindings (f : Forest) (g : Nat → List Variable) (i : Nat) :
    (f.withBindings g).scope? i = (f.scope? i).map fun scope => { scope with bindings := g i } := by
  simp [scope?, withBindings]

theorem size_withBindings (f : Forest) (g : Nat → List Variable) : (f.withBindings g).size = f.size := by
  simp [size, withBindings]

theorem ext_scope? {f g : Forest} (h : ∀ i, f.scope? i = g.scope? i) : f = g := by
  obtain ⟨scopes⟩ := f
  obtain ⟨scopes'⟩ := g
  exact congrArg Forest.mk (List.ext_getElem? h)

theorem bindings_withBindings {f : Forest} {i : Nat} (hi : i < f.size) (g : Nat → List Variable) :
    (f.withBindings g).bindings i = g i := by
  unfold size at hi
  unfold bindings
  rw [scope?_withBindings]
  simp [scope?, List.getElem?_eq_getElem hi]

theorem bindings_eq_nil {f : Forest} {i : Nat} (hi : f.size ≤ i) : f.bindings i = [] := by
  unfold bindings scope?
  rw [List.getElem?_eq_none hi]
  rfl

theorem withBindings_eq_self {f : Forest} {g : Nat → List Variable} (hg : ∀ i < f.size, g i = f.bindings i) :
    f.withBindings g = f := by
  apply ext_scope?
  intro i
  rw [scope?_withBindings]
  rcases hi : f.scope? i with _ | scope
  · rfl
  · rw [Option.map_some, hg i (List.getElem?_eq_some_iff.1 hi).1, bindings, hi]
    rfl

/-- Only the variables of scopes that are there matter, and those from before are given up. -/
theorem withBindings_withBindings {f : Forest} {g g' h : Nat → List Variable} (hg : ∀ i < f.size, g' i = h i) :
    (f.withBindings g).withBindings g' = f.withBindings h := by
  apply ext_scope?
  intro i
  rw [scope?_withBindings, scope?_withBindings, scope?_withBindings, Option.map_map]
  by_cases hi : i < f.size
  · rw [hg i hi]
    rfl
  · rw [show f.scope? i = none from List.getElem?_eq_none (by unfold size at hi; omega)]
    rfl

theorem addVariables_eq_withBindings (f : Forest) (s : Nat) (vs : List Variable) :
    f.addVariables s vs = f.withBindings fun i => f.bindings i ++ if i = s then vs else [] := by
  apply ext_scope?
  intro i
  rw [scope?_withBindings]
  unfold addVariables bindings scope?
  rw [List.getElem?_modify]
  rcases f.scopes[i]? with _ | scope
  · rfl
  · by_cases hi : i = s
    · simp [hi]
    · simp [hi, Ne.symm hi]

end Forest

namespace Dump

variable {places : List Place} {b b' : Building} {s : Nat}

theorem addVariable_ok {entry : Document} {u : Unit} (h : (addVariable places s entry).run b = (.ok u, b')) :
    b.Turns (b.forest.addVariables s (bindingsFrom places b.ids s (b.forest.bindings s).length [entry]))
      (lostInVariables places b.ids [entry]) b' := by
  obtain ⟨nameOf, hname, h⟩ := run_lift_bind_ok h
  rw [Document.get_ok hname] at h
  rw [bindingsFrom_singleton, lostInVariables_singleton]
  by_cases htext : ∃ name, entry.memberD "name" = .text name
  · obtain ⟨name, htext⟩ := htext
    have hnamed : named? entry = some (name, entry) := by
      unfold named?
      rw [htext]
    rw [hnamed]
    rw [htext] at h
    have h := run_get_bind_ok h
    obtain ⟨ds, hds, h⟩ := run_lift_bind_ok h
    obtain ⟨identifiers, b₁, hidentifiers, h⟩ := run_bind_ok h
    obtain ⟨es, hes, h⟩ := run_lift_bind_ok h
    obtain ⟨definitions, b₂, hdefinitions, h⟩ := run_bind_ok h
    obtain ⟨fs, hfs, h⟩ := run_lift_bind_ok h
    obtain ⟨references, b₃, hreferences, h⟩ := run_bind_ok h
    rw [Document.items_ok hds] at hidentifiers
    rw [Document.items_ok hes] at hdefinitions
    rw [Document.items_ok hfs] at hreferences
    obtain ⟨rfl, h₁⟩ := addIdentifiers_ok hidentifiers
    obtain ⟨rfl, h₂⟩ := addDefinitions_ok hdefinitions
    obtain ⟨rfl, h₃⟩ := addReferences_ok hreferences
    -- nothing but skips happens in between, so that references are read with the same ids
    rw [(h₁.trans h₂).ids] at h₃
    have hskips := (h₁.trans h₂).trans h₃
    cases h
    refine ⟨?_, hskips.entries, hskips.ids, ?_⟩
    · dsimp only
      rw [hskips.forest, (h₁.trans h₂).ids]
      rfl
    · dsimp only
      rw [hskips.skipped]
      simp [lostInVariable, lost, isNone_reference?]
  · have hnamed : named? entry = none := by
      unfold named?
      split
      · next name hname => exact absurd ⟨name, hname⟩ htext
      · rfl
    rw [hnamed]
    split at h
    · next name hname => exact absurd ⟨name, hname⟩ htext
    · rw [Option.toList_none, List.map_nil, Forest.addVariables_nil]
      exact skip_ok h

theorem addVariables_ok : ∀ {entries : List Document} {u : Unit} {b b' : Building}, s < b.forest.size →
    (addVariables places s entries).run b = (.ok u, b') →
    b.Turns (b.forest.addVariables s (bindingsFrom places b.ids s (b.forest.bindings s).length entries))
      (lostInVariables places b.ids entries) b'
  | [], u, b, b', _, h => by
    obtain ⟨-, rfl⟩ := run_pure_ok h
    show b'.Turns (b'.forest.addVariables s []) 0 b'
    rw [Forest.addVariables_nil]
    exact Building.Skips.refl b'
  | entry :: rest, u, b, b', hs, h => by
    obtain ⟨u', mid, hentry, h⟩ := run_bind_ok h
    have hfirst := addVariable_ok hentry
    have hsize : s < mid.forest.size := by rwa [hfirst.forest, Forest.size_addVariables]
    have hrest := addVariables_ok hsize h
    have hall := hfirst.trans hrest
    -- the first variable of the rest comes after those that the first entry has given
    rw [hfirst.ids, hfirst.forest, Forest.bindings_addVariables hs, Forest.addVariables_append, List.length_append,
      ← bindingsFrom_cons, ← lostInVariables_cons] at hall
    exact hall

/-- The variables of the scopes made from these entries, the first being number `s`. -/
def bindingsOf (places : List Place) (ids : List (Document × Nat)) (s : Nat) (entries : List Document) (i : Nat) :
    List Variable :=
  if s ≤ i then bindingsFrom places ids i 0 ((entries.getD (i - s) .null).holdings "variables") else []

theorem addAllVariables_ok : ∀ {entries : List Document} {s : Nat} {u : Unit} {b b' : Building},
    s + entries.length = b.forest.size → (∀ i, s ≤ i → b.forest.bindings i = []) →
    (addAllVariables places s entries).run b = (.ok u, b') →
    b.Turns (b.forest.withBindings fun i => b.forest.bindings i ++ bindingsOf places b.ids s entries i)
      (entries.map fun entry => lostInVariables places b.ids (entry.holdings "variables")).sum b'
  | [], s, u, b, b', _, _, h => by
    obtain ⟨-, rfl⟩ := run_pure_ok h
    rw [Forest.withBindings_eq_self fun i _ => by simp [bindingsOf, bindingsFrom, Document.holdings, Document.member?]]
    exact Building.Skips.refl b'
  | entry :: rest, s, u, b, b', hsize, hempty, h => by
    obtain ⟨items, hitems, h⟩ := run_lift_bind_ok h
    obtain ⟨u', mid, hentry, h⟩ := run_bind_ok h
    rw [Document.items_ok hitems] at hentry
    rw [List.length_cons] at hsize
    -- scope `s` gets its variables here, the scopes after it from the rest of the entries
    have hfirst := addVariables_ok (by omega) hentry
    rw [hempty s le_rfl, List.length_nil, Forest.addVariables_eq_withBindings] at hfirst
    have hrest := addAllVariables_ok (s := s + 1) ?_ ?_ h
    · have hall := hfirst.trans hrest
      rw [hfirst.ids, hfirst.forest, Forest.withBindings_withBindings ?_] at hall
      · exact hall
      intro i hi
      rw [Forest.bindings_withBindings hi, List.append_assoc]
      congr 1
      unfold bindingsOf
      rcases lt_trichotomy i s with his | rfl | his
      · simp [show ¬ s + 1 ≤ i by omega, show ¬ s ≤ i by omega, show i ≠ s by omega]
      · simp
      · obtain ⟨j, rfl⟩ := Nat.exists_eq_add_of_lt his
        simp [show s + j + 1 - s = j + 1 by omega, show s + j + 1 - (s + 1) = j by omega,
          show s ≤ s + j + 1 by omega, show s + j + 1 ≠ s by omega]
    · rw [hfirst.forest, Forest.size_withBindings]
      omega
    · intro i hi
      rw [hfirst.forest]
      by_cases his : i < b.forest.size
      · rw [Forest.bindings_withBindings his, if_neg (by omega), hempty i (by omega)]
        rfl
      · rw [Forest.bindings_eq_nil (by rw [Forest.size_withBindings]; omega)]

end Dump

end CatchAudit
