/-
The links of a dump that was loaded. Every scope, variable, definition and reference was made from an
entry of the document; the places in it stand in the tree and have the kind and the span that the
entry gives; variables and references know where they belong; and a reference stands in the scope
whose id it gives, wherever that scope is.
-/
import CatchAudit.Proofs.Dump.Worklist

namespace CatchAudit

namespace Dump

/-! ## Ids -/

/-- Entry number `s` has this id. -/
def IdAt (entries : List Document) (s : Nat) (own : Document) : Prop :=
  ∃ entry : Document, entries[s]? = some entry ∧ entry.member? "id" = some own

/-- Entry number `s` has an id that equals this one. -/
def HasId (entries : List Document) (s : Nat) (id : Document) : Prop :=
  ∃ own : Document, IdAt entries s own ∧ own.equal id = true

/-- No two entries have ids that are `equal`. -/
def DistinctIds (entries : List Document) : Prop :=
  ∀ s t own own', IdAt entries s own → IdAt entries t own' → own.equal own' = true → s = t

theorem mem_idTable {entries : List Document} {id : Document} {s : Nat} :
    (id, s) ∈ idTable entries ↔ IdAt entries s id := by
  unfold idTable
  rw [List.mem_reverse, List.mem_filterMap]
  constructor
  · rintro ⟨⟨entry, t⟩, hmem, heq⟩
    obtain ⟨own, hown, heq⟩ := Option.map_eq_some_iff.1 heq
    cases heq
    exact ⟨entry, List.mk_mem_zipIdx_iff_getElem?.1 hmem, hown⟩
  · rintro ⟨entry, hentry, hid⟩
    exact ⟨(entry, s), List.mk_mem_zipIdx_iff_getElem?.2 hentry, by simp [hid]⟩

theorem hasId_of_scopeOf? {entries : List Document} {id : Document} {s : Nat}
    (h : scopeOf? (idTable entries) id = some s) : HasId entries s id := by
  obtain ⟨⟨own, t⟩, hfind, rfl⟩ := Option.map_eq_some_iff.1 h
  have hequal := List.find?_some hfind
  exact ⟨own, mem_idTable.1 (List.mem_of_find?_eq_some hfind), hequal⟩

/-- By `scopeOf?` an id is found exactly when some scope has it. -/
theorem scopeOf?_isSome_iff {entries : List Document} {id : Document} :
    (scopeOf? (idTable entries) id).isSome = true ↔ ∃ s, HasId entries s id := by
  constructor
  · intro h
    obtain ⟨s, hs⟩ := Option.isSome_iff_exists.1 h
    exact ⟨s, hasId_of_scopeOf? hs⟩
  · rintro ⟨s, own, hown, hequal⟩
    unfold scopeOf?
    rw [Option.isSome_map, List.find?_isSome]
    exact ⟨(own, s), mem_idTable.2 hown, hequal⟩

/-- With `DistinctIds`, ids that are fit for keys and equal to the same document are those of one scope. -/
theorem HasId.unique {entries : List Document} {s t : Nat} {id : Document} (hdistinct : DistinctIds entries)
    (hkeyed : ∀ entry ∈ entries, ∀ own, entry.member? "id" = some own → own.asKey = .ok own)
    (hs : HasId entries s id) (ht : HasId entries t id) : s = t := by
  obtain ⟨own, ⟨entry, hentry, hown⟩, hequal⟩ := hs
  obtain ⟨own', ⟨entry', hentry', hown'⟩, hequal'⟩ := ht
  obtain ⟨-, k, hk⟩ := Document.keyValue?_of_asKey (hkeyed entry (List.mem_of_getElem? hentry) own hown)
  obtain ⟨-, k', hk'⟩ := Document.keyValue?_of_asKey (hkeyed entry' (List.mem_of_getElem? hentry') own' hown')
  have hid := (Document.equal_iff_of_keyValue? hk).1 hequal
  have hid' := (Document.equal_iff_of_keyValue? hk').1 hequal'
  cases hid.symm.trans hid'
  exact hdistinct s t own own' ⟨entry, hentry, hown⟩ ⟨entry', hentry', hown'⟩
    ((Document.equal_iff_of_keyValue? hk).2 hk')

/-! ## Linked parts -/

/-- The results were made in order, each from one of the documents, as `R` says. -/
def MadeFrom {α : Type} (R : Document → α → Prop) (ds : List Document) (results : List α) : Prop :=
  ∃ used : List Document, used.Sublist ds ∧ List.Forall₂ R used results

theorem madeFrom_filterMap {α : Type} {R : Document → α → Prop} {read : Document → Option α}
    (hread : ∀ {d a}, read d = some a → R d a) (ds : List Document) : MadeFrom R ds (ds.filterMap read) := by
  induction ds with
  | nil => exact ⟨[], .slnil, .nil⟩
  | cons d rest ih =>
    obtain ⟨used, hsub, hused⟩ := ih
    rcases hd : read d with _ | a
    · rw [List.filterMap_cons_none hd]
      exact ⟨used, hsub.cons d, hused⟩
    · rw [List.filterMap_cons_some hd]
      exact ⟨d :: used, hsub.cons_cons d, .cons (hread hd) hused⟩

/-- The place stands in the tree and has the kind and the span that the document gives. -/
structure Points (program : Node) (d : Document) (p : Place) : Prop where
  mem : p ∈ (Place.root program).walk
  means : Means d p

structure DefinitionLinked (program : Node) (d : Document) (x : Definition) : Prop where
  name : Points program (d.memberD "name") x.name
  node : ∀ p, x.node = some p → Points program (d.memberD "node") p

/-- A reference to the variable `v`, made from `d`; scope number `s` was made from entry number `s`. -/
structure ReferenceLinked (dump : Dump) (entries : List Document) (v : VariableId) (d : Document) (r : Reference) :
    Prop where
  identifier : Points dump.program (d.memberD "identifier") r.identifier
  resolved : r.resolved = v
  scope : r.scope ∈ dump.forest.walk 0
  id : HasId entries r.scope (d.memberD "from")
  only : DistinctIds entries → ∀ s, HasId entries s (d.memberD "from") → s = r.scope

/-- A variable with this number in the dump, made from an entry. -/
structure VariableLinked (dump : Dump) (entries : List Document) (id : VariableId) (entry : Document) (v : Variable) :
    Prop where
  name : entry.memberD "name" = .text v.name
  scope : v.scope = id.scope
  identifiers : MadeFrom (Points dump.program) (entry.holdings "identifiers") v.identifiers
  definitions : MadeFrom (DefinitionLinked dump.program) (entry.holdings "defs") v.definitions
  references : MadeFrom (ReferenceLinked dump entries id) (entry.holdings "references") v.references

/-- Scope number `s`, made from an entry. -/
structure ScopeLinked (dump : Dump) (entries : List Document) (s : Nat) (entry : Document) (scope : Scope) : Prop where
  block : Points dump.program (entry.memberD "block") scope.block
  bindings : ∀ i v, scope.bindings[i]? = some v →
    ∃ origin ∈ entry.holdings "variables", VariableLinked dump entries ⟨s, i⟩ origin v
  children : ∀ c ∈ dump.forest.children s, dump.forest.upper? c = some s ∧
    ∃ child ∈ entry.holdings "childScopes", entries[c]? = some child

/-- Scope number `s` of the dump was made from entry number `s`, number 0 from the scopes of the document. -/
structure Linked (d : Document) (dump : Dump) (entries : List Document) : Prop where
  length : entries.length = dump.forest.size
  root : ∃ scopes, d.member? "scopes" = some scopes ∧ entries[0]? = some scopes
  scopes : ∀ s scope, dump.forest.scope? s = some scope →
    ∃ entry, entries[s]? = some entry ∧ ScopeLinked dump entries s entry scope

section

variable {dump : Dump} {root : Document} {entries : List Document} {n : Nat}

/-- All scopes of a forest that is `Built` lie inside the outermost one. -/
theorem Built.mem_walk {places : List Place} {forest : Forest} (h : Built places root forest entries n) {s : Nat}
    (hs : s < forest.size) : s ∈ forest.walk 0 := by
  rw [h.ordered.walk_eq (by omega), h.ordered.mem_preorder]
  induction s using Nat.strong_induction_on with
  | _ s ih =>
    rcases hu : forest.upper? s with _ | u
    · obtain rfl := h.rooted s hs hu
      exact .self
    · have hlt := h.ordered.upper?_lt hu
      exact .inner hu (ih u hlt (by omega))

theorem Built.lt_size_of_hasId {places : List Place} {forest : Forest} (h : Built places root forest entries n)
    {s : Nat} {id : Document} (hid : HasId entries s id) : s < forest.size := by
  obtain ⟨own, ⟨entry, hentry, -⟩, -⟩ := hid
  rw [← h.length]
  exact (List.getElem?_eq_some_iff.1 hentry).1

theorem points_of_target? {program : Node} {d : Document} {p : Place}
    (h : target? (Place.root program).walk d = some p) : Points program d p :=
  ⟨(mem_of_target? h).1, (mem_of_target? h).2⟩

theorem definitionLinked_of_definition? {program : Node} {d : Document} {x : Definition}
    (h : definition? (Place.root program).walk d = some x) : DefinitionLinked program d x := by
  unfold definition? at h
  split at h
  · next kind name hkind hname =>
    cases h
    exact ⟨points_of_target? hname, fun p hp => points_of_target? hp⟩
  · cases h

theorem Built.referenceLinked (h : Built (Place.root dump.program).walk root dump.forest entries n) {v : VariableId}
    {d : Document} {r : Reference}
    (hr : reference? (Place.root dump.program).walk (idTable entries) v d = some r) :
    ReferenceLinked dump entries v d r := by
  obtain ⟨⟨p, s⟩, hreferent, rfl⟩ := Option.map_eq_some_iff.1 hr
  unfold referent? at hreferent
  split at hreferent
  · next p' s' hidentifier hscope =>
    cases hreferent
    have hid := hasId_of_scopeOf? hscope
    exact ⟨points_of_target? hidentifier, rfl, h.mem_walk (h.lt_size_of_hasId hid), hid,
      fun hdistinct t ht => HasId.unique hdistinct h.keyed ht hid⟩
  · cases hreferent

theorem Built.variableLinked (h : Built (Place.root dump.program).walk root dump.forest entries n) {id : VariableId}
    {name : String} {entry : Document} (hname : entry.memberD "name" = .text name) :
    VariableLinked dump entries id entry
      (variableOf (Place.root dump.program).walk (idTable entries) id name entry) where
  name := hname
  scope := rfl
  identifiers := madeFrom_filterMap points_of_target? _
  definitions := madeFrom_filterMap definitionLinked_of_definition? _
  references := madeFrom_filterMap h.referenceLinked _

theorem named?_eq_some {entry : Document} {v : String × Document} (h : named? entry = some v) :
    v.2 = entry ∧ entry.memberD "name" = .text v.1 := by
  unfold named? at h
  split at h
  · next name hname =>
    cases h
    exact ⟨rfl, hname⟩
  · cases h

theorem Built.scopeLinked (h : Built (Place.root dump.program).walk root dump.forest entries n) {s : Nat}
    {scope : Scope} (hscope : dump.forest.scope? s = some scope) :
    ∃ entry, entries[s]? = some entry ∧ ScopeLinked dump entries s entry scope := by
  obtain ⟨entry, upper, scope₀, hentry, hnew, rfl⟩ := h.made hscope
  obtain ⟨block, hblock, rfl⟩ := Option.map_eq_some_iff.1 hnew
  refine ⟨entry, hentry, points_of_target? hblock, ?_, ?_⟩
  · intro i v hv
    unfold bindingsFrom at hv
    rw [List.getElem?_mapIdx, Nat.zero_add] at hv
    obtain ⟨w, hw, rfl⟩ := Option.map_eq_some_iff.1 hv
    obtain ⟨entry', hmem, hnamed⟩ := List.mem_filterMap.1 (List.mem_of_getElem? hw)
    obtain ⟨hsame, hname⟩ := named?_eq_some hnamed
    rw [hsame]
    exact ⟨entry', hmem, h.variableLinked hname⟩
  · intro c hc
    have hmem : entries.getD c .null ∈ keptChildren (Place.root dump.program).walk entry := by
      rw [← h.children hentry]
      exact List.mem_map_of_mem hc
    have hlt : c < entries.length := by
      rw [h.length]
      exact Forest.children_lt_size hc
    refine ⟨Forest.mem_children.1 hc, entries.getD c .null, List.mem_of_mem_filter hmem, ?_⟩
    simp [List.getElem?_eq_getElem hlt]

end

/-- The links of every dump that `ofDocument` loads: it is `Linked` to the entries that it is made from. -/
theorem ofDocument_linked {d source : Document} {dump : Dump} (h : (ofDocument d source).1 = .ok dump) :
    ∃ entries, Linked d dump entries := by
  obtain ⟨ast, scopes, entries, -, hscopes, -, hbuilt⟩ := built_of_ofDocument h
  exact ⟨entries, hbuilt.length, ⟨scopes, hscopes, hbuilt.head⟩, fun s scope => hbuilt.scopeLinked⟩

/-! A catch clause inside a try statement: the binding is written in the scope of the clause's body, which
stands below the scope of the binding, and the scope of another block is not in the tree. -/

namespace Sample

def reference (kind : String) (start stop : Int) : Document :=
  .object [("type", .text kind), ("range", .list [.int start, .int stop])]

def node (kind : String) (start stop : Int) (fields : List (String × Document)) : Document :=
  .object ([("type", .text kind), ("range", .list [.int start, .int stop])] ++ fields)

def assignment : Document :=
  node "ExpressionStatement" 22 28 [("expression", node "AssignmentExpression" 22 27 [
    ("left", node "Identifier" 22 23 [("name", .text "e")]),
    ("right", node "Literal" 26 27 [("value", .int 1)])])]

def ast : Document :=
  node "Program" 0 30 [("body", .list [node "TryStatement" 0 30 [("handler", node "CatchClause" 9 30 [
    ("param", node "Identifier" 16 17 [("name", .text "e")]),
    ("body", node "BlockStatement" 19 30 [("body", .list [assignment])])])]])]

def binding : Document :=
  .object [
    ("name", .text "e"),
    ("identifiers", .list [reference "Identifier" 16 17]),
    ("defs", .list [.object [
      ("type", .text "CatchClause"),
      ("name", reference "Identifier" 16 17),
      ("node", reference "CatchClause" 9 30)]]),
    ("references", .list [.object [
      ("identifier", reference "Identifier" 22 23),
      ("from", .int 3),
      ("read", .bool false),
      ("write", .bool true)]])]

def scope (id : Int) (kind : String) (block : Document) (bindings inner : List Document) : Document :=
  .object [
    ("id", .int id),
    ("type", .text kind),
    ("block", block),
    ("variables", .list bindings),
    ("childScopes", .list inner)]

def scopes : Document :=
  scope 1 "global" (reference "Program" 0 30) [] [
    scope 2 "catch" (reference "CatchClause" 9 30) [binding] [
      scope 3 "block" (reference "BlockStatement" 19 30) [] [],
      scope 4 "block" (reference "BlockStatement" 31 33) [] []]]

def document : Document := .object [("ast", ast), ("scopes", scopes)]

end Sample

/-- In the dump of `Sample.document`, scope number 2, below the scope of the binding, has the id that the reference
gives. -/
theorem ofDocument_linked_sample :
    ∃ dump, (ofDocument Sample.document .null).1 = .ok dump ∧
      (dump.forest.bindings 1).flatMap (fun v => v.references.map (·.scope)) = [2] ∧
      ∃ entries, Linked Sample.document dump entries :=
  ⟨_, rfl, rfl, ofDocument_linked rfl⟩

end Dump

end CatchAudit
