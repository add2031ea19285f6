/-
What loading a dump keeps and what it skips. The scopes are those of the document, less the child entries
whose block is not in the tree and all that lies below them; siblings keep their order. Variables, their
identifiers, definitions and references are the entries that can be resolved, in order. Everything
that was dropped is counted once among the skipped entries.
-/
import CatchAudit.Proofs.Dump.Links

namespace CatchAudit

namespace Dump

/-- The places of the tree in pre-order, by `walk`. -/
def places (dump : Dump) : List Place := (Place.root dump.program).walk

/-- Scope number `s`, as it is made from its entry. -/
structure ScopeAccounted (dump : Dump) (entries : List Document) (s : Nat) (entry : Document) (scope : Scope) :
    Prop where
  kind : scope.kind = (scopeKind? entry).getD .block
  block : block? dump.places entry = some scope.block
  bindings : scope.bindings = bindingsFrom dump.places (idTable entries) s 0 (entry.holdings "variables")
  children : (dump.forest.children s).map (entries.getD · .null) = keptChildren dump.places entry

/-- Scope number `s` of the dump was made from entry number `s`, number 0 from the scopes of the document. -/
structure Accounted (d : Document) (dump : Dump) (entries : List Document) : Prop where
  /-- A reference resolves if a place of the tree has the kind and the span that it gives. -/
  resolves : ∀ x, (target? dump.places x).isSome = true ↔ ∃ p ∈ dump.places, Means x p
  /-- An id resolves if a scope has it. -/
  resolvesId : ∀ id, (scopeOf? (idTable entries) id).isSome = true ↔ ∃ s, HasId entries s id
  root : ∃ scopes, d.member? "scopes" = some scopes ∧ entries[0]? = some scopes
  walk : (dump.forest.walk 0).Perm (List.range entries.length)
  scopes : ∀ s entry, entries[s]? = some entry →
    ∃ scope, dump.forest.scope? s = some scope ∧ ScopeAccounted dump entries s entry scope
  skipped : dump.skipped.length = (entries.map fun entry => lostInScope dump.places entry +
    lostInVariables dump.places (idTable entries) (entry.holdings "variables")).sum

theorem Built.walk_perm {places : List Place} {root : Document} {forest : Forest} {entries : List Document} {n : Nat}
    (h : Built places root forest entries n) : (forest.walk 0).Perm (List.range entries.length) := by
  have hpos : 0 < forest.size := by
    rw [← h.length]
    exact (List.getElem?_eq_some_iff.1 h.head).1
  have hwalk := h.ordered.walk_eq hpos
  refine (List.perm_ext_iff_of_nodup (hwalk ▸ h.ordered.preorder_nodup 0) List.nodup_range).2 fun s => ?_
  rw [List.mem_range, h.length]
  refine ⟨fun hs => ?_, h.mem_walk⟩
  rw [hwalk, h.ordered.mem_preorder] at hs
  exact hs.lt_size hpos

theorem Built.scopeAccounted {dump : Dump} {root : Document} {entries : List Document} {n : Nat}
    (h : Built dump.places root dump.forest entries n) {s : Nat} {entry : Document}
    (hentry : entries[s]? = some entry) :
    ∃ scope, dump.forest.scope? s = some scope ∧ ScopeAccounted dump entries s entry scope := by
  have hs : s < dump.forest.scopes.length := by
    have hlength : entries.length = dump.forest.scopes.length := h.length
    rw [← hlength]
    exact (List.getElem?_eq_some_iff.1 hentry).1
  have hscope : dump.forest.scope? s = some dump.forest.scopes[s] := List.getElem?_eq_getElem hs
  obtain ⟨entry', upper, scope₀, hentry', hnew, heq⟩ := h.made hscope
  cases hentry.symm.trans hentry'
  obtain ⟨block, hblock, rfl⟩ := Option.map_eq_some_iff.1 hnew
  refine ⟨_, hscope, ?_⟩
  rw [heq]
  exact ⟨rfl, hblock, rfl, h.children hentry⟩

/-- What is kept and what is skipped of every document that `ofDocument` loads: the dump is `Accounted` for. -/
theorem ofDocument_accounted {d source : Document} {dump : Dump} (h : (ofDocument d source).1 = .ok dump) :
    ∃ entries, Accounted d dump entries := by
  obtain ⟨ast, scopes, entries, -, hscopes, -, hbuilt⟩ := built_of_ofDocument h
  refine ⟨entries, fun x => target?_isSome_iff hbuilt.kinds, fun id => scopeOf?_isSome_iff,
    ⟨scopes, hscopes, hbuilt.head⟩, hbuilt.walk_perm, fun s entry hentry => hbuilt.scopeAccounted hentry, ?_⟩
  rw [hbuilt.account, List.sum_map_add]
  rfl

/-- In `Sample.document` the block of one scope is not in the tree. -/
theorem ofDocument_accounted_sample :
    ∃ dump, (ofDocument Sample.document .null).1 = .ok dump ∧ dump.forest.walk 0 = [0, 1, 2] ∧
      dump.skipped.length = 1 ∧ ∃ entries, Accounted Sample.document dump entries :=
  ⟨_, rfl, rfl, rfl, ofDocument_accounted rfl⟩

end Dump

end CatchAudit
