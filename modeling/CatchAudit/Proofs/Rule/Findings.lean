/-
What the rule finds. Its diagnostics are those of unhandled bindings, followed by those of catch clauses
without a binding; both parts can be told apart, and it can be told when there are none. The clauses are
looked for below the block of the outermost scope. A dump is loaded whatever node of the tree that block
is, so that clauses elsewhere in the tree are not reported; if the block is the root of the tree, all are.
-/
import CatchAudit.Proofs.Dump.Reorder
import CatchAudit.Proofs.Rule.Completion
import CatchAudit.Proofs.Syntax.Distinct

namespace CatchAudit

/-! ## Clauses below a place -/

namespace Place

/-- The places at or below a place for which `isBareCatch` holds, in `preorder`. -/
def bareClauses (p : Place) : List Place := p.walk.filter fun q => decide q.LacksBinding

variable {p q : Place}

theorem bareClauses_eq (p : Place) : p.bareClauses = p.preorder.filter fun q => decide q.LacksBinding := by
  rw [bareClauses, walk_eq_preorder]

theorem mem_bareClauses : q ∈ p.bareClauses ↔ p.Within q ∧ q.LacksBinding := by
  rw [bareClauses, List.mem_filter, mem_walk, decide_eq_true_iff]

theorem nodup_bareClauses (h : p.node.DistinctFields) : p.bareClauses.Nodup := by
  rw [bareClauses_eq]
  exact (nodup_preorder h).filter _

/-- The `bareClauses` below a place are in the order of the walk from above. -/
theorem Within.bareClauses_sublist (h : p.Within q) : q.bareClauses.Sublist p.bareClauses := by
  rw [bareClauses_eq, bareClauses_eq]
  exact h.preorder_sublist.filter _

theorem Within.mem_bareClauses {c : Place} (h : p.Within q) :
    c ∈ q.bareClauses ↔ c ∈ p.bareClauses ∧ q.Within c := by
  rw [Place.mem_bareClauses, Place.mem_bareClauses]
  exact ⟨fun hc => ⟨⟨h.trans hc.1, hc.2⟩, hc.1⟩, fun hc => ⟨hc.2, hc.1.2⟩⟩

/-- If no clause lies elsewhere, the `bareClauses` below a place are all the clauses. -/
theorem Within.bareClauses_eq_iff (h : p.Within q) (hfields : p.node.DistinctFields) :
    q.bareClauses = p.bareClauses ↔ ∀ c ∈ p.bareClauses, q.Within c := by
  have hnodup := nodup_bareClauses hfields
  constructor
  · intro heq c hc
    rw [← heq] at hc
    exact (Place.mem_bareClauses.1 hc).1
  · intro hall
    have hperm := (List.perm_ext_iff_of_nodup (hnodup.sublist h.bareClauses_sublist) hnodup).2 fun c =>
      h.mem_bareClauses.trans (and_iff_left_of_imp (hall c))
    exact h.bareClauses_sublist.eq_of_length hperm.length_eq

end Place

namespace UnhandledCatch

variable {forest : Forest} {options : RuleOptions} {severity : Severity} {scopes : List Nat} {ds : List Diagnostic}

/-! ## The parts of the output -/

theorem Reported.kind_eq (h : Reported forest options severity scopes ds) : ∀ d ∈ ds, d.kind = .unhandledBinding := by
  induction h with
  | nil => exact nofun
  | report _ _ _ ih => exact List.forall_mem_cons.2 ⟨rfl, ih⟩
  | pass _ _ ih => exact ih

/-- Nothing is `Reported` exactly if no scope has a binding to report. -/
theorem Reported.eq_nil_iff (h : Reported forest options severity scopes ds) :
    ds = [] ↔ ∀ s ∈ scopes, ∀ v, ¬ forest.Reportable options s v := by
  induction h with
  | nil => simp
  | @report s v p rest ds reportable _ _ _ =>
    refine iff_of_false (by simp) fun hnone => ?_
    exact hnone s List.mem_cons_self v reportable
  | @pass s rest ds none _ ih =>
    rw [ih, List.forall_mem_cons]
    exact ⟨fun hrest => ⟨none, hrest⟩, And.right⟩

theorem check_parts (hs : severity ≠ .off) (h : (check forest options severity).outcome.1 = .ok ds) :
    ∃ bindings, Reported forest options severity (forest.walk 0) bindings ∧
      ds = bindings ++ missingBindings forest severity := by
  obtain ⟨log, hrun⟩ : ∃ log, (check forest options severity).run [] = (.ok ds, log) := ⟨_, Prod.ext h rfl⟩
  unfold check at hrun
  rw [if_neg hs] at hrun
  obtain ⟨vs, _, hvs, hrun⟩ := run_bind_ok hrun
  obtain ⟨-, _, -, hrun⟩ := run_bind_ok hrun
  obtain ⟨bindings, hbindings, hrun⟩ := run_lift_bind_ok hrun
  obtain ⟨rfl, -⟩ := run_pure_ok hrun
  exact ⟨bindings, reported_of_unhandledOf hvs hbindings, rfl⟩

/-- `missingBindings` gives the `bareClauses` of the block of the outermost scope. -/
theorem missingBindings_eq {root : Scope} (hroot : forest.scope? 0 = some root) (severity : Severity) :
    missingBindings forest severity = root.block.bareClauses.map (reportMissing severity) := by
  unfold missingBindings
  rw [hroot, Place.bareClauses_eq, ← Place.bareCatches_eq]

theorem filter_missing {root : Scope} (hroot : forest.scope? 0 = some root) (hs : severity ≠ .off)
    (h : (check forest options severity).outcome.1 = .ok ds) :
    ds.filter (·.kind = .missingBinding) = root.block.bareClauses.map (reportMissing severity) := by
  obtain ⟨bindings, hbindings, rfl⟩ := check_parts hs h
  rw [missingBindings_eq hroot]
  refine (filter_kind hbindings.kind_eq fun d hd => ?_).2
  obtain ⟨p, -, rfl⟩ := List.mem_map.1 hd
  rfl

end UnhandledCatch

/-! ## The block of the outermost scope -/

namespace Dump

/-- The first of all places, unless it is a shorthand key, is the `target?` of a reference with its kind and span. -/
theorem eq_of_target?_head {p q : Place} {rest : List Place} {d : Document} (hp : p.isShorthandKey = false)
    (hmeans : Means d p) (h : target? (p :: rest) d = some q) : q = p := by
  obtain ⟨kind, range, a, b, hkind, hrange, hpair, hstart, hstop, hequal⟩ := hmeans
  unfold target? at h
  rw [resolve_of_parts hkind hrange, hpair] at h
  simp only [bind, Except.bind, hstart, hstop] at h
  rcases hkey : kind.asKey with f | kind' <;> rw [hkey] at h
  · cases h
  · obtain rfl : kind' = kind := (Document.keyValue?_of_asKey hkey).1
    have hagrees : p.key.agrees ⟨kind', p.node.span⟩ = true := agrees_iff.2 ⟨rfl, hequal⟩
    have hlookup : lookup (p :: rest) ⟨kind', p.node.span⟩ = some p := by
      unfold lookup
      rw [List.foldl_cons, keep, if_pos hagrees]
      exact foldl_keep_of_not_shorthand hp rest
    exact Option.some.inj (h.symm.trans hlookup)

/-- A dump that `ofDocument` loads has an outermost scope. Its block is the `target?` of its entry among the places of
the tree. -/
theorem root_of_ofDocument {d source : Document} {dump : Dump} (h : (ofDocument d source).1 = .ok dump) :
    ∃ root, dump.forest.scope? 0 = some root ∧
      target? (Place.root dump.program).walk ((d.memberD "scopes").memberD "block") = some root.block := by
  obtain ⟨ast, scopes, entries, -, hscopes, -, hbuilt⟩ := built_of_ofDocument h
  have hsize : 0 < dump.forest.scopes.length := by
    have hlt := (List.getElem?_eq_some_iff.1 hbuilt.head).1
    rwa [hbuilt.length] at hlt
  have hroot : dump.forest.scope? 0 = some dump.forest.scopes[0] := List.getElem?_eq_getElem hsize
  refine ⟨_, hroot, ?_⟩
  obtain ⟨entry, upper, scope, hentry, hnew, heq⟩ := hbuilt.made hroot
  cases hbuilt.head.symm.trans hentry
  obtain ⟨block, hblock, rfl⟩ := Option.map_eq_some_iff.1 hnew
  have hmember : d.memberD "scopes" = scopes := by simp [Document.memberD, hscopes]
  rw [heq, hmember]
  exact hblock

end Dump

namespace Dump

open Document

theorem everywhere_ast {Q : Role → Document → Prop} {d ast : Document} (h : d.Everywhere Q .dump)
    (hast : d.member? "ast" = some ast) : ast.Everywhere Q .tree := by
  cases d with
  | object members => exact h.member hast
  | _ => cases hast

theorem distinctFields_program {d source : Document} {dump : Dump} (hnames : d.Everywhere DistinctNames .dump)
    (h : (ofDocument d source).1 = .ok dump) : dump.program.DistinctFields := by
  obtain ⟨ast, _, _, hast, -, hprogram, -⟩ := built_of_ofDocument h
  exact Node.distinctFields_of_ofDocument (everywhere_ast hnames hast) hprogram

/-- The diagnostics of catch clauses without a binding are those of the `bareClauses` of the block of the outermost
scope, one for each and in their order in the tree. All clauses of the tree are reported exactly if all lie there. The
block is the root of the tree exactly if the entry of the scope `Means` the root, with its kind and span. -/
theorem bareClauses_reported_iff {d source : Document} {dump : Dump} {options : RuleOptions} {severity : Severity}
    {ds : List Diagnostic} (hnames : d.Everywhere DistinctNames .dump) (h : (ofDocument d source).1 = .ok dump)
    (hs : severity ≠ .off) (hds : (analyze dump.forest options severity UnhandledCatch.ruleName).outcome.1 = .ok ds) :
    (Place.root dump.program).bareClauses.Nodup ∧
    ∃ root, dump.forest.scope? 0 = some root ∧
      ds.filter (·.kind = .missingBinding) = root.block.bareClauses.map (UnhandledCatch.reportMissing severity) ∧
      root.block.bareClauses.Sublist (Place.root dump.program).bareClauses ∧
      (∀ p, p ∈ root.block.bareClauses ↔ p ∈ (Place.root dump.program).bareClauses ∧ root.block.Within p) ∧
      ((ds.filter (·.kind = .missingBinding)).map (·.node) = (Place.root dump.program).bareClauses.map (·.node) ↔
        ∀ p ∈ (Place.root dump.program).bareClauses, root.block.Within p) ∧
      (root.block = Place.root dump.program ↔
        Means ((d.memberD "scopes").memberD "block") (Place.root dump.program)) := by
  have hfields : (Place.root dump.program).node.DistinctFields := distinctFields_program hnames h
  obtain ⟨root, hroot, htarget⟩ := root_of_ofDocument h
  have hwithin : (Place.root dump.program).Within root.block := Place.mem_walk.1 (mem_of_target? htarget).1
  have hmissing := UnhandledCatch.filter_missing hroot hs hds
  refine ⟨Place.nodup_bareClauses hfields, root, hroot, hmissing, hwithin.bareClauses_sublist,
    fun p => hwithin.mem_bareClauses, ?_, fun heq => heq ▸ (mem_of_target? htarget).2, fun hmeans => ?_⟩
  · rw [hmissing, List.map_map, ← hwithin.bareClauses_eq_iff hfields]
    refine ⟨fun heq => hwithin.bareClauses_sublist.eq_of_length ?_, fun heq => by rw [heq]; rfl⟩
    have hlength := congrArg List.length heq
    rwa [List.length_map, List.length_map] at hlength
  · rw [Place.walk_eq_preorder, Place.preorder_eq] at htarget
    exact eq_of_target?_head rfl hmeans htarget

/-! `try{}catch{}`, with this block for the outermost scope. -/

namespace Sample

def bare (block : Document) : Document :=
  .object [
    ("ast", node "Program" 0 12 [("body", .list [node "TryStatement" 0 12 [
      ("block", node "BlockStatement" 3 5 [("body", .list [])]),
      ("handler", node "CatchClause" 5 12 [
        ("param", .null), ("body", node "BlockStatement" 10 12 [("body", .list [])])])]])]),
    ("scopes", scope 1 "global" block [] [])]

end Sample

/-- In `Sample.bare` with the program as its block, the clause is reported. -/
theorem bareClauses_reported_iff_sample :
    ∃ dump ds, (ofDocument (Sample.bare (Sample.reference "Program" 0 12)) .null).1 = .ok dump ∧
      (analyze dump.forest .default .error UnhandledCatch.ruleName).outcome.1 = .ok ds ∧
      (Place.root dump.program).bareClauses.map (fun p => p.node.span) = [⟨5, 12⟩] ∧
      (ds.filter (·.kind = .missingBinding)).map (·.node) = (Place.root dump.program).bareClauses.map (·.node) := by
  have hnames : (Sample.bare (Sample.reference "Program" 0 12)).Everywhere DistinctNames .dump := by
    simp [Sample.bare, Sample.scope, Sample.node, Sample.reference, Everywhere, EverywhereUnder, EverywhereIn,
      DistinctNames]
  obtain ⟨dump, ds, hload, hds, hspans, hmeans⟩ :
      ∃ dump ds, (ofDocument (Sample.bare (Sample.reference "Program" 0 12)) .null).1 = .ok dump ∧
        (analyze dump.forest .default .error UnhandledCatch.ruleName).outcome.1 = .ok ds ∧
        (Place.root dump.program).bareClauses.map (fun p => p.node.span) = [⟨5, 12⟩] ∧
        Means (Sample.reference "Program" 0 12) (Place.root dump.program) :=
    ⟨_, _, rfl, rfl, rfl, _, _, _, _, rfl, rfl, rfl, rfl, rfl, rfl⟩
  obtain ⟨-, root, -, -, -, -, hall, hroot⟩ := bareClauses_reported_iff hnames hload (by decide) hds
  refine ⟨dump, ds, hload, hds, hspans, hall.2 fun p hp => ?_⟩
  rw [hroot.2 hmeans]
  exact (Place.mem_bareClauses.1 hp).1

/-- In `Sample.bare` with the block of the try statement as its block, the dump is loaded as well, but the clause is
not reported. -/
theorem bareClause_unreported :
    ∃ dump, (ofDocument (Sample.bare (Sample.reference "BlockStatement" 3 5)) .null).1 = .ok dump ∧
      (analyze dump.forest .default .error UnhandledCatch.ruleName).outcome.1 = .ok [] ∧
      (Place.root dump.program).bareClauses.map (fun p => p.node.span) = [⟨5, 12⟩] :=
  ⟨_, rfl, rfl, rfl⟩

end Dump

end CatchAudit
