/-
The output of the rule. When the check does not fail, its diagnostics are those of the unhandled catch
bindings, one for each scope that has one, in pre-order of the scopes, followed by those of the catch
clauses without a binding, one for each, in pre-order of the syntax tree below the outermost scope.
-/
import CatchAudit.Proofs.Rule.Message
import CatchAudit.Proofs.Scope.Preorder
import CatchAudit.Proofs.Syntax.Preorder
import CatchAudit.Rule.Registry

namespace CatchAudit

/-! ## The place to blame -/

namespace Variable

/-- A write made from the function in which the variable is declared. -/
def IsOwnWrite (forest : Forest) (v : Variable) (r : Reference) : Prop :=
  r.write = true ∧ forest.variableScope r.scope = forest.variableScope v.scope

/-- The place to blame for a variable: the identifier of the last reference that `IsOwnWrite` holds of, and the first
identifier of the variable when there is none. -/
inductive Blamed (forest : Forest) (v : Variable) : Place → Prop
  | lastWrite {before after : List Reference} {r : Reference} (split : v.references = before ++ r :: after)
      (write : v.IsOwnWrite forest r) (last : ∀ r' ∈ after, ¬ v.IsOwnWrite forest r') : Blamed forest v r.identifier
  | declaration {p : Place} (none : ∀ r ∈ v.references, ¬ v.IsOwnWrite forest r)
      (first : v.identifiers.head? = some p) : Blamed forest v p

theorem mem_ownWrites {forest : Forest} {v : Variable} {r : Reference} :
    r ∈ v.ownWrites forest ↔ r ∈ v.references ∧ v.IsOwnWrite forest r := by
  unfold ownWrites IsOwnWrite
  rw [List.mem_filter, Bool.and_eq_true, beq_iff_eq]

/-- The last element that passes a test, with the list around it. -/
theorem split_of_getLast?_filter {α : Type} {q : α → Bool} {l : List α} {a : α}
    (h : (l.filter q).getLast? = some a) :
    ∃ before after, l = before ++ a :: after ∧ q a = true ∧ ∀ b ∈ after, q b = false := by
  induction l using List.reverseRecOn with
  | nil => cases h
  | append_singleton l b ih =>
    rw [List.filter_append] at h
    cases hb : q b with
    | true =>
      simp only [List.filter_cons, hb, if_true, List.filter_nil, List.getLast?_append, List.getLast?_singleton,
        Option.some_or, Option.some.injEq] at h
      subst h
      exact ⟨l, [], rfl, hb, by simp⟩
    | false =>
      simp only [List.filter_cons, hb, List.filter_nil] at h
      obtain ⟨before, after, rfl, ha, hafter⟩ := ih (by simpa using h)
      refine ⟨before, after ++ [b], by simp, ha, fun c hc => ?_⟩
      rcases List.mem_append.1 hc with hc | hc
      · exact hafter c hc
      · rw [List.mem_singleton.1 hc]; exact hb

theorem blamed_of_blame {forest : Forest} {v : Variable} {p : Place} (h : v.blame forest = .ok p) :
    v.Blamed forest p := by
  unfold blame at h
  cases hl : (v.ownWrites forest).getLast? with
  | some r =>
    rw [hl] at h
    cases h
    obtain ⟨before, after, hsplit, hr, hafter⟩ := split_of_getLast?_filter hl
    rw [Bool.and_eq_true, beq_iff_eq] at hr
    refine .lastWrite hsplit hr fun r' hr' hw => ?_
    have := hafter r' hr'
    rw [hw.1, hw.2] at this
    simp at this
  | none =>
    rw [hl] at h
    have hnone : v.ownWrites forest = [] := List.getLast?_eq_none_iff.1 hl
    refine .declaration (fun r hr hw => ?_) ?_
    · have := mem_ownWrites.2 ⟨hr, hw⟩
      rw [hnone] at this
      cases this
    · cases hi : v.identifiers with
      | nil => rw [hi] at h; cases h
      | cons q rest => rw [hi] at h; cases h; rfl

end Variable

/-! ## Unhandled bindings -/

/-- The scope `s` is a catch scope and `v` its first variable. -/
def Forest.BindsCatch (f : Forest) (s : Nat) (v : Variable) : Prop :=
  ∃ scope, f.scope? s = some scope ∧ scope.kind = .«catch» ∧ scope.bindings.head? = some v

theorem Forest.bindsCatch_iff {f : Forest} {s : Nat} {v : Variable} :
    f.BindsCatch s v ↔ (f.scope? s).bind Scope.catchBinding? = some v := by
  unfold BindsCatch
  rw [Option.bind_eq_some_iff]
  refine exists_congr fun scope => and_congr_right fun _ => ?_
  unfold Scope.catchBinding?
  split <;> simp_all

/-- The scope `s` is a catch scope, and its first variable `v` is declared under a name that is not
ignored and never genuinely read. -/
structure Forest.LeavesUnhandled (f : Forest) (options : RuleOptions) (s : Nat) (v : Variable) : Prop where
  binding : f.BindsCatch s v
  declared : ∃ d name, v.definitions.head? = some d ∧ d.name.field "name" = .ok name ∧
    options.isIgnored name = .ok false
  unread : v.isUsed f = .ok false

/-- A binding that the scope `LeavesUnhandled` and that has an identifier to show. -/
structure Forest.Reportable (f : Forest) (options : RuleOptions) (s : Nat) (v : Variable) : Prop
    extends f.LeavesUnhandled options s v where
  shown : v.identifiers ≠ []

theorem Forest.BindsCatch.unique {f : Forest} {s : Nat} {v w : Variable} (hv : f.BindsCatch s v)
    (hw : f.BindsCatch s w) : v = w :=
  Option.some.inj ((bindsCatch_iff.1 hv).symm.trans (bindsCatch_iff.1 hw))

theorem Variable.isUnhandled_ok {forest : Forest} {options : RuleOptions} {v : Variable} {b : Bool}
    (h : v.isUnhandled forest options = .ok b) :
    b = true ↔ (∃ d name, v.definitions.head? = some d ∧ d.name.field "name" = .ok name ∧
      options.isIgnored name = .ok false) ∧ v.isUsed forest = .ok false := by
  unfold isUnhandled at h
  cases hd : v.definitions with
  | nil => rw [hd] at h; cases h; simp
  | cons d rest =>
    rw [hd] at h
    obtain ⟨name, hn, h⟩ := bind_ok h
    obtain ⟨ignored, hi, h⟩ := bind_ok h
    cases ignored with
    | true => cases h; simp [hn, hi]
    | false =>
      obtain ⟨used, hu, h⟩ := bind_ok h
      cases h
      simp [hn, hi, hu]

namespace UnhandledCatch

/-- The diagnostics of scopes in order: one for each scope with a `Reportable` binding, none for any other scope. -/
inductive Reported (forest : Forest) (options : RuleOptions) (severity : Severity) :
    List Nat → List Diagnostic → Prop
  | nil : Reported forest options severity [] []
  | report {s : Nat} {v : Variable} {p : Place} {rest : List Nat} {ds : List Diagnostic}
      (reportable : forest.Reportable options s v) (blamed : v.Blamed forest p)
      (others : Reported forest options severity rest ds) :
      Reported forest options severity (s :: rest) (bindingDiagnostic options severity v p :: ds)
  | pass {s : Nat} {rest : List Nat} {ds : List Diagnostic} (none : ∀ v, ¬ forest.Reportable options s v)
      (others : Reported forest options severity rest ds) : Reported forest options severity (s :: rest) ds

variable {forest : Forest} {options : RuleOptions} {severity : Severity}

theorem Reported.severity_eq {scopes : List Nat} {ds : List Diagnostic}
    (h : Reported forest options severity scopes ds) : ∀ d ∈ ds, d.severity = severity := by
  induction h with
  | nil => intro d hd; cases hd
  | report _ _ _ ih =>
    intro d hd
    rcases List.mem_cons.1 hd with rfl | hd
    · rfl
    · exact ih d hd
  | pass _ _ ih => exact ih

/-- What `unhandledIn` collects in one scope is its binding, if the scope `LeavesUnhandled` one. -/
theorem unhandledIn_ok {s : Nat} {vs : List Variable} {log log' : Log}
    (h : (forest.unhandledIn options s).run log = (.ok vs, log')) :
    (∃ v, vs = [v] ∧ forest.LeavesUnhandled options s v) ∨
      (vs = [] ∧ ∀ v, ¬ forest.LeavesUnhandled options s v) := by
  unfold Forest.unhandledIn at h
  cases hb : (forest.scope? s).bind Scope.catchBinding? with
  | none =>
    rw [hb] at h
    obtain ⟨rfl, -⟩ := run_pure_ok h
    refine .inr ⟨rfl, fun v hv => ?_⟩
    rw [Forest.bindsCatch_iff.1 hv.binding] at hb
    cases hb
  | some v =>
    rw [hb] at h
    obtain ⟨-, mid, -, h⟩ := run_bind_ok h
    obtain ⟨report, mid', hr, h⟩ := run_bind_ok h
    obtain ⟨hr, -⟩ := run_lift_ok hr
    obtain ⟨rfl, -⟩ := run_pure_ok h
    have hv : forest.BindsCatch s v := Forest.bindsCatch_iff.2 hb
    have hiff := Variable.isUnhandled_ok hr
    cases report with
    | true =>
      obtain ⟨hd, hu⟩ := hiff.1 rfl
      exact .inl ⟨v, rfl, hv, hd, hu⟩
    | false =>
      -- any other candidate is this binding, for a scope has one at most
      refine .inr ⟨rfl, fun w hw => ?_⟩
      cases hw.binding.unique hv
      exact absurd (hiff.2 ⟨hw.declared, hw.unread⟩) (by simp)

/-- `reportBinding` reports a declared binding at the `Blamed` place, unless it has no identifier. -/
theorem reportBinding_ok {v : Variable} {ds : List Diagnostic} (hv : v.definitions ≠ [])
    (h : reportBinding forest options severity v = .ok ds) :
    (v.identifiers = [] ∧ ds = []) ∨
      (v.identifiers ≠ [] ∧ ∃ p, v.Blamed forest p ∧ ds = [bindingDiagnostic options severity v p]) := by
  rw [reportBinding_eq] at h
  by_cases hi : v.identifiers = []
  · rw [if_pos (by simp [hi])] at h
    cases h
    exact .inl ⟨hi, rfl⟩
  · rw [if_neg (by simp [hi, hv])] at h
    cases hp : v.blame forest with
    | error e =>
      rw [hp] at h
      cases h
    | ok p =>
      rw [hp] at h
      cases h
      exact .inr ⟨hi, p, Variable.blamed_of_blame hp, rfl⟩

/-- One more scope: what `unhandledIn` collects there comes, reported, before what the other scopes report. -/
theorem Reported.scope {s : Nat} {rest : List Nat} {found others : List Variable} {ds : List Diagnostic}
    {log log' : Log} (hs : (forest.unhandledIn options s).run log = (.ok found, log'))
    (hrest : ∀ ds, reportBindings forest options severity others = .ok ds →
      Reported forest options severity rest ds)
    (h : reportBindings forest options severity (found ++ others) = .ok ds) :
    Reported forest options severity (s :: rest) ds := by
  rcases unhandledIn_ok hs with ⟨v, rfl, hv⟩ | ⟨rfl, hnone⟩
  · obtain ⟨mine, hmine, h⟩ := bind_ok h
    obtain ⟨theirs, htheirs, h⟩ := bind_ok h
    cases h
    have hd : v.definitions ≠ [] := by
      obtain ⟨d, -, hd, -⟩ := hv.declared
      rintro he
      rw [he] at hd
      cases hd
    rcases reportBinding_ok hd hmine with ⟨hi, rfl⟩ | ⟨hi, p, hp, rfl⟩
    · exact .pass (fun w hw => hw.shown (hw.binding.unique hv.binding ▸ hi)) (hrest theirs htheirs)
    · exact .report ⟨hv, hi⟩ hp (hrest theirs htheirs)
  · exact .pass (fun v hv => hnone v hv.toLeavesUnhandled) (hrest ds h)

/-- The bindings that `unhandledOf` collects from scopes, reported in order. -/
theorem reported_of_unhandledOf : ∀ {scopes : List Nat} {vs : List Variable} {ds : List Diagnostic} {log log' : Log},
    (forest.unhandledOf options scopes).run log = (.ok vs, log') →
    reportBindings forest options severity vs = .ok ds → Reported forest options severity scopes ds
  | [], vs, ds, log, log', h, hr => by
    obtain ⟨rfl, -⟩ := run_pure_ok h
    cases hr
    exact .nil
  | s :: rest, vs, ds, log, log', h, hr => by
    obtain ⟨found, mid, hs, h⟩ := run_bind_ok h
    obtain ⟨others, mid', ho, h⟩ := run_bind_ok h
    obtain ⟨rfl, -⟩ := run_pure_ok h
    exact .scope hs (fun _ => reported_of_unhandledOf ho) hr

end UnhandledCatch

/-! ## Catch clauses without a binding -/

/-- A catch clause whose field `param` is absent or null. -/
def Place.LacksBinding (p : Place) : Prop :=
  p.node.isKind "CatchClause" = true ∧ ∀ f, p.node.field? "param" = some f → f = .data .null

theorem Place.isBareCatch_iff {p : Place} : p.isBareCatch = true ↔ p.LacksBinding := by
  unfold isBareCatch LacksBinding operand?
  rw [Bool.and_eq_true]
  refine and_congr_right fun _ => ?_
  cases hf : p.node.field? "param" with
  | none => simp
  | some f => cases f with
    | node n => simp [operand]
    | list items => simp [operand]
    | data d => cases d <;> simp [operand]

instance (p : Place) : Decidable p.LacksBinding := decidable_of_iff _ Place.isBareCatch_iff

theorem Place.bareCatches_eq (p : Place) :
    p.bareCatches = p.preorder.filter fun q => decide q.LacksBinding := by
  unfold bareCatches
  rw [walk_eq_preorder]
  refine List.filter_congr fun q _ => ?_
  rw [Bool.eq_iff_iff, decide_eq_true_iff]
  exact isBareCatch_iff

/-! ## The whole check -/

namespace UnhandledCatch

/-- What `check` comes to where one unhandled binding is found. -/
theorem check_of_single {v : Variable} {p : Place} (hs : severity ≠ .off)
    (h : (forest.unhandled options 0).outcome.1 = .ok [v])
    (hshown : (v.definitions.isEmpty || v.identifiers.isEmpty) = false) (hp : v.blame forest = .ok p) :
    (check forest options severity).outcome.1 =
      .ok (bindingDiagnostic options severity v p :: missingBindings forest severity) := by
  obtain ⟨log, hrun⟩ : ∃ log, (forest.unhandled options 0).run [] = (.ok [v], log) := ⟨_, Prod.ext h rfl⟩
  have hreports : reportBindings forest options severity [v] = .ok [bindingDiagnostic options severity v p] := by
    rw [reportBindings, reportBinding_eq, hshown, hp]
    rfl
  unfold check Logged.outcome
  rw [if_neg hs, run_bind, hrun]
  dsimp only
  rw [hreports]
  rfl

theorem analyze_of_single {v : Variable} {p : Place} (hs : severity ≠ .off)
    (h : (forest.unhandled options 0).outcome.1 = .ok [v])
    (hshown : (v.definitions.isEmpty || v.identifiers.isEmpty) = false) (hp : v.blame forest = .ok p) :
    (analyze forest options severity ruleName).outcome.1 =
      .ok (bindingDiagnostic options severity v p :: missingBindings forest severity) :=
  check_of_single hs h hshown hp

/-- The exact output of `check` on a scope tree: the diagnostics of the `Reported` bindings in `preorder` of the
scopes, each scope being visited once, then those of the catch clauses for which `isBareCatch` holds in `preorder` of
the tree, and all with the severity that was asked for. -/
theorem check_ok_exact {forest : Forest} {options : RuleOptions} {severity : Severity} {root : Scope}
    {ds : List Diagnostic} (hf : forest.Ordered) (hroot : forest.scope? 0 = some root) (hs : severity ≠ .off)
    (h : (check forest options severity).outcome.1 = .ok ds) :
    ∃ unhandled, ds = unhandled ++
        (root.block.preorder.filter fun p => decide p.LacksBinding).map (reportMissing severity) ∧
      Reported forest options severity (forest.preorder 0) unhandled ∧ (forest.preorder 0).Nodup ∧
      ∀ d ∈ ds, d.severity = severity := by
  have hsize : 0 < forest.size := List.getElem?_eq_some_iff.1 hroot |>.1
  obtain ⟨log, hrun⟩ : ∃ log, (check forest options severity).run [] = (.ok ds, log) := ⟨_, Prod.ext h rfl⟩
  -- the steps of the check: collecting, a record, reporting, and the clauses without a binding
  unfold check at hrun
  rw [if_neg hs] at hrun
  obtain ⟨vs, mid, hvs, hrun⟩ := run_bind_ok hrun
  obtain ⟨-, mid', -, hrun⟩ := run_bind_ok hrun
  obtain ⟨bindings, mid'', hb, hrun⟩ := run_bind_ok hrun
  obtain ⟨hb, -⟩ := run_lift_ok hb
  obtain ⟨rfl, -⟩ := run_pure_ok hrun
  unfold Forest.unhandled at hvs
  rw [hf.walk_eq hsize] at hvs
  have hreported := reported_of_unhandledOf hvs hb
  have hmissing : missingBindings forest severity =
      (root.block.preorder.filter fun p => decide p.LacksBinding).map (reportMissing severity) := by
    unfold missingBindings
    rw [hroot, ← Place.bareCatches_eq]
  rw [hmissing]
  refine ⟨bindings, rfl, hreported, hf.preorder_nodup 0, fun d hd => ?_⟩
  rcases List.mem_append.1 hd with hd | hd
  · exact hreported.severity_eq d hd
  · obtain ⟨p, -, rfl⟩ := List.mem_map.1 hd
    rfl

/-! ## A sample

`try{}catch(e){e=1;try{}catch{}}` has an unhandled binding, written once, and below it a catch clause
without a binding. -/

namespace Sample

def identifier (start stop : Int) : Node := .plain "Identifier" start stop [("name", .data (.text "e"))]

def assignment : Node :=
  .plain "AssignmentExpression" 14 17 [("left", .node (identifier 14 15)), ("right", .node (.plain "Literal" 16 17 []))]

def bareClause : Node :=
  .plain "CatchClause" 23 30 [("param", .data .null), ("body", .node (.plain "BlockStatement" 28 30 []))]

def block : Node :=
  .plain "BlockStatement" 13 31 [("body", .list [
    .node (.plain "ExpressionStatement" 14 18 [("expression", .node assignment)]),
    .node (.plain "TryStatement" 18 30 [("block", .node (.plain "BlockStatement" 21 23 [])),
      ("handler", .node bareClause)])])]

def program : Node :=
  .plain "Program" 0 31 [("body", .list [.node (.plain "TryStatement" 0 31 [
    ("block", .node (.plain "BlockStatement" 3 5 [])),
    ("handler", .node (.plain "CatchClause" 5 31 [("param", .node (identifier 11 12)), ("body", .node block)]))])])]

/-- The outer catch clause is place number 3 of the program and its binding number 4; the identifier that
is written is number 8, and the inner catch clause number 12. -/
def place (i : Nat) : Place := .nth program i

def binding : Variable where
  name := "e"
  scope := 1
  definitions := [⟨.catchClause, place 4, some (place 3)⟩]
  identifiers := [place 4]
  references := [⟨place 8, 1, false, true, ⟨1, 0⟩⟩]

def forest : Forest :=
  ((Forest.empty.create .global (place 0) none).create .«catch» (place 3) (some 0)).addVariable 1 binding

theorem forest_ordered : forest.Ordered :=
  ((Forest.empty_ordered.create _ _ (by simp)).create _ _ (by simp [Forest.size, Forest.create])).addVariable _ _

/-- The binding is blamed on the assignment, `place 8`. -/
def diagnostics : List Diagnostic :=
  [bindingDiagnostic .default .error binding (place 8), reportMissing .error (place 12)]

end Sample

open Sample in
theorem check_ok_exact_sample :
    (check forest .default .error).outcome.1 = .ok diagnostics ∧
    ∃ unhandled, diagnostics = unhandled ++
        ((place 0).preorder.filter fun p => decide p.LacksBinding).map (reportMissing .error) ∧
      Reported forest .default .error (forest.preorder 0) unhandled ∧ (forest.preorder 0).Nodup ∧
      ∀ d ∈ diagnostics, d.severity = .error := by
  have hcheck : (check forest .default .error).outcome.1 = .ok diagnostics :=
    check_of_single (v := binding) (p := place 8) (by decide) rfl rfl rfl
  exact ⟨hcheck, check_ok_exact forest_ordered rfl (by decide) hcheck⟩

end UnhandledCatch

end CatchAudit
