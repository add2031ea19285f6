/-
Analysis of a dump and output of what it finds come to an end with a result, if the nodes of the tree
have the fields that are read off them and declared names are texts. Two limits remain, and both lie
in the means: the pattern for ignored names may find a match in which a group ends before it begins,
and a line or a column may be a number too long to be written.
-/
import CatchAudit.Output.Compact
import CatchAudit.Proofs.Analysis.Completion
import CatchAudit.Proofs.Dump.Links
import CatchAudit.Proofs.Rule.Diagnostics
import CatchAudit.Rule.Registry

namespace CatchAudit

/-! ## Names and patterns -/

/-- The text that the declaring identifier has as its `name` field. -/
def Definition.nameText? (d : Definition) : Option String :=
  match d.name.node.field? "name" with
  | some (.data (.text s)) => some s
  | _ => none

theorem Definition.field_of_nameText? {d : Definition} {s : String} (h : d.nameText? = some s) :
    d.name.field "name" = .ok (.data (.text s)) := by
  unfold nameText? at h
  split at h
  · next hfield =>
    cases h
    exact Place.field_eq (by decide) hfield
  · cases h

/-- Whether `SearchPattern.search` finds a match in a text in which a group ends before it begins. -/
def RuleOptions.twists (o : RuleOptions) (s : String) : Bool := (o.ignore.bind (·.find? s)).any (·.isTwisted)

theorem RuleOptions.isIgnored_failsIff (o : RuleOptions) (s : String) :
    FailsIff (o.twists s = true) .twistedGroup (o.isIgnored (.data (.text s))) := by
  unfold isIgnored twists
  rcases o.ignore with _ | p
  · exact .never Bool.false_ne_true (succeeds_ok _)
  · dsimp only [Option.bind_some]
    rcases p.find? s with _ | found
    · exact .never Bool.false_ne_true (succeeds_ok _)
    · dsimp only [Option.any_some]
      constructor
      · intro h
        rw [if_pos h]
      · intro h
        rw [if_neg h]
        exact succeeds_ok _

/-! ## Forests over a tree -/

namespace Forest

/-- The declared names of all variables are texts, by `nameText?`. -/
def Named (f : Forest) : Prop :=
  ∀ scope ∈ f.scopes, ∀ v ∈ scope.bindings, ∀ d ∈ v.definitions, d.nameText?.isSome = true

instance (f : Forest) : Decidable f.Named :=
  inferInstanceAs (Decidable (∀ scope ∈ f.scopes, ∀ v ∈ scope.bindings, ∀ d ∈ v.definitions, _))

/-- Blocks, identifiers and references stand in the tree. -/
structure StandsIn (program : Node) (f : Forest) : Prop where
  block : ∀ scope ∈ f.scopes, (Place.root program).Within scope.block
  identifiers : ∀ scope ∈ f.scopes, ∀ v ∈ scope.bindings, ∀ p ∈ v.identifiers, (Place.root program).Within p
  references : ∀ scope ∈ f.scopes, ∀ v ∈ scope.bindings, ∀ r ∈ v.references, (Place.root program).Within r.identifier

/-- The scope `s` is a catch scope, and in the name under which its binding is declared the pattern finds a
match with a group that ends before it begins. -/
def Twists (f : Forest) (options : RuleOptions) (s : Nat) : Prop :=
  ∃ v d name, f.BindsCatch s v ∧ v.definitions.head? = some d ∧ d.nameText? = some name ∧ options.twists name = true

theorem BindsCatch.mem {f : Forest} {s : Nat} {v : Variable} (h : f.BindsCatch s v) :
    ∃ scope ∈ f.scopes, v ∈ scope.bindings := by
  obtain ⟨scope, hscope, -, hv⟩ := h
  exact ⟨scope, List.mem_of_getElem? hscope, List.mem_of_head? hv⟩

theorem BindsCatch.twists_iff {f : Forest} {options : RuleOptions} {s : Nat} {v : Variable} (h : f.BindsCatch s v) :
    f.Twists options s ↔
      ∃ d name, v.definitions.head? = some d ∧ d.nameText? = some name ∧ options.twists name = true := by
  constructor
  · rintro ⟨w, d, name, hw, hrest⟩
    rw [hw.unique h] at hrest
    exact ⟨d, name, hrest⟩
  · rintro ⟨d, name, hrest⟩
    exact ⟨v, d, name, h, hrest⟩

end Forest

theorem Dump.MadeFrom.exists_of_mem {α : Type} {R : Document → α → Prop} {ds : List Document} {results : List α}
    (h : MadeFrom R ds results) {a : α} (ha : a ∈ results) : ∃ d, R d a := by
  obtain ⟨used, -, hused⟩ := h
  obtain ⟨i, hi, rfl⟩ := List.getElem_of_mem ha
  have hlt : i < used.length := hused.length_eq ▸ hi
  exact ⟨used[i], hused.get hlt hi⟩

/-- The forest of a dump that `ofDocument` loads stands in its tree. -/
theorem Dump.standsIn_of_ofDocument {d source : Document} {dump : Dump} (h : (ofDocument d source).1 = .ok dump) :
    dump.forest.StandsIn dump.program := by
  obtain ⟨ast, scopes, entries, -, -, -, hbuilt⟩ := built_of_ofDocument h
  have hlinked : ∀ scope ∈ dump.forest.scopes, ∃ s entry, ScopeLinked dump entries s entry scope := by
    intro scope hscope
    obtain ⟨s, hs⟩ := List.getElem?_of_mem hscope
    obtain ⟨entry, -, hentry⟩ := hbuilt.scopeLinked hs
    exact ⟨s, entry, hentry⟩
  have hvariable : ∀ scope ∈ dump.forest.scopes, ∀ v ∈ scope.bindings,
      ∃ id entry, VariableLinked dump entries id entry v := by
    intro scope hscope v hv
    obtain ⟨s, entry, hentry⟩ := hlinked scope hscope
    obtain ⟨i, hi⟩ := List.getElem?_of_mem hv
    obtain ⟨origin, -, horigin⟩ := hentry.bindings i v hi
    exact ⟨⟨s, i⟩, origin, horigin⟩
  constructor
  · intro scope hscope
    obtain ⟨s, entry, hentry⟩ := hlinked scope hscope
    exact Place.mem_walk.1 hentry.block.mem
  · intro scope hscope v hv p hp
    obtain ⟨id, entry, hentry⟩ := hvariable scope hscope v hv
    obtain ⟨origin, horigin⟩ := hentry.identifiers.exists_of_mem hp
    exact Place.mem_walk.1 horigin.mem
  · intro scope hscope v hv r hr
    obtain ⟨id, entry, hentry⟩ := hvariable scope hscope v hv
    obtain ⟨origin, horigin⟩ := hentry.references.exists_of_mem hr
    exact Place.mem_walk.1 horigin.identifier.mem

/-! ## The check -/

section Check

variable {program : Node} {forest : Forest} {options : RuleOptions} {severity : Severity}

/-- Whether `isUnhandled` holds of a binding can be told, unless its name `twists` the pattern. -/
theorem Variable.isUnhandled_failsIff {v : Variable} (hshaped : program.WellShaped)
    (hrefs : ∀ r ∈ v.references, (Place.root program).Within r.identifier)
    (hnames : ∀ d ∈ v.definitions, d.nameText?.isSome = true) :
    FailsIff (∃ d name, v.definitions.head? = some d ∧ d.nameText? = some name ∧ options.twists name = true)
      .twistedGroup (v.isUnhandled forest options) := by
  unfold isUnhandled
  rcases hd : v.definitions with _ | ⟨d, rest⟩
  · exact .never (by simp) (succeeds_ok _)
  · obtain ⟨name, hname⟩ := Option.isSome_iff_exists.1 (hnames d (hd ▸ List.mem_cons_self ..))
    have hused := Variable.isUsed_succeeds hshaped forest hrefs
    have hfails : FailsIff (options.twists name = true ∨ False) .twistedGroup
        (options.isIgnored (.data (.text name)) >>= fun ignored => if ignored = true then .ok false
          else v.isUsed forest >>= fun used => .ok !used) := by
      refine (options.isIgnored_failsIff name).bind fun ignored _ => .never not_false ?_
      cases ignored with
      | true => exact succeeds_ok _
      | false => exact hused.bind fun _ _ => succeeds_ok _
    dsimp only
    rw [Definition.field_of_nameText? hname]
    refine hfails.congr ?_
    simp [hname]

namespace Forest

theorem unhandledIn_failsIff (hshaped : program.WellShaped) (hstands : forest.StandsIn program) (hnamed : forest.Named)
    (s : Nat) (log : Log) :
    FailsIff (forest.Twists options s) .twistedGroup ((forest.unhandledIn options s).run log).1 := by
  unfold unhandledIn
  cases hb : (forest.scope? s).bind Scope.catchBinding? with
  | none =>
    refine .never ?_ (succeeds_ok _)
    rintro ⟨v, -, -, hv, -⟩
    rw [bindsCatch_iff.1 hv] at hb
    cases hb
  | some v =>
    have hv : forest.BindsCatch s v := bindsCatch_iff.2 hb
    obtain ⟨scope, hscope, hmem⟩ := hv.mem
    have hreport : FailsIff _ Fault.twistedGroup (v.isUnhandled forest options) :=
      Variable.isUnhandled_failsIff hshaped (hstands.references scope hscope v hmem) (hnamed scope hscope v hmem)
    have hnote : ∀ mid, FailsIff (_ ∨ False) Fault.twistedGroup
        (((v.isUnhandled forest options : Logged Fault Bool) >>= fun report =>
          pure (if report = true then [v] else [])).run mid).1 :=
      fun mid => FailsIff.run_bind hreport fun _ _ _ => .never not_false (succeeds_ok _)
    refine (FailsIff.run_bind (x := Logged.note _) (.never not_false (succeeds_ok _)) fun _ mid _ => hnote mid).congr ?_
    rw [hv.twists_iff, false_or, or_false]

theorem unhandledOf_failsIff (hshaped : program.WellShaped) (hstands : forest.StandsIn program)
    (hnamed : forest.Named) : ∀ (scopes : List Nat) (log : Log),
    FailsIff (∃ s ∈ scopes, forest.Twists options s) .twistedGroup ((forest.unhandledOf options scopes).run log).1
  | [], _ => .never (by simp) (succeeds_ok _)
  | s :: rest, log => by
    unfold unhandledOf
    refine (FailsIff.run_bind (unhandledIn_failsIff hshaped hstands hnamed s log) fun found mid _ => ?_).congr
      (List.exists_mem_cons_iff _ s rest).symm
    refine (FailsIff.run_bind (unhandledOf_failsIff hshaped hstands hnamed rest mid) fun others mid' _ => ?_).congr
      (or_false _).to_iff
    exact .never not_false (succeeds_ok _)

end Forest

namespace UnhandledCatch

theorem reportBindings_succeeds (forest : Forest) (options : RuleOptions) (severity : Severity) :
    ∀ vs : List Variable, Succeeds (reportBindings forest options severity vs)
  | [] => succeeds_ok _
  | v :: rest => by
    have hreport : Succeeds (reportBinding forest options severity v) := by
      unfold reportBinding
      split
      · exact succeeds_ok _
      · next hshown =>
        refine Succeeds.bind ⟨_, fill_unhandledTemplate options v⟩ fun _ _ => Succeeds.bind ?_ fun _ _ => succeeds_ok _
        -- without own writes the first identifier is blamed, and there is one
        unfold Variable.blame
        split
        · exact succeeds_ok _
        · split
          · exact succeeds_ok _
          · next hnone => simp [hnone] at hshown
    exact hreport.bind fun _ _ => (reportBindings_succeeds forest options severity rest).bind fun _ _ => succeeds_ok _

/-- `check` fails in one way only, and not at all if the severity is `off`. -/
theorem check_failsIff (hshaped : program.WellShaped) (hstands : forest.StandsIn program) (hnamed : forest.Named) :
    FailsIff (severity ≠ .off ∧ ∃ s ∈ forest.walk 0, forest.Twists options s) .twistedGroup
      (check forest options severity).outcome.1 := by
  unfold check Logged.outcome
  by_cases hoff : severity = .off
  · rw [if_pos hoff]
    exact .never (by simp [hoff]) (succeeds_ok _)
  · rw [if_neg hoff]
    -- all that can fail is to find the bindings; those that were found can be reported
    have hrest : ∀ (vs : List Variable) (log : Log), FailsIff False Fault.twistedGroup
        ((do
          Logged.note [⟨.debug, "Found " ++ toString vs.length ++ " unhandled catch binding(s)"⟩]
          let bindings ← reportBindings forest options severity vs
          return bindings ++ missingBindings forest severity : Logged Fault (List Diagnostic)).run log).1 := by
      intro vs log
      obtain ⟨bindings, hbindings⟩ := reportBindings_succeeds forest options severity vs
      rw [hbindings]
      exact .never not_false (succeeds_ok _)
    refine (FailsIff.run_bind (Forest.unhandledOf_failsIff hshaped hstands hnamed (forest.walk 0) [])
      fun vs mid _ => hrest vs mid).congr ?_
    simp [hoff]

end UnhandledCatch

/-! ## Diagnostics stand in the tree -/

/-- The `Blamed` place is an identifier of the variable or of one of its references. -/
theorem Variable.Blamed.within {v : Variable} {p : Place} (h : v.Blamed forest p)
    (hidentifiers : ∀ q ∈ v.identifiers, (Place.root program).Within q)
    (hreferences : ∀ r ∈ v.references, (Place.root program).Within r.identifier) : (Place.root program).Within p := by
  cases h with
  | lastWrite split _ _ =>
    refine hreferences _ ?_
    rw [split]
    exact List.mem_append_right _ (List.mem_cons_self ..)
  | declaration _ first => exact hidentifiers p (List.mem_of_head? first)

namespace UnhandledCatch

theorem Reported.within {scopes : List Nat} {ds : List Diagnostic} (hstands : forest.StandsIn program)
    (h : Reported forest options severity scopes ds) :
    ∀ d ∈ ds, ∃ p, (Place.root program).Within p ∧ p.node = d.node := by
  induction h with
  | nil => intro d hd; cases hd
  | @report s v p rest ds reportable blamed _ ih =>
    obtain ⟨scope, hscope, hmem⟩ := reportable.binding.mem
    have hp := blamed.within (hstands.identifiers scope hscope v hmem) (hstands.references scope hscope v hmem)
    intro d hd
    rcases List.mem_cons.1 hd with rfl | hd
    · exact ⟨p, hp, rfl⟩
    · exact ih d hd
  | pass _ _ ih => exact ih

theorem missingBindings_within (hstands : forest.StandsIn program) :
    ∀ d ∈ missingBindings forest severity, ∃ p, (Place.root program).Within p ∧ p.node = d.node := by
  unfold missingBindings
  intro d hd
  split at hd
  · cases hd
  · next scope hscope =>
    obtain ⟨p, hp, rfl⟩ := List.mem_map.1 hd
    have hblock := hstands.block scope (List.mem_of_getElem? hscope)
    exact ⟨p, hblock.trans (Place.mem_walk.1 (List.mem_of_mem_filter hp)), rfl⟩

theorem check_within {ds : List Diagnostic} (hstands : forest.StandsIn program)
    (h : (check forest options severity).outcome.1 = .ok ds) :
    ∀ d ∈ ds, ∃ p, (Place.root program).Within p ∧ p.node = d.node := by
  obtain ⟨log, hrun⟩ : ∃ log, (check forest options severity).run [] = (.ok ds, log) := ⟨_, Prod.ext h rfl⟩
  unfold check at hrun
  split at hrun
  · obtain ⟨rfl, -⟩ := run_pure_ok hrun
    intro d hd
    cases hd
  · obtain ⟨vs, mid, hvs, hrun⟩ := run_bind_ok hrun
    obtain ⟨-, mid', -, hrun⟩ := run_bind_ok hrun
    obtain ⟨bindings, hbindings, hrun⟩ := run_lift_bind_ok hrun
    obtain ⟨rfl, -⟩ := run_pure_ok hrun
    intro d hd
    rcases List.mem_append.1 hd with hd | hd
    · exact (reported_of_unhandledOf hvs hbindings).within hstands d hd
    · exact missingBindings_within hstands d hd

end UnhandledCatch

end Check

/-! ## Reports -/

/-- The `location`, if there is one, begins in a line and at a column that are whole numbers. -/
def Node.CountedLocation (n : Node) : Prop :=
  ∀ l ∈ n.location, l.start.line.shape = .int ∧ l.start.column.shape = .int

instance (n : Node) : Decidable n.CountedLocation :=
  inferInstanceAs (Decidable (∀ l ∈ n.location, l.start.line.shape = .int ∧ l.start.column.shape = .int))

theorem UnhandledCatch.check_counted {program : Node} {forest : Forest} {options : RuleOptions} {severity : Severity}
    {ds : List Diagnostic} (hstands : forest.StandsIn program)
    (hlocations : ∀ p ∈ (Place.root program).walk, p.node.CountedLocation)
    (h : (check forest options severity).outcome.1 = .ok ds) : ∀ x ∈ ds, x.node.CountedLocation := by
  intro x hx
  obtain ⟨p, hp, heq⟩ := check_within hstands h x hx
  rw [← heq]
  exact hlocations p (Place.mem_walk.2 hp)

theorem Document.eq_int_of_shape {d : Document} (h : d.shape = .int) : ∃ i, d = .int i := by
  cases d with
  | int i => exact ⟨i, rfl⟩
  | moment m => cases m <;> cases h
  | _ => cases h

theorem Text.isLongNumber_pow : isLongNumber (10 ^ maxDigits) = true := by
  have hpow : ∀ n : Nat, Nat.pow 10 n ≤ ((10 : Int) ^ n).natAbs := by
    intro n
    rw [Int.natAbs_pow]
    exact le_refl _
  exact decide_eq_true (hpow maxDigits)

theorem Document.toText_succeeds_iff {d : Document} : Succeeds d.toText ↔ d.isWritable = true := by
  unfold toText
  split
  · next h => exact ⟨fun _ => h, fun _ => succeeds_ok _⟩
  · next h => simp [Succeeds, h]

theorem Compact.orZero_succeeds_iff {d : Document} : Succeeds (orZero d) ↔ d.isWritable = true := by
  unfold orZero
  split
  · exact ⟨fun _ => rfl, fun _ => succeeds_ok _⟩
  · exact d.toText_succeeds_iff

namespace Diagnostic

variable {d : Diagnostic}

/-- The line and the column, which counts from one, are short enough to be written. -/
def Writable (d : Diagnostic) : Prop :=
  d.line.isWritable = true ∧ ∀ column, d.column = .ok column → column.isWritable = true

theorem column_succeeds (h : d.node.CountedLocation) : Succeeds d.column := by
  unfold column
  split
  · next l hl =>
    obtain ⟨i, hi⟩ := Document.eq_int_of_shape (h l hl).2
    rw [hi]
    exact succeeds_ok _
  · exact succeeds_ok _

theorem position?_isSome (h : d.node.CountedLocation) : d.position?.isSome = true := by
  unfold position? sortKey
  rcases hl : d.node.location with _ | l
  · rfl
  · obtain ⟨i, hi⟩ := Document.eq_int_of_shape (h l hl).1
    obtain ⟨j, hj⟩ := Document.eq_int_of_shape (h l hl).2
    dsimp only
    rw [hi, hj]
    rfl

theorem toDocument_succeeds (h : d.node.CountedLocation) : Succeeds d.toDocument :=
  (column_succeeds h).bind fun _ _ => succeeds_ok _

theorem line_succeeds_iff (h : d.node.CountedLocation) (file : String) :
    Succeeds (Compact.diagnosticLine file d) ↔ d.Writable := by
  obtain ⟨column, hcolumn⟩ := column_succeeds h
  have hwritable : d.Writable ↔ d.line.isWritable = true ∧ column.isWritable = true := by
    simp [Writable, hcolumn]
  unfold Compact.diagnosticLine
  rw [hwritable, hcolumn, ← Compact.orZero_succeeds_iff, ← Compact.orZero_succeeds_iff]
  exact succeeds_both_iff

end Diagnostic

namespace FileReport

variable {r : FileReport}

theorem sorted_eq (h : ∀ d ∈ r.diagnostics, d.node.CountedLocation) :
    r.sorted = .ok (r.diagnostics.mergeSort Diagnostic.notAfter) := by
  unfold sorted
  rw [if_pos]
  exact List.all_eq_true.2 fun d hd => Diagnostic.position?_isSome (h d hd)

theorem toDocument_succeeds (h : ∀ d ∈ r.diagnostics, d.node.CountedLocation) : Succeeds r.toDocument := by
  unfold toDocument
  rw [sorted_eq h]
  refine (succeeds_ok _).bind fun ds hds => ?_
  cases hds
  refine (succeeds_mapM_iff.2 fun d hd => ?_).bind fun _ _ => succeeds_ok _
  exact Diagnostic.toDocument_succeeds (h d (List.mem_mergeSort.1 hd))

/-- `reportLines` can write the lines of a report that has an error, or of which each diagnostic is `Writable`. -/
theorem reportLines_succeeds_iff (h : ∀ d ∈ r.diagnostics, d.node.CountedLocation) :
    Succeeds (Compact.reportLines r) ↔ r.failed = true ∨ ∀ d ∈ r.diagnostics, d.Writable := by
  have hlines : Succeeds (r.sorted >>= fun ds => ds.mapM (Compact.diagnosticLine r.file.text)) ↔
      ∀ d ∈ r.diagnostics, d.Writable := by
    rw [sorted_eq h]
    refine succeeds_mapM_iff.trans (forall_congr' fun d => ?_)
    rw [List.mem_mergeSort]
    exact imp_congr_right fun hd => Diagnostic.line_succeeds_iff (h d hd) _
  unfold Compact.reportLines
  split
  · next hfailed _ => simp [hfailed, succeeds_ok]
  · next hnot =>
    have hfailed : r.failed ≠ true := by
      intro hfailed
      obtain ⟨e, he, -⟩ := (Option.any_eq_true ..).1 hfailed
      exact hnot e hfailed he
    rw [hlines, or_iff_right hfailed]

end FileReport

/-- `analyze` has a result for a dump that is `WellShaped` and `Named`, so that nodes have the fields that are read
off them and declared names are texts, unless the rule is on and the name of a catch binding `twists` the pattern,
which is the only fault. If lines and columns are whole numbers, then what is found can be turned into documents; and
into lines, unless one is not `Writable`. -/
theorem Dump.analyze_completes {d source : Document} {dump : Dump} (h : (ofDocument d source).1 = .ok dump)
    (hshaped : dump.program.WellShaped) (hnamed : dump.forest.Named) (options : RuleOptions) (severity : Severity) :
    (Succeeds (analyze dump.forest options severity UnhandledCatch.ruleName).outcome.1 ↔
      severity = .off ∨ ∀ s ∈ dump.forest.walk 0, ¬ dump.forest.Twists options s) ∧
    (∀ fault, (analyze dump.forest options severity UnhandledCatch.ruleName).outcome.1 = .error fault →
      fault = .twistedGroup) ∧
    ((∀ p ∈ (Place.root dump.program).walk, p.node.CountedLocation) →
      ∀ ds, (analyze dump.forest options severity UnhandledCatch.ruleName).outcome.1 = .ok ds →
        (∀ x ∈ ds, Succeeds x.toDocument) ∧
        ∀ file error, Succeeds (FileReport.toDocument ⟨file, ds, error⟩) ∧
          (Succeeds (Compact.reportLines ⟨file, ds, error⟩) ↔
            FileReport.failed ⟨file, ds, error⟩ = true ∨ ∀ x ∈ ds, x.Writable)) := by
  have hstands := standsIn_of_ofDocument h
  have hcheck : analyze dump.forest options severity UnhandledCatch.ruleName =
      UnhandledCatch.check dump.forest options severity := rfl
  have hfails : FailsIff _ _ (UnhandledCatch.check dump.forest options severity).outcome.1 :=
    UnhandledCatch.check_failsIff hshaped hstands hnamed
  rw [hcheck]
  refine ⟨?_, fun fault => hfails.eq_of_error, fun hlocations ds hds => ?_⟩
  · rw [hfails.succeeds_iff]
    by_cases hoff : severity = .off <;> simp [hoff]
  · have hcounted := UnhandledCatch.check_counted hstands hlocations hds
    refine ⟨fun x hx => Diagnostic.toDocument_succeeds (hcounted x hx), fun file error => ?_⟩
    exact ⟨FileReport.toDocument_succeeds hcounted, FileReport.reportLines_succeeds_iff hcounted⟩

/-! ## A sample

`try{}catch(ab){}`, with a location for the binding. -/

namespace Dump.Sample

def located (column : Int) : Document :=
  .object [("start", .object [("line", .int 1), ("column", .int column)]),
    ("end", .object [("line", .int 1), ("column", .int 14)])]

def unhandled (column : Int) : Document :=
  .object [
    ("ast", node "Program" 0 17 [("body", .list [node "TryStatement" 0 17 [
      ("block", node "BlockStatement" 3 5 [("body", .list [])]),
      ("handler", node "CatchClause" 5 17 [
        ("param", node "Identifier" 11 13 [("name", .text "ab"), ("loc", located column)]),
        ("body", node "BlockStatement" 15 17 [("body", .list [])])])]])]),
    ("scopes", scope 1 "global" (reference "Program" 0 17) [] [
      scope 2 "catch" (reference "CatchClause" 5 17) [.object [
        ("name", .text "ab"),
        ("identifiers", .list [reference "Identifier" 11 13]),
        ("defs", .list [.object [("type", .text "CatchClause"), ("name", reference "Identifier" 11 13)]])]] []])]

/-- A pattern in which the group inside the atomic group may end before it begins. -/
def twistingPattern : String := "(?:(?>(a)|b)|$)*+"

theorem twistingPattern_twists :
    ∃ p, SearchPattern.parse twistingPattern = .ok p ∧ (⟨some p⟩ : RuleOptions).twists "ab" = true := by
  have hparse : (SearchPattern.parse twistingPattern).toOption.any
      (fun p => (⟨some p⟩ : RuleOptions).twists "ab") = true := by decide +kernel
  generalize SearchPattern.parse twistingPattern = outcome at hparse ⊢
  cases outcome with
  | error e => cases hparse
  | ok p => exact ⟨p, rfl, hparse⟩

/-- Whatever the column is, the dump that `unhandled` gives is well formed and its one binding is reported there. -/
theorem unhandled_reported (column : Int) :
    ∃ dump ds, (ofDocument (unhandled column) .null).1 = .ok dump ∧ dump.program.WellShaped ∧ dump.forest.Named ∧
      (∀ p ∈ (Place.root dump.program).walk, p.node.CountedLocation) ∧
      (∀ options : RuleOptions, options.twists "ab" = true → ∃ s ∈ dump.forest.walk 0, dump.forest.Twists options s) ∧
      (analyze dump.forest .default .error UnhandledCatch.ruleName).outcome.1 = .ok ds ∧
      ds.map (fun x => (x.line, x.column)) = [(.int 1, .ok (.int (column + 1)))] := by
  refine ⟨_, _, rfl, of_decide_eq_true rfl, of_decide_eq_true rfl, of_decide_eq_true rfl, ?_,
    UnhandledCatch.analyze_of_single (by decide) rfl rfl rfl, rfl⟩
  intro options htwists
  exact ⟨1, of_decide_eq_true rfl, _, _, "ab", ⟨_, rfl, rfl, rfl⟩, rfl, rfl, htwists⟩

end Dump.Sample

/-- The binding of `Sample.unhandled` is reported, as a document and on a line. -/
theorem Dump.analyze_completes_sample :
    ∃ dump ds, (ofDocument (Sample.unhandled 11) .null).1 = .ok dump ∧ dump.program.WellShaped ∧ dump.forest.Named ∧
      (∀ p ∈ (Place.root dump.program).walk, p.node.CountedLocation) ∧
      (analyze dump.forest .default .error UnhandledCatch.ruleName).outcome.1 = .ok ds ∧ ds.length = 1 ∧
      Succeeds (FileReport.toDocument ⟨.parse "a", ds, none⟩) ∧
      Succeeds (Compact.reportLines ⟨.parse "a", ds, none⟩) := by
  obtain ⟨dump, ds, hload, hshaped, hnamed, hlocations, -, hds, hat⟩ := Sample.unhandled_reported 11
  obtain ⟨x, rfl, hx⟩ := List.map_eq_singleton_iff.1 hat
  obtain ⟨hline, hcolumn⟩ := Prod.mk.inj hx
  have hwritable : x.Writable := by
    have hshort : (Document.int 1).isWritable = true ∧ (Document.int (11 + 1)).isWritable = true := by decide +kernel
    refine ⟨hline ▸ hshort.1, fun column hat => ?_⟩
    cases hcolumn.symm.trans hat
    exact hshort.2
  obtain ⟨-, -, hreports⟩ := analyze_completes hload hshaped hnamed .default .error
  obtain ⟨hdocument, hlines⟩ := (hreports hlocations [x] hds).2 (.parse "a") none
  exact ⟨dump, [x], hload, hshaped, hnamed, hlocations, hds, rfl, hdocument, hlines.2 (.inr (by simpa using hwritable))⟩

/-- By `twistingPattern`, which twists the name of the binding, the analysis fails, and by a column of as many nines
as a number may have digits, which gets one digit more by counting from one, the output of a line fails. -/
theorem Dump.analyze_fails_on_twisted_name :
    (∃ dump p, (ofDocument (Sample.unhandled 11) .null).1 = .ok dump ∧ dump.program.WellShaped ∧ dump.forest.Named ∧
      SearchPattern.parse Sample.twistingPattern = .ok p ∧
      (analyze dump.forest ⟨some p⟩ .error UnhandledCatch.ruleName).outcome.1 = .error .twistedGroup) ∧
    ∃ dump ds, (ofDocument (Sample.unhandled (10 ^ Text.maxDigits - 1)) .null).1 = .ok dump ∧ dump.program.WellShaped ∧
      dump.forest.Named ∧ (∀ p ∈ (Place.root dump.program).walk, p.node.CountedLocation) ∧
      (analyze dump.forest .default .error UnhandledCatch.ruleName).outcome.1 = .ok ds ∧
      ¬ Succeeds (Compact.reportLines ⟨.parse "a", ds, none⟩) := by
  constructor
  · obtain ⟨dump, -, hload, hshaped, hnamed, -, htwists, -, -⟩ := Sample.unhandled_reported 11
    obtain ⟨p, hparse, hp⟩ := Sample.twistingPattern_twists
    refine ⟨dump, p, hload, hshaped, hnamed, hparse, ?_⟩
    exact (UnhandledCatch.check_failsIff hshaped (standsIn_of_ofDocument hload) hnamed).error ⟨by decide, htwists _ hp⟩
  · obtain ⟨dump, ds, hload, hshaped, hnamed, hlocations, -, hds, hat⟩ :=
      Sample.unhandled_reported (10 ^ Text.maxDigits - 1)
    obtain ⟨x, rfl, hx⟩ := List.map_eq_singleton_iff.1 hat
    obtain ⟨hline, hcolumn⟩ := Prod.mk.inj hx
    refine ⟨dump, [x], hload, hshaped, hnamed, hlocations, hds, fun hlines => ?_⟩
    have hcounted := UnhandledCatch.check_counted (standsIn_of_ofDocument hload) hlocations hds
    have hlong : ¬ x.Writable := by
      rintro ⟨-, hwritable⟩
      have hshort := hwritable _ hcolumn
      rw [Int.sub_add_cancel, Document.isWritable, Text.isLongNumber_pow] at hshort
      cases hshort
    rcases (FileReport.reportLines_succeeds_iff hcounted).1 hlines with hfailed | hwritable
    · cases hfailed
    · exact hlong (hwritable x (List.mem_singleton_self _))

end CatchAudit
