/-
Reports over trees that are alike. The same bindings are unhandled, and their diagnostics differ in
nothing but the node that is blamed, which is alike; the log is the same. Catch clauses without a
binding are found by walking the tree, whose order is not said to be the same here.
-/
import CatchAudit.Proofs.Analysis.Likeness
import CatchAudit.Proofs.Rule.Message
import CatchAudit.Rule.Registry

namespace CatchAudit

variable {N : Node → Node → Prop} {f f' : Forest} {v v' : Variable} {options : RuleOptions} {severity : Severity}

theorem Operand.Alike.isIgnored_eq {x y : Operand} (h : x.Alike N y) : options.isIgnored x = options.isIgnored y := by
  unfold RuleOptions.isIgnored
  cases options.ignore with
  | none => rfl
  | some pattern =>
    cases h with
    | place _ => rfl
    | list _ => rfl
    | @data d e hd =>
      dsimp only
      split
      · next s heq =>
        cases heq
        rw [hd.text s rfl]
      · next hother =>
        split
        · next s heq =>
          cases heq
          exact absurd (congrArg Operand.data ((hd.text_iff s).2 rfl)) (hother s)
        · exact congrArg (Except.error <| Fault.notText ·) hd.shape

namespace Likeness

theorem isUnhandled (hN : Likeness N) (hf : f.Alike N f') (h : v.Alike N v') :
    v.isUnhandled f options = v'.isUnhandled f' options := by
  unfold Variable.isUnhandled
  have hdefinitions := h.definitions
  generalize v.definitions = ds at hdefinitions
  generalize v'.definitions = ds' at hdefinitions
  cases hdefinitions with
  | nil => rfl
  | cons hd _ =>
    refine (hN.field hd.name "name").bind_eq fun x y hxy => ?_
    rw [hxy.isIgnored_eq, hN.isUsed hf h]

end Likeness

theorem isEmpty_eq {α β : Type} {R : α → β → Prop} {xs : List α} {ys : List β} (h : List.Forall₂ R xs ys) :
    xs.isEmpty = ys.isEmpty := by
  cases h <;> rfl

theorem Variable.Alike.undeclaredRecord_eq (h : v.Alike N v') : v.undeclaredRecord = v'.undeclaredRecord := by
  unfold undeclaredRecord
  rw [h.name, isEmpty_eq h.definitions]

theorem Scope.Alike.catchBinding? {s s' : Scope} (h : s.Alike N s') :
    Option.Rel (Variable.Alike N) s.catchBinding? s'.catchBinding? := by
  unfold Scope.catchBinding?
  rw [h.kind]
  split
  · have hbindings := h.bindings
    generalize s.bindings = vs at hbindings
    generalize s'.bindings = vs' at hbindings
    cases hbindings with
    | nil => exact .none
    | cons hv _ => exact .some hv
  · exact .none

namespace Forest.Alike

theorem catchBinding? (hf : f.Alike N f') (s : Nat) :
    Option.Rel (Variable.Alike N) ((f.scope? s).bind Scope.catchBinding?)
      ((f'.scope? s).bind Scope.catchBinding?) := by
  have hscope := hf.scope? s
  generalize f.scope? s = a at hscope
  generalize f'.scope? s = b at hscope
  cases hscope with
  | none => exact .none
  | some hs => exact hs.catchBinding?

theorem unhandledIn (hN : Likeness N) (hf : f.Alike N f') (s : Nat) :
    Logged.Agrees (List.Forall₂ (Variable.Alike N)) (f.unhandledIn options s) (f'.unhandledIn options s) := by
  unfold Forest.unhandledIn
  have hbinding := hf.catchBinding? s
  generalize (f.scope? s).bind Scope.catchBinding? = a at hbinding
  generalize (f'.scope? s).bind Scope.catchBinding? = b at hbinding
  cases hbinding with
  | none => exact .pure .nil
  | some hv =>
    dsimp only
    rw [hv.undeclaredRecord_eq, hN.isUnhandled hf hv]
    refine (Logged.Agrees.note _).bind fun _ _ _ => ?_
    refine (Logged.Agrees.lift (Agree.of_eq rfl)).bind fun report _ heq => ?_
    cases heq
    cases report with
    | true => exact .pure (.cons hv .nil)
    | false => exact .pure .nil

theorem unhandledOf (hN : Likeness N) (hf : f.Alike N f') : ∀ scopes : List Nat,
    Logged.Agrees (List.Forall₂ (Variable.Alike N)) (f.unhandledOf options scopes) (f'.unhandledOf options scopes)
  | [] => .pure .nil
  | s :: rest => by
    refine (unhandledIn hN hf s).bind fun found found' hfound => ?_
    refine (unhandledOf hN hf rest).bind fun others others' hothers => ?_
    exact .pure (List.rel_append hfound hothers)

theorem unhandled (hN : Likeness N) (hf : f.Alike N f') (s : Nat) :
    Logged.Agrees (List.Forall₂ (Variable.Alike N)) (f.unhandled options s) (f'.unhandled options s) := by
  unfold Forest.unhandled
  rw [hf.walk_eq]
  exact unhandledOf hN hf _

end Forest.Alike

/-! ## Diagnostics -/

/-- Diagnostics that differ in nothing but their nodes, which are related. -/
structure Diagnostic.Alike (N : Node → Node → Prop) (d d' : Diagnostic) : Prop where
  ruleId : d.ruleId = d'.ruleId
  kind : d.kind = d'.kind
  messageId : d.messageId = d'.messageId
  message : d.message = d'.message
  node : N d.node d'.node
  data : d.data = d'.data
  severity : d.severity = d'.severity

/-- The same for diagnostics of unhandled bindings. -/
structure Diagnostic.UnhandledAlike (N : Node → Node → Prop) (d d' : Diagnostic) : Prop
    extends Diagnostic.Alike N d d' where
  unhandled : d.kind = .unhandledBinding

theorem Likeness.isBareCatch (hN : Likeness N) {p q : Place} (h : p.Alike N q) : p.isBareCatch = q.isBareCatch := by
  unfold Place.isBareCatch
  have hparam := hN.operand? h "param"
  generalize p.operand? "param" = x at hparam
  generalize q.operand? "param" = y at hparam
  rw [hN.isKind h.node]
  congr 1
  cases hparam with
  | none => rfl
  | some hxy =>
    cases hxy with
    | place _ => rfl
    | list _ => rfl
    | @data d e hd =>
      have hnull := hd.null_iff
      cases d with
      | null => rw [hnull.1 rfl]
      | _ =>
        cases e with
        | null => exact absurd (hnull.2 rfl) (by simp)
        | _ => rfl

theorem Variable.Alike.blame (hf : f.Alike N f') (h : v.Alike N v') :
    Agree (Place.Alike N) (v.blame f) (v'.blame f') := by
  have hwrites : List.Forall₂ (Reference.Alike N) (v.ownWrites f) (v'.ownWrites f') := by
    unfold ownWrites
    rw [hf.variableScope_eq, h.scope]
    exact List.rel_filter (fun r r' hr => by dsimp only; rw [hr.write, hr.scope]) h.references
  unfold Variable.blame
  have hlast := rel_getLast? hwrites
  generalize (v.ownWrites f).getLast? = a at hlast
  generalize (v'.ownWrites f').getLast? = b at hlast
  cases hlast with
  | some hr => exact hr.identifier
  | none =>
    have hidentifiers := h.identifiers
    generalize v.identifiers = ps at hidentifiers
    generalize v'.identifiers = qs at hidentifiers
    cases hidentifiers with
    | nil => exact rfl
    | cons hp _ => exact hp

namespace UnhandledCatch

theorem addition_eq (h : v.Alike N v') : addition options v = addition options v' := by
  unfold addition
  have hdefinitions := h.definitions
  generalize v.definitions = ds at hdefinitions
  generalize v'.definitions = ds' at hdefinitions
  cases hdefinitions with
  | nil => rfl
  | cons hd _ =>
    cases options.ignore with
    | none => rfl
    | some _ =>
      dsimp only
      rw [hd.kind]

theorem messageData_eq (h : v.Alike N v') : messageData options v = messageData options v' := by
  unfold messageData
  rw [h.name, addition_eq h]

theorem reportBinding_agree (hf : f.Alike N f') (h : v.Alike N v') :
    Agree (List.Forall₂ (Diagnostic.UnhandledAlike N)) (reportBinding f options severity v)
      (reportBinding f' options severity v') := by
  unfold reportBinding
  rw [isEmpty_eq h.definitions, isEmpty_eq h.identifiers, messageData_eq h]
  dsimp only
  split
  · exact List.Forall₂.nil
  · rw [fill_unhandledTemplate]
    exact (h.blame hf).bind fun p q hpq => .cons ⟨⟨rfl, rfl, rfl, rfl, hpq.node, rfl, rfl⟩, rfl⟩ .nil

theorem reportBindings_agree (hf : f.Alike N f') {vs vs' : List Variable} (h : List.Forall₂ (Variable.Alike N) vs vs') :
    Agree (List.Forall₂ (Diagnostic.UnhandledAlike N)) (reportBindings f options severity vs)
      (reportBindings f' options severity vs') := by
  induction h with
  | nil => exact List.Forall₂.nil
  | cons hv _ ih =>
    exact (reportBinding_agree hf hv).bind fun _ _ hfound => ih.bind fun _ _ hothers => List.rel_append hfound hothers

/-- The diagnostics of `missingBindings`, as far as the severity lets them be reported. -/
def missingPart (forest : Forest) (severity : Severity) : List Diagnostic :=
  if severity = .off then [] else missingBindings forest severity

/-- Two lists of diagnostics, one for each forest, that begin with diagnostics of unhandled bindings, related by
`UnhandledAlike`, and end with the `missingPart` of the forest. -/
def PartsAlike (N : Node → Node → Prop) (f f' : Forest) (severity : Severity) (ds ds' : List Diagnostic) : Prop :=
  ∃ us us', ds = us ++ missingPart f severity ∧ ds' = us' ++ missingPart f' severity ∧
    List.Forall₂ (Diagnostic.UnhandledAlike N) us us'

theorem check_agrees (hN : Likeness N) (hf : f.Alike N f') (options : RuleOptions) (severity : Severity) :
    Logged.Agrees (PartsAlike N f f' severity) (check f options severity) (check f' options severity) := by
  unfold check
  split
  · next hoff =>
    exact .pure ⟨[], [], by simp [missingPart, hoff], by simp [missingPart, hoff], .nil⟩
  · next hon =>
    refine (hf.unhandled hN 0).bind fun vs vs' hvs => ?_
    rw [hvs.length_eq]
    refine (Logged.Agrees.note _).bind fun _ _ _ => ?_
    refine (Logged.Agrees.lift (reportBindings_agree hf hvs)).bind fun us us' hus => ?_
    exact .pure ⟨us, us', by simp [missingPart, hon], by simp [missingPart, hon], hus⟩

/-- Catch clauses without a binding among places that are `Alike`. -/
theorem reportMissing_alike (hN : Likeness N) {ps qs : List Place} (h : List.Forall₂ (Place.Alike N) ps qs)
    (severity : Severity) :
    List.Forall₂ (Diagnostic.Alike N) ((ps.filter Place.isBareCatch).map (reportMissing severity))
      ((qs.filter Place.isBareCatch).map (reportMissing severity)) := by
  rw [List.forall₂_map_left_iff, List.forall₂_map_right_iff]
  have hbare : List.Forall₂ (Place.Alike N) (ps.filter Place.isBareCatch) (qs.filter Place.isBareCatch) :=
    List.rel_filter (fun p q hpq => by dsimp only; rw [hN.isBareCatch hpq]) h
  exact hbare.imp fun p q hpq => ⟨rfl, rfl, rfl, rfl, hpq.node, rfl, rfl⟩

theorem analyze_agrees (hN : Likeness N) (hf : f.Alike N f') (options : RuleOptions) (severity : Severity)
    (ruleName : String) :
    Logged.Agrees (PartsAlike N f f' severity) (analyze f options severity ruleName)
      (analyze f' options severity ruleName) := by
  have hrule : ∀ rule, Registry.builtin.get? ruleName = some rule → rule = UnhandledCatch.rule := by
    intro rule hrule
    have hmem := mem_of_memberOf? hrule
    simp only [Registry.builtin, Registry.register, Registry.empty, setMember, List.mem_singleton] at hmem
    exact congrArg Prod.snd hmem
  unfold analyze
  rcases h : Registry.builtin.get? ruleName with _ | rule
  · exact fun _ => ⟨rfl, rfl⟩
  · rw [hrule rule h]
    exact check_agrees hN hf options severity

end UnhandledCatch

end CatchAudit
