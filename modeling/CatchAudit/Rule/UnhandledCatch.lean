/-
The rule against unhandled errors: it reports every catch binding that is never genuinely read, and
every catch clause that declares no binding.
-/
import CatchAudit.Analysis.Unhandled
import CatchAudit.Message
import CatchAudit.Rule.Basic

namespace CatchAudit.UnhandledCatch

def ruleName : String := "no-unhandled-catch"

def ruleId : String := ruleNamespace ++ "/" ++ ruleName

def unhandledId : String := "unhandledError"

def unhandledTemplate : String :=
  "'\x7b\x7berrorName\x7d\x7d' error is caught but never handled\x7b\x7badditional\x7d\x7d."

def missingId : String := "noOptionalCatchBindingError"

def missingMessage : String :=
  "Optional catch binding is disallowed, please handle the caught error."

/-- The options that the rule accepts. -/
def schema : Document :=
  .list [.object [("oneOf", .list [.object [
    ("type", .text "object"),
    ("properties", .object [("ignorePattern", .object [("type", .text "string")])]),
    ("additionalProperties", .bool false)]])]]

def info : RuleMeta where
  type := "problem"
  description := "disallow unused errors in try-catch statements"
  category := "Variables"
  url := "https://github.com/wix-incubator/eslint-plugin-detox/blob/main/README.md"
  schema := schema
  messages := [(unhandledId, unhandledTemplate), (missingId, missingMessage)]

/-- What is added to the message of a variable: the pattern that a catch binding fails to match. -/
def addition (options : RuleOptions) (v : Variable) : String :=
  match v.definitions, options.ignore with
  | d :: _, some _ =>
    if d.kind = .catchClause then
      ". Allowed unhandled exceptions must match regexp: " ++ options.describe
    else ""
  | _, _ => ""

/-- The data that `fill` the message of a variable, the `addition` among them. -/
def messageData (options : RuleOptions) (v : Variable) : List (String × Document) :=
  [("errorName", .text v.name), ("additional", .text (addition options v))]

/-- The diagnostic of an unhandled binding at the place to `blame`, if it has a declaration to show. -/
def reportBinding (forest : Forest) (options : RuleOptions) (severity : Severity) (v : Variable) :
    Except Fault (List Diagnostic) :=
  if v.definitions.isEmpty || v.identifiers.isEmpty then .ok []
  else do
    let data := messageData options v
    let message ← Message.fill unhandledTemplate data
    let place ← v.blame forest
    return [{
      ruleId, kind := .unhandledBinding, messageId := unhandledId, message, node := place.node, data, severity }]

/-- The diagnostic of a catch clause without a binding. -/
def reportMissing (severity : Severity) (p : Place) : Diagnostic where
  ruleId := ruleId
  kind := .missingBinding
  messageId := missingId
  message := missingMessage
  node := p.node
  data := []
  severity := severity

/-- Reports bindings in order, each by `reportBinding`. -/
def reportBindings (forest : Forest) (options : RuleOptions) (severity : Severity) :
    List Variable → Except Fault (List Diagnostic)
  | [] => .ok []
  | v :: rest => do
    let found ← reportBinding forest options severity v
    let others ← reportBindings forest options severity rest
    return found ++ others

/-- The diagnostics of the `bareCatches` in the tree under the outermost scope. -/
def missingBindings (forest : Forest) (severity : Severity) : List Diagnostic :=
  match forest.scope? 0 with
  | none => []
  | some scope => scope.block.bareCatches.map (reportMissing severity)

/-- The `unhandled` bindings in pre-order of the scopes, then the `missingBindings`. -/
def check (forest : Forest) (options : RuleOptions) (severity : Severity) :
    Logged Fault (List Diagnostic) := do
  if severity = .off then return []
  else
    let unhandled ← forest.unhandled options 0
    Logged.note [⟨.debug, "Found " ++ toString unhandled.length ++ " unhandled catch binding(s)"⟩]
    let bindings ← reportBindings forest options severity unhandled
    return bindings ++ missingBindings forest severity

def rule : Rule := ⟨ruleName, info, check⟩

end CatchAudit.UnhandledCatch
