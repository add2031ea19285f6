/-
Rules: a name, a description, and a check of the scopes of one dump.
-/
import CatchAudit.Log
import CatchAudit.Report.Diagnostic
import CatchAudit.Scope.Forest
import CatchAudit.Settings.Options

namespace CatchAudit

/-- What stands before the name of a rule in its id. -/
def ruleNamespace : String := "catchlint"

structure RuleMeta where
  type : String
  description : String
  category : String
  url : String
  schema : Document
  messages : List (String × String)

def RuleMeta.toDocument (m : RuleMeta) : Document :=
  .object [
    ("type", .text m.type),
    ("docs", .object [
      ("description", .text m.description),
      ("category", .text m.category),
      ("url", .text m.url)]),
    ("schema", m.schema),
    ("messages", .object (m.messages.map fun (id, text) => (id, .text text)))]

structure Rule where
  name : String
  info : RuleMeta
  check : Forest → RuleOptions → Severity → Logged Fault (List Diagnostic)

/-- The name of a rule with the `ruleNamespace` before it. -/
def Rule.id (r : Rule) : String := ruleNamespace ++ "/" ++ r.name

end CatchAudit
