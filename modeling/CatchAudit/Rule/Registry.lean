/-
Registries: what is known under which name, in the order of the first registration. A later
registration under the same name takes the place of the earlier one.
-/
import CatchAudit.Rule.UnhandledCatch
import CatchAudit.Text.Ordered

namespace CatchAudit

structure Registry (α : Type) where
  entries : List (String × α)

namespace Registry

variable {α : Type}

def empty : Registry α := ⟨[]⟩

/-- A name without the `ruleNamespace` that stands before it in an id. -/
def plainName (name : String) : String :=
  let lead := (ruleNamespace ++ "/").toList
  if lead.isPrefixOf name.toList then String.ofList (name.toList.drop lead.length) else name

def register (r : Registry α) (name : String) (a : α) : Registry α := ⟨setMember name a r.entries⟩

/-- The record that a registration leaves: a name that is taken is worth a warning. -/
def registrationLog (r : Registry α) (name : String) : Log :=
  match memberOf? name r.entries with
  | some _ => [⟨.warning, "Rule " ++ name ++ " registered twice; keeping the latest"⟩]
  | none => []

/-- Looks up a name by its `plainName`, with or without what stands before it in an id. -/
def get? (r : Registry α) (name : String) : Option α := memberOf? (plainName name) r.entries

def all (r : Registry α) : List α := r.entries.map (·.2)

/-- The names in ascending order. -/
def names (r : Registry α) : List String := Text.sorted (r.entries.map (·.1))

/-- The registry of the rules that are built in. -/
def builtin : Registry Rule := empty.register UnhandledCatch.ruleName UnhandledCatch.rule

end Registry

/-- Named selections of rules with their severities. -/
def presets : List (String × List (String × String)) := [("all", [(UnhandledCatch.ruleId, "error")])]

def presetsDocument : Document :=
  .object (presets.map fun (name, rules) =>
    (name, .object [("rules", .object (rules.map fun (id, severity) => (id, .text severity)))]))

/-- Checks scopes with a rule that is `builtin`. -/
def analyze (forest : Forest) (options : RuleOptions) (severity : Severity) (ruleName : String) :
    Logged Fault (List Diagnostic) :=
  match Registry.builtin.get? ruleName with
  | some rule => rule.check forest options severity
  | none => throw (.unknownRule ruleName)

end CatchAudit
