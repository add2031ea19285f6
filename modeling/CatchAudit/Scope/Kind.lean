/-
Kinds of scopes and of definitions, under the names that scope dumps use.
-/
import CatchAudit.Document.Basic

namespace CatchAudit

inductive ScopeKind where
  | global
  | module
  | function
  | functionExpressionName
  | block
  | «catch»
  | «class»
  | classFieldInitializer
  | classStaticBlock
  | «for»
  | switch
  | «with»
  deriving DecidableEq, Repr, Inhabited

namespace ScopeKind

def all : List ScopeKind := [
  .global, .module, .function, .functionExpressionName, .block, .«catch», .«class»,
  .classFieldInitializer, .classStaticBlock, .«for», .switch, .«with»]

def name : ScopeKind → String
  | .global => "global"
  | .module => "module"
  | .function => "function"
  | .functionExpressionName => "function-expression-name"
  | .block => "block"
  | .«catch» => "catch"
  | .«class» => "class"
  | .classFieldInitializer => "class-field-initializer"
  | .classStaticBlock => "class-static-block"
  | .«for» => "for"
  | .switch => "switch"
  | .«with» => "with"

/-- The kind that a document names. -/
def ofDocument? (d : Document) : Option ScopeKind := all.find? fun k => d.isText k.name

/-- Scopes of these kinds own the variables declared anywhere inside one function. -/
def isFunctionLevel : ScopeKind → Bool
  | .global | .module | .function | .classFieldInitializer | .classStaticBlock => true
  | _ => false

end ScopeKind

/-- How a variable came to be. -/
inductive DefinitionKind where
  | catchClause
  | className
  | functionName
  | implicitGlobal
  | importBinding
  | parameter
  | variable
  deriving DecidableEq, Repr, Inhabited

namespace DefinitionKind

def all : List DefinitionKind := [
  .catchClause, .className, .functionName, .implicitGlobal, .importBinding, .parameter, .variable]

def name : DefinitionKind → String
  | .catchClause => "CatchClause"
  | .className => "ClassName"
  | .functionName => "FunctionName"
  | .implicitGlobal => "ImplicitGlobalVariable"
  | .importBinding => "ImportBinding"
  | .parameter => "Parameter"
  | .variable => "Variable"

def ofDocument? (d : Document) : Option DefinitionKind := all.find? fun k => d.isText k.name

end DefinitionKind

end CatchAudit
