/-
The scopes of a dump. First all scopes are created from their entries, an entry's children together
and then, child by child, what lies below; after that the variables of each scope are added, in the
order in which the scopes were created. Whatever cannot be resolved is skipped, and the skips are
kept in order.
-/
import CatchAudit.Dump.Resolve
import CatchAudit.Scope.Forest

namespace CatchAudit

/-- An entry of a dump, or a part of it, that was left out. -/
inductive Skip where
  | scopeBlock (id : Document)
  | scopeKind (kind : Document)
  | unnamedVariable
  | identifier (name : String)
  | definitionKind (name : String) (kind : Document)
  | definitionName (name : String)
  | reference (name : String)

def Skip.message : Skip → String
  | .scopeBlock id => "scope " ++ id.quoted ++ " with unresolvable block"
  | .scopeKind kind => "unknown scope type " ++ kind.quoted ++ ", treated as block"
  | .unnamedVariable => "variable without a name"
  | .identifier name => "identifier of " ++ Text.quoted name
  | .definitionKind name kind => "definition of " ++ Text.quoted name ++ " with type " ++ kind.quoted
  | .definitionName name => "definition of " ++ Text.quoted name ++ " with unresolvable name"
  | .reference name => "reference to " ++ Text.quoted name

namespace Dump

/-- What has been built so far. Scope number `i` was made from entry number `i`; of equal ids the
latest stands first. -/
structure Building where
  forest : Forest
  entries : List Document
  ids : List (Document × Nat)
  skipped : List Skip

def Building.start : Building := ⟨Forest.empty, [], [], []⟩

/-- Building keeps what was skipped even when it fails. -/
abbrev Build := ExceptT Fault (StateM Building)

def skip (what : Skip) : Build Unit := modify fun b => { b with skipped := b.skipped ++ [what] }

/-- An unknown kind of scope counts as a block. -/
def readKind (d : Document) : Build ScopeKind :=
  match ScopeKind.ofDocument? d with
  | some kind => pure kind
  | none => do
    skip (.scopeKind d)
    return .block

/-- The scope with this id. -/
def scopeOf? (ids : List (Document × Nat)) (id : Document) : Option Nat :=
  (ids.find? fun entry => entry.1.equal id).map (·.2)

/-- Creates a scope from its entry and files it under its id. -/
def addScope (kind : ScopeKind) (block : Place) (upper : Option Nat) (entry : Document) :
    Build Nat := do
  let s := (← get).forest.size
  modify fun b => { b with
    forest := b.forest.create kind block upper
    entries := b.entries ++ [entry] }
  match entry.member? "id" with
  | none => return s
  | some id => do
    let id ← id.asKey
    modify fun b => { b with ids := (id, s) :: b.ids }
    return s

/-- Creates the scope of a child entry, unless its block is not in the tree. -/
def addChild (places : List Place) (upper : Nat) (entry : Document) :
    Build (Option (Nat × Document)) := do
  match ← resolve places (← entry.get "block") with
  | none => do
    skip (.scopeBlock (← entry.get "id"))
    return none
  | some block => do
    let kind ← readKind (← entry.get "type")
    let s ← addScope kind block (some upper) entry
    return some (s, entry)

/-- Creates the scopes of child entries in order and gives those that were kept. -/
def addChildren (places : List Place) (upper : Nat) :
    List Document → Build (List (Nat × Document))
  | [] => return []
  | entry :: rest => do
    let made ← addChild places upper entry
    let others ← addChildren places upper rest
    return made.toList ++ others

/-- Creates the scopes below those on the stack; at most `fuel` of them are opened. -/
def addScopes (places : List Place) : (fuel : Nat) → List (Nat × Document) → Build Unit
  | _, [] => return ()
  | 0, _ => return ()
  | fuel + 1, (s, entry) :: rest => do
    let children ← addChildren places s (← (← entry.getD "childScopes" (.list [])).iterate)
    addScopes places fuel (children ++ rest)

/-! ## Variables -/

def addIdentifiers (places : List Place) (name : String) : List Document → Build (List Place)
  | [] => return []
  | d :: rest => do
    match ← resolve places d with
    | none => do
      skip (.identifier name)
      addIdentifiers places name rest
    | some p => do
      let others ← addIdentifiers places name rest
      return p :: others

def readDefinition (places : List Place) (name : String) (d : Document) :
    Build (Option Definition) := do
  let kindName ← d.get "type"
  match DefinitionKind.ofDocument? kindName with
  | none => do
    skip (.definitionKind name kindName)
    return none
  | some kind =>
    match ← resolve places (← d.get "name") with
    | none => do
      skip (.definitionName name)
      return none
    | some p => return some ⟨kind, p, ← resolve places (← d.get "node")⟩

def addDefinitions (places : List Place) (name : String) :
    List Document → Build (List Definition)
  | [] => return []
  | d :: rest => do
    let made ← readDefinition places name d
    let others ← addDefinitions places name rest
    return made.toList ++ others

def readReference (places : List Place) (v : VariableId) (name : String) (d : Document) :
    Build (Option Reference) := do
  let identifier ← resolve places (← d.get "identifier")
  let id ← (← d.get "from").asKey
  match identifier, scopeOf? (← get).ids id with
  | some p, some s =>
    return some ⟨p, s, (← d.get "read").truthy, (← d.get "write").truthy, v⟩
  | _, _ => do
    skip (.reference name)
    return none

def addReferences (places : List Place) (v : VariableId) (name : String) :
    List Document → Build (List Reference)
  | [] => return []
  | d :: rest => do
    let made ← readReference places v name d
    let others ← addReferences places v name rest
    return made.toList ++ others

/-- The items of a member, none when it is missing. -/
def items (d : Document) (name : String) : Except Fault (List Document) := do
  (← d.getD name (.list [])).iterate

/-- Adds the variable of an entry to a scope. -/
def addVariable (places : List Place) (s : Nat) (entry : Document) : Build Unit := do
  match ← entry.get "name" with
  | .text name => do
    let id : VariableId := ⟨s, ((← get).forest.bindings s).length⟩
    let identifiers ← addIdentifiers places name (← items entry "identifiers")
    let definitions ← addDefinitions places name (← items entry "defs")
    let references ← addReferences places id name (← items entry "references")
    modify fun b => { b with
      forest := b.forest.addVariable s ⟨name, s, definitions, identifiers, references⟩ }
  | _ => skip .unnamedVariable

def addVariables (places : List Place) (s : Nat) : List Document → Build Unit
  | [] => return ()
  | entry :: rest => do
    addVariable places s entry
    addVariables places s rest

/-- Adds the variables of the scopes made from these entries, the first being number `s`. -/
def addAllVariables (places : List Place) : (s : Nat) → List Document → Build Unit
  | _, [] => return ()
  | s, entry :: rest => do
    addVariables places s (← items entry "variables")
    addAllVariables places (s + 1) rest

/-! ## The root -/

/-- Why no scopes could be built, apart from faults. -/
inductive RootProblem where
  | notAnObject
  | blockNotInTree
  deriving DecidableEq, Repr

/-- Builds the scopes below the root entry. -/
def addRoot (places : List Place) (entry : Document) : Build (Option RootProblem) := do
  checkKinds places
  match entry with
  | .object _ =>
    match ← resolve places (← entry.get "block") with
    | none => return some .blockNotInTree
    | some block => do
      let kind ← readKind (← entry.get "type")
      let s ← addScope kind block none entry
      addScopes places entry.size [(s, entry)]
      addAllVariables places 0 (← get).entries
      return none
  | _ => return some .notAnObject

end Dump

end CatchAudit
