/-
The options of the rule: a pattern for the names of bindings that may stay unhandled.
-/
import CatchAudit.Failure
import CatchAudit.Pattern.Search
import CatchAudit.Sorting.Basic
import CatchAudit.Syntax.Place

namespace CatchAudit

structure RuleOptions where
  ignore : Option SearchPattern
  deriving Repr

namespace RuleOptions

/-- Nothing is ignored. -/
def default : RuleOptions := ⟨none⟩

/-- The option names that are known. -/
def optionNames : List String := ["ignorePattern"]

/-- A pattern as an option. Errors in it are errors of the settings, unless it is beyond what
patterns can express. -/
def ofPattern (source : String) : Except Failure RuleOptions :=
  match SearchPattern.parse source with
  | .ok p => .ok ⟨some p⟩
  | .error e => if e.isLimit then .error (.pattern source e) else .error (.settings (.badPattern source e))

/-- The fault of options that are not among the `optionNames`, by their keys: those that are texts are named in order.
-/
def unknownOptions (keys : List Document) : Failure :=
  match (Sorting.sort Document.less keys).bind (Document.textsFrom 0) with
  | .ok names => .settings (.unknownOptions names)
  | .error f => .fault f

/-- The options that keys with values give. -/
def ofEntries (entries : List (Document × Document)) : Except Failure RuleOptions :=
  match (entries.map (·.1)).filter fun key => !optionNames.any key.isText with
  | [] =>
    match entries with
    | [] | (_, .null) :: _ => .ok default
    | (_, .text source) :: _ => ofPattern source
    | (_, other) :: _ => .error (.settings (.patternNotText other.shape))
  | unknown => .error (unknownOptions unknown)

/-- The options that `ofEntries` gives from a document; one that is not truthy means the `default`. -/
def ofDocument (d : Document) : Except Failure RuleOptions :=
  if !d.truthy then .ok default
  else match d with
    | .object members => ofEntries (members.map fun (name, value) => (.text name, value))
    | d => .error (.settings (.optionsNotAnObject d.shape))

/-- The text of the pattern. -/
def source? (o : RuleOptions) : Option String := o.ignore.map (·.source)

/-- Whether a name may stay unhandled. A pattern can be looked for in texts only, and no group of a match
may end before it begins. -/
def isIgnored (o : RuleOptions) (name : Operand) : Except Fault Bool :=
  match o.ignore with
  | none => .ok false
  | some p =>
    match name with
    | .data (.text s) =>
      match p.find? s with
      | none => .ok false
      | some found => if found.isTwisted then .error .twistedGroup else .ok true
    | x => .error (.notText x.shape)

/-- The pattern between slashes; empty if there is none. -/
def describe (o : RuleOptions) : String :=
  match o.ignore with
  | none => ""
  | some p => "/" ++ p.source ++ "/u"

end RuleOptions

end CatchAudit
