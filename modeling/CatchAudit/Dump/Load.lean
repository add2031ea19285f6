/-
Loading a dump: a document, or a file that holds one, with a syntax tree and the scopes over it.
A dump that cannot be used is rejected with a reason that names its source; most faults met while
building it become such reasons too.
-/
import CatchAudit.Dump.Build
import CatchAudit.Files.FileTree
import CatchAudit.Json.Reader
import CatchAudit.Log
import CatchAudit.Syntax.Build
import CatchAudit.Text.Utf8

namespace CatchAudit

/-- A syntax tree with its scopes, of which number 0 is the outermost. -/
structure Dump where
  program : Node
  forest : Forest
  /-- Null when the source is not known. -/
  source : Document
  skipped : List Skip

inductive DumpReason where
  | unreadable (e : FileError)
  | notUtf8 (f : Text.Utf8Fault)
  | notJson (f : Json.JsonFault) (text : List Char)
  | notAnObject
  | missingPart
  | nodeWithoutKind
  | nodeWithoutSpan (kind : Document)
  | scopesNotAnObject
  | rootBlockNotInTree
  | malformed (f : Fault)

def DumpReason.message : DumpReason → String
  | .unreadable e => "cannot read file: " ++ e.message
  | .notUtf8 f => "not valid UTF-8: " ++ f.message
  | .notJson f text => "invalid JSON: " ++ f.message text
  | .notAnObject => "dump must be a JSON object"
  | .missingPart => "dump needs both 'ast' and 'scopes'"
  | .nodeWithoutKind => "syntax node without a 'type'"
  | .nodeWithoutSpan kind => kind.display ++ " node without a range"
  | .scopesNotAnObject => "'scopes' must be the root scope object"
  | .rootBlockNotInTree => "root scope block does not match the AST"
  | .malformed f => "malformed dump: " ++ f.display

/-- A rejected dump. -/
structure DumpError where
  source : Document
  reason : DumpReason

/-- The reason, after the source when there is one. -/
def DumpError.message (e : DumpError) : String :=
  if e.source.truthy then e.source.display ++ ": " ++ e.reason.message else e.reason.message

/-- Loading rejects a dump, or a fault leaves it. -/
inductive LoadError where
  | rejected (e : DumpError)
  | escaped (f : Fault)
  /-- No file can have such a path. -/
  | badPath (e : FileError)

namespace LoadError

def message : LoadError → String
  | .rejected e => e.message
  | .escaped f => f.message
  | .badPath e => e.message

end LoadError

namespace Dump

/-- Faults of these families mean that the dump is malformed. -/
def isMalformation : Family → Bool
  | .key | .type | .value | .attribute => true
  | .index | .overflow | .system => false

def ofFault (source : Document) (f : Fault) : LoadError :=
  if isMalformation f.family then .rejected ⟨source, .malformed f⟩ else .escaped f

def ofBuildError (source : Document) : BuildError → LoadError
  | .missingKind => .rejected ⟨source, .nodeWithoutKind⟩
  | .missingSpan kind => .rejected ⟨source, .nodeWithoutSpan kind⟩
  | .fault f => ofFault source f

/-- The scopes over a syntax tree, with the log of what was skipped. -/
def withScopes (program : Node) (scopes source : Document) : Except LoadError Dump × Log :=
  let (outcome, built) := (addRoot (Place.root program).walk scopes).run Building.start
  let origin := if source.truthy then source.display else "<dump>"
  let log := built.skipped.map fun s => ⟨.debug, origin ++ ": skipping " ++ s.message⟩
  let result := match outcome with
    | .ok none => .ok ⟨program, built.forest, source, built.skipped⟩
    | .ok (some .notAnObject) => .error (.rejected ⟨source, .scopesNotAnObject⟩)
    | .ok (some .blockNotInTree) => .error (.rejected ⟨source, .rootBlockNotInTree⟩)
    | .error f => .error (ofFault source f)
  (result, log)

/-- Loads a document. A truthy `source` member wins over the given source. -/
def ofDocument (d : Document) (source : Document) : Except LoadError Dump × Log :=
  match d with
  | .object members =>
    let source := match memberOf? "source" members with
      | some own => if own.truthy then own else source
      | none => source
    match memberOf? "ast" members, memberOf? "scopes" members with
    | some ast, some scopes =>
      match Node.ofDocument ast with
      | .error e => (.error (ofBuildError source e), [])
      | .ok program => withScopes program scopes source
    | _, _ => (.error (.rejected ⟨source, .missingPart⟩), [])
  | _ => (.error (.rejected ⟨source, .notAnObject⟩), [])

/-- The document in a file. Line ends are made plain before it is read. -/
def readDocument (t : FileTree) (p : Path) : Except LoadError Document :=
  let reject (reason : DumpReason) : LoadError := .rejected ⟨.text p.text, reason⟩
  match t.read p with
  | .error e => .error (if e.reason = .nullInPath then .badPath e else reject (.unreadable e))
  | .ok bytes => match Text.decodeUtf8 bytes with
    | .error f => .error (reject (.notUtf8 f))
    | .ok cs =>
      let text := Text.plainLineEnds cs
      match Json.parse text with
      | .error f =>
        match f.reason with
        | .longNumber digits => .error (.escaped (.longInteger digits))
        | _ => .error (reject (.notJson f text))
      | .ok d => .ok d

/-- Loads a file; its path is the source, and a warning counts what was skipped. -/
def load (t : FileTree) (p : Path) : Except LoadError Dump × Log :=
  match readDocument t p with
  | .error e => (.error e, [])
  | .ok d =>
    match ofDocument d (.text p.text) with
    | (.error e, log) => (.error e, log)
    | (.ok dump, log) =>
      if dump.skipped.isEmpty then (.ok dump, log)
      else
        (.ok dump, log ++ [⟨.warning, p.text ++ ": skipped " ++ toString dump.skipped.length ++
          " unresolvable entries"⟩])

end Dump

end CatchAudit
