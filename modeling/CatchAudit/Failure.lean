/-
Everything that can end an operation without a result, each with its wording.
-/
import CatchAudit.Dump.Load
import CatchAudit.Files.Glob
import CatchAudit.Settings.Error

namespace CatchAudit

inductive Failure where
  | fault (f : Fault)
  | settings (e : SettingsError)
  /-- A pattern that is beyond what patterns can express. -/
  | pattern (source : String) (e : PatternError)
  | notUtf8 (f : Text.Utf8Fault)
  | file (e : FileError)
  | glob (e : Glob.GlobError)
  /-- A glob that is no text. -/
  | globShape (value : Document)
  | load (e : LoadError)
  /-- A line that is no exclusion pattern. -/
  | exclusion (line : String)
  /-- An exclusion pattern that is no text. -/
  | exclusionShape (value : Document)
  /-- A marked-up text with a tag that makes no sense. -/
  | markup (words : String)

namespace Failure

/-- What is said of a glob that is no text. -/
def globShapeMessage (d : Document) : String :=
  if !d.truthy then "Unacceptable pattern: " ++ d.quoted
  else match d with
    | .object _ => "0"
    | .list _ => "intern() argument must be str, not list"
    | d => "'" ++ d.shape.name ++ "' object is not subscriptable"

def message : Failure → String
  | .fault f => f.message
  | .settings e => e.message
  | .pattern source e => e.message source.toList
  | .notUtf8 f => f.message
  | .file e => e.message
  | .glob e => e.message
  | .globShape d => globShapeMessage d
  | .load e => e.message
  | .exclusion line => "Invalid git pattern: " ++ Text.quoted line
  | .exclusionShape d => "pattern:" ++ d.quoted ++ " is not a string, re.Pattern, or None."
  | .markup words => words

end Failure

end CatchAudit
