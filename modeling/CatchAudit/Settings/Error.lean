/-
What is rejected in a configuration. The reader of TOML is a parameter.
-/
import CatchAudit.Files.FileTree
import CatchAudit.Json.Reader
import CatchAudit.Pattern.Error
import CatchAudit.Fault

namespace CatchAudit

/-- Why a text has no TOML document: it is malformed, in the words of the reader, or reading it met a `Fault` that the
reader has no words for. -/
inductive TomlError where
  | malformed (words : String)
  | fault (f : Fault)

/-- A reader of TOML. It gives the members of the table that a text denotes. -/
class TomlReader where
  read : List Char → Except TomlError (List (String × Document))

inductive SettingsError where
  | optionsNotAnObject (shape : Shape)
  | unknownOptions (names : List String)
  | patternNotText (shape : Shape)
  | badPattern (source : String) (e : PatternError)
  | badSeverity (value : Document)
  | unreadable (path : String) (e : FileError)
  | notJson (path : String) (f : Json.JsonFault) (text : List Char)
  | notToml (path words : String)
  | fileNotAnObject (path : String)

def SettingsError.message : SettingsError → String
  | .optionsNotAnObject shape => "Rule options must be an object, got " ++ shape.shortName
  | .unknownOptions names => "Unexpected rule option(s): " ++ ", ".intercalate names
  | .patternNotText shape => "ignorePattern must be a string, got " ++ shape.shortName
  | .badPattern source e =>
    "Invalid ignorePattern " ++ Text.quoted source ++ ": " ++ e.message source.toList
  | .badSeverity value => "Invalid severity " ++ value.quoted
  | .unreadable path e => "Cannot read config file " ++ path ++ ": " ++ e.message
  | .notJson path f text => "Cannot parse config file " ++ path ++ ": " ++ f.message text
  | .notToml path words => "Cannot parse config file " ++ path ++ ": " ++ words
  | .fileNotAnObject path => "Config file " ++ path ++ " must contain an object"

end CatchAudit
