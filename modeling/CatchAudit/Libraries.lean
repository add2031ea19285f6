/-
What the program is run with: its reader of TOML, its exclusion lines, its console, and its way to read arguments.
Each follows one release of the library that does it; what is proved of the program holds of others as well.
-/
import CatchAudit.CommandLine.Arguments
import CatchAudit.Exclusion.Line
import CatchAudit.Output.Markup
import CatchAudit.Output.Outline
import CatchAudit.Output.Table
import CatchAudit.Settings.Error
import CatchAudit.Toml.Reader

namespace CatchAudit

/-- A number with too many digits is a `fault` of its own. -/
def Toml.TomlFault.error (f : TomlFault) : TomlError :=
  match f.reason with
  | .longNumber digits => .fault (.longInteger digits)
  | _ => .malformed f.message

instance : TomlReader where
  read cs := (Toml.parse cs).mapError Toml.TomlFault.error

instance : LineReader where
  read line := (ExclusionLine.ofText line).map (Option.map ExclusionLine.rule)

instance : Console where
  plain := Markup.plain
  outlineText := Outline.text
  tableText := Table.text

instance : CommandLine.ArgumentReader where
  read := CommandLine.Arguments.scan

end CatchAudit
