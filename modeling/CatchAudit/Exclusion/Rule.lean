/-
Exclusion rules: what a line of exclusion patterns says. How lines are read is a parameter; of the rules that match
a path, the last one decides.
-/
import CatchAudit.Pattern.Error

namespace CatchAudit

/-- A rule excludes the paths that it matches, or takes them back in. -/
structure ExclusionRule where
  excludes : Bool
  accepts : String → Bool

/-- Why a line is no exclusion pattern: it is malformed, or the search pattern that it stands for is. -/
inductive LineError where
  | malformed
  | pattern (source : String) (e : PatternError)

/-- A reader of exclusion lines. Comments, and lines that say nothing, give no `ExclusionRule`. -/
class LineReader where
  read : String → Except LineError (Option ExclusionRule)

/-- What rules say of a path: the last one that `accepts` it decides. -/
def ExclusionRule.verdict (rules : List ExclusionRule) (path : String) : Bool :=
  rules.foldl (fun excluded r => if r.accepts path then r.excludes else excluded) false

end CatchAudit
