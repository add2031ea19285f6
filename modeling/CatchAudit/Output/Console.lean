/-
What is shown on a console: marked-up text, outlines and tables. The console is a parameter.
-/
import CatchAudit.Failure

namespace CatchAudit

/-- A label with further ones below it. -/
inductive Outline where
  | item (label : String) (children : List Outline)

structure Table where
  title : String
  heading : List String
  rows : List (List String)

/-- Why marked-up text cannot be shown: a tag makes no sense, in the words of the console, or the name of a style met
a fault that the console has no words for. -/
inductive MarkupError where
  | malformed (words : String)
  | fault (f : Fault)

def MarkupError.failure : MarkupError → Failure
  | .malformed words => .markup words
  | .fault f => .fault f

/-- A console: the text that it shows for marked-up text, and how it draws each `Outline` and table. -/
class Console where
  plain : String → Except MarkupError String
  outlineText : Outline → String
  tableText : Table → String

/-- The text that is `plain` for marked-up text, or the failure that it meets. -/
def Console.shown [Console] (s : String) : Except Failure String :=
  match plain s with
  | .ok shown => .ok shown
  | .error e => .error e.failure

end CatchAudit
