/-
What can be wrong with the text of a pattern. Most problems have a position in the text, which the
wording gives, with line and column when the text has several lines.
-/
import CatchAudit.Text.Integer
import CatchAudit.Text.Quoted

namespace CatchAudit

inductive PatternProblem where
  | badEscapeAtEnd
  | badEscape (escape : String)
  | incompleteEscape (escape : String)
  | octalTooLarge (escape : String)
  | nameNotOpened
  | undefinedName (name : String)
  | missing (what : String)
  | unterminatedName (terminator : Char)
  | badGroupName (name : String)
  | unknownGroupName (name : String)
  | nameTaken (name : String) (number old : Nat)
  | badGroupNumber
  | invalidReference (number : Nat)
  | openGroup
  | groupInSameLook
  | unterminatedSet
  | badRange (first last : String)
  | backwardCounts
  | nothingToRepeat
  | multipleRepeat
  | unexpectedEnd
  | unknownExtension (text : String)
  | unterminatedComment
  | unterminatedGroup
  | unbalanced
  | manyBranches
  | lateFlags
  | localeFlag
  | alphabetFlags
  | unknownFlag
  | globalFlagOn
  | globalFlagOff
  | alphabetFlagOff
  | flagOnAndOff
  | variableLook
  | templateOperator (name : String)
  deriving DecidableEq, Repr

def PatternProblem.message : PatternProblem → String
  | .badEscapeAtEnd => "bad escape (end of pattern)"
  | .badEscape escape => "bad escape " ++ escape
  | .incompleteEscape escape => "incomplete escape " ++ escape
  | .octalTooLarge escape => "octal escape value " ++ escape ++ " outside of range 0-0o377"
  | .nameNotOpened => "missing \x7b"
  | .undefinedName name => "undefined character name " ++ Text.quoted name
  | .missing what => "missing " ++ what
  | .unterminatedName c => "missing " ++ String.singleton c ++ ", unterminated name"
  | .badGroupName name => "bad character in group name " ++ Text.quoted name
  | .unknownGroupName name => "unknown group name " ++ Text.quoted name
  | .nameTaken name number old =>
    "redefinition of group name " ++ Text.quoted name ++ " as group " ++ toString number ++
      "; was group " ++ toString old
  | .badGroupNumber => "bad group number"
  | .invalidReference n => "invalid group reference " ++ toString n
  | .openGroup => "cannot refer to an open group"
  | .groupInSameLook => "cannot refer to group defined in the same lookbehind subpattern"
  | .unterminatedSet => "unterminated character set"
  | .badRange first last => "bad character range " ++ first ++ "-" ++ last
  | .backwardCounts => "min repeat greater than max repeat"
  | .nothingToRepeat => "nothing to repeat"
  | .multipleRepeat => "multiple repeat"
  | .unexpectedEnd => "unexpected end of pattern"
  | .unknownExtension text => "unknown extension " ++ text
  | .unterminatedComment => "missing ), unterminated comment"
  | .unterminatedGroup => "missing ), unterminated subpattern"
  | .unbalanced => "unbalanced parenthesis"
  | .manyBranches => "conditional backref with more than two branches"
  | .lateFlags => "global flags not at the start of the expression"
  | .localeFlag => "bad inline flags: cannot use 'L' flag with a str pattern"
  | .alphabetFlags => "bad inline flags: flags 'a', 'u' and 'L' are incompatible"
  | .unknownFlag => "unknown flag"
  | .globalFlagOn => "bad inline flags: cannot turn on global flag"
  | .globalFlagOff => "bad inline flags: cannot turn off global flag"
  | .alphabetFlagOff => "bad inline flags: cannot turn off flags 'a', 'u' and 'L'"
  | .flagOnAndOff => "bad inline flags: flag turned on and off"
  | .variableLook => "look-behind requires fixed-width pattern"
  | .templateOperator name => "internal: unsupported template operator " ++ name

inductive PatternError where
  /-- A problem at a position of the text. -/
  | located (problem : PatternProblem) (position : Nat)
  /-- A problem of the pattern as a whole. -/
  | general (problem : PatternProblem)
  /-- A count that no repetition can have. -/
  | countTooLarge
  /-- A count with more digits than numbers in text may have. -/
  | countTooLong (digits : Nat)
  /-- A look that would go back too far. -/
  | farLook
  /-- Flags at the start that exclude each other. -/
  | flagsExclude
  deriving DecidableEq, Repr

/-- Whether an error says that a pattern is beyond what can be expressed, not that it is malformed. -/
def PatternError.isLimit : PatternError → Bool
  | .located .. | .general _ => false
  | .countTooLarge | .countTooLong _ | .farLook | .flagsExclude => true

/-- The wording of an error in the pattern `source`. -/
def PatternError.message (source : List Char) : PatternError → String
  | .located problem position =>
    let place := " at position " ++ toString position
    let before := source.take position
    let line := before.count '\n' + 1
    let column := (before.reverse.takeWhile (· ≠ '\n')).length + 1
    let detail :=
      if source.contains '\n' then
        " (line " ++ toString line ++ ", column " ++ toString column ++ ")"
      else ""
    problem.message ++ place ++ detail
  | .general problem => problem.message
  | .countTooLarge => "the repetition number is too large"
  | .countTooLong digits => Text.digitLimitMessage digits
  | .farLook => "invalid SRE code"
  | .flagsExclude => "ASCII and UNICODE flags are incompatible"

end CatchAudit
