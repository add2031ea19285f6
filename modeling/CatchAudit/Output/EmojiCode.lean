/-
Emoji codes: a name between colons, as in `:name:`, is shown as the emoji of that name. The name is
looked up without regard to case, and `-text` or `-emoji` at its end asks for a way to show it. A code
that no emoji answers to stays as it is.
-/
import CatchAudit.Text.Blank
import CatchAudit.Text.Casing
import CatchAudit.Text.EmojiName

namespace CatchAudit.EmojiCode

/-- The ends of names that say how an emoji is shown, and the characters that stand for them. -/
def variants : List (String × String) := [("-emoji", "\uFE0F"), ("-text", "\uFE0E")]

/-- The emoji that a code, without its colons, stands for, in one of the `variants` if its name ends so. -/
def meaning? (code : String) : Option String :=
  let named := fun (name : String) => Text.emojiNamed? (Text.lower name)
  match variants.findSome? fun (ending, mark) => (Text.EmojiName.before? ending code).map (·, mark) with
  | some (name, mark) => (named name).map (· ++ mark)
  | none => named code

/-- What stands before the next colon, if no blank does. -/
def codeAt? (cs : List Char) : Option (List Char) :=
  let code := cs.takeWhile fun c => c ≠ ':' && !Text.isBlank c
  match cs.drop code.length with
  | ':' :: _ => some code
  | _ => none

/-- The text that is shown, after `skip` characters that have been dealt with. -/
def shownFrom : (skip : Nat) → List Char → List Char
  | _, [] => []
  | skip + 1, _ :: rest => shownFrom skip rest
  | 0, c :: rest =>
    match c, codeAt? rest with
    | ':', some code =>
      let shown := match meaning? (String.ofList code) with
        | some emoji => emoji.toList
        | none => ':' :: code ++ [':']
      shown ++ shownFrom (code.length + 1) rest
    | _, _ => c :: shownFrom 0 rest

/-- The text that is shown for a text with emoji codes, by `shownFrom` its start. -/
def shown (cs : List Char) : List Char := shownFrom 0 cs

end CatchAudit.EmojiCode
