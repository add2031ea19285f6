/-
Reading the text of a pattern. The text is taken token by token, where a backslash and the character
after it are one token; a lone backslash at the end is found as soon as it comes next.
-/
import CatchAudit.Pattern.Basic
import CatchAudit.Pattern.Error
import CatchAudit.Text.CharacterName
import CatchAudit.Text.Identifier

namespace CatchAudit

namespace Pattern

inductive Token where
  | plain (c : Char)
  | escaped (c : Char)
  deriving DecidableEq, Repr

namespace Token

def chars : Token → List Char
  | .plain c => [c]
  | .escaped c => ['\\', c]

def text (t : Token) : String := String.ofList t.chars

def length (t : Token) : Nat := t.chars.length

end Token

/-- What has been read of a pattern so far. -/
structure Reading where
  rest : List Char
  /-- The number of characters read. -/
  position : Nat
  /-- The groups opened so far with their widths; an open group has none yet. -/
  groups : List (Option Width)
  names : List (String × Nat)
  /-- The number of groups before the outermost look behind. -/
  behindFrom : Option Nat
  /-- Numbers in conditions, each with the position of its first use. -/
  conditions : List (Nat × Nat)
  /-- The flags for the whole pattern. -/
  flags : List Flag

abbrev Read := StateT Reading (Except PatternError)

/-! ## Tokens -/

/-- A problem found `back` characters before the current position. -/
def problem {α : Type} (p : PatternProblem) (back : Nat) : Read α := do
  throw (.located p ((← get).position - back))

/-- A problem found at a position. -/
def problemAt {α : Type} (p : PatternProblem) (position : Nat) : Read α :=
  throw (.located p position)

def peekIn : List Char → Option Token
  | [] => none
  | ['\\'] => none
  | '\\' :: c :: _ => some (.escaped c)
  | c :: _ => some (.plain c)

def peek : Read (Option Token) := do return peekIn (← get).rest

/-- A backslash must not stand alone at the end. -/
def checkEnd : Read Unit := do
  if (← get).rest = ['\\'] then problem .badEscapeAtEnd 0

/-- Takes the next token, none at the end. -/
def next : Read (Option Token) := do
  match ← peek with
  | none => return none
  | some t =>
    modify fun s => { s with rest := s.rest.drop t.length, position := s.position + t.length }
    checkEnd
    return some t

/-- Takes the next token if it is this character. -/
def accept (c : Char) : Read Bool := do
  if (← peek) = some (.plain c) then
    let _ ← next
    return true
  else return false

/-- Takes up to `n` characters of a kind. -/
def takeSome (isKind : Char → Bool) : (n : Nat) → Read (List Char)
  | 0 => return []
  | n + 1 => do
    match ← peek with
    | some (.plain c) =>
      if isKind c then
        let _ ← next
        return c :: (← takeSome isKind n)
      else return []
    | _ => return []

/-- Takes all characters of a kind. -/
def takeAll (isKind : Char → Bool) : Read (List Char) := do takeSome isKind (← get).rest.length

/-- Takes a name up to its terminator; `done` is reversed. -/
def nameFrom (terminator : Char) (what : String) : (fuel : Nat) → List Char → Read (List Char)
  | 0, done => return done.reverse
  | fuel + 1, done => do
    match ← next with
    | none =>
      if done.isEmpty then problem (.missing what) 0
      else problem (.unterminatedName terminator) done.length
    | some t =>
      if t = .plain terminator then
        if done.isEmpty then problem (.missing what) 1 else return done.reverse
      else nameFrom terminator what fuel (t.chars.reverse ++ done)

def name (terminator : Char) (what : String) : Read (List Char) := do
  nameFrom terminator what ((← get).rest.length + 1) []

/-! ## Groups -/

/-- Opens a group, perhaps under a name, and gives its number. -/
def openGroup (name : Option (List Char)) : Read Nat := do
  let s ← get
  let number := s.groups.length
  match name with
  | none => set { s with groups := s.groups ++ [none] }
  | some cs =>
    let name := String.ofList cs
    match s.names.find? fun entry => entry.1 == name with
    | some (_, old) => problem (.nameTaken name number old) (cs.length + 1)
    | none => set { s with groups := s.groups ++ [none], names := s.names ++ [(name, number)] }
  return number

def groupWidth (s : Reading) (number : Nat) : Width :=
  ((s.groups[number]?).bind id).getD .zero

def closeGroup (number : Nat) (body : Pattern) : Read Unit :=
  modify fun s => { s with groups := s.groups.set number (some (body.width (groupWidth s))) }

def isClosed (s : Reading) (number : Nat) : Bool := ((s.groups[number]?).bind id).isSome

/-- Inside a look behind, a group must have been closed before the look began. -/
def checkBehind (number : Nat) : Read Unit := do
  let s ← get
  match s.behindFrom with
  | none => return ()
  | some bound =>
    if !isClosed s number then problem .openGroup 0
    else if bound ≤ number then problem .groupInSameLook 0

def checkName (cs : List Char) : Read Unit :=
  if Text.isIdentifier cs then return ()
  else problem (.badGroupName (String.ofList cs)) (cs.length + 1)

/-- The number of the group with this name. -/
def namedGroup (cs : List Char) : Read Nat := do
  let name := String.ofList cs
  match (← get).names.find? fun entry => entry.1 == name with
  | some (_, number) => return number
  | none => problem (.unknownGroupName name) (cs.length + 1)

/-! ## Escapes -/

def isOctal (c : Char) : Bool := '0' ≤ c && c ≤ '7'

def hexDigit? (c : Char) : Option Nat :=
  if '0' ≤ c && c ≤ '9' then some (c.toNat - 48)
  else if 'a' ≤ c && c ≤ 'f' then some (c.toNat - 87)
  else if 'A' ≤ c && c ≤ 'F' then some (c.toNat - 55)
  else none

def valueIn (base : Nat) (cs : List Char) : Nat :=
  cs.foldl (fun n c => base * n + (hexDigit? c).getD 0) 0

/-- A code point in `n` hexadecimal digits. -/
def hexPoint (mark : Char) (n : Nat) : Read Nat := do
  let digits ← takeSome (fun c => (hexDigit? c).isSome) n
  let escape := '\\' :: mark :: digits
  if digits.length ≠ n then problem (.incompleteEscape (String.ofList escape)) escape.length
  else
    let value := valueIn 16 digits
    if 0x110000 ≤ value then problem (.badEscape (String.ofList escape)) escape.length
    else return value

/-- A character given by its name. -/
def namedPoint : Read Nat := do
  if ← accept '\x7b' then
    let cs ← name '\x7d' "character name"
    match Text.characterNamed? cs with
    | some n => return n
    | none => problem (.undefinedName (String.ofList cs)) (cs.length + 4)
  else problem .nameNotOpened 0

/-- The control characters that have a letter of their own. -/
def controlPoint? : Char → Option Nat
  | 'a' => some 7
  | 'b' => some 8
  | 'f' => some 12
  | 'n' => some 10
  | 'r' => some 13
  | 't' => some 9
  | 'v' => some 11
  | '\\' => some 92
  | _ => none

def category? : Char → Option Member
  | 'd' => some (.category false .digit)
  | 'D' => some (.category true .digit)
  | 's' => some (.category false .space)
  | 'S' => some (.category true .space)
  | 'w' => some (.category false .word)
  | 'W' => some (.category true .word)
  | _ => none

def anchor? : Char → Option Anchor
  | 'A' => some .textStart
  | 'b' => some .boundary
  | 'B' => some .insideOrOutside
  | 'Z' => some .textEnd
  | _ => none

/-- An escaped character that stands for itself: no letter. -/
def plainPoint (c : Char) : Read Nat :=
  if c.isAlpha then problem (.badEscape (String.ofList ['\\', c])) 2 else return c.toNat

/-- An octal code point, which must be below 256. -/
def octalPoint (digits : List Char) : Read Nat := do
  let value := valueIn 8 digits
  if 0xff < value then
    problem (.octalTooLarge (String.ofList ('\\' :: digits))) (digits.length + 1)
  else return value

/-- An escape inside a set. -/
def setEscape (c : Char) : Read Member := do
  match controlPoint? c, category? c with
  | some n, _ => return .point n
  | none, some m => return m
  | none, none =>
    if c = 'x' then return .point (← hexPoint c 2)
    else if c = 'u' then return .point (← hexPoint c 4)
    else if c = 'U' then return .point (← hexPoint c 8)
    else if c = 'N' then return .point (← namedPoint)
    else if isOctal c then
      let more ← takeSome isOctal 2
      return .point (← octalPoint (c :: more))
    else if c.isDigit then problem (.badEscape (String.ofList ['\\', c])) 2
    else return .point (← plainPoint c)

def literal (n : Nat) : Part := .point false n

/-- A reference to a group that has been closed. -/
def reference (digits : List Char) : Read Part := do
  let number := valueIn 10 digits
  let s ← get
  if number < s.groups.length then
    if isClosed s number then
      checkBehind number
      return .back number
    else problem .openGroup (digits.length + 1)
  else problem (.invalidReference number) digits.length

/-- A backslash and digits: three octal digits are a code point, otherwise one or two digits are the
number of a group. -/
def numberEscape (c : Char) : Read Part := do
  match ← takeSome Char.isDigit 1 with
  | [d] =>
    if isOctal c && isOctal d then
      match ← takeSome isOctal 1 with
      | [e] => return literal (← octalPoint [c, d, e])
      | _ => reference [c, d]
    else reference [c, d]
  | _ => reference [c]

/-- An escape outside sets. -/
def escape (c : Char) : Read Part := do
  match anchor? c, category? c, controlPoint? c with
  | some a, _, _ => return .anchor a
  | none, some m, _ => return .set false [m]
  | none, none, some n => return literal n
  | none, none, none =>
    if c = 'x' then return literal (← hexPoint c 2)
    else if c = 'u' then return literal (← hexPoint c 4)
    else if c = 'U' then return literal (← hexPoint c 8)
    else if c = 'N' then return literal (← namedPoint)
    else if c = '0' then return literal (valueIn 8 (← takeSome isOctal 2))
    else if c.isDigit then numberEscape c
    else return literal (← plainPoint c)

/-! ## Sets -/

def memberOfToken : Token → Read Member
  | .plain c => return .point c.toNat
  | .escaped c => setEscape c

/-- The rest of a set that opened at `start`; `done` is reversed. -/
def setFrom (start : Nat) : (fuel : Nat) → List Member → Read (List Member)
  | 0, _ => problemAt .unterminatedSet start
  | fuel + 1, done => do
    match ← next with
    | none => problemAt .unterminatedSet start
    | some this =>
      if this = .plain ']' && !done.isEmpty then return done.reverse
      else
        let first ← memberOfToken this
        if ← accept '-' then
          match ← next with
          | none => problemAt .unterminatedSet start
          | some (.plain ']') => return (Member.point '-'.toNat :: first :: done).reverse
          | some that =>
            let last ← memberOfToken that
            let bad : Read (List Member) :=
              problem (.badRange this.text that.text) (this.length + 1 + that.length)
            match first, last with
            | .point a, .point b =>
              if b < a then bad else setFrom start fuel (.range a b :: done)
            | _, _ => bad
        else setFrom start fuel (first :: done)

/-- A set, after its opening bracket. A set of one character is that character. -/
def charSet : Read Part := do
  let start := (← get).position - 1
  let negated ← accept '^'
  let members ← setFrom start ((← get).rest.length + 1) []
  match members.eraseDups with
  | [.point n] => return .point negated n
  | members => return .set negated members

/-! ## Repetitions -/

/-- Counts below this one can be given. -/
def maxCount : Nat := Width.limit

/-- The count that digits spell. -/
def countOf (digits : List Char) : Read Nat := do
  if Text.maxDigits < digits.length then throw (.countTooLong digits.length)
  let count := valueIn 10 digits
  if maxCount ≤ count then throw .countTooLarge
  return count

/-- The counts in braces, after the opening one; none if the braces are no counts. -/
def counts? : Read (Option (Nat × Option Nat)) := do
  let before ← get
  if (← peek) = some (.plain '\x7d') then return none
  let low ← takeAll Char.isDigit
  let high ← if ← accept ',' then takeAll Char.isDigit else pure low
  if !(← accept '\x7d') then
    set before
    return none
  let least ← countOf low
  if high.isEmpty then return some (least, none)
  let most ← countOf high
  if most < least then problemAt .backwardCounts before.position
  return some (least, some most)

/-- The sign after a repetition that says how it takes its turns. -/
def greedSign : Read Greed := do
  if ← accept '?' then return .lazy
  else if ← accept '+' then return .possessive
  else return .greedy

/-- Repeats the last of the items, which are reversed; the sign stood at `start`. -/
def repeatLast (start : Nat) (least : Nat) (most : Option Nat) (items : List Part) :
    Read (List Part) := do
  match items with
  | [] => problemAt .nothingToRepeat start
  | .anchor _ :: _ => problemAt .nothingToRepeat start
  | .repeated .. :: _ => problemAt .multipleRepeat start
  | item :: rest =>
    let greed ← greedSign
    return .repeated greed least most (unwrap item) :: rest

/-! ## Flags -/

/-- The flags that are switched on, from the letter `c` on, and the token after them. -/
def flagsOn : (fuel : Nat) → List Flag → Char → Read (List Flag × Char)
  | 0, on, c => return (on, c)
  | fuel + 1, on, c => do
    match Flag.ofChar? c with
    | none => return (on, c)
    | some .localeAware => problem .localeFlag 0
    | some flag =>
      let on := on ++ [flag]
      if flag.isAlphabet && on.any (fun f => f.isAlphabet && f != flag) then
        problem .alphabetFlags 0
      match ← next with
      | none => problem (.missing "-, : or )") 0
      | some t =>
        match t with
        | .plain d =>
          if d = ')' || d = '-' || d = ':' then return (on, d)
          else if (Flag.ofChar? d).isSome then flagsOn fuel on d
          else problem (if Text.isLetter d then .unknownFlag else .missing "-, : or )") 1
        | .escaped _ => problem (.missing "-, : or )") 2

/-- The flags that are switched off, from the letter `c` on, up to the colon. -/
def flagsOff : (fuel : Nat) → List Flag → Char → Read (List Flag)
  | 0, off, _ => return off
  | fuel + 1, off, c => do
    match Flag.ofChar? c with
    | none => return off
    | some flag =>
      if flag.isAlphabet then problem .alphabetFlagOff 0
      let off := off ++ [flag]
      match ← next with
      | none => problem (.missing ":") 0
      | some (.plain ':') => return off
      | some (.plain d) =>
        if (Flag.ofChar? d).isSome then flagsOff fuel off d
        else problem (if Text.isLetter d then .unknownFlag else .missing ":") 1
      | some (.escaped _) => problem (.missing ":") 2

/-- What flags after a question mark do: they hold for the whole pattern, or for a group. -/
inductive FlagUse where
  | whole
  | scoped (on off : List Flag)

/-- Reads flags whose first token is `c`. -/
def flagUse (c : Char) : Read FlagUse := do
  let fuel := (← get).rest.length + 1
  let (on, c) ← flagsOn fuel [] c
  if c = ')' then
    modify fun s => { s with flags := s.flags ++ on }
    return .whole
  if on.contains .template then problem .globalFlagOn 1
  let off ←
    if c = '-' then
      match ← next with
      | none => problem (.missing "flag") 0
      | some (.plain d) =>
        if (Flag.ofChar? d).isSome then flagsOff fuel [] d
        else problem (if Text.isLetter d then .unknownFlag else .missing "flag") 1
      | some (.escaped _) => problem (.missing "flag") 2
    else pure []
  if off.contains .template then problem .globalFlagOff 1
  if on.any off.contains then problem .flagOnAndOff 1
  return .scoped on off

/-! ## Comments and blanks -/

/-- Skips a comment that opened at `start`. -/
def skipComment (start : Nat) : (fuel : Nat) → Read Unit
  | 0 => problemAt .unterminatedComment start
  | fuel + 1 => do
    match ← next with
    | none => problemAt .unterminatedComment start
    | some t => if t = .plain ')' then return () else skipComment start fuel

/-- Skips the rest of a line. -/
def skipLine : (fuel : Nat) → Read Unit
  | 0 => return ()
  | fuel + 1 => do
    match ← next with
    | none => return ()
    | some t => if t = .plain '\n' then return () else skipLine fuel

/-! ## The grammar -/

/-- What stands between a bracket and the body of a group. -/
inductive Opening where
  | capture (name : Option (List Char))
  | scoped (on off : List Flag)
  | atomic
  | look (before negated : Bool)
  | back (number : Nat)
  | conditional (number : Nat)
  | comment
  | whole

/-- The group that a condition asks for. -/
def condition : Read Nat := do
  let cs ← name ')' "group name"
  if Text.isIdentifier cs then
    namedGroup cs
  else
    let back := cs.length + 1
    match Text.integer cs with
    | .ok (.ofNat n) =>
      if n = 0 then problem .badGroupNumber back
      if 1073741823 ≤ n then problem (.invalidReference n) back
      let s ← get
      unless s.conditions.any fun entry => entry.1 == n do
        set { s with conditions := s.conditions ++ [(n, s.position - back)] }
      return n
    | _ => problem (.badGroupName (String.ofList cs)) back

/-- What follows `(?P`. -/
def extension : Read Opening := do
  if ← accept '<' then
    let cs ← name '>' "group name"
    checkName cs
    return .capture (some cs)
  else if ← accept '=' then
    let cs ← name ')' "group name"
    checkName cs
    let number ← namedGroup cs
    if !isClosed (← get) number then problem .openGroup (cs.length + 1)
    checkBehind number
    return .back number
  else
    match ← next with
    | none => problem .unexpectedEnd 0
    | some t => problem (.unknownExtension ("?P" ++ t.text)) (t.length + 2)

/-- What follows a bracket that opened at `start`. -/
def opening (start : Nat) : Read Opening := do
  if !(← accept '?') then return .capture none
  match ← next with
  | none => problem .unexpectedEnd 0
  | some (.plain 'P') => extension
  | some (.plain ':') => return .scoped [] []
  | some (.plain '#') =>
    skipComment start ((← get).rest.length + 1)
    return .comment
  | some (.plain '=') => return .look false false
  | some (.plain '!') => return .look false true
  | some (.plain '<') =>
    match ← next with
    | none => problem .unexpectedEnd 0
    | some (.plain '=') => return .look true false
    | some (.plain '!') => return .look true true
    | some t => problem (.unknownExtension ("?<" ++ t.text)) (t.length + 2)
  | some (.plain '(') => do
    let number ← condition
    checkBehind number
    return .conditional number
  | some (.plain '>') => return .atomic
  | some t =>
    match t with
    | .plain c =>
      if (Flag.ofChar? c).isSome || c = '-' then
        match ← flagUse c with
        | .whole => return .whole
        | .scoped on off => return .scoped on off
      else problem (.unknownExtension ("?" ++ t.text)) (t.length + 1)
    | .escaped _ => problem (.unknownExtension ("?" ++ t.text)) (t.length + 1)

/-- A group that opened at `start` must be closed here. -/
def close (start : Nat) : Read Unit := do
  if !(← accept ')') then problemAt .unterminatedGroup start

def isVerboseBlank (c : Char) : Bool := Text.isPlainBlank c

/-- Whether the pattern as a whole is verbose. -/
def isVerbose : Read Bool := do return (← get).flags.contains .verbose

mutual
/-- Alternatives up to a closing bracket or the end. -/
def alternatives : (fuel : Nat) → (verbose outermost : Bool) → Read Pattern
  | 0, _, _ => return []
  | fuel + 1, verbose, outermost => do
    let first ← items fuel verbose outermost []
    let rest ← moreAlternatives fuel verbose outermost
    return choiceOf first rest

def moreAlternatives : (fuel : Nat) → (verbose outermost : Bool) → Read (List Pattern)
  | 0, _, _ => return []
  | fuel + 1, verbose, outermost => do
    if ← accept '|' then
      let verbose ← if outermost then isVerbose else pure verbose
      let p ← items fuel verbose false []
      return p :: (← moreAlternatives fuel verbose outermost)
    else return []

/-- A sequence; `first` tells whether flags for the whole pattern may come, and `done` are the items
so far, reversed. -/
def items : (fuel : Nat) → (verbose first : Bool) → List Part → Read Pattern
  | 0, _, _, done => return done.reverse.flatMap unwrap
  | fuel + 1, verbose, first, done => do
    match ← peek with
    | none => return done.reverse.flatMap unwrap
    | some (.plain '|') => return done.reverse.flatMap unwrap
    | some (.plain ')') => return done.reverse.flatMap unwrap
    | some (.escaped c) =>
      let _ ← next
      let item ← escape c
      items fuel verbose first (item :: done)
    | some (.plain c) =>
      let start := (← get).position
      let _ ← next
      if verbose && isVerboseBlank c then items fuel verbose first done
      else if verbose && c = '#' then
        skipLine ((← get).rest.length + 1)
        items fuel verbose first done
      else if c = '[' then
        let item ← charSet
        items fuel verbose first (item :: done)
      else if c = '*' then items fuel verbose first (← repeatLast start 0 none done)
      else if c = '+' then items fuel verbose first (← repeatLast start 1 none done)
      else if c = '?' then items fuel verbose first (← repeatLast start 0 (some 1) done)
      else if c = '\x7b' then
        match ← counts? with
        | none => items fuel verbose first (literal c.toNat :: done)
        | some (least, most) => items fuel verbose first (← repeatLast start least most done)
      else if c = '.' then items fuel verbose first (.any :: done)
      else if c = '^' then items fuel verbose first (.anchor .lineStart :: done)
      else if c = '$' then items fuel verbose first (.anchor .lineEnd :: done)
      else if c = '(' then
        match ← opening start with
        | .comment => items fuel verbose first done
        | .whole =>
          if !first || !done.isEmpty then problemAt .lateFlags start
          items fuel (← isVerbose) first done
        | .back number => items fuel verbose first (.back number :: done)
        | .capture name =>
          let number ← openGroup name
          let body ← alternatives fuel verbose false
          close start
          closeGroup number body
          items fuel verbose first (.group number body :: done)
        | .scoped on off =>
          let inner := (verbose || on.contains .verbose) && !off.contains .verbose
          let body ← alternatives fuel inner false
          close start
          items fuel verbose first (.scoped on off body :: done)
        | .atomic =>
          let body ← alternatives fuel verbose false
          close start
          items fuel verbose first (.atomic body :: done)
        | .look before negated =>
          let outer := (← get).behindFrom
          if before && outer.isNone then
            modify fun s => { s with behindFrom := some s.groups.length }
          let body ← alternatives fuel verbose false
          if before then modify fun s => { s with behindFrom := outer }
          close start
          let w := body.width (groupWidth (← get))
          let item := if before then .behind negated w body else .ahead negated body
          items fuel verbose first (item :: done)
        | .conditional number =>
          let yes ← items fuel verbose false []
          let no ←
            if ← accept '|' then
              let no ← items fuel verbose false []
              if (← peek) = some (.plain '|') then problem .manyBranches 0
              pure no
            else pure []
          close start
          items fuel verbose first (.conditional number yes no :: done)
      else items fuel verbose first (literal c.toNat :: done)
end

/-- Reads a whole pattern. -/
def whole (fuel : Nat) : Read Pattern := do
  checkEnd
  let p ← alternatives fuel false true
  let s ← get
  if s.flags.contains .ascii && s.flags.contains .unicode then throw .flagsExclude
  if (← peek).isSome then problem .unbalanced 0
  match s.conditions.find? fun entry => s.groups.length ≤ entry.1 with
  | some (number, position) => problemAt (.invalidReference number) position
  | none => return p

mutual
/-- Looks behind need a fixed width, and template patterns have no repetitions. -/
def checkPart (template : Bool) : Part → Except PatternError Unit
  | .point .. | .any | .set .. | .anchor _ | .back _ => .ok ()
  | .choice alternatives => checkEach template alternatives
  | .group _ body | .scoped _ _ body | .atomic body | .ahead _ body => check template body
  | .repeated greed _ _ body => do
    if template then
      let name := match greed with
        | .greedy => "MAX_REPEAT"
        | .lazy => "MIN_REPEAT"
        | .possessive => "POSSESSIVE_REPEAT"
      throw (.general (.templateOperator name))
    check template body
  | .behind _ width body => do
    if width.least ≠ width.most then throw (.general .variableLook)
    check template body
  | .conditional _ yes no => do
    check template yes
    check template no

def check (template : Bool) : List Part → Except PatternError Unit
  | [] => .ok ()
  | p :: rest => do
    checkPart template p
    check template rest

def checkEach (template : Bool) : List (List Part) → Except PatternError Unit
  | [] => .ok ()
  | p :: rest => do
    check template p
    checkEach template rest
end

/-- A look goes back less far than this. -/
def maxLook : Nat := 2147483648

mutual
/-- Whether a part, or one inside it, looks back too far. -/
def partLooksFar : Part → Bool
  | .point .. | .any | .set .. | .anchor _ | .back _ => false
  | .choice alternatives => anyLooksFar alternatives
  | .group _ body | .scoped _ _ body | .atomic body | .ahead _ body | .repeated _ _ _ body =>
    looksFar body
  | .behind _ width body => maxLook ≤ width.least || looksFar body
  | .conditional _ yes no => looksFar yes || looksFar no

def looksFar : List Part → Bool
  | [] => false
  | p :: rest => partLooksFar p || looksFar rest

def anyLooksFar : List (List Part) → Bool
  | [] => false
  | p :: rest => looksFar p || anyLooksFar rest
end

/-- The pattern that a text denotes, with the flags for the whole of it and its least width. Each step
of the grammar takes a character, and three steps at most lie between two characters. -/
def parse (source : List Char) : Except PatternError (List Flag × Pattern × Nat) := do
  let start : Reading := ⟨source, 0, [none], [], none, [], []⟩
  let (p, s) ← (whole (3 * source.length + 3)).run start
  check (s.flags.contains .template) p
  if looksFar p then throw .farLook
  return (s.flags, p, (p.width (groupWidth s)).least)

end Pattern

end CatchAudit
