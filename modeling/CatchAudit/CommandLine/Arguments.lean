/-
Arguments of a command line. How they are read is a parameter, for which `Arguments.scan` is made: options
by their long names, options by letters that may stand together behind one dash, values beside or behind
their option, and all the rest. Two dashes alone end the options.
-/

namespace CatchAudit.CommandLine

/-- An option: its long name with both dashes, its letter, and whether a value belongs to it. -/
structure Flag where
  name : String
  letter : Option Char
  takesValue : Bool
  deriving DecidableEq, Repr

/-- Why arguments make no sense. -/
inductive UsageError where
  | unknownOption (arg : String)
  | missingValue (flag : Flag)
  | unwantedValue (flag : Flag)
  | unknownFormat (value : String)
  /-- A null character stands in a path. -/
  | nullInPath (path : String)
  | missingPaths
  | unexpectedArgument (arg : String)
  | missingCommand
  | unknownCommand (name : String)
  deriving DecidableEq, Repr

def UsageError.message : UsageError → String
  | .unknownOption arg => "No such option: " ++ arg
  | .missingValue flag => "Option " ++ flag.name ++ " requires an argument"
  | .unwantedValue flag => "Option " ++ flag.name ++ " does not take a value"
  | .unknownFormat value => "No such format: " ++ value
  | .nullInPath _ => "Null character in a path"
  | .missingPaths => "Missing paths"
  | .unexpectedArgument arg => "Unexpected argument: " ++ arg
  | .missingCommand => "Missing command"
  | .unknownCommand name => "No such command: " ++ name

/-- An option as it was given. -/
structure Given where
  flag : Flag
  value : Option String
  deriving DecidableEq, Repr

/-- The options that were `Given` and the other arguments, each in order. -/
structure Arguments where
  given : List Given
  others : List String
  deriving DecidableEq, Repr

/-- A reader of arguments, for the options that there are. With `mixed`, options may follow other arguments;
without, the first other argument ends the options. -/
class ArgumentReader where
  read : (flags : List Flag) → (mixed : Bool) → List String → Except UsageError Arguments

namespace Arguments

/-- Whether an argument is read as options. -/
def isOption (arg : String) : Bool :=
  match arg.toList with
  | '-' :: _ :: _ => true
  | _ => false

/-- What an argument tells: options that are complete, and a `Flag` whose value is the next argument. -/
structure Reading where
  complete : List Given
  waiting : Option Flag

/-- Reads letters behind one dash. The first option that takes a value takes all that follows it. -/
def readLetters (flags : List Flag) : List Char → Except UsageError Reading
  | [] => .ok ⟨[], none⟩
  | c :: rest =>
    match flags.find? fun f => f.letter == some c with
    | none => .error (.unknownOption (String.ofList ['-', c]))
    | some flag =>
      if flag.takesValue then
        if rest.isEmpty then .ok ⟨[], some flag⟩
        else .ok ⟨[⟨flag, some (String.ofList rest)⟩], none⟩
      else do
        let reading ← readLetters flags rest
        return { reading with complete := ⟨flag, none⟩ :: reading.complete }

/-- Reads an option by its long name, with a value after the first equals sign. -/
def readName (flags : List Flag) (cs : List Char) : Except UsageError Reading :=
  let name := String.ofList (cs.takeWhile (· ≠ '='))
  let value := (cs.dropWhile (· ≠ '=')).tail
  let hasValue := cs.contains '='
  match flags.find? fun f => f.name == name with
  | none => .error (.unknownOption name)
  | some flag =>
    if hasValue then
      if flag.takesValue then .ok ⟨[⟨flag, some (String.ofList value)⟩], none⟩
      else .error (.unwantedValue flag)
    else if flag.takesValue then .ok ⟨[], some flag⟩
    else .ok ⟨[⟨flag, none⟩], none⟩

def readOption (flags : List Flag) (arg : String) : Except UsageError Reading :=
  match arg.toList with
  | '-' :: '-' :: rest => readName flags ('-' :: '-' :: rest)
  | cs => readLetters flags cs.tail

/-- Reads arguments: each one that `isOption`, and the value that it may wait for. -/
def scan (flags : List Flag) (mixed : Bool) : List String → Except UsageError Arguments
  | [] => .ok ⟨[], []⟩
  | arg :: rest =>
    if arg = "--" then .ok ⟨[], rest⟩
    else if isOption arg then do
      let reading ← readOption flags arg
      match reading.waiting, rest with
      | none, rest =>
        let later ← scan flags mixed rest
        return { later with given := reading.complete ++ later.given }
      | some flag, [] => .error (.missingValue flag)
      | some flag, value :: rest =>
        let later ← scan flags mixed rest
        return { later with given := reading.complete ++ ⟨flag, some value⟩ :: later.given }
    else if mixed then do
      let later ← scan flags mixed rest
      return { later with others := arg :: later.others }
    else .ok ⟨[], arg :: rest⟩

/-- Whether an option was given. -/
def has (a : Arguments) (flag : Flag) : Bool := a.given.any fun g => g.flag == flag

/-- The value of an option; of several that were `Given` the last one. -/
def value? (a : Arguments) (flag : Flag) : Option String :=
  (a.given.reverse.find? fun g => g.flag == flag).bind (·.value)

/-- The options that were `Given`, each once, where it came first, with its last value. -/
def settled (a : Arguments) : List Given :=
  ((a.given.map (·.flag)).eraseDups).map fun flag => ⟨flag, a.value? flag⟩

end Arguments

end CatchAudit.CommandLine
