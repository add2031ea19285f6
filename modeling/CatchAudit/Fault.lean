/-
Faults: what goes wrong when a document or a syntax node has not the shape that a reader relies on.
Each fault belongs to a family and has one wording.
-/
import CatchAudit.Document.Display
import CatchAudit.Text.Integer

namespace CatchAudit

inductive Fault where
  /-- An object lacks a member that is read without a default. -/
  | absentMember (name : String)
  /-- An object is indexed by a number. -/
  | absentIndex (index : Int)
  /-- A value of this shape has no such operation. -/
  | noOperation (shape : Shape) (name : String)
  /-- A node of this kind has no such field. -/
  | noField (kind : Document) (name : String)
  /-- A name that no node answers to. -/
  | reservedName (name : String)
  | notIterable (shape : Shape)
  | notUnpackable (shape : Shape)
  | tooFewValues (got : Nat)
  | tooManyValues
  | notSubscriptable (shape : Shape)
  /-- A text is indexed by a name. -/
  | textByName
  /-- A list is indexed by a name. -/
  | listByName
  | listIndexOutOfRange
  | textIndexOutOfRange
  /-- A value of this shape cannot be part of a key. -/
  | unhashable (shape : Shape)
  /-- No whole number can be made of a value of this shape. -/
  | notNumeric (shape : Shape)
  | badInteger (text : String)
  /-- A text with more digits than whole numbers may have. -/
  | longInteger (digits : Nat)
  /-- A number with more digits than can be written. -/
  | longNumber
  | nanToInteger
  | infinityToInteger
  | notText (shape : Shape)
  /-- A group of a match ends before it begins. -/
  | twistedGroup
  | notOrdered (left right : Shape)
  /-- A date is compared with a date that has a time. -/
  | mixedMoments
  /-- Of two moments that are compared one has an offset. -/
  | mixedOffsets
  /-- A number is added to a value of this shape. -/
  | notAddable (shape : Shape)
  /-- Something other than text is put into a line of output. -/
  | notPrintable
  /-- The value is none of the choices of the named type. -/
  | notAChoice (value : Document) (type : String)
  | unknownRule (name : String)
  /-- The entry at this index, one of a list of names with values, is no pair at all. -/
  | entryShape (index : Nat)
  /-- The entry at this index has another number of items than two. -/
  | entryLength (index length : Nat)
  /-- The item at this index, one of those to be joined, is no text. -/
  | itemNotText (index : Nat) (shape : Shape)
  deriving Repr

/-- The families of faults. -/
inductive Family where
  | key | attribute | type | value | index | overflow | system
  deriving DecidableEq, Repr

def Family.name : Family → String
  | .key => "KeyError"
  | .attribute => "AttributeError"
  | .type => "TypeError"
  | .value => "ValueError"
  | .index => "IndexError"
  | .overflow => "OverflowError"
  | .system => "SystemError"

namespace Fault

def family : Fault → Family
  | .absentMember _ | .absentIndex _ | .unknownRule _ => .key
  | .noOperation .. | .noField .. | .reservedName _ => .attribute
  | .notIterable _ | .notUnpackable _ | .notSubscriptable _ | .textByName | .listByName
  | .unhashable _ | .notNumeric _ | .notText _ | .notOrdered .. | .notAddable _ | .notPrintable
  | .entryShape _ | .itemNotText .. | .mixedMoments | .mixedOffsets => .type
  | .tooFewValues _ | .tooManyValues | .badInteger _ | .longInteger _ | .longNumber | .nanToInteger
  | .notAChoice .. | .entryLength .. => .value
  | .listIndexOutOfRange | .textIndexOutOfRange => .index
  | .infinityToInteger => .overflow
  | .twistedGroup => .system

/-- The wording of a fault, by which `display` quotes it. -/
def message : Fault → String
  | .absentMember name => Text.quoted name
  | .absentIndex index => toString index
  | .noOperation shape name => "'" ++ shape.name ++ "' object has no attribute " ++ Text.quoted name
  | .noField kind name => kind.display ++ " node has no field " ++ Text.quoted name
  | .reservedName name => name
  | .notIterable shape => "'" ++ shape.name ++ "' object is not iterable"
  | .notUnpackable shape => "cannot unpack non-iterable " ++ shape.name ++ " object"
  | .tooFewValues got => "not enough values to unpack (expected 2, got " ++ toString got ++ ")"
  | .tooManyValues => "too many values to unpack (expected 2)"
  | .notSubscriptable shape => "'" ++ shape.name ++ "' object is not subscriptable"
  | .textByName => "string indices must be integers, not 'str'"
  | .listByName => "list indices must be integers or slices, not str"
  | .listIndexOutOfRange => "list index out of range"
  | .textIndexOutOfRange => "string index out of range"
  | .unhashable shape => "unhashable type: '" ++ shape.name ++ "'"
  | .notNumeric shape =>
    "int() argument must be a string, a bytes-like object or a real number, not '" ++ shape.name ++ "'"
  | .badInteger text =>
    "invalid literal for int() with base 10: " ++ String.ofList ((Text.quoted text).toList.take 200)
  | .longInteger digits => Text.digitLimitMessage digits
  | .longNumber => Text.longNumberMessage
  | .nanToInteger => "cannot convert float NaN to integer"
  | .infinityToInteger => "cannot convert float infinity to integer"
  | .twistedGroup =>
    "The span of capturing group is wrong, please report a bug for the re module."
  | .notText shape => "expected string or bytes-like object, got '" ++ shape.name ++ "'"
  | .notOrdered left right =>
    "'<' not supported between instances of '" ++ left.name ++ "' and '" ++ right.name ++ "'"
  | .mixedMoments => "can't compare datetime.datetime to datetime.date"
  | .mixedOffsets => "can't compare offset-naive and offset-aware datetimes"
  | .notAddable .text => "can only concatenate str (not \"int\") to str"
  | .notAddable .list => "can only concatenate list (not \"int\") to list"
  | .notAddable shape => "unsupported operand type(s) for +: '" ++ shape.name ++ "' and 'int'"
  | .notPrintable => "Only str or Text can be appended to Text"
  | .notAChoice value type => value.quoted ++ " is not a valid " ++ type
  | .unknownRule name => Text.quoted ("Unknown rule: " ++ name)
  | .entryShape index =>
    "cannot convert dictionary update sequence element #" ++ toString index ++ " to a sequence"
  | .entryLength index length =>
    "dictionary update sequence element #" ++ toString index ++ " has length " ++ toString length ++
      "; 2 is required"
  | .itemNotText index shape =>
    "sequence item " ++ toString index ++ ": expected str instance, " ++ shape.name ++ " found"

/-- A fault named in a longer message: its `family`, with the `message` in quotes. -/
def display (f : Fault) : String :=
  let argument := match f.family with
    | .key => f.message
    | _ => Text.quoted f.message
  f.family.name ++ "(" ++ argument ++ ")"

end Fault

end CatchAudit
