/-
Dates and times of day: a date, a time, or both, perhaps with an offset from universal time. `text`
shows a moment on its own, `quoted` inside other values.
-/

namespace CatchAudit

structure Date where
  year : Nat
  month : Nat
  day : Nat
  deriving DecidableEq, Repr

structure TimeOfDay where
  hour : Nat
  minute : Nat
  second : Nat
  microsecond : Nat
  deriving DecidableEq, Repr

inductive Moment where
  | date (d : Date)
  | time (t : TimeOfDay)
  /-- A date and a time; the offset is in minutes. -/
  | dateTime (d : Date) (t : TimeOfDay) (offset : Option Int)
  deriving DecidableEq, Repr

/-- `n` in decimal digits, padded with zeros to a width. -/
def padded (width n : Nat) : String :=
  let digits := toString n
  String.ofList (List.replicate (width - digits.length) '0') ++ digits

namespace Date

def isLeapYear (year : Nat) : Bool := year % 4 == 0 && (year % 100 != 0 || year % 400 == 0)

def daysIn (year month : Nat) : Nat :=
  if month = 2 then (if isLeapYear year then 29 else 28)
  else if [4, 6, 9, 11].contains month then 30
  else 31

/-- Whether there is such a day. -/
def isValid (d : Date) : Bool :=
  0 < d.year && 0 < d.month && d.month ≤ 12 && 0 < d.day && d.day ≤ daysIn d.year d.month

def text (d : Date) : String := padded 4 d.year ++ "-" ++ padded 2 d.month ++ "-" ++ padded 2 d.day

/-- The number of days from the start of the year 0 to a date. -/
def dayNumber (d : Date) : Nat :=
  let before := d.year - 1
  365 * d.year + before / 4 - before / 100 + before / 400 +
    (List.range (d.month - 1)).foldl (fun days m => days + daysIn d.year (m + 1)) d.day

end Date

namespace TimeOfDay

def text (t : TimeOfDay) : String :=
  let whole := padded 2 t.hour ++ ":" ++ padded 2 t.minute ++ ":" ++ padded 2 t.second
  if t.microsecond = 0 then whole else whole ++ "." ++ padded 6 t.microsecond

/-- Hours and minutes, with seconds and what is smaller only as far as needed. -/
def parts (t : TimeOfDay) : List Nat :=
  [t.hour, t.minute] ++
    if t.microsecond ≠ 0 then [t.second, t.microsecond]
    else if t.second ≠ 0 then [t.second]
    else []

def microseconds (t : TimeOfDay) : Nat :=
  ((t.hour * 60 + t.minute) * 60 + t.second) * 1000000 + t.microsecond

end TimeOfDay

namespace Moment

def offsetText (offset : Int) : String :=
  (if offset < 0 then "-" else "+") ++ padded 2 (offset.natAbs / 60) ++ ":" ++
    padded 2 (offset.natAbs % 60)

/-- A moment on its own. -/
def text : Moment → String
  | .date d => d.text
  | .time t => t.text
  | .dateTime d t offset => d.text ++ " " ++ t.text ++ (offset.map offsetText).getD ""

def commaJoined (ns : List Nat) : String := ", ".intercalate (ns.map toString)

/-- An offset inside a quoted moment. A negative one counts up from the day before. -/
def quotedOffset (offset : Int) : String :=
  if offset = 0 then "datetime.timezone.utc"
  else
    let seconds := offset * 60
    let delta :=
      if 0 < seconds then "seconds=" ++ toString seconds
      else "days=-1, seconds=" ++ toString (86400 + seconds)
    "datetime.timezone(datetime.timedelta(" ++ delta ++ "))"

/-- A moment inside other values. -/
def quoted : Moment → String
  | .date d => "datetime.date(" ++ commaJoined [d.year, d.month, d.day] ++ ")"
  | .time t => "datetime.time(" ++ commaJoined t.parts ++ ")"
  | .dateTime d t offset =>
    let zone := match offset with
      | some minutes => ", tzinfo=" ++ quotedOffset minutes
      | none => ""
    "datetime.datetime(" ++ commaJoined ([d.year, d.month, d.day] ++ t.parts) ++ zone ++ ")"

/-- The microseconds from the start of the year 0 to a moment in universal time. -/
def instant (d : Date) (t : TimeOfDay) (offset : Int) : Int :=
  d.dayNumber * 86400000000 + t.microseconds - offset * 60000000

/-- Equality of moments: those with offsets are the same when they are the same instant. -/
def same : Moment → Moment → Bool
  | .dateTime d t (some offset), .dateTime e u (some other) => instant d t offset == instant e u other
  | a, b => a == b

end Moment

end CatchAudit
