import Gutter.Text.Hex

/-! Dates and times of the Gregorian calendar, and their texts. -/

namespace Gutter

/-- A day: year, month and day of the month. -/
structure Date where
  year : Nat
  month : Nat
  day : Nat
deriving DecidableEq, Repr

/-- A time of the day, to the microsecond. -/
structure TimeOfDay where
  hour : Nat
  minute : Nat
  second : Nat
  micro : Nat
deriving DecidableEq, Repr

/-- A point in time: a day, a time, and the minutes that it is ahead of universal time, if known. -/
structure Moment where
  date : Date
  time : TimeOfDay
  offset : Option Int
deriving DecidableEq, Repr

/-- The decimal digits of `n`, with zeros in front up to `width`. -/
def padded (width n : Nat) : String :=
  let digits := (toString n).toList
  String.ofList (List.replicate (width - digits.length) '0' ++ digits)

def isLeapYear (year : Nat) : Bool :=
  year % 4 = 0 && (year % 100 ≠ 0 || year % 400 = 0)

def daysInMonth (year month : Nat) : Nat :=
  if month = 2 then if isLeapYear year then 29 else 28
  else if month = 4 ∨ month = 6 ∨ month = 9 ∨ month = 11 then 30
  else 31

/-- The day exists; years count from 1. -/
def Date.isValid (d : Date) : Bool :=
  1 ≤ d.year && 1 ≤ d.month && d.month ≤ 12 && 1 ≤ d.day && d.day ≤ daysInMonth d.year d.month

def Date.text (d : Date) : String := s!"{padded 4 d.year}-{padded 2 d.month}-{padded 2 d.day}"

def TimeOfDay.text (t : TimeOfDay) : String :=
  let clock := s!"{padded 2 t.hour}:{padded 2 t.minute}:{padded 2 t.second}"
  if t.micro = 0 then clock else s!"{clock}.{padded 6 t.micro}"

def Moment.text (m : Moment) : String :=
  let offset := match m.offset with
    | none => ""
    | some minutes =>
      (if minutes < 0 then "-" else "+")
        ++ s!"{padded 2 (minutes.natAbs / 60)}:{padded 2 (minutes.natAbs % 60)}"
  s!"{m.date.text}T{m.time.text}{offset}"

/-- The numbers of a time, without seconds and microseconds that are zero. -/
def TimeOfDay.numbers (t : TimeOfDay) : List Nat :=
  let rest := if t.micro ≠ 0 then [t.second, t.micro] else if t.second ≠ 0 then [t.second] else []
  t.hour :: t.minute :: rest

def commas (numbers : List Nat) : String := ", ".intercalate (numbers.map toString)

/-- The term that builds the day. -/
def Date.term (d : Date) : String := s!"datetime.date({commas [d.year, d.month, d.day]})"

def TimeOfDay.term (t : TimeOfDay) : String := s!"datetime.time({commas t.numbers})"

/-- The term that builds an offset: days are whole, so that what is left is not negative. -/
def offsetTerm (minutes : Int) : String :=
  if minutes = 0 then "datetime.timezone.utc"
  else
    let seconds := minutes * 60
    let inner := if 0 < minutes then s!"seconds={seconds}"
      else s!"days=-1, seconds={seconds + 86400}"
    s!"datetime.timezone(datetime.timedelta({inner}))"

def Moment.term (m : Moment) : String :=
  let numbers := commas ([m.date.year, m.date.month, m.date.day] ++ m.time.numbers)
  match m.offset with
  | none => s!"datetime.datetime({numbers})"
  | some minutes => s!"datetime.datetime({numbers}, tzinfo={offsetTerm minutes})"

end Gutter
