import Gutter.Tools.Basic

/-! Instants in seconds from the start of 1970, the zones in which clocks show them, what a clock with
a calendar shows, and the texts of that. -/

namespace Gutter.Tools

open Machine Shell

/-- An instant to the nanosecond. -/
structure Instant where
  seconds : Int
  nanos : Nat
deriving DecidableEq, Repr

/-- The year, the month and the day of a number of days since the first of January 1970. -/
def dateOfDays (days : Int) : Int × Nat × Nat :=
  let z := days + 719468
  let era := z / 146097
  let day := (z % 146097).toNat
  let year := (day - day / 1460 + day / 36524 - day / 146096) / 365
  let ofYear := day - (365 * year + year / 4 - year / 100)
  let shifted := (5 * ofYear + 2) / 153
  let month := if shifted < 10 then shifted + 3 else shifted - 9
  (era * 400 + year + (if month ≤ 2 then 1 else 0), month, ofYear - (153 * shifted + 2) / 5 + 1)

/-- The days from the first of January 1970 to a day; days before and after a month count on. -/
def daysOfDate (year : Int) (month : Nat) (day : Int) : Int :=
  let y := if month ≤ 2 then year - 1 else year
  let shifted := if 2 < month then month - 3 else month + 9
  let era := y / 400
  let ofEra := (y % 400).toNat
  era * 146097 + (ofEra * 365 + ofEra / 4 - ofEra / 100 + (153 * shifted + 2) / 5 : Nat) + day - 1
    - 719468

/-- A zone: its name, and the seconds that its clocks are ahead. -/
structure Zone where
  name : List Char
  ahead : Int
deriving DecidableEq, Repr

def Zone.universal : Zone := ⟨"UTC".toList, 0⟩

/-- A number of hours, minutes and seconds with colons between them, in seconds. -/
def secondsOfClock (text : List Char) : Option Nat :=
  let parts := Text.splitOn ':' text
  if parts.length ≤ 3 && parts.all (fun part => !part.isEmpty && part.all Char.isDigit) then
    let numbers := parts.map (Text.valueOfDigits 10)
    some (numbers.getD 0 0 * 3600 + numbers.getD 1 0 * 60 + numbers.getD 2 0)
  else none

/-- The zone that a text tells: a name of letters, and how far its clocks are behind. -/
def Zone.ofText (text : List Char) : Zone :=
  let (name, rest) := match text with
    | '<' :: inner =>
      let name := inner.takeWhile (· ≠ '>')
      (name, inner.drop (name.length + 1))
    | text => text.span Char.isAlpha
  if name.length < 3 then .universal
  else
    let (negative, clock) := Number.leadingSign rest
    let clock := clock.takeWhile fun c => c.isDigit || c = ':'
    match secondsOfClock clock with
    | some behind => ⟨name, if negative then behind else -behind⟩
    | none => ⟨name, 0⟩

/-- The zone of the tool. -/
def zone : Act Zone := do
  match (← self).exported.lookup "TZ".toList with
  | some text => return if text.isEmpty then .universal else .ofText text
  | none => return .universal

/-- What a clock with a calendar shows. -/
structure Clock where
  year : Int
  month : Nat
  day : Nat
  hour : Nat
  minute : Nat
  second : Nat
  nanos : Nat
  weekday : Nat
  dayOfYear : Nat
  zone : Zone
  instant : Instant

def Instant.clock (zone : Zone) (instant : Instant) : Clock :=
  let shown := instant.seconds + zone.ahead
  let days := shown / 86400
  let second := (shown % 86400).toNat
  let (year, month, day) := dateOfDays days
  { year, month, day, zone, instant
    hour := second / 3600
    minute := second / 60 % 60
    second := second % 60
    nanos := instant.nanos
    weekday := ((days + 4) % 7).toNat
    dayOfYear := (days - daysOfDate year 1 1).toNat + 1 }

/-- The present instant. -/
def present : Act Instant := do
  let clock := (← self).clock
  return ⟨Files.startTime / Files.perSecond + clock / 1000000, clock % 1000000 * 1000⟩

/-- The instant of the time of a file. -/
def instantOfTime (time : Nat) : Instant :=
  ⟨time / Files.perSecond, time % Files.perSecond⟩

/-- The time of a file at an instant. -/
def Instant.time (instant : Instant) : Nat :=
  instant.seconds.toNat * Files.perSecond + instant.nanos

/-- Half a year in seconds. -/
def halfYear : Nat := 15778476

/-- A time of a file is not in the future, and less than half a year ago. -/
def isRecent (files : Files) (time : Nat) : Bool :=
  time ≤ files.now && files.now < time + halfYear * Files.perSecond

end Gutter.Tools

/-! ### Texts

Directives after percent signs, with flags and widths, stand for what a clock shows. -/

namespace Gutter.Tools.Clock

/-- The names of days and months; the first three letters of each are its short name. -/
def dayNames : List String :=
  ["Sunday", "Monday", "Tuesday", "Wednesday", "Thursday", "Friday", "Saturday"]

def monthNames : List String :=
  ["January", "February", "March", "April", "May", "June", "July", "August", "September", "October",
    "November", "December"]

/-- What a letter stands for: a number with its digits and what fills them up, the digits of a
fraction, a text and whether its flag makes it small, or directives. -/
inductive Shown
  | number (value : Int) (width : Nat) (filling : Char)
  | fraction (nanos : Nat)
  | text (text : List Char) (small : Bool)
  | directives (text : List Char)

/-- The week of the year, where weeks start with a day. -/
def week (c : Clock) (start : Nat) : Nat := (c.dayOfYear - 1 + 7 - (c.weekday + 7 - start) % 7) / 7

/-- A year has 53 weeks that start with a Monday if its first day is a Thursday, or a Wednesday in a
leap year. -/
def longYear (year : Int) : Bool :=
  let first := ((daysOfDate year 1 1 + 4) % 7).toNat
  let leap := daysOfDate (year + 1) 1 1 - daysOfDate year 1 1 = 366
  first = 4 || (leap && first = 3)

/-- The year and the week that a day belongs to, where a week belongs to the year of its Thursday. -/
def weekAndYear (c : Clock) : Int × Nat :=
  let weekday := if c.weekday = 0 then 7 else c.weekday
  let n := (c.dayOfYear + 10 - weekday) / 7
  if n = 0 then (c.year - 1, if longYear (c.year - 1) then 53 else 52)
  else if n = 53 && !longYear c.year then (c.year + 1, 1)
  else (c.year, n)

/-- How far the clocks of a zone are ahead, with colons after the hours and minutes. -/
def offset (ahead : Int) (colons : Nat) : List Char :=
  let n := ahead.natAbs
  let two (n : Nat) : List Char := if n < 10 then '0' :: digits n else digits n
  let (hours, minutes, seconds) := (two (n / 3600), two (n / 60 % 60), two (n % 60))
  let text := match colons with
    | 0 => hours ++ minutes
    | 1 => hours ++ ':' :: minutes
    | 2 => hours ++ ':' :: minutes ++ ':' :: seconds
    | _ =>
      if n % 60 ≠ 0 then hours ++ ':' :: minutes ++ ':' :: seconds
      else if n / 60 % 60 ≠ 0 then hours ++ ':' :: minutes
      else hours
  (if ahead < 0 then '-' else '+') :: text

/-- What a letter stands for. -/
def shown? (c : Clock) (colons : Nat) (letter : Char) : Option Shown :=
  let short (name : String) : List Char := name.toList.take 3
  let two (n : Nat) : Option Shown := some (.number n 2 '0')
  let hour12 := if c.hour % 12 = 0 then 12 else c.hour % 12
  let half := if c.hour < 12 then "AM" else "PM"
  match letter with
  | 'Y' => some (.number c.year (if c.year < 0 then 5 else 4) '0')
  | 'C' => some (.number (c.year / 100) 2 '0')
  | 'y' => two (c.year % 100).toNat
  | 'm' => two c.month
  | 'd' => two c.day
  | 'e' => some (.number c.day 2 ' ')
  | 'H' => two c.hour
  | 'I' => two hour12
  | 'k' => some (.number c.hour 2 ' ')
  | 'l' => some (.number hour12 2 ' ')
  | 'M' => two c.minute
  | 'S' => two c.second
  | 'j' => some (.number c.dayOfYear 3 '0')
  | 'q' => some (.number ((c.month - 1) / 3 + 1) 1 '0')
  | 'u' => some (.number (if c.weekday = 0 then 7 else c.weekday) 1 '0')
  | 'w' => some (.number c.weekday 1 '0')
  | 'U' => two (c.week 0)
  | 'W' => two (c.week 1)
  | 'V' => two c.weekAndYear.2
  | 'G' => some (.number c.weekAndYear.1 4 '0')
  | 'g' => two (c.weekAndYear.1 % 100).toNat
  | 's' => some (.number c.instant.seconds 1 '0')
  | 'N' => some (.fraction c.nanos)
  | 'p' => some (.text half.toList true)
  | 'P' => some (.text half.toLower.toList false)
  | 'a' => some (.text (short (dayNames.getD c.weekday "")) false)
  | 'A' => some (.text (dayNames.getD c.weekday "").toList false)
  | 'b' => some (.text (short (monthNames.getD (c.month - 1) "")) false)
  | 'h' => some (.text (short (monthNames.getD (c.month - 1) "")) false)
  | 'B' => some (.text (monthNames.getD (c.month - 1) "").toList false)
  | 'Z' => some (.text c.zone.name true)
  | 'z' => some (.text (offset c.zone.ahead colons) false)
  | 'n' => some (.text ['\n'] false)
  | 't' => some (.text ['\t'] false)
  | '%' => some (.text ['%'] false)
  | 'F' => some (.directives "%Y-%m-%d".toList)
  | 'T' => some (.directives "%H:%M:%S".toList)
  | 'X' => some (.directives "%H:%M:%S".toList)
  | 'R' => some (.directives "%H:%M".toList)
  | 'D' => some (.directives "%m/%d/%y".toList)
  | 'x' => some (.directives "%m/%d/%y".toList)
  | 'r' => some (.directives "%I:%M:%S %p".toList)
  | 'c' => some (.directives "%a %b %e %H:%M:%S %Y".toList)
  | _ => none

/-- A number filled up on its left; its sign stands before zeros. -/
def filledNumber (value : Int) (width : Nat) (filling : Option Char) : List Char :=
  let digits := digits value.natAbs
  let sign := if value < 0 then ['-'] else []
  let gap := width - digits.length - sign.length
  match filling with
  | none => sign ++ digits
  | some '0' => sign ++ List.replicate gap '0' ++ digits
  | some c => List.replicate gap c ++ sign ++ digits

/-- The first digits of a fraction of a second. -/
def fractionDigits (nanos width : Nat) : List Char :=
  let all := digits nanos
  let nine := List.replicate (9 - all.length) '0' ++ all
  nine.take width ++ List.replicate (width - 9) '0'

def isFlag (c : Char) : Bool := ['-', '_', '0', '+', '^', '#'].contains c

/-- A directive with its flags and its width. -/
structure Directive where
  flags : List Char
  width : List Char
  colons : List Char
  letter : Char

/-- Reads a directive after its percent sign. -/
def Directive.read? (text : List Char) : Option (Directive × List Char) :=
  let (flags, after) := text.span isFlag
  let (width, after) := after.span Char.isDigit
  let after := match after with
    | 'E' :: more => more
    | 'O' :: more => more
    | more => more
  let (colons, after) := after.span (· = ':')
  match after with
  | [] => none
  | letter :: more => some (⟨flags, width, colons, letter⟩, more)

/-- The text of a directive; `inner` gives those of directives that it stands for. -/
def Directive.text (inner : List Char → List Char) (c : Clock) (d : Directive) : List Char :=
  let filling := (d.flags.filter fun f => f ≠ '^' && f ≠ '#').getLast?
  let wanted := if d.width.isEmpty then none else some (Text.valueOfDigits 10 d.width)
  let padded (text : List Char) : List Char :=
    let zero := filling = some '0' || filling = some '+'
    List.replicate (wanted.getD 0 - text.length) (if zero then '0' else ' ') ++ text
  let cased (small : Bool) (text : List Char) : List Char :=
    if d.flags.contains '#' then text.map (if small then Char.toLower else Char.toUpper)
    else if d.flags.contains '^' then text.map Char.toUpper
    else text
  match c.shown? d.colons.length d.letter with
  | none => '%' :: d.flags ++ d.width ++ d.colons ++ [d.letter]
  | some (.number value digits usual) =>
    let filling := match filling with
      | some '-' => none
      | some '_' => some ' '
      | some _ => some '0'
      | none => some usual
    filledNumber value (wanted.getD digits) filling
  | some (.fraction nanos) => fractionDigits nanos (wanted.getD 9)
  | some (.text text small) => padded (cased small text)
  | some (.directives text) => padded (cased false (inner text))

/-- The text of directives one after another. -/
def run (inner : List Char → List Char) (c : Clock) : Nat → List Char → List Char
  | 0, _ => []
  | _, [] => []
  | limit + 1, '%' :: rest =>
    match Directive.read? rest with
    | some (directive, more) => directive.text inner c ++ run inner c limit more
    | none => '%' :: rest
  | limit + 1, char :: rest => char :: run inner c limit rest

/-- The text of a format. -/
def format (c : Clock) (format : List Char) : List Char :=
  let plain (text : List Char) : List Char := run (fun _ => []) c (text.length + 1) text
  run plain c (format.length + 1) format

end Gutter.Tools.Clock
