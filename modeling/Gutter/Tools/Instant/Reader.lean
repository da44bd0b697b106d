import Gutter.Tools.Instant

/-! Reading instants from texts: dates, times, zones, days of the week, and distances from the
present, in any order. -/

namespace Gutter.Tools.Instant

/-! ### Tokens -/

inductive Token
  | word (letters : List Char)
  | number (sign : Option Char) (digits : List Char) (fraction : Option (List Char))
  | sign (c : Char)
deriving DecidableEq, Repr

def isBlank (c : Char) : Bool := c = ' ' || ('\t' ≤ c && c ≤ '\r')

/-- The text after what stands in brackets. -/
def afterBrackets : Nat → Nat → List Char → List Char
  | 0, _, text => text
  | _, _, [] => []
  | limit + 1, depth, c :: rest =>
    if c = '(' then afterBrackets limit (depth + 1) rest
    else if c = ')' then if depth ≤ 1 then rest else afterBrackets limit (depth - 1) rest
    else afterBrackets limit depth rest

def tokens : Nat → List Char → List Token
  | 0, _ => []
  | _, [] => []
  | limit + 1, c :: rest =>
    if isBlank c then tokens limit rest
    else if c = '(' then tokens limit (afterBrackets (rest.length + 1) 1 rest)
    else if c.isAlpha then
      let letters := (c :: rest).takeWhile fun c => c.isAlpha || c = '.'
      .word letters :: tokens limit ((c :: rest).drop letters.length)
    else
      let signed := c = '-' || c = '+'
      let after := if signed then rest.dropWhile isBlank else c :: rest
      let digits := after.takeWhile Char.isDigit
      if digits.isEmpty then if signed then tokens limit rest else .sign c :: tokens limit rest
      else
        let more := after.drop digits.length
        let fraction := match more with
          | mark :: more =>
            let digits := more.takeWhile Char.isDigit
            if (mark = '.' || mark = ',') && !digits.isEmpty then some digits else none
          | [] => none
        let more := match fraction with
          | some f => more.drop (f.length + 1)
          | none => more
        .number (if signed then some c else none) digits fraction :: tokens limit more

/-! ### Words -/

/-- Units of distances. -/
inductive Span
  | years (n : Int)
  | months (n : Int)
  | days (n : Int)
  | seconds (n : Int)
deriving DecidableEq, Repr

/-- What a word means. -/
inductive Meaning
  | half (afternoon : Bool)
  | month (n : Nat)
  | weekday (n : Nat)
  | zone (ahead : Int)
  | span (unit : Span)
  | shift (days : Int)
  | ordinal (n : Int)
  | ago
  | timeMark
deriving DecidableEq, Repr

def units : List (String × Span) :=
  [("YEAR", .years 1), ("MONTH", .months 1), ("FORTNIGHT", .days 14), ("WEEK", .days 7),
    ("DAY", .days 1), ("HOUR", .seconds 3600), ("MINUTE", .seconds 60), ("MIN", .seconds 60),
    ("SECOND", .seconds 1), ("SEC", .seconds 1)]

def relatives : List (String × Meaning) :=
  [("TOMORROW", .shift 1), ("YESTERDAY", .shift (-1)), ("TODAY", .shift 0), ("NOW", .shift 0),
    ("LAST", .ordinal (-1)), ("THIS", .ordinal 0), ("NEXT", .ordinal 1), ("FIRST", .ordinal 1),
    ("THIRD", .ordinal 3), ("FOURTH", .ordinal 4), ("FIFTH", .ordinal 5), ("SIXTH", .ordinal 6),
    ("SEVENTH", .ordinal 7), ("EIGHTH", .ordinal 8), ("NINTH", .ordinal 9), ("TENTH", .ordinal 10),
    ("ELEVENTH", .ordinal 11), ("TWELFTH", .ordinal 12), ("AGO", .ago)]

/-- Zones with the hours that their clocks are ahead. -/
def zones : List (String × Int) :=
  [("GMT", 0), ("UT", 0), ("UTC", 0), ("WET", 0), ("WEST", 1), ("BST", 1), ("ART", -3), ("BRT", -3),
    ("BRST", -2), ("AST", -4), ("ADT", -3), ("CLT", -4), ("CLST", -3), ("EST", -5), ("EDT", -4),
    ("CST", -6), ("CDT", -5), ("MST", -7), ("MDT", -6), ("PST", -8), ("PDT", -7), ("AKST", -9),
    ("AKDT", -8), ("HST", -10), ("HAST", -10), ("HADT", -9), ("SST", -12), ("WAT", 1), ("CET", 1),
    ("CEST", 2), ("MET", 1), ("MEZ", 1), ("MEST", 2), ("MESZ", 2), ("EET", 2), ("EEST", 3),
    ("CAT", 2), ("SAST", 2), ("EAT", 3), ("MSK", 3), ("MSD", 4), ("SGT", 8), ("KST", 9), ("JST", 9),
    ("GST", 10), ("NZST", 12), ("NZDT", 13)]

/-- The hours that the clocks of the zone of a letter are ahead. -/
def letterZone? (c : Char) : Option Int :=
  let n := c.toNat
  if c = 'Z' then some 0
  else if 'A' ≤ c && c ≤ 'I' then some (n - 64 : Int)
  else if 'K' ≤ c && c ≤ 'M' then some (n - 65 : Int)
  else if 'N' ≤ c && c ≤ 'Y' then some (77 - n : Int)
  else none

/-- The place of a name in a list, where its first three letters are enough. -/
def nameIn? (names : List String) (word : List Char) : Option Nat :=
  let short := if word.length = 4 && word.getLast? = some '.' then word.take 3 else word
  names.findIdx? fun name =>
    let upper := name.toUpper.toList
    upper = word || (short.length = 3 && upper.take 3 = short)

def meaning? (letters : List Char) : Option Meaning :=
  let word := letters.map Char.toUpper
  let text := String.ofList word
  let plain := word.filter (· ≠ '.')
  let singular := if word.getLast? = some 'S' then word.dropLast else word
  if text = "AM" || text = "A.M." then some (.half false)
  else if text = "PM" || text = "P.M." then some (.half true)
  else if let some n := nameIn? Clock.monthNames word then some (.month (n + 1))
  else if text = "SEPT" then some (.month 9)
  else if let some n := nameIn? Clock.dayNames word then some (.weekday n)
  else if text = "TUES" then some (.weekday 2)
  else if text = "WEDNES" then some (.weekday 3)
  else if text = "THUR" || text = "THURS" then some (.weekday 4)
  else if let some hours := zones.lookup text then some (.zone (hours * 3600))
  else if text = "IST" then some (.zone 19800)
  else if let some unit := units.lookup (String.ofList singular) then some (.span unit)
  else if let some meaning := relatives.lookup text then some meaning
  else if text = "T" then some .timeMark
  else match word with
    | [c] => (letterZone? c).map fun hours => .zone (hours * 3600)
    | _ => (zones.lookup (String.ofList plain)).map fun hours => .zone (hours * 3600)

/-! ### Items -/

/-- What has been read: a date, a time, a zone, a day of the week with how many of them to go on, a
distance, and how often each was there. -/
structure Gathered where
  date : Int × Nat × Nat
  time : Nat × Nat × Nat
  nanos : Nat := 0
  afternoon : Option Bool := none
  ahead : Option Int := none
  weekday : Nat × Int := (0, 0)
  years : Int := 0
  months : Int := 0
  days : Int := 0
  seconds : Int := 0
  yearDigits : Nat := 0
  dates : Nat := 0
  times : Nat := 0
  zones : Nat := 0
  weekdays : Nat := 0
  spans : Nat := 0

def value (digits : List Char) : Nat := Text.valueOfDigits 10 digits

/-- A year of two digits belongs to the years from 1969 to 2068. -/
def fullYear (digits : List Char) : Int :=
  let n := value digits
  if digits.length = 2 then if n < 69 then n + 2000 else n + 1900 else n

def Gathered.onDate (g : Gathered) (year : Option (List Char)) (month day : Nat) : Gathered :=
  let year' := (year.map fullYear).getD g.date.1
  { g with
    date := (year', month, day), dates := g.dates + 1
    yearDigits := (year.map List.length).getD g.yearDigits }

/-- Goes on by some units. -/
def Gathered.by (g : Gathered) (count : Int) (unit : Span) : Gathered :=
  let g := { g with spans := g.spans + 1 }
  match unit with
  | .years n => { g with years := g.years + count * n }
  | .months n => { g with months := g.months + count * n }
  | .days n => { g with days := g.days + count * n }
  | .seconds n => { g with seconds := g.seconds + count * n }

def signed (sign : Char) (n : Nat) : Int := if sign = '-' then -n else n

/-- The distance of a zone that a number writes, alone or with minutes after a colon. -/
def aheadOf (sign : Char) (hours : List Char) (minutes : Option (List Char)) : Option Int :=
  let n := value hours
  let total := match minutes with
    | some m => n * 60 + value m
    | none => if hours.length ≤ 2 then n * 60 else n / 100 * 60 + n % 100
  if 24 * 60 < total then none else some (signed sign (total * 60))

/-- Takes the zone that may follow a time. -/
def zoneAfter (g : Gathered) : List Token → Option (Gathered × List Token)
  | .number (some sign) hours none :: .sign ':' :: .number none minutes none :: rest =>
    (aheadOf sign hours (some minutes)).map fun ahead =>
      ({ g with ahead := some ahead, zones := g.zones + 1 }, rest)
  | .number (some sign) hours none :: rest =>
    match rest with
    | .word letters :: _ =>
      match meaning? letters with
      | some (.span _) => some (g, .number (some sign) hours none :: rest)
      | _ => (aheadOf sign hours none).map fun ahead =>
        ({ g with ahead := some ahead, zones := g.zones + 1 }, rest)
    | _ => (aheadOf sign hours none).map fun ahead =>
      ({ g with ahead := some ahead, zones := g.zones + 1 }, rest)
  | .word letters :: rest =>
    match meaning? letters with
    | some (.half afternoon) => some ({ g with afternoon := some afternoon }, rest)
    | _ => some (g, .word letters :: rest)
  | rest => some (g, rest)

/-- A fraction of a second in nanoseconds. -/
def nanosOf (fraction : Option (List Char)) : Nat :=
  match fraction with
  | some digits => value ((digits ++ List.replicate 9 '0').take 9)
  | none => 0

def Gathered.atTime (g : Gathered) (hour minute second : List Char)
    (fraction : Option (List Char)) : Gathered :=
  { g with
    time := (value hour, value minute, value second), nanos := nanosOf fraction
    times := g.times + 1, afternoon := none }

/-- Takes one item. -/
def item (g : Gathered) : List Token → Option (Gathered × List Token)
  | .number none hour none :: .sign ':' :: .number none minute none :: .sign ':'
      :: .number none second fraction :: rest =>
    zoneAfter (g.atTime hour minute second fraction) rest
  | .number none hour none :: .sign ':' :: .number none minute none :: rest =>
    zoneAfter (g.atTime hour minute [] none) rest
  | .number none year none :: .number (some '-') month none :: .number (some '-') day none :: rest =>
    some (g.onDate (some year) (value month) (value day), rest)
  | .number none a none :: .sign '/' :: .number none b none :: .sign '/' :: .number none c none
      :: rest =>
    if 4 ≤ a.length then some (g.onDate (some a) (value b) (value c), rest)
    else some (g.onDate (some c) (value a) (value b), rest)
  | .number none month none :: .sign '/' :: .number none day none :: rest =>
    some (g.onDate none (value month) (value day), rest)
  | .number none n none :: .word letters :: rest =>
    match meaning? letters with
    | some (.half afternoon) =>
      some ({ g.atTime n [] [] none with afternoon := some afternoon }, rest)
    | some (.month month) =>
      match rest with
      | .number none year none :: .sign ':' :: more =>
        some (g.onDate none month (value n), .number none year none :: .sign ':' :: more)
      | .number sign year none :: more =>
        if sign = some '+' then
          some (g.onDate none month (value n), .number sign year none :: more)
        else some (g.onDate (some year) month (value n), more)
      | _ => some (g.onDate none month (value n), rest)
    | some (.span unit) => some (g.by (value n) unit, rest)
    | some (.weekday day) =>
      some ({ g with weekday := (day, value n), weekdays := g.weekdays + 1 }, rest)
    | _ => alone n (.word letters :: rest)
  | .number none n none :: rest => alone n rest
  | .number (some sign) n none :: .word letters :: rest =>
    match meaning? letters with
    | some (.span unit) => some (g.by (signed sign (value n)) unit, rest)
    | _ => zoneAfter g (.number (some sign) n none :: .word letters :: rest)
  | .word letters :: rest =>
    match meaning? letters with
    | some (.month month) =>
      match rest with
      | .number none day none :: .sign ',' :: .number none year none :: more =>
        some (g.onDate (some year) month (value day), more)
      | .number none day none :: .number none year none :: .sign ':' :: more =>
        some (g.onDate none month (value day), .number none year none :: .sign ':' :: more)
      | .number none day none :: .number none year none :: more =>
        some (g.onDate (some year) month (value day), more)
      | .number none day none :: more => some (g.onDate none month (value day), more)
      | .number (some '-') day none :: .number (some '-') year none :: more =>
        some (g.onDate (some year) month (value day), more)
      | _ => none
    | some (.weekday day) =>
      let rest := match rest with
        | .sign ',' :: more => more
        | more => more
      some ({ g with weekday := (day, 0), weekdays := g.weekdays + 1 }, rest)
    | some (.ordinal n) =>
      match rest with
      | .word next :: more =>
        match meaning? next with
        | some (.weekday day) =>
          some ({ g with weekday := (day, n), weekdays := g.weekdays + 1 }, more)
        | some (.span unit) => some (g.by n unit, more)
        | _ => none
      | _ => none
    | some (.span unit) => some (g.by 1 unit, rest)
    | some (.shift days) => some (g.by days (.days 1), rest)
    | some .ago =>
      some ({ g with
        years := -g.years, months := -g.months, days := -g.days, seconds := -g.seconds }, rest)
    | some (.zone ahead) =>
      let g := { g with zones := g.zones + 1 }
      match rest with
      | .number (some sign) hours none :: more =>
        (aheadOf sign hours none).map fun further =>
          ({ g with ahead := some (ahead + further) }, more)
      | _ => some ({ g with ahead := some ahead }, rest)
    | some .timeMark =>
      match rest with
      | .number none _ none :: .sign ':' :: _ => some (g, rest)
      | _ => some ({ g with ahead := some (-25200), zones := g.zones + 1 }, rest)
    | _ => none
  | _ => none
where
  /-- A number that stands alone: a year after a date, a date of at least five digits, or a time. -/
  alone (n : List Char) (rest : List Token) : Option (Gathered × List Token) :=
    let v := value n
    if g.dates ≠ 0 && g.yearDigits = 0 && g.spans = 0 && (g.times ≠ 0 || 2 < n.length) then
      some ({ g with date := (fullYear n, g.date.2.1, g.date.2.2), yearDigits := n.length }, rest)
    else if 4 < n.length then
      some (g.onDate (some (n.take (n.length - 4))) (v / 100 % 100) (v % 100), rest)
    else
      let (hour, minute) := if n.length ≤ 2 then (v, 0) else (v / 100, v % 100)
      some ({ g with
        time := (hour, minute, 0), nanos := 0, afternoon := none, times := g.times + 1 }, rest)

def items : Nat → Gathered → List Token → Option Gathered
  | 0, _, _ => none
  | _, g, [] => some g
  | limit + 1, g, tokens =>
    match item g tokens with
    | some (g, rest) => items limit g rest
    | none => none

/-- The hour of a day, where the hours of half a day count from one to twelve. -/
def hourOf (hour : Nat) (afternoon : Option Bool) : Option Nat :=
  match afternoon with
  | none => if hour < 24 then some hour else none
  | some afternoon =>
    if 1 ≤ hour && hour ≤ 12 then some (hour % 12 + if afternoon then 12 else 0) else none

/-- The days up to the day that was meant. -/
def Gathered.daysUpTo (g : Gathered) : Option Int :=
  let (year, month, day) := g.date
  if month < 1 || 12 < month || day < 1 then none
  else
    let first := daysOfDate year month day
    if dateOfDays first ≠ (year, month, day) then none
    else
      let weekday := ((first + 4) % 7).toNat
      let (wanted, ordinal) := g.weekday
      let toWeekday : Int := if g.weekdays ≠ 0 && g.dates = 0 then
          ((wanted + 7 - weekday) % 7 : Nat)
            + 7 * (ordinal - if 0 < ordinal && weekday ≠ wanted then 1 else 0)
        else 0
      let months := year * 12 + (month - 1 : Nat) + g.years * 12 + g.months
      some (daysOfDate (months / 12) ((months % 12).toNat + 1) (day + toWeekday + g.days))

/-- The instant that was meant, if what was read makes sense. -/
def Gathered.instant? (g : Gathered) (zone : Zone) : Option Instant := do
  if 1 < g.dates || 1 < g.times || 1 < g.weekdays || 1 < g.zones then none
  let (hour, minute, second) := g.time
  let told := g.times ≠ 0 || (g.spans ≠ 0 && g.dates = 0 && g.weekdays = 0)
  let hour ← hourOf hour g.afternoon
  if 59 < minute || 60 < second then none
  let days ← g.daysUpTo
  let seconds : Int := if told then hour * 3600 + minute * 60 + second else 0
  return ⟨days * 86400 + seconds + g.seconds - g.ahead.getD zone.ahead,
    if told then g.nanos else 0⟩

/-- The seconds after a sign. -/
def ofSeconds? (text : List Char) : Option Instant :=
  let (negative, rest) := Number.leadingSign (text.dropWhile isBlank)
  let whole := rest.takeWhile Char.isDigit
  let fraction := match rest.drop whole.length with
    | [] => some []
    | mark :: digits =>
      if (mark = '.' || mark = ',') && !digits.isEmpty && digits.all Char.isDigit then some digits
      else none
  match whole, fraction with
  | [], _ => none
  | _, none => none
  | whole, some fraction =>
    let n : Int := value whole
    let nanos := nanosOf (some fraction)
    if negative then
      if nanos = 0 then some ⟨-n, 0⟩ else some ⟨-n - 1, 1000000000 - nanos⟩
    else some ⟨n, nanos⟩

/-- The instant that a text tells. -/
def ofText? (zone : Zone) (now : Instant) (text : List Char) : Option Instant :=
  match text.dropWhile isBlank with
  | '@' :: rest => ofSeconds? (rest.reverse.dropWhile isBlank).reverse
  | text =>
    let clock := now.clock zone
    let start : Gathered :=
      { date := (clock.year, clock.month, clock.day)
        time := (clock.hour, clock.minute, clock.second), nanos := now.nanos }
    let tokens := tokens (text.length + 1) text
    (items (tokens.length + 1) start tokens).bind (·.instant? zone)

end Gutter.Tools.Instant
