import Gutter.Text.Hex
import Gutter.Toml.Fault
import Gutter.Value

/-! The numbers, dates and times of TOML documents. -/

namespace Gutter.Toml

open Number (Binary64)
open Text (isAsciiDigit)

/-- Digits after the first, with single underscores between them. -/
def moreDigits (isDigit : Char → Bool) : List Char → List Char × List Char
  | '_' :: c :: rest =>
    if isDigit c then
      let (digits, after) := moreDigits isDigit rest
      (c :: digits, after)
    else ([], '_' :: c :: rest)
  | c :: rest =>
    if isDigit c then
      let (digits, after) := moreDigits isDigit rest
      (c :: digits, after)
    else ([], c :: rest)
  | [] => ([], [])

/-- One digit or more, with single underscores between them. -/
def digits? (isDigit : Char → Bool) : List Char → Option (List Char × List Char)
  | [] => none
  | c :: rest =>
    if isDigit c then
      let (digits, after) := moreDigits isDigit rest
      some (c :: digits, after)
    else none

/-- A number with the mark of its base. -/
def markedNumber? (text : List Char) : Option (Nat × List Char) :=
  let inBase (base : Nat) (isDigit : Char → Bool) (rest : List Char) : Option (Nat × List Char) :=
    (digits? isDigit rest).map fun (digits, after) => (Text.valueOfDigits base digits, after)
  match text with
  | '0' :: 'x' :: rest => inBase 16 Text.isHexDigit rest
  | '0' :: 'b' :: rest => inBase 2 (fun c => c = '0' || c = '1') rest
  | '0' :: 'o' :: rest => inBase 8 (fun c => '0' ≤ c && c ≤ '7') rest
  | _ => none

/-- The digits of a whole number: a lone zero, or digits of which the first is not zero. -/
def wholeDigits? : List Char → Option (List Char × List Char)
  | '0' :: rest => some (['0'], rest)
  | text => digits? isAsciiDigit text

/-- The digits after a point, if there are any. -/
def fraction? : List Char → Option (List Char × List Char)
  | '.' :: rest => digits? isAsciiDigit rest
  | _ => none

/-- A sign, and whether it is a minus. -/
def sign : List Char → Bool × List Char
  | '+' :: rest => (false, rest)
  | '-' :: rest => (true, rest)
  | text => (false, text)

def exponent? : List Char → Option (Int × List Char)
  | c :: rest =>
    if c = 'e' || c = 'E' then
      let (negative, rest) := sign rest
      (digits? isAsciiDigit rest).map fun (digits, after) =>
        let n : Int := Text.decimalNumber digits
        (if negative then -n else n, after)
    else none
  | [] => none

/-- An integer, or a float if there is a fraction or an exponent. -/
def decimal? (text : List Char) : Option (Reading Value) :=
  let (negative, body) := sign text
  (wholeDigits? body).map fun (whole, rest) =>
    let fraction := fraction? rest
    let (places, rest) := fraction.getD ([], rest)
    let exponent := exponent? rest
    let (power, rest) := exponent.getD (0, rest)
    if fraction.isSome || exponent.isSome then
      .ok (.float (Binary64.ofDecimal negative (Text.decimalNumber (whole ++ places))
        (power - places.length)), rest)
    else if Text.digitLimit < whole.length then .error (.numeralTooLong ⟨whole.length⟩)
    else
      let n : Int := Text.decimalNumber whole
      .ok (.int (if negative then -n else n), rest)

/-- Numbers that no digits write. -/
def namedNumber? (text : List Char) : Option (Value × List Char) :=
  let (negative, body) := sign text
  match body with
  | 'i' :: 'n' :: 'f' :: rest => some (.float (.infinity negative), rest)
  | 'n' :: 'a' :: 'n' :: rest => some (.float .nan, rest)
  | _ => none

/-- A number of exactly `width` digits between two bounds. -/
def fixed? (width low high : Nat) (text : List Char) : Option (Nat × List Char) :=
  let digits := text.take width
  let n := Text.decimalNumber digits
  if digits.length = width && digits.all isAsciiDigit && low ≤ n && n ≤ high then
    some (n, text.drop width)
  else none

/-- The text after a mark. -/
def after? (mark : Char) : List Char → Option (List Char)
  | c :: rest => if c = mark then some rest else none
  | [] => none

/-- The microseconds that digits after a point write; digits past the sixth do not count. -/
def micros (digits : List Char) : Nat :=
  Text.decimalNumber ((digits ++ List.replicate 6 '0').take 6)

def time? (text : List Char) : Option (TimeOfDay × List Char) := do
  let (hour, rest) ← fixed? 2 0 23 text
  let (minute, rest) ← fixed? 2 0 59 (← after? ':' rest)
  let (second, rest) ← fixed? 2 0 59 (← after? ':' rest)
  match rest with
  | '.' :: after =>
    match after.takeWhile isAsciiDigit with
    | [] => return (⟨hour, minute, second, 0⟩, rest)
    | digits => return (⟨hour, minute, second, micros digits⟩, after.dropWhile isAsciiDigit)
  | _ => return (⟨hour, minute, second, 0⟩, rest)

def date? (text : List Char) : Option (Date × List Char) := do
  let (year, rest) ← fixed? 4 0 9999 text
  let (month, rest) ← fixed? 2 1 12 (← after? '-' rest)
  let (day, rest) ← fixed? 2 1 31 (← after? '-' rest)
  return (⟨year, month, day⟩, rest)

/-- The minutes ahead of universal time. -/
def offset? (text : List Char) : Option (Int × List Char) :=
  match text with
  | [] => none
  | c :: rest =>
    if c = 'Z' || c = 'z' then some (0, rest)
    else if c = '+' || c = '-' then do
      let (hours, rest) ← fixed? 2 0 23 rest
      let (minutes, rest) ← fixed? 2 0 59 (← after? ':' rest)
      let total : Int := hours * 60 + minutes
      return (if c = '-' then -total else total, rest)
    else none

/-- A date, and perhaps a time and an offset; the date has to exist. -/
def moment? (text : List Char) : Option (Reading Value) :=
  (date? text).map fun (date, rest) =>
    if !date.isValid then fail .date text
    else
      let time := match rest with
        | c :: after => if c = 'T' || c = 't' || c = ' ' then time? after else none
        | [] => none
      match time with
      | none => .ok (.date date, rest)
      | some (time, rest) =>
        match offset? rest with
        | some (minutes, rest) => .ok (.moment ⟨date, time, some minutes⟩, rest)
        | none => .ok (.moment ⟨date, time, none⟩, rest)

/-- A date, a time or a number, if one starts here. -/
def scalar? (text : List Char) : Option (Reading Value) :=
  match moment? text with
  | some reading => some reading
  | none =>
    match time? text with
    | some (time, rest) => some (.ok (.time time, rest))
    | none =>
      match markedNumber? text with
      | some (n, rest) => some (.ok (.int n, rest))
      | none =>
        match decimal? text with
        | some reading => some reading
        | none => (namedNumber? text).map .ok

end Gutter.Toml
