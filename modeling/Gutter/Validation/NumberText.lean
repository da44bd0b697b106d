import Gutter.Number.Printed
import Gutter.Text.Numeral

/-! Numbers in texts, as settings may be given: integers with underscores, leading zeros or zeros
after the point, and numbers with an exponent. -/

namespace Gutter.Validation

/-- White space around a number. -/
def isMargin (c : Char) : Bool := Text.isBlank c && !(28 ≤ c.toNat && c.toNat ≤ 31)

def trimMargin (text : List Char) : List Char := Text.trimWhere isMargin text

/-- Integers with more characters than this, the sign among them, are refused. -/
def integerSizeLimit : Nat := 4300

/-- The number that a text of digits writes. -/
def digitsValue? (digits : List Char) : Option Nat :=
  if digits.isEmpty || digits.any fun c => !Text.isAsciiDigit c then none
  else some (Text.decimalNumber digits)

/-- Digits after an optional sign. -/
def signedDigits? : List Char → Option Int
  | '-' :: digits => (digitsValue? digits).map fun n => -(n : Int)
  | '+' :: digits => (digitsValue? digits).map Int.ofNat
  | digits => (digitsValue? digits).map Int.ofNat

/-- What a text is as an integer. -/
inductive IntegerText
  | value (n : Int)
  | tooLong
  | none

/-- An integer without leading zeros, after a minus sign if it is negative. It is too long as soon
as its digits are, whatever comes after them. -/
def plainInteger (text : List Char) : IntegerText :=
  let (negative, digits) := match text with
    | '-' :: digits => (true, digits)
    | digits => (false, digits)
  let first := digits.head?.getD 'x'
  let run := digits.takeWhile Text.isAsciiDigit
  if first = '0' then if digits.length = 1 then .value 0 else .none
  else if integerSizeLimit < run.length + (if negative then 1 else 0) then .tooLong
  else if digits.isEmpty || run.length ≠ digits.length then .none
  else
    let magnitude : Int := Text.decimalNumber run
    .value (if negative then -magnitude else magnitude)

/-- What follows the leading zeros, underscores among them. The last zero stays if a point or
nothing follows. -/
def afterZeros : List Char → Option (List Char)
  | [] => none
  | [c] => if c = '0' ∨ c = '_' then some [c] else firstDigit [c]
  | c :: '.' :: rest =>
    if c = '0' ∨ c = '_' then some (c :: '.' :: rest) else firstDigit (c :: '.' :: rest)
  | c :: d :: rest =>
    if c = '0' ∨ c = '_' then afterZeros (d :: rest) else firstDigit (c :: d :: rest)
where
  firstDigit : List Char → Option (List Char)
    | [] => none
    | c :: rest => if ('1' ≤ c ∧ c ≤ '9') ∨ c = '-' then some (c :: rest) else none

/-- Without a point that only zeros follow, at least one. -/
def dropPointZeros (text : List Char) : List Char :=
  let tail := (text.dropWhile (· ≠ '.')).drop 1
  if !tail.isEmpty && tail.all (· = '0') then text.takeWhile (· ≠ '.') else text

/-- Two underscores follow each other. -/
def doubleUnderscore : List Char → Bool
  | '_' :: '_' :: _ => true
  | _ :: rest => doubleUnderscore rest
  | [] => false

/-- Without its underscores, if there are some and each stands alone between other characters. -/
def dropSingleUnderscores? (text : List Char) : Option (List Char) :=
  if text.head? = some '_' || text.getLast? = some '_' || !text.contains '_'
      || doubleUnderscore text then none
  else some (text.filter (· ≠ '_'))

/-- The plain form of an integer that is written with a margin, a plus sign, leading zeros, single
underscores or zeros after a point. -/
def plainForm? (text : List Char) : Option (List Char) :=
  let (sign, digits) := match trimMargin text with
    | '-' :: digits => (['-'], digits)
    | '+' :: digits => ([], if digits.head? = some '-' then '+' :: digits else digits)
    | digits => ([], digits)
  let start? := match digits with
    | '0' :: _ => afterZeros digits
    | _ => afterZeros.firstDigit digits
  start?.map fun start =>
    let body := dropPointZeros start
    sign ++ (dropSingleUnderscores? body).getD body

def integerText (text : List Char) : IntegerText :=
  match plainInteger text with
  | .none =>
    match plainForm? text with
    | some plain => plainInteger plain
    | none => .none
  | result => result

/-- The words for numbers that no digits write. -/
def namedNumber? (negative : Bool) (text : List Char) : Option Number.Binary64 :=
  let word := text.map fun c => Char.ofNat (Text.lowerAsciiCode c.toNat)
  if word = "nan".toList then some .nan
  else if word = "inf".toList ∨ word = "infinity".toList then some (.infinity negative)
  else none

/-- The exponent after its letter: digits after an optional sign, or nothing at all. -/
def exponent? : List Char → Option Int
  | [] => some 0
  | c :: rest => if c = 'e' ∨ c = 'E' then signedDigits? rest else none

/-- A number written with digits, and perhaps a point and an exponent. -/
def unsignedNumber? (negative : Bool) (text : List Char) : Option Number.Binary64 :=
  let whole := text.takeWhile Text.isAsciiDigit
  let rest := text.dropWhile Text.isAsciiDigit
  let (fraction, rest) := match rest with
    | '.' :: rest => (rest.takeWhile Text.isAsciiDigit, rest.dropWhile Text.isAsciiDigit)
    | rest => ([], rest)
  if whole.isEmpty && fraction.isEmpty then none
  else
    (exponent? rest).map fun exponent =>
      Number.Binary64.ofDecimal negative (Text.decimalNumber (whole ++ fraction))
        (exponent - fraction.length)

/-- A number with an optional sign. -/
def plainNumberText? (text : List Char) : Option Number.Binary64 :=
  let (negative, body) := match text with
    | '-' :: rest => (true, rest)
    | '+' :: rest => (false, rest)
    | text => (false, text)
  match namedNumber? negative body with
  | some x => some x
  | none => unsignedNumber? negative body

/-- The number that a text writes. Underscores are allowed if no margin is. -/
def numberText? (text : List Char) : Option Number.Binary64 :=
  match plainNumberText? (trimMargin text) with
  | some x => some x
  | none => (dropSingleUnderscores? text).bind plainNumberText?

end Gutter.Validation
