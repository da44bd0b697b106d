import Gutter.Number.Binary64

/-! Texts of floating-point numbers: the fewest decimal digits that read back, and a number of places
asked for. -/

namespace Gutter.Number

/-! ### The fewest digits

They read back to the number, and there is at least one digit after the point. -/

/-- `digits * 10 ^ exponent`. -/
structure Decimal where
  digits : Nat
  exponent : Int
deriving DecidableEq, Repr

/-- The fraction `num / den / 10 ^ exponent`. -/
def scaleTen (num den : Nat) (exponent : Int) : Nat × Nat :=
  if 0 ≤ exponent then (num, den * Nat.pow 10 exponent.toNat)
  else (num * Nat.pow 10 (-exponent).toNat, den)

/-- The decimal as a fraction. -/
def Decimal.ratio (x : Decimal) : Nat × Nat := scaleTen x.digits 1 (-x.exponent)

/-- The multiples of `10 ^ exponent` on both sides of a fraction, the nearer one first. -/
def neighbours (num den : Nat) (exponent : Int) : List Decimal :=
  let (n, d) := scaleTen num den exponent
  let low := n / d
  if roundQuotient n d = low then [⟨low, exponent⟩, ⟨low + 1, exponent⟩]
  else [⟨low + 1, exponent⟩, ⟨low, exponent⟩]

/-- A fraction is less than `10 ^ exponent`. -/
def belowPower (num den : Nat) (exponent : Int) : Bool :=
  let (n, d) := scaleTen num den exponent
  n < d

/-- The number of digits before the point of a positive fraction; zeros right after the point count
against it. -/
def digitsBefore (num den : Nat) : Int :=
  let guess := ((num.log2 : Int) - den.log2) * 30103 / 100000
  (([guess - 1, guess, guess + 1].find? (belowPower num den ·)).getD (guess + 2))

/-- The first of the candidates that reads back as `x`, on the coarsest grid that has one. -/
def readsBack (x : Binary64) (num den : Nat) (before : Int) : Nat → Nat → Decimal
  | 0, _ => ⟨num / den, 0⟩
  | fuel + 1, count =>
    match (neighbours num den (before - count)).find? fun decimal =>
        Binary64.ofDecimal x.isNegative decimal.digits decimal.exponent = x with
    | some decimal => decimal
    | none => readsBack x num den before fuel (count + 1)

/-- The decimal with the fewest digits that reads back as the finite number `x`, and of those the
nearest. Seventeen digits always read back. -/
def shortest (x : Binary64) : Decimal :=
  let (num, den) := x.ratio
  if num = 0 then ⟨0, 0⟩ else readsBack x num den (digitsBefore num den) 17 1

def trimZeros (digits : List Char) : List Char :=
  (digits.reverse.dropWhile (· = '0')).reverse

/-- The digits of an exponent, at least two, after its sign. -/
def exponentText (exponent : Int) : String :=
  let digits := toString exponent.natAbs
  (if exponent < 0 then "-" else "+") ++ (if digits.length < 2 then "0" ++ digits else digits)

/-- The shortest text: positional from `0.0001` to below `10 ^ 16`, and always with a point or an
exponent. -/
def magnitudeText (x : Binary64) : String :=
  let decimal := shortest x
  let all := (toString decimal.digits).toList
  let before : Int := all.length + decimal.exponent
  let digits := trimZeros all
  if digits.isEmpty then "0.0"
  else if before < -3 ∨ 16 < before then
    let tail := digits.drop 1
    String.ofList (digits.take 1) ++ (if tail.isEmpty then "" else "." ++ String.ofList tail)
      ++ "e" ++ exponentText (before - 1)
  else if before ≤ 0 then
    "0." ++ String.ofList (List.replicate (-before).toNat '0' ++ digits)
  else
    let whole := digits.take before.toNat
    let zeros := List.replicate (before.toNat - whole.length) '0'
    let tail := digits.drop before.toNat
    String.ofList (whole ++ zeros) ++ "." ++ (if tail.isEmpty then "0" else String.ofList tail)

def floatText (x : Binary64) : String :=
  let sign := if x.isNegative then "-" else ""
  match x with
  | .nan => "nan"
  | .infinity _ => sign ++ "inf"
  | .finite .. => sign ++ magnitudeText x

/-- With one digit after the point. -/
def tenthsText (x : Binary64) : String :=
  let sign := if x.isNegative then "-" else ""
  match x with
  | .nan => "nan"
  | .infinity _ => sign ++ "inf"
  | .finite .. =>
    let (num, den) := x.ratio
    let tenths := roundQuotient (num * 10) den
    sign ++ s!"{tenths / 10}.{tenths % 10}"

/-! ### Places asked for

Positional, with an exponent, the shorter of both, and in hexadecimal digits. A half goes to the even
neighbour. -/

/-- How a number is printed. -/
inductive Form
  | positional
  | exponent
  | general
  | hexadecimal
deriving DecidableEq, Repr

/-- A number of digits with a point before the last `places` of them. -/
def withPoint (places : Nat) (point : Bool) (n : Nat) : List Char :=
  let digits := Nat.toDigits 10 n
  let digits := List.replicate (places + 1 - digits.length) '0' ++ digits
  let whole := digits.take (digits.length - places)
  let part := digits.drop (digits.length - places)
  whole ++ if part.isEmpty && !point then [] else '.' :: part

/-- A fraction with a number of places after the point. -/
def positionalText (num den places : Nat) (point : Bool) : List Char :=
  withPoint places point (roundQuotient (num * Nat.pow 10 places) den)

/-- The digits of a fraction, one more than `places`, and the exponent of the first. -/
def digitsAndExponent (num den places : Nat) : Nat × Int :=
  if num = 0 then (0, 0)
  else
    let first := digitsBefore num den - 1
    let (n, d) := scaleTen num den (first - places)
    let digits := roundQuotient n d
    if digits = Nat.pow 10 (places + 1) then (digits / 10, first + 1) else (digits, first)

/-- A fraction with one digit before the point and an exponent. -/
def exponentForm (num den places : Nat) (point : Bool) : List Char :=
  let (digits, exponent) := digitsAndExponent num den places
  withPoint places point digits ++ 'e' :: (exponentText exponent).toList

/-- Without zeros at the end of the places after a point. -/
def dropLastZeros (text : List Char) : List Char :=
  let (number, exponent) := text.span (· ≠ 'e')
  if number.contains '.' then
    let kept := trimZeros number
    (if kept.getLast? = some '.' then kept.dropLast else kept) ++ exponent
  else text

/-- A fraction with so many digits that count, in the shorter of two forms. -/
def generalText (num den digits : Nat) (point : Bool) : List Char :=
  let digits := max digits 1
  let exponent := (digitsAndExponent num den (digits - 1)).2
  let text := if -4 ≤ exponent ∧ exponent < digits then
      positionalText num den (digits - 1 - exponent).toNat point
    else exponentForm num den (digits - 1) point
  if point then text else dropLastZeros text

/-- A mantissa of 52 bits after the point in hexadecimal digits, and a binary exponent. -/
def hexadecimalText (mantissa : Nat) (exponent : Int) (places : Option Nat) (point : Bool) :
    List Char :=
  let lead := mantissa.log2
  let (mantissa, exponent) := if mantissa = 0 then (0, 0)
    else (mantissa * Nat.pow 2 (52 - lead), exponent + lead)
  let places' := places.getD 13
  let scaled := if places' < 13 then roundQuotient mantissa (Nat.pow 16 (13 - places'))
    else mantissa * Nat.pow 16 (places' - 13)
  let digits := Nat.toDigits 16 scaled
  let digits := List.replicate (places' + 1 - digits.length) '0' ++ digits
  let part := digits.drop (digits.length - places')
  let part := if places.isNone then trimZeros part else part
  "0x".toList ++ digits.take (digits.length - places')
    ++ (if part.isEmpty && !point then [] else '.' :: part)
    ++ 'p' :: (if exponent < 0 then '-' else '+') :: Nat.toDigits 10 exponent.natAbs

/-- The magnitude of a number; six places unless others are asked for. -/
def Form.text (form : Form) (precision : Option Nat) (point : Bool) (x : Binary64) : List Char :=
  let (num, den) := x.ratio
  match x with
  | .nan => "nan".toList
  | .infinity _ => "inf".toList
  | .finite _ mantissa power =>
    match form with
    | .positional => positionalText num den (precision.getD 6) point
    | .exponent => exponentForm num den (precision.getD 6) point
    | .general => generalText num den (precision.getD 6) point
    | .hexadecimal => hexadecimalText mantissa power precision point

end Gutter.Number
