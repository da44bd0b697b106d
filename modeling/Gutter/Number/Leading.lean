import Gutter.Number.Binary64
import Gutter.Text.CharClass
import Gutter.Text.Hex

/-! Integers of 64 bits with a sign, and numbers at the start of a text with what follows them:
integers in three bases, and floating-point numbers. Blanks in front do not count; a text that starts
with no number is left as it is. -/

namespace Gutter.Number

/-! ### Integers of 64 bits -/

/-- How many integers of 64 bits there are. -/
def wordCount : Nat := 0x10000000000000000

/-- The integer of 64 bits that differs from `n` by a multiple of their number. -/
def wrap (n : Int) : Int := Int.bmod n wordCount

/-- The nearest integer of 64 bits. -/
def clamp (n : Int) : Int :=
  let half : Int := wordCount / 2
  max (-half) (min n (half - 1))

/-- The bits of an integer, as a natural number. -/
def bitsOf (n : Int) : Nat := (n % wordCount).toNat

/-! ### Numbers that texts start with -/

/-- A sign, and what follows it. -/
def leadingSign : List Char → Bool × List Char
  | '-' :: rest => (true, rest)
  | '+' :: rest => (false, rest)
  | text => (false, text)

/-- The base that a text of digits announces, and the digits. -/
def announcedBase : List Char → Nat × List Char
  | '0' :: x :: c :: rest =>
    if (x = 'x' || x = 'X') && Text.isHexDigit c then (16, c :: rest) else (8, '0' :: x :: c :: rest)
  | '0' :: rest => (8, '0' :: rest)
  | text => (10, text)

def isDigitOf (base : Nat) (c : Char) : Bool :=
  Text.isHexDigit c && Text.hexDigitValue c < base

/-- The integer that a text starts with; `none` if it starts with none. The base is announced by the
text, unless it is given. -/
def leadingInteger? (base : Option Nat) (text : List Char) : Option (Int × List Char) :=
  let (negative, rest) := leadingSign (text.dropWhile Text.isAsciiBlank)
  let (base, rest) := match base with
    | some base => (base, rest)
    | none => announcedBase rest
  let digits := rest.takeWhile (isDigitOf base)
  if digits.isEmpty then none
  else
    let n : Int := Text.valueOfDigits base digits
    some (if negative then -n else n, rest.drop digits.length)

/-- An exponent, and what follows it; without digits there is none. -/
def leadingExponent (marks : List Char) (text : List Char) : Int × List Char :=
  match text with
  | mark :: rest =>
    let (negative, rest) := leadingSign rest
    let digits := rest.takeWhile Text.isAsciiDigit
    if marks.contains mark && !digits.isEmpty then
      let n : Int := Text.valueOfDigits 10 digits
      (if negative then -n else n, rest.drop digits.length)
    else (0, text)
  | [] => (0, text)

/-- Digits with a point: all of them, how many stand after the point, and what follows. -/
def leadingDigits (isDigit : Char → Bool) (text : List Char) : List Char × Nat × List Char :=
  let whole := text.takeWhile isDigit
  match text.drop whole.length with
  | '.' :: rest =>
    let part := rest.takeWhile isDigit
    if whole.isEmpty && part.isEmpty then ([], 0, text)
    else (whole ++ part, part.length, rest.drop part.length)
  | rest => (whole, 0, rest)

/-- A number of hexadecimal digits with a binary exponent. -/
def ofHexadecimal (negative : Bool) (digits : List Char) (places : Nat) (exponent : Int) :
    Binary64 :=
  let exponent := exponent - 4 * places
  let n := Text.hexValue digits
  if 2000 < exponent ∧ n ≠ 0 then .infinity negative
  else if exponent < -5000 then .zero negative
  else
    let (num, den) := scaleDown n 1 (-exponent)
    .ofRatio negative num den

/-- A word that stands for a number, in any case of letters. -/
def leadingWord? (word : String) (text : List Char) : Option (List Char) :=
  let length := word.length
  if (text.take length).map Char.toLower = word.toList then some (text.drop length) else none

/-- The floating-point number that a text starts with. -/
def leadingFloat? (text : List Char) : Option (Binary64 × List Char) :=
  let (negative, rest) := leadingSign (text.dropWhile Text.isAsciiBlank)
  let hexadecimal : Option (Binary64 × List Char) :=
    match rest with
    | '0' :: x :: after =>
      let (digits, places, after) := leadingDigits Text.isHexDigit after
      if (x = 'x' || x = 'X') && !digits.isEmpty then
        let (exponent, after) := leadingExponent ['p', 'P'] after
        some (ofHexadecimal negative digits places exponent, after)
      else none
    | _ => none
  let word : Option (Binary64 × List Char) :=
    match leadingWord? "infinity" rest, leadingWord? "inf" rest, leadingWord? "nan" rest with
    | some after, _, _ => some (.infinity negative, after)
    | _, some after, _ => some (.infinity negative, after)
    | _, _, some after => some (.nan, after)
    | _, _, _ => none
  match hexadecimal, word with
  | some found, _ => some found
  | _, some found => some found
  | none, none =>
    let (digits, places, after) := leadingDigits Text.isAsciiDigit rest
    if digits.isEmpty then none
    else
      let (exponent, after) := leadingExponent ['e', 'E'] after
      some (.ofDecimal negative (Text.valueOfDigits 10 digits) (exponent - places), after)

end Gutter.Number
