import Gutter.Number.Leading
import Gutter.Number.Printed

/-! Conversions in a format: the flags, the width and the precision of one value, and how a text,
an integer or a floating-point number is written with them. -/

namespace Gutter.Shell

open Number (Binary64)

/-- One conversion of a format. A minus among the flags moves the value to the left. -/
structure Conversion where
  flags : List Char
  width : Nat
  precision : Option Nat
  kind : Char
deriving DecidableEq, Repr

namespace Conversion

def has (c : Conversion) (flag : Char) : Bool := c.flags.contains flag

/-- Fills a value up to the width: zeros go between its start and its digits. -/
def pad (c : Conversion) (zeros : Bool) (start digits : List Char) : List Char :=
  let gap := c.width - (start.length + digits.length)
  if c.has '-' then start ++ digits ++ List.replicate gap ' '
  else if zeros && c.has '0' then start ++ List.replicate gap '0' ++ digits
  else List.replicate gap ' ' ++ start ++ digits

def text (c : Conversion) (text : List Char) : List Char :=
  c.pad false [] (c.precision.elim text text.take)

def isSigned (c : Conversion) : Bool := !(['o', 'u', 'x', 'X'].contains c.kind)

def base (c : Conversion) : Nat :=
  match c.kind with
  | 'o' => 8
  | 'x' => 16
  | 'X' => 16
  | _ => 10

/-- What stands before the digits of a value. -/
def sign (c : Conversion) (negative : Bool) : List Char :=
  if negative then ['-'] else if c.has '+' then ['+'] else if c.has ' ' then [' '] else []

/-- An integer; without a sign it is taken as one of 64 bits. -/
def integer (c : Conversion) (n : Int) : List Char :=
  let size := if c.isSigned then n.natAbs else Number.bitsOf n
  let digits := Nat.toDigits c.base size
  let digits := if c.kind = 'X' then digits.map Char.toUpper else digits
  let digits := if size = 0 && c.precision = some 0 then [] else digits
  let digits := match c.precision with
    | some count => List.replicate (count - digits.length) '0' ++ digits
    | none => digits
  let digits := if c.has '#' && c.kind = 'o' && digits.head? ≠ some '0' then '0' :: digits
    else digits
  let mark := if c.has '#' && size ≠ 0 then
      match c.kind with
      | 'x' => ['0', 'x']
      | 'X' => ['0', 'X']
      | _ => []
    else []
  c.pad c.precision.isNone (if c.isSigned then c.sign (n < 0) else mark) digits

/-- The form of a floating-point number. -/
def form? (c : Conversion) : Option Number.Form :=
  match c.kind.toLower with
  | 'f' => some .positional
  | 'e' => some .exponent
  | 'g' => some .general
  | 'a' => some .hexadecimal
  | _ => none

/-- A floating-point number. -/
def float (c : Conversion) (x : Binary64) : List Char :=
  let digits := (c.form?.getD .general).text c.precision (c.has '#') x
  let digits := if c.kind.isUpper then digits.map Char.toUpper else digits
  c.pad x.isFinite (c.sign x.isNegative) digits

end Conversion

/-- Flags, a width and a precision as they stand in a format; a star takes the next argument. -/
structure Layout where
  flags : List Char
  width : Option (List Char)
  precision : Option (Option (List Char))
deriving DecidableEq, Repr

/-- The flags that every format knows. -/
def plainFlags : List Char := ['#', '-', '+', ' ', '0']

/-- The flags of a format that can also group digits. -/
def groupingFlags : List Char := '\'' :: 'I' :: plainFlags

/-- Reads flags, a width and a precision, and gives what follows. A star is `none`. -/
def readLayout (known format : List Char) : Layout × List Char :=
  let size (text : List Char) : Option (List Char) × List Char :=
    match text with
    | '*' :: rest => (none, rest)
    | text =>
      let digits := text.takeWhile Char.isDigit
      (some digits, text.drop digits.length)
  let flags := format.takeWhile known.contains
  let (width, rest) := size (format.drop flags.length)
  match rest with
  | '.' :: rest =>
    let (precision, rest) := size rest
    (⟨flags, width, some precision⟩, rest)
  | rest => (⟨flags, width, none⟩, rest)

/-- How many arguments the stars take. -/
def Layout.stars (l : Layout) : Nat :=
  (if l.width.isNone then 1 else 0) + (if l.precision = some none then 1 else 0)

/-- The conversion of a layout, with the numbers that the stars took. -/
def Layout.conversion (l : Layout) (taken : List Int) (kind : Char) : Conversion :=
  let decimal (digits : List Char) : Nat := Text.valueOfDigits 10 digits
  let (width, rest) : Int × List Int := match l.width with
    | some digits => (decimal digits, taken)
    | none => (taken.headD 0, taken.drop 1)
  let precision : Option Int := match l.precision with
    | none => none
    | some (some digits) => some (decimal digits)
    | some none => some (rest.headD 0)
  { flags := if width < 0 then '-' :: l.flags else l.flags
    width := width.natAbs
    precision := precision.bind fun n => if n < 0 then none else some n.toNat
    kind }

end Gutter.Shell
