import Gutter.Text.CharClass
import Gutter.Text.Split

/-! Numbers in texts: decimal numerals of any script, and the longest numeral that is converted. -/

namespace Gutter.Text

/-- Numerals with more digits than this are refused. -/
def digitLimit : Nat := 4300

/-- A numeral of `digits` digits is too long to be converted. -/
structure NumeralTooLong where
  digits : Nat
deriving DecidableEq, Repr

def NumeralTooLong.message (e : NumeralTooLong) : String :=
  s!"Exceeds the limit ({digitLimit} digits) for integer string conversion: value has " ++
    s!"{e.digits} digits; use sys.set_int_max_str_digits() to increase the limit"

/-- The number that decimal digits of any script write. -/
def decimalNumber (digits : List Char) : Nat :=
  digits.foldl (fun n c => n * 10 + (decimalValue? c).getD 0) 0

/-- A plain number: decimal digits alone, at least one. -/
def isNumeral (text : List Char) : Bool := !text.isEmpty && text.all isDecimal

/-- The number that `text` writes between blanks: `none` if it is not a plain number. -/
def plainNumber? (text : List Char) : Except NumeralTooLong (Option Nat) :=
  let digits := trimWhere isBlank text
  if !isNumeral digits then .ok none
  else if digitLimit < digits.length then .error ⟨digits.length⟩
  else .ok (some (decimalNumber digits))

/-- Digits with single underscores between them. -/
def dropUnderscores? : List Char → Option (List Char)
  | [] => none
  | [c] => if isDecimal c then some [c] else none
  | c :: '_' :: d :: rest =>
    if isDecimal c then (dropUnderscores? (d :: rest)).map (c :: ·) else none
  | c :: d :: rest => if isDecimal c then (dropUnderscores? (d :: rest)).map (c :: ·) else none

/-- The integer that `text` writes between blanks, with an optional sign and single underscores
between digits. -/
def integer? (text : List Char) : Option Int :=
  let body := trimWhere isBlank text
  let (negative, digits) := match body with
    | '-' :: rest => (true, rest)
    | '+' :: rest => (false, rest)
    | _ => (false, body)
  match dropUnderscores? digits with
  | none => none
  | some digits =>
    if digitLimit < digits.length then none
    else
      let n : Int := decimalNumber digits
      some (if negative then -n else n)

end Gutter.Text
