import Gutter.Number.Arithmetic
import Gutter.Shell.Conversion
import Gutter.Text.Split

/-! Values that are texts and numbers at once: how each kind is read as the other, how they compare,
and how they are printed, by themselves and in formats. -/

namespace Gutter.Tools.Awk

open Number (Binary64)
open Shell (Conversion)

/-- A value. A text that came from outside and looks like a number is both. -/
inductive Value
  | unset
  | number (x : Binary64)
  | text (s : List Char)
  | both (s : List Char) (x : Binary64)
deriving DecidableEq, Repr

/-- Blanks around a number. -/
def isGap (c : Char) : Bool := c = ' ' || c = '\t' || ('\x0b' ≤ c && c ≤ '\r')

/-- The number that a text starts with; without one it is zero. -/
def numberIn (text : List Char) : Binary64 := ((Number.leadingFloat? text).map (·.1)).getD (.zero false)

/-! ### Formats -/

/-- A floating-point number in a conversion. What is no number has a sign. -/
def floatIn (c : Conversion) (x : Binary64) : List Char :=
  if x.isNan then c.pad false [] (if c.kind.isUpper then "-NAN".toList else "-nan".toList)
  else c.float x

/-- The most that an integer can be. -/
def topInteger : Int := 0x7fffffffffffffff

/-- The whole part of a number between two bounds. -/
def boundedInt (low high : Int) (x : Binary64) : Int :=
  match x with
  | .nan => low
  | .infinity negative => if negative then low else high
  | x => max low (min high x.toInt)

/-- An integer in a conversion. -/
def integerIn (c : Conversion) (x : Binary64) : List Char :=
  let high := if c.isSigned && c.kind ≠ 'u' then topInteger else 2 * topInteger + 1
  let n := boundedInt (-topInteger) high x
  if c.kind = 'u' then { c with flags := c.flags.filter (! ['+', ' '].contains ·) }.integer
    (Number.bitsOf n)
  else c.integer n

def isFloating (kind : Char) : Bool := ['e', 'E', 'f', 'F', 'g', 'G'].contains kind

def isWhole (kind : Char) : Bool := ['d', 'i', 'o', 'x', 'X', 'u'].contains kind

/-- What a format makes of one number. -/
def formatOne : List Char → Binary64 → List Char
  | [], _ => []
  | '%' :: '%' :: rest, x => '%' :: formatOne rest x
  | '%' :: rest, x =>
    let (layout, after) := Shell.readLayout ('\'' :: Shell.plainFlags) rest
    match after with
    | kind :: after =>
      let c := layout.conversion [] kind
      if isFloating kind then floatIn c x ++ after
      else if isWhole kind then integerIn c x ++ after
      else '%' :: rest
    | [] => '%' :: rest
  | c :: rest, x => c :: formatOne rest x

/-- The text of a number: whole ones have all their digits, and others are formatted. -/
def numberText (format : List Char) (x : Binary64) : List Char :=
  let n := boundedInt (-topInteger) topInteger x
  if x.isFinite && (Binary64.ofInt n).compare? x = some .eq then (toString n).toList
  else formatOne format x

namespace Value

def empty : Value := .text []

def ofNat (n : Nat) : Value := .number (.ofNat n)

def ofInt (n : Int) : Value := .number (.ofInt n)

def ofBool (fact : Bool) : Value := ofNat fact.toNat

/-- A text from outside. -/
def ofInput (text : List Char) : Value :=
  let shown := Text.trimWhere isGap text
  match shown.head?, shown.getLast? with
  | some first, some last =>
    if (last.isDigit || last = '.') && (first.isDigit || ['+', '-', '.'].contains first) then
      match Number.leadingFloat? shown with
      | some (x, []) => .both text x
      | _ => .text text
    else .text text
  | _, _ => .text text

def toNumber : Value → Binary64
  | .unset => .zero false
  | .number x => x
  | .text s => numberIn s
  | .both _ x => x

def toText (format : List Char) : Value → List Char
  | .unset => []
  | .number x => numberText format x
  | .text s => s
  | .both s _ => s

def isTrue : Value → Bool
  | .unset => false
  | .number x => !x.isZero
  | .text s => !s.isEmpty
  | .both _ x => !x.isZero

def isText : Value → Bool
  | .text _ => true
  | _ => false

end Value

/-- Texts compare by their bytes. -/
def compareTexts : List Char → List Char → Ordering
  | [], [] => .eq
  | [], _ :: _ => .lt
  | _ :: _, [] => .gt
  | a :: as, b :: bs => (compare a.toNat b.toNat).then (compareTexts as bs)

/-- Values compare as texts if one of them is only a text, and as numbers otherwise. -/
def Value.compare (format : List Char) (a b : Value) : Ordering :=
  if a.isText || b.isText then compareTexts (a.toText format) (b.toText format)
  else (a.toNumber.compare? b.toNumber).getD .eq

/-! ### Formats with the values for their conversions -/

/-- What is wrong with a format: there is no value for a conversion, or it has no meaning. -/
inductive FormatFault
  | tooFew
  | improper (number : Nat)
deriving DecidableEq, Repr

def FormatFault.text : FormatFault → List Char
  | .tooFew => "not enough arguments passed to ".toList
  | .improper number => s!"improper conversion(number {number}) in ".toList

/-- The character that a value stands for. -/
def characterOf (v : Value) : Char :=
  let coded (x : Number.Binary64) : Char := Char.ofNat (Number.bitsOf x.toInt % 256)
  match v with
  | .text s => s.headD '\x00'
  | .unset => '\x00'
  | .number x => coded x
  | .both _ x => coded x

/-- A value in a conversion. -/
def valueIn (format : List Char) (c : Conversion) (v : Value) : List Char :=
  if c.kind = 's' then c.text (v.toText format)
  else if c.kind = 'c' then { c with precision := none }.text [characterOf v]
  else if isFloating c.kind then floatIn c v.toNumber
  else integerIn c v.toNumber

/-- The whole numbers that stars take. -/
def starsFrom (count : Nat) (values : List Value) : List Int :=
  (values.take count).map fun v => boundedInt (-0x7fffffff) 0x7fffffff v.toNumber

/-- Prints values by a format. `number` counts the conversions; what was printed before a fault is
kept. -/
def printValues (texts : List Char) : Nat → Nat → List Char → List Value →
    List Char × Option FormatFault
  | 0, _, _, _ => ([], none)
  | _, _, [], _ => ([], none)
  | limit + 1, number, '%' :: '%' :: rest, values =>
    let (text, fault) := printValues texts limit number rest values
    ('%' :: text, fault)
  | limit + 1, number, '%' :: rest, values =>
    let (layout, after) := Shell.readLayout ('\'' :: Shell.plainFlags) rest
    let after := after.dropWhile ['l', 'h'].contains
    if values.length < layout.stars + 1 then ([], some .tooFew)
    else
      match after with
      | [] => ([], some (.improper number))
      | kind :: after =>
        let value := (values.drop layout.stars).headD .unset
        if isFloating kind || isWhole kind || kind = 's' || kind = 'c' then
          let c := layout.conversion (starsFrom layout.stars values) kind
          let (text, fault) :=
            printValues texts limit (number + 1) after (values.drop (layout.stars + 1))
          (valueIn texts c value ++ text, fault)
        else ([], some (.improper number))
  | limit + 1, number, c :: rest, values =>
    let (text, fault) := printValues texts limit number rest values
    (c :: text, fault)

end Gutter.Tools.Awk
