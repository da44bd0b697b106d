import Gutter.Number.Leading
import Gutter.Number.Printed
import Gutter.Shell.Conversion
import Gutter.Tools.Options

/-! Tools that count: sequences of numbers, and the factors of one. -/

namespace Gutter.Tools

open Machine Shell

namespace Counting

/-- A number as an exact fraction, with the width of its text and its places after the point; a text
in another base has none. -/
structure Operand where
  num : Int
  den : Nat
  width : Nat
  places : Option Nat
deriving DecidableEq, Repr

/-- What an operand writes: a number, something without end, or nothing. -/
inductive Written
  | number (operand : Operand)
  | endless (negative : Bool)
  | notNumber
  | wrong
deriving DecidableEq, Repr

/-- The exponent after a letter. -/
def exponent? : List Char → Option Int
  | [] => some 0
  | _ :: text =>
    match Number.leadingInteger? (some 10) text with
    | some (n, []) => some n
    | _ => none

/-- A decimal number, exactly. -/
def decimal? (text : List Char) : Option Operand :=
  let (negative, body) := Number.leadingSign text
  let (mantissa, after) := body.span fun c => c.isDigit || c = '.'
  let isExponent := after.head?.all fun c => c = 'e' || c = 'E'
  match Text.splitOn '.' mantissa, exponent? after with
  | whole :: parts, some exponent =>
    let part := parts.headD []
    if !isExponent || 1 < parts.length || (whole ++ part).isEmpty then none
    else
      let value : Int := Text.valueOfDigits 10 (whole ++ part)
      let power := exponent - part.length
      let (num, den) := if 0 ≤ power then (value * (Nat.pow 10 power.toNat : Nat), 1)
        else (value, Nat.pow 10 (-power).toNat)
      let places := (part.length - exponent).toNat
      let digits := if whole.isEmpty then 1 else whole.length
      let plain := digits + (if part.isEmpty then 0 else part.length + 1)
      let width := if exponent = 0 then plain
        else (digits + exponent).toNat + (if places = 0 then 0 else places + 1)
      some ⟨if negative then -num else num, den, width + (if negative then 1 else 0), some places⟩
  | _, _ => none

def read (text : List Char) : Written :=
  let trimmed := text.dropWhile fun c => c = ' ' || ('\t' ≤ c && c ≤ '\r')
  match decimal? trimmed with
  | some operand => .number operand
  | none =>
    match Number.leadingFloat? trimmed with
    | some (.nan, []) => .notNumber
    | some (.infinity negative, []) => .endless negative
    | some (x, []) =>
      let (num, den) := x.ratio
      .number ⟨if x.isNegative then -num else num, den, 0, none⟩
    | _ => .wrong

/-- A format for numbers: what stands before, the conversion, and what stands after. -/
structure Format where
  before : List Char
  layout : Layout
  letter : Char
  after : List Char

/-- What is wrong with a format. -/
inductive FormatFault
  | none_
  | several
  | unknown (letter : Char)
  | unfinished
deriving DecidableEq, Repr

/-- The text up to the first single percent sign, and what follows it. -/
def plainText : List Char → List Char × Option (List Char)
  | '%' :: '%' :: rest =>
    let (text, found) := plainText rest
    ('%' :: text, found)
  | '%' :: rest => ([], some rest)
  | c :: rest =>
    let (text, found) := plainText rest
    (c :: text, found)
  | [] => ([], none)

def format (text : List Char) : Except FormatFault Format :=
  match plainText text with
  | (_, none) => .error .none_
  | (before, some rest) =>
    let (layout, after) := readLayout ('\'' :: plainFlags) rest
    match (if after.head? = some 'L' then after.drop 1 else after) with
    | [] => .error .unfinished
    | letter :: after =>
      if !(['a', 'A', 'e', 'E', 'f', 'F', 'g', 'G'].contains letter) then .error (.unknown letter)
      else
        match plainText after with
        | (_, some _) => .error .several
        | (after, none) => .ok ⟨before, layout, letter, after⟩

/-- A fraction in a form. -/
def fractionText (form : Number.Form) (precision : Option Nat) (point : Bool) (num den : Nat) :
    List Char :=
  let places := precision.getD 6
  match form with
  | .positional => Number.positionalText num den places point
  | .exponent => Number.exponentForm num den places point
  | .general => Number.generalText num den places point
  | .hexadecimal => Number.Form.text .hexadecimal precision point (.ofRatio false num den)

def Format.text (f : Format) (num : Int) (den : Nat) : List Char :=
  let c := f.layout.conversion [] f.letter
  match c.form? with
  | some form =>
    let body := fractionText form c.precision (c.has '#') num.natAbs den
    let body := if f.letter.isUpper then body.map Char.toUpper else body
    f.before ++ c.pad true (c.sign (num < 0)) body ++ f.after
  | none => []

/-- Numbers with a number of places, filled with zeros to a width. -/
def plain (width places : Nat) (num : Int) (den : Nat) : List Char :=
  let body := Number.positionalText num.natAbs den places false
  let sign := if num < 0 then ['-'] else []
  sign ++ List.replicate (width - sign.length - body.length) '0' ++ body

/-- Writes numbers in pieces, each but the first after a separator. -/
def writeAll (show_ : Int → List Char) (separator : List Char) (step last : Int) :
    Nat → Bool → Int → Act Unit
  | 0, _, _ => pure ()
  | limit + 1, first, n => do
    let isOver (n : Int) : Bool := if 0 < step then last < n else n < last
    let numbers := ((List.range 1000).map fun (i : Nat) => n + step * (i : Int)).takeWhile (!isOver ·)
    let texts := numbers.map fun n => separator ++ show_ n
    let text := texts.flatten
    put (if first then text.drop separator.length else text)
    if numbers.length = 1000 then
      writeAll show_ separator step last limit false (n + step * 1000)

end Counting

open Counting

/-- Negative numbers are no options. -/
def separateNegatives : List (List Char) → List (List Char)
  | a :: rest =>
    let negative := match a with
      | '-' :: c :: _ => c.isDigit || c = '.'
      | _ => false
    if negative then ['-', '-'] :: a :: rest
    else if a = ['-', 's'] || a = ['-', 'f'] then
      match rest with
      | value :: rest => a :: value :: separateNegatives rest
      | [] => [a]
    else if a.head? = some '-' && a ≠ ['-', '-'] && a ≠ ['-'] then a :: separateNegatives rest
    else a :: rest
  | [] => []

def seqOptions : Options :=
  ⟨"f:s:w", [("equal-width", 'w'), ("format", 'f'), ("separator", 's')], false⟩

/-- The numbers that arguments write: the first, the step and the last. -/
def seqRange (texts : List (List Char)) : Act (Except Nat (List Operand)) := do
  let mut operands : List Operand := []
  for text in texts do
    match read text with
    | .number operand => operands := operands ++ [operand]
    | .endless negative =>
      let huge : Int := Nat.pow 10 4000
      operands := operands ++ [⟨if negative then -huge else huge, 1, 0, none⟩]
    | .notNumber =>
      return .error (← misuse 1
        ["invalid ".toList, ← quoted "not-a-number".toList, " argument: ".toList, ← quoted text])
    | .wrong =>
      return .error (← misuse 1 ["invalid floating point argument: ".toList, ← quoted text])
  let one : Operand := ⟨1, 1, 1, some 0⟩
  match operands with
  | [last] => return .ok [one, one, last]
  | [first, last] => return .ok [first, one, last]
  | _ => return .ok operands

def seqOf : Tool := withOptions seqOptions 1 fun c => do
  match c.operands with
  | [] => missingOperand 1
  | _ :: _ :: _ :: other :: _ => extraOperand 1 other
  | texts =>
    let chosen : Option Format ← match c.value? 'f' with
      | none => pure none
      | some text =>
        match format text with
        | .ok f => pure (some f)
        | .error fault =>
          let reason := match fault with
            | .none_ => " has no % directive".toList
            | .several => " has too many % directives".toList
            | .unknown letter => " has unknown %".toList ++ letter :: " directive".toList
            | .unfinished => " ends in %".toList
          warn ["format ".toList, ← quoted text, reason]
          return 1
    match ← seqRange texts with
    | .error status => return status
    | .ok [first, step, last] =>
      if step.num = 0 then
        return ← misuse 1 ["invalid Zero increment value: ".toList, ← quoted (texts.getD 1 [])]
      let den := first.den * step.den * last.den
      let scaled (o : Operand) : Int := o.num * (den / o.den : Nat)
      let show_ : Int → List Char := match chosen, first.places, step.places, last.places with
        | some f, _, _, _ => fun n => f.text n den
        | none, some a, some b, lastPlaces =>
          let places := max a b
          let point (has : Nat) : Nat := if has = 0 && 0 < places then 1 else 0
          let firstWidth := first.width + (places - a) + point a
          let lastPlaces := lastPlaces.getD 0
          let lastWidth := last.width + places + point lastPlaces - lastPlaces
            - (if 0 < lastPlaces && places = 0 then 1 else 0)
          let width := if c.has 'w' then max firstWidth lastWidth else 0
          fun n => plain width places n den
        | none, _, _, _ => fun n =>
          (if n < 0 then ['-'] else []) ++ Number.generalText n.natAbs den 6 false
      let separator := (c.value? 's').getD ['\n']
      let (start, goal, by_) := (scaled first, scaled last, scaled step)
      let empty := if 0 < by_ then goal < start else start < goal
      if !empty then
        let count := ((goal - start).natAbs / by_.natAbs) / 1000 + 1
        writeAll show_ separator by_ goal count true start
        put ['\n']
      return 0
    | .ok _ => return 1

def seq : Tool := fun arguments => seqOf (separateNegatives arguments)

/-! ### Factors -/

namespace Factors

def powerMod (m : Nat) : Nat → Nat → Nat → Nat
  | 0, _, _ => 1
  | bits + 1, base, exponent =>
    let rest := powerMod m bits (base * base % m) (exponent / 2)
    if exponent % 2 = 1 then rest * base % m else rest

/-- Whether a number passes a test that primes pass. -/
def passes (n base : Nat) : Bool :=
  let rec go : Nat → Nat → Nat → Bool
    | 0, _, _ => false
    | limit + 1, odd, twos =>
      if odd % 2 = 0 then go limit (odd / 2) (twos + 1)
      else
        let x := powerMod n (odd.log2 + 1) (base % n) odd
        let squares := (List.range twos).foldl (fun xs _ =>
          match xs with
          | x :: _ => x * x % n :: xs
          | [] => []) [x]
        x = 1 || (squares.drop 1).contains (n - 1) || (0 < twos && squares.getLast? = some (n - 1))
  base % n = 0 || go (n.log2 + 2) (n - 1) 0

def isPrime (n : Nat) : Bool :=
  2 ≤ n && [2, 3, 5, 7, 11, 13, 17, 19, 23, 29, 31, 37, 41].all (passes n)

/-- A factor found by a walk that comes back to itself. -/
def walk (n c : Nat) : Nat → Nat → Nat → Option Nat
  | 0, _, _ => none
  | limit + 1, x, y =>
    let next (x : Nat) : Nat := (x * x + c) % n
    let (x, y) := (next x, next (next y))
    let d := Nat.gcd (x - y + (y - x)) n
    if d = 1 then walk n c limit x y else if d = n then none else some d

/-- The prime factors of a number, in some order. -/
def of : Nat → Nat → List Nat
  | 0, n => [n]
  | depth + 1, n =>
    if n < 2 then []
    else if isPrime n then [n]
    else if n % 2 = 0 then 2 :: of depth (n / 2)
    else
      match (List.range 30).findSome? fun c => walk n (c + 1) 200000 2 2 with
      | some d => of depth d ++ of depth (n / d)
      | none => [n]

end Factors

/-- The line with the factors of a number, or a complaint. -/
def factorLine (text : List Char) : Act Nat := do
  let plain := text.dropWhile (· = ' ')
  let plain := if plain.head? = some '+' then plain.drop 1 else plain
  if plain.isEmpty || !plain.all Char.isDigit then
    warn [← quoted text, " is not a valid positive integer".toList]
    return 1
  else
    let n := Text.valueOfDigits 10 plain
    let factors := (Factors.of 200 n).mergeSort (· ≤ ·)
    putLine (digits n ++ ':' :: factors.flatMap fun p => ' ' :: digits p)
    return 0

def factor : Tool := withOptions ⟨"h", [("exponents", 'h')], true⟩ 1 fun c => do
  let texts ← if c.operands.isEmpty then do
      let bytes := (← inputOf ['-']).getD []
      let blank (c : Char) : Bool := c = ' ' || c = '\t' || c = '\n'
      pure ((bytes.splitBy fun a b => blank a = blank b).filter fun w => !w.head?.any blank)
    else pure c.operands
  let mut status := 0
  for text in texts do status := max status (← factorLine text)
  return status

end Gutter.Tools
