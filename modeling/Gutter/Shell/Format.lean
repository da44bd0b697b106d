import Gutter.Shell.Conversion
import Gutter.Shell.Text
import Gutter.Text.Split

/-! Printing: words with their escapes, and formats with their arguments. The shell prints by itself
and a tool of the same name prints with more escapes and other words for its faults. -/

namespace Gutter.Shell

open Number (Binary64)

/-- What is printed for words, each but the first after a space. -/
def echoText : List (List Char) → List Char
  | ['-', 'n'] :: rest => (unescapeFrom false 0 (Text.joinWith ' ' rest)).1
  | words =>
    let (text, stop) := unescapeFrom false 0 (Text.joinWith ' ' words)
    if stop.isSome then text else text ++ ['\n']

/-- What is wrong with a format or an argument. The last three end printing. -/
inductive PrintFault
  | notNumeric (argument : List Char)
  | notWhole (argument : List Char)
  | outOfRange (argument : List Char)
  | afterCharacter (rest : List Char)
  | excess (argument : List Char)
  | missingConversion
  | badConversion (conversion : List Char)
  | missingDigits
deriving DecidableEq, Repr

def PrintFault.ends : PrintFault → Bool
  | .missingConversion => true
  | .badConversion _ => true
  | .missingDigits => true
  | _ => false

/-- Some faults are warnings that leave the status as it is. -/
def PrintFault.isWarning : PrintFault → Bool
  | .afterCharacter _ => true
  | .excess _ => true
  | _ => false

/-- What the shell says. -/
def PrintFault.inShell : PrintFault → List Char
  | .notNumeric argument => argument ++ ": expected numeric value".toList
  | .notWhole argument => argument ++ ": not completely converted".toList
  | .outOfRange argument => argument ++ ": Numerical result out of range".toList
  | .missingConversion => "missing format character".toList
  | .badConversion conversion => conversion ++ ": invalid directive".toList
  | _ => []

/-- What has been printed, the newest first: texts and faults. -/
structure Printed where
  pieces : List (PrintFault ⊕ List Char)
  ended : Bool
deriving DecidableEq, Repr

namespace Printed

def add (p : Printed) (text : List Char) : Printed := { p with pieces := .inr text :: p.pieces }

def fault (p : Printed) (fault : PrintFault) : Printed :=
  ⟨.inl fault :: p.pieces, p.ended || fault.ends⟩

def faults (p : Printed) : List PrintFault :=
  (p.pieces.filterMap fun
    | .inl fault => some fault
    | .inr _ => none).reverse

def text (p : Printed) : List Char :=
  (p.pieces.filterMap fun
    | .inl _ => none
    | .inr text => some text).reverse.flatten

end Printed

/-- An argument that starts with a quote asks for the number of a character. -/
def quotedCharacter? : List Char → Option (Char × List Char)
  | '\'' :: c :: rest => some (c, rest)
  | '"' :: c :: rest => some (c, rest)
  | _ => none

/-- Notes how much of an argument a number took. -/
def checkRest (p : Printed) (argument rest : List Char) (found inRange : Bool) : Printed :=
  if !found then if argument.isEmpty then p else p.fault (.notNumeric argument)
  else if !rest.isEmpty then p.fault (.notWhole argument)
  else if !inRange then p.fault (.outOfRange argument)
  else p

def checkQuoted (p : Printed) (wide : Bool) (rest : List Char) : Printed :=
  if wide && !rest.isEmpty then p.fault (.afterCharacter rest) else p

/-- The integer that an argument writes, within 64 bits. -/
def integerArgument (p : Printed) (wide signed : Bool) (argument : List Char) : Printed × Int :=
  match quotedCharacter? argument with
  | some (c, rest) => (checkQuoted p wide rest, c.toNat)
  | none =>
    match Number.leadingInteger? none argument with
    | none => (checkRest p argument argument false true, 0)
    | some (n, rest) =>
      let top : Int := Number.wordCount - 1
      let bounded := if signed then Number.clamp n else if n < -top ∨ top < n then top else n
      (checkRest p argument rest true (bounded = n), bounded)

/-- The floating-point number that an argument writes. -/
def floatArgument (p : Printed) (wide : Bool) (argument : List Char) : Printed × Binary64 :=
  match quotedCharacter? argument with
  | some (c, rest) => (checkQuoted p wide rest, .ofNat c.toNat)
  | none =>
    match Number.leadingFloat? argument with
    | none => (checkRest p argument argument false true, .zero false)
    | some (x, rest) => (checkRest p argument rest true true, x)

/-- A word in quotes, so that a shell reads it as it is. -/
def quotedWord (text : List Char) : List Char :=
  let plain (c : Char) : Bool :=
    c.isAlphanum || ['_', '-', '.', '/', ',', ':', '@', '%', '+', '='].contains c
  if text.isEmpty then ['\'', '\'']
  else if text.all plain then text
  else if text.contains '\'' && !text.any ['"', '$', '\\', '!'].contains then '"' :: text ++ ['"']
  else '\'' :: text.flatMap (fun c => if c = '\'' then ['\'', '\\', '\'', '\''] else [c]) ++ ['\'']

/-- Prints one argument. -/
def printArgument (wide : Bool) (p : Printed) (c : Conversion) (argument : List Char) : Printed :=
  match c.kind with
  | 's' => p.add (c.text argument)
  | 'c' => p.add (c.text (if argument.isEmpty then ['\x00'] else argument.take 1))
  | 'q' => p.add (c.text (quotedWord argument))
  | 'b' =>
    let (text, stop) := unescapeFrom wide 0 argument
    let p := p.add (c.text text)
    if stop = some .missingDigits then p.fault .missingDigits
    else { p with ended := p.ended || stop.isSome }
  | _ =>
    if c.form?.isSome then
      let (p, x) := floatArgument p wide argument
      p.add (c.float x)
    else
      let (p, n) := integerArgument p wide c.isSigned argument
      p.add (c.integer n)

/-- Whether a letter prints something. A tool refuses flags and precisions that mean nothing to it. -/
def isConversion (wide : Bool) (layout : Layout) (c : Char) : Bool :=
  let bad (flag : Char) (letters : List Char) : Bool :=
    layout.flags.contains flag && letters.contains c
  let refused := wide && (['\'', 'I'].any (bad · ['a', 'A', 'c', 'e', 'E', 'o', 's', 'x', 'X'])
    || bad '#' ['c', 'd', 'i', 's', 'u'] || bad '0' ['c', 's']
    || (layout.precision.isSome && c = 'c'))
  (['s', 'c', 'd', 'i', 'o', 'u', 'x', 'X', 'e', 'E', 'f', 'F', 'g', 'G', 'a', 'A'].contains c
      && !refused)
    || (c = 'b' && (!wide || layout = ⟨[], some [], none⟩))
    || (c = 'q' && wide && layout = ⟨[], some [], none⟩)

/-- The numbers that stars take from the arguments. -/
def takeStars (wide : Bool) : Nat → Printed → List (List Char) → Printed × List Int
  | 0, p, _ => (p, [])
  | count + 1, p, arguments =>
    let (p, n) := integerArgument p wide true (arguments.headD [])
    let (p, rest) := takeStars wide count p (arguments.drop 1)
    (p, n :: rest)

/-- Goes through a format once, and gives the arguments that are left. -/
def printOnce (wide : Bool) : Nat → List Char → List (List Char) → Printed →
    Printed × List (List Char)
  | 0, _, arguments, p => (p, arguments)
  | _, [], arguments, p => (p, arguments)
  | limit + 1, c :: rest, arguments, p =>
    if c = '\\' then
      match escape wide rest with
      | .chars chars size => printOnce wide limit (rest.drop size) arguments (p.add chars)
      | .ends => ({ p with ended := true }, arguments)
      | .missingDigits => (p.fault .missingDigits, arguments)
    else if c ≠ '%' then printOnce wide limit rest arguments (p.add [c])
    else if rest.head? = some '%' then printOnce wide limit (rest.drop 1) arguments (p.add ['%'])
    else
      let (layout, after) := readLayout (if wide then groupingFlags else plainFlags) rest
      let after := if wide then after.dropWhile ['l', 'L', 'h', 'j', 't', 'z'].contains else after
      let shown := '%' :: rest.take (rest.length - after.length + 1)
      match after with
      | [] =>
        (p.fault (if wide then .badConversion shown else .missingConversion), arguments)
      | kind :: after =>
        if !isConversion wide layout kind then (p.fault (.badConversion shown), arguments)
        else
          let (p, taken) := takeStars wide layout.stars p arguments
          let arguments := arguments.drop layout.stars
          let p := printArgument wide p (layout.conversion taken kind) (arguments.headD [])
          if p.ended then (p, arguments)
          else printOnce wide limit after (arguments.drop 1) p

/-- Goes through a format as long as it takes arguments and some are left. -/
def printAll (wide : Bool) : Nat → List Char → List (List Char) → Printed → Printed
  | 0, _, _, p => p
  | limit + 1, format, arguments, p =>
    let (p, left) := printOnce wide (format.length + 1) format arguments p
    if p.ended || left.isEmpty then p
    else if left.length = arguments.length then
      if wide then p.fault (.excess (left.headD [])) else p
    else printAll wide limit format left p

def printf (wide : Bool) (format : List Char) (arguments : List (List Char)) : Printed :=
  printAll wide (arguments.length + 1) format arguments ⟨[], false⟩

end Gutter.Shell
