import Gutter.Number.Leading
import Gutter.Shell.Format
import Gutter.Tools.Options

/-! Tools that print their arguments, parts of them, or nothing. -/

namespace Gutter.Tools

open Machine Shell

def succeed : Tool := fun _ => pure 0

def fails : Tool := fun _ => pure 1

/-! ### Words -/

/-- The escapes of printed words; `none` ends all printing. -/
def echoEscape : List Char → Option (List Char × Nat)
  | 'a' :: _ => some (['\x07'], 1)
  | 'b' :: _ => some (['\x08'], 1)
  | 'c' :: _ => none
  | 'e' :: _ => some (['\x1b'], 1)
  | 'f' :: _ => some (['\x0c'], 1)
  | 'n' :: _ => some (['\n'], 1)
  | 'r' :: _ => some (['\r'], 1)
  | 't' :: _ => some (['\t'], 1)
  | 'v' :: _ => some (['\x0b'], 1)
  | '\\' :: _ => some (['\\'], 1)
  | 'x' :: rest =>
    let digits := (rest.take 2).takeWhile Text.isHexDigit
    if digits.isEmpty then some (['\\', 'x'], 1)
    else some ([Char.ofNat (Text.hexValue digits)], digits.length + 1)
  | c :: rest =>
    let isOctal (c : Char) : Bool := '0' ≤ c && c ≤ '7'
    if !isOctal c then some (['\\', c], 1)
    else
      let digits := ((if c = '0' then rest else c :: rest).take 3).takeWhile isOctal
      let value := Text.valueOfDigits 8 digits % 256
      some ([Char.ofNat value], digits.length + if c = '0' then 1 else 0)
  | [] => some (['\\'], 0)

/-- A text with its escapes replaced, and whether printing goes on after it. -/
def echoEscapes : Nat → List Char → List Char × Bool
  | 0, _ => ([], true)
  | _, [] => ([], true)
  | limit + 1, '\\' :: rest =>
    match echoEscape rest with
    | none => ([], false)
    | some (chars, size) =>
      let (others, goesOn) := echoEscapes limit (rest.drop size)
      (chars ++ others, goesOn)
  | limit + 1, c :: rest =>
    let (others, goesOn) := echoEscapes limit rest
    (c :: others, goesOn)

/-- Options of printed words: nothing else is in the argument. -/
def isEchoOption (argument : List Char) : Bool :=
  match argument with
  | '-' :: c :: letters => (c :: letters).all ['n', 'e', 'E'].contains
  | _ => false

def echo : Tool := fun arguments => do
  let options := (arguments.takeWhile isEchoOption).flatMap (·.drop 1)
  let words := arguments.drop (arguments.takeWhile isEchoOption).length
  let text := (words.intersperse [' ']).flatten
  let escapes := (options.filter (· ≠ 'n')).getLast? = some 'e'
  let (text, goesOn) := if escapes then echoEscapes (text.length + 1) text else (text, true)
  put (text ++ if goesOn && !options.contains 'n' then ['\n'] else [])
  return 0

/-- What is said of a fault in a format or an argument. -/
def printFaultText (fault : PrintFault) : Act (List (List Char)) := do
  match fault with
  | .notNumeric argument => return [← quoted argument, ": expected a numeric value".toList]
  | .notWhole argument => return [← quoted argument, ": value not completely converted".toList]
  | .outOfRange argument => return [← quoted argument, ": Numerical result out of range".toList]
  | .afterCharacter rest =>
    return ["warning: ".toList, rest,
      ": character(s) following character constant have been ignored".toList]
  | .excess argument =>
    return ["warning: ignoring excess arguments, starting with ".toList, ← quoted argument]
  | .missingConversion => return ["missing format character".toList]
  | .badConversion conversion => return [conversion, ": invalid conversion specification".toList]
  | .missingDigits => return ["missing hexadecimal number in escape".toList]

def printFormat : Tool := fun arguments => do
  match (if arguments.head? = some ['-', '-'] then arguments.drop 1 else arguments) with
  | [] => missingOperand 1
  | format :: rest =>
    let mut status := 0
    for piece in (Shell.printf true format rest).pieces.reverse do
      match piece with
      | .inl fault =>
        warn (← printFaultText fault)
        if !fault.isWarning then status := 1
      | .inr text => put text
    return status

/-- Writes a line without end. -/
def yes : Tool := withOptions { letters := "" } 1 fun c => do
  let line := if c.operands.isEmpty then ['y'] else (c.operands.intersperse [' ']).flatten
  let count := 8192 / (line.length + 1) + 1
  let block := (List.replicate count (line ++ ['\n'])).flatten
  for _ in [0:pipeLimit] do
    spend 5
    put block
  throw .overdue

/-- Tests a condition; `bracket` asks for a bracket at its end. -/
def test (bracket : Bool) : Tool := fun arguments => do
  let files := (← get).files
  let words := if bracket then arguments.dropLast else arguments
  let result := if bracket && arguments.getLast? ≠ some [']'] then .error .missingBracket
    else Condition.holds files words
  match result with
  | .ok found => return if found then 0 else 1
  | .error fault =>
    match fault with
    | .illegalNumber text => warn ["invalid integer ".toList, ← quoted text]
    | .argumentExpected text => warn ["missing argument after ".toList, ← quoted text]
    | .closingParenthesis => warn ["')' expected".toList]
    | .missingBracket => warn ["missing ".toList, ← quoted [']']]
    | .unexpectedOperator _ =>
      match words with
      | [word, _] => warn [← quoted word, ": unary operator expected".toList]
      | [_, word, _] => warn [← quoted word, ": binary operator expected".toList]
      | _ => warn ["extra argument ".toList, ← quoted (words.getLastD [])]
    return 2

/-! ### Paths -/

/-- The last part of a path. -/
def lastPart (path : List Char) : List Char :=
  let trimmed := path.reverse.dropWhile (· = '/')
  if trimmed.isEmpty && !path.isEmpty then ['/'] else (trimmed.takeWhile (· ≠ '/')).reverse

/-- The path of the directory that a path is in. -/
def partsBefore (path : List Char) : List Char :=
  let above := ((path.reverse.dropWhile (· = '/')).dropWhile (· ≠ '/')).dropWhile (· = '/')
  if above.isEmpty then if path.head? = some '/' then ['/'] else ['.'] else above.reverse

/-- Takes an ending from a name that has more than that. -/
def withoutEnding (ending name : List Char) : List Char :=
  if ending.isSuffixOf name && ending ≠ name then name.take (name.length - ending.length) else name

def basename : Tool :=
    withOptions ⟨"as:z", [("multiple", 'a'), ("suffix", 's'), ("zero", 'z')], false⟩ 1 fun c => do
  let finish := if c.has 'z' then ['\x00'] else ['\n']
  let several := c.has 'a' || c.has 's'
  match c.operands with
  | [] => missingOperand 1
  | path :: rest =>
    if !several && 1 < rest.length then extraOperand 1 (rest.getD 1 [])
    else
      let ending := if several then (c.value? 's').getD [] else rest.headD []
      for path in (if several then c.operands else [path]) do
        put (withoutEnding ending (lastPart path) ++ finish)
      return 0

def dirname : Tool := withOptions ⟨"z", [("zero", 'z')], true⟩ 1 fun c => do
  if c.operands.isEmpty then missingOperand 1
  else
    for path in c.operands do
      put (partsBefore path ++ if c.has 'z' then ['\x00'] else ['\n'])
    return 0

/-! ### What surrounds a process -/

/-- Prints variables: all, or those that are named. -/
def printVariables : Tool := withOptions ⟨"0", [("null", '0')], false⟩ 2 fun c => do
  let finish := if c.has '0' then ['\x00'] else ['\n']
  let vars := (← self).exported
  if c.operands.isEmpty then
    for (name, value) in vars do put (name ++ '=' :: value ++ finish)
    return 0
  let mut status := 0
  for name in c.operands do
    match vars.lookup name with
    | some value => put (value ++ finish)
    | none => status := 1
  return status

/-- The path of the place of a process. -/
def placePath : Act (List Char) := do
  return bytesOf (String.ofList ('/' :: Text.joinWith '/' (← self).place))

def printPlace : Tool :=
    withOptions ⟨"LP", [("logical", 'L'), ("physical", 'P')], true⟩ 1 fun c => do
  if !c.operands.isEmpty then warn ["ignoring non-option arguments".toList]
  let actual ← placePath
  let told := (← self).exported.lookup "PWD".toList
  let files := (← get).files
  let isHere (path : List Char) : Bool :=
    path.head? = some '/' && (files.locate (textOf path)).toOption.any (·.1 = files.place)
  match told with
  | some path => putLine (if c.last? ['L', 'P'] = some 'L' && isHere path then path else actual)
  | none => putLine actual
  return 0

/-! ### Time -/

/-- The seconds that a unit stands for. -/
def unitSeconds? : List Char → Option Nat
  | [] => some 1
  | ['s'] => some 1
  | ['m'] => some 60
  | ['h'] => some 3600
  | ['d'] => some 86400
  | _ => none

/-- A number of seconds with a unit, in microseconds; without end if there is none. -/
def duration? (text : List Char) : Option (Option Nat) :=
  match Number.leadingFloat? text with
  | some (.finite negative m e, rest) =>
    let (num, den) := (Number.Binary64.finite negative m e).ratio
    if negative && num ≠ 0 then none
    else (unitSeconds? rest).map fun unit => some ((num * 1000000 * unit + den - 1) / den)
  | some (.infinity false, rest) => (unitSeconds? rest).map fun _ => none
  | _ => none

def sleep : Tool := withOptions { letters := "" } 1 fun c => do
  if c.operands.isEmpty then missingOperand 1
  else
    let mut good := true
    let mut total : Option Nat := some 0
    for operand in c.operands do
      match duration? operand with
      | none =>
        good := false
        warn ["invalid time interval ".toList, ← quoted operand]
      | some time => total := do return (← total) + (← time)
    if !good then
      tryHelp
      return 1
    waitUntil (total.map (· + (← self).clock))
    return 0

end Gutter.Tools
