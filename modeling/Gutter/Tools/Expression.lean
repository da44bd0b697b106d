import Gutter.Regular.Match
import Gutter.Regular.Reader
import Gutter.Tools.Options

/-! The tool that evaluates an expression whose words are its arguments. -/

namespace Gutter.Tools

open Machine

namespace Expression

/-- What is wrong with an expression. -/
inductive Problem
  | missingAfter (word : List Char)
  | unexpected (word : List Char)
  | unexpectedClose
  | closeAfter (word : List Char)
  | closeInstead (word : List Char)
  | notInteger
  | division
  | expression (fault : Regular.Fault)
deriving DecidableEq, Repr

inductive Value
  | number (n : Int)
  | text (t : List Char)
deriving DecidableEq, Repr

namespace Value

/-- Digits, of which at least one is there, after a minus sign that may be there. -/
def isInteger (text : List Char) : Bool :=
  let digits := if text.head? = some '-' then text.drop 1 else text
  !digits.isEmpty && digits.all Char.isDigit

def number? : Value → Option Int
  | .number n => some n
  | .text t =>
    if !isInteger t then none
    else if t.head? = some '-' then some (-(Text.valueOfDigits 10 (t.drop 1) : Int))
    else some (Text.valueOfDigits 10 t)

def toText : Value → List Char
  | .number n => (toString n).toList
  | .text t => t

/-- The value counts as nothing: an empty text, or zeros. -/
def isNull : Value → Bool
  | .number n => n = 0
  | .text [] => true
  | .text t =>
    let digits := if t.head? = some '-' then t.drop 1 else t
    !digits.isEmpty && digits.all (· = '0')

end Value

/-- The words that are left, and the one before them. -/
structure Place where
  words : List (List Char)
  before : List Char

abbrev Read := StateT Place (Except Problem)

/-- Takes the next word if it is a certain one. -/
def takes (word : String) : Read Bool := do
  let p ← get
  match p.words with
  | w :: rest =>
    if w = word.toList then
      set (⟨rest, w⟩ : Place)
      return true
    else return false
  | [] => return false

/-- The first of some words that comes next. -/
def takesOne : List String → Read (Option String)
  | [] => pure none
  | word :: rest => do
    if ← takes word then return some word else takesOne rest

/-- The next word, which has to be there. -/
def word : Read (List Char) := do
  let p ← get
  match p.words with
  | w :: rest =>
    set (⟨rest, w⟩ : Place)
    return w
  | [] => throw (.missingAfter p.before)

def integer (v : Value) : Read Int :=
  match v.number? with
  | some n => pure n
  | none => throw .notInteger

/-- What an expression finds at the start of a text: its group, or how long it is. -/
def found (wide : Bool) (text pattern : List Char) : Read Value := do
  match Regular.read .basicStrict (Regular.signs wide pattern) with
  | .error fault => throw (.expression fault)
  | .ok node =>
    let chars := Regular.signs wide text
    let groups := 0 < node.groups
    match (node.on { wide } chars).at? 0 with
    | none => return if groups then .text [] else .number 0
    | some f =>
      if groups then
        let (start, stop) := (f.group 1).getD (0, 0)
        return .text (Regular.unsigned wide ((chars.drop start).take (stop - start)))
      else return .number f.stop

/-- Compares two values, as numbers if both are. -/
def compares (operator : String) (a b : Value) : Bool :=
  let order := match a.number?, b.number? with
    | some m, some n => compare m n
    | _, _ => compareOfLessAndEq (String.ofList a.toText) (String.ofList b.toText)
  match operator with
  | "<" => order = .lt
  | "<=" => order ≠ .gt
  | "!=" => order ≠ .eq
  | ">=" => order ≠ .lt
  | ">" => order = .gt
  | _ => order = .eq

mutual

/-- Alternatives: the first value that is not null. What need not be evaluated is only read. -/
def either (wide evaluates : Bool) : Nat → Read Value
  | 0 => throw .unexpectedClose
  | limit + 1 => do
    let first ← both wide evaluates limit
    eitherMore wide evaluates limit first

def eitherMore (wide evaluates : Bool) : Nat → Value → Read Value
  | 0, v => pure v
  | limit + 1, v => do
    if ← takes "|" then
      let other ← both wide (evaluates && v.isNull) limit
      let v := if !v.isNull then v else if other.isNull then .number 0 else other
      eitherMore wide evaluates limit v
    else return v

def both (wide evaluates : Bool) : Nat → Read Value
  | 0 => throw .unexpectedClose
  | limit + 1 => do
    let first ← comparison wide evaluates limit
    bothMore wide evaluates limit first

def bothMore (wide evaluates : Bool) : Nat → Value → Read Value
  | 0, v => pure v
  | limit + 1, v => do
    if ← takes "&" then
      let other ← comparison wide (evaluates && !v.isNull) limit
      bothMore wide evaluates limit (if v.isNull || other.isNull then .number 0 else v)
    else return v

def comparison (wide evaluates : Bool) : Nat → Read Value
  | 0 => throw .unexpectedClose
  | limit + 1 => do
    let first ← sum wide evaluates limit
    comparisonMore wide evaluates limit first

def comparisonMore (wide evaluates : Bool) : Nat → Value → Read Value
  | 0, v => pure v
  | limit + 1, v => do
    match ← takesOne ["<", "<=", "=", "==", "!=", ">=", ">"] with
    | some operator =>
      let other ← sum wide evaluates limit
      let holds := evaluates && compares operator v other
      comparisonMore wide evaluates limit (.number (if holds then 1 else 0))
    | none => return v

def sum (wide evaluates : Bool) : Nat → Read Value
  | 0 => throw .unexpectedClose
  | limit + 1 => do
    let first ← product wide evaluates limit
    sumMore wide evaluates limit first

def sumMore (wide evaluates : Bool) : Nat → Value → Read Value
  | 0, v => pure v
  | limit + 1, v => do
    match ← takesOne ["+", "-"] with
    | some operator =>
      let other ← product wide evaluates limit
      if !evaluates then sumMore wide evaluates limit v
      else
        let (a, b) := (← integer v, ← integer other)
        sumMore wide evaluates limit (.number (if operator = "+" then a + b else a - b))
    | none => return v

def product (wide evaluates : Bool) : Nat → Read Value
  | 0 => throw .unexpectedClose
  | limit + 1 => do
    let first ← matching wide evaluates limit
    productMore wide evaluates limit first

def productMore (wide evaluates : Bool) : Nat → Value → Read Value
  | 0, v => pure v
  | limit + 1, v => do
    match ← takesOne ["*", "/", "%"] with
    | some operator =>
      let other ← matching wide evaluates limit
      if !evaluates then productMore wide evaluates limit v
      else
        let (a, b) := (← integer v, ← integer other)
        if operator = "*" then productMore wide evaluates limit (.number (a * b))
        else
          if b = 0 then throw .division
          let n := if operator = "/" then a.tdiv b else a.tmod b
          productMore wide evaluates limit (.number n)
    | none => return v

def matching (wide evaluates : Bool) : Nat → Read Value
  | 0 => throw .unexpectedClose
  | limit + 1 => do
    let first ← call wide evaluates limit
    matchingMore wide evaluates limit first

def matchingMore (wide evaluates : Bool) : Nat → Value → Read Value
  | 0, v => pure v
  | limit + 1, v => do
    if ← takes ":" then
      let other ← call wide evaluates limit
      if evaluates then matchingMore wide evaluates limit (← found wide v.toText other.toText)
      else matchingMore wide evaluates limit v
    else return v

/-- A value that a word before it asks to be changed. -/
def call (wide evaluates : Bool) : Nat → Read Value
  | 0 => throw .unexpectedClose
  | limit + 1 => do
    match ← takesOne ["+", "length", "match", "index", "substr"] with
    | some "+" => return .text (← word)
    | some "length" =>
      let v ← call wide evaluates limit
      return .number (Regular.signs wide v.toText).length
    | some "match" =>
      let v ← call wide evaluates limit
      let other ← call wide evaluates limit
      if evaluates then found wide v.toText other.toText else return v
    | some "index" =>
      let chars := Regular.signs wide (← call wide evaluates limit).toText
      let sought := Regular.signs wide (← call wide evaluates limit).toText
      return .number ((chars.findIdx? sought.contains).elim 0 (· + 1))
    | some _ =>
      let chars := Regular.signs wide (← call wide evaluates limit).toText
      let start ← call wide evaluates limit
      let length ← call wide evaluates limit
      match start.number?, length.number? with
      | some a, some b =>
        if a ≤ 0 || b ≤ 0 then return .text []
        return .text (Regular.unsigned wide ((chars.drop (a.toNat - 1)).take b.toNat))
      | _, _ => return .text []
    | none => atom wide evaluates limit

def atom (wide evaluates : Bool) : Nat → Read Value
  | 0 => throw .unexpectedClose
  | limit + 1 => do
    if ← takes "(" then
      let v ← either wide evaluates limit
      let p ← get
      match p.words with
      | [] => throw (.closeAfter p.before)
      | w :: _ => if ← takes ")" then return v else throw (.closeInstead w)
    else if ← takes ")" then throw .unexpectedClose
    else return .text (← word)

end

/-- The value of an expression. -/
def evaluate (wide : Bool) (words : List (List Char)) : Except Problem Value := do
  let (v, p) ← (either wide true (12 * words.length + 12)).run ⟨words, []⟩
  match p.words with
  | [] => return v
  | w :: _ => throw (.unexpected w)

/-- How a problem is told. -/
def tell (problem : Problem) : Act Nat := do
  let syntaxError (pieces : List (List Char)) : Act Unit := warn ("syntax error: ".toList :: pieces)
  match problem with
  | .missingAfter w => syntaxError ["missing argument after ".toList, ← quoted w]
  | .unexpected w => syntaxError ["unexpected argument ".toList, ← quoted w]
  | .unexpectedClose => syntaxError ["unexpected ')'".toList]
  | .closeAfter w => syntaxError ["expecting ')' after ".toList, ← quoted w]
  | .closeInstead w => syntaxError ["expecting ')' instead of ".toList, ← quoted w]
  | .notInteger => warn ["non-integer argument".toList]
  | .division => warn ["division by zero".toList]
  | .expression fault => warn [fault.text.toList]
  return 2

end Expression

def expr : Tool := fun arguments => do
  let words := if arguments.head? = some ['-', '-'] then arguments.drop 1 else arguments
  if words.isEmpty then missingOperand 2
  else
    match Expression.evaluate (← isWide) words with
    | .error problem => Expression.tell problem
    | .ok v =>
      putLine v.toText
      return if v.isNull then 1 else 0

end Gutter.Tools
