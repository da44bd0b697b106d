import Gutter.Number.Leading
import Gutter.Shell.Glob

/-! Conditions: tests of texts, numbers and files. A word is an operator or an operand by what
stands around it. -/

namespace Gutter.Shell

namespace Condition

inductive Fault
  | illegalNumber (text : List Char)
  | unexpectedOperator (text : List Char)
  | argumentExpected (text : List Char)
  | closingParenthesis
  | missingBracket
deriving DecidableEq, Repr

def Fault.message : Fault → List Char
  | .illegalNumber text => "Illegal number: ".toList ++ text
  | .unexpectedOperator text =>
    if text.isEmpty then "unexpected operator".toList else text ++ ": unexpected operator".toList
  | .argumentExpected text => text ++ ": argument expected".toList
  | .closingParenthesis => "closing paren expected".toList
  | .missingBracket => "missing ]".toList

/-- The integer that a whole word writes. -/
def number (text : List Char) : Except Fault Int :=
  match Number.leadingInteger? (some 10) text with
  | some (n, rest) =>
    if Number.clamp n = n && rest.all Text.isAsciiBlank then .ok n
    else .error (.illegalNumber text)
  | none => .error (.illegalNumber text)

def sizeOf (files : Files) (path : String) : Nat :=
  match files.read path with
  | .ok bytes => bytes.length
  | .error _ => 0

/-- The place that a word leads to, and what is there. -/
def found? (files : Files) (word : List Char) : Option (List (List Char) × Node) :=
  match files.locate (textOf word) with
  | .ok (place, some node) => some (place, node)
  | _ => none

def isRegular : Node → Bool
  | .file .. => true
  | .tool _ => true
  | .sealedFile => true
  | _ => false

def mayRun : Node → Bool
  | .file _ executable => executable
  | .directory => true
  | .tool _ => true
  | _ => false

def isLink (files : Files) (word : List Char) : Bool :=
  match files.seek false (textOf word) with
  | .ok (_, some (.link _)) => true
  | _ => false

/-- Tests of one word. -/
def unary? (files : Files) (operator : List Char) : Option (List Char → Except Fault Bool) :=
  let test (f : List Char → Bool) : Option (List Char → Except Fault Bool) :=
    some fun word => .ok (f word)
  let node (f : Node → Bool) : Option (List Char → Except Fault Bool) :=
    test fun word => (found? files word).any fun found => f found.2
  match String.ofList operator with
  | "-z" => test List.isEmpty
  | "-n" => test (!·.isEmpty)
  | "-e" => node fun _ => true
  | "-r" => node fun _ => true
  | "-w" => node fun _ => true
  | "-O" => node fun _ => true
  | "-G" => node fun _ => true
  | "-f" => node isRegular
  | "-d" => node (· = .directory)
  | "-x" => node mayRun
  | "-s" => test fun word => files.isDirectory (textOf word) || 0 < sizeOf files (textOf word)
  | "-c" => node fun
    | .device _ => true
    | _ => false
  | "-h" => test (isLink files)
  | "-L" => test (isLink files)
  | "-t" => some fun word => (number word).map fun _ => false
  | operator =>
    if ["-p", "-S", "-b", "-u", "-g", "-k"].contains operator then test fun _ => false else none

/-- Tests of two words. -/
def binary? (files : Files) (operator : List Char) :
    Option (List Char → List Char → Except Fault Bool) :=
  let compare (f : Int → Int → Bool) : Option (List Char → List Char → Except Fault Bool) :=
    some fun a b => do return f (← number a) (← number b)
  let places (f : List (List Char) → List (List Char) → Bool) :
      Option (List Char → List Char → Except Fault Bool) :=
    some fun a b =>
      match found? files a, found? files b with
      | some (a, _), some (b, _) => .ok (f a b)
      | _, _ => .ok false
  match String.ofList operator with
  | "=" => some fun a b => .ok (a = b)
  | "!=" => some fun a b => .ok (a ≠ b)
  | "<" => some fun a b => .ok (a ≠ b && charLess a b)
  | ">" => some fun a b => .ok (a ≠ b && charLess b a)
  | "-eq" => compare fun a b => a = b
  | "-ne" => compare fun a b => a ≠ b
  | "-lt" => compare fun a b => a < b
  | "-le" => compare fun a b => a ≤ b
  | "-gt" => compare fun a b => b < a
  | "-ge" => compare fun a b => b ≤ a
  | "-nt" => places fun a b => files.time b < files.time a
  | "-ot" => places fun a b => files.time a < files.time b
  | "-ef" => places fun a b => a = b
  | _ => none

/-- What a word is where a condition is read. -/
inductive Role
  | operand
  | unary
  | binary
  | opening
  | closing
  | negation
  | conjunction
  | disjunction
  | missing
deriving DecidableEq, Repr

/-- What a word could be by itself. -/
def roleOf (files : Files) (word : List Char) : Role :=
  match String.ofList word with
  | "(" => .opening
  | ")" => .closing
  | "!" => .negation
  | "-a" => .conjunction
  | "-o" => .disjunction
  | _ =>
    if (unary? files word).isSome then .unary
    else if (binary? files word).isSome then .binary
    else .operand

/-- What the first of some words is. A test of one word needs one, and is an operand itself before a
test of two; a parenthesis needs something to open. -/
def roleHere (files : Files) (words : List (List Char)) : Role :=
  match words with
  | [] => .missing
  | word :: rest =>
    match roleOf files word, rest with
    | .unary, [] => .operand
    | .unary, [_] => .unary
    | .unary, next :: _ => if roleOf files next = .binary then .operand else .unary
    | .opening, [] => .operand
    | role, _ => role

abbrev Result := Except Fault (Bool × List (List Char))

/-- One test; the first word was found to have a role. The words that are left start with the last
one of the test. -/
def primary (files : Files) (whole : Role → List (List Char) → Result) (role : Role)
    (words : List (List Char)) : Result :=
  match role, words with
  | .missing, words => .ok (false, words)
  | .opening, _ :: rest =>
    if roleHere files rest = .closing then .ok (false, rest)
    else
      match whole (roleHere files rest) rest with
      | .error fault => .error fault
      | .ok (found, last) =>
        if roleHere files (last.drop 1) = .closing then .ok (found, last.drop 1)
        else .error .closingParenthesis
  | .unary, operator :: rest =>
    match unary? files operator, rest with
    | some test, word :: _ => (test word).map fun found => (found, rest)
    | _, _ => .error (.argumentExpected operator)
  | _, word :: rest =>
    if roleHere files rest = .binary then
      let operator := rest.headD []
      match binary? files operator, rest.drop 1 with
      | some test, other :: after => (test word other).map fun found => (found, other :: after)
      | _, _ => .error (.argumentExpected operator)
    else .ok (!word.isEmpty, word :: rest)
  | _, [] => .ok (false, [])

/-- A test, or the opposite of one. -/
def negated (files : Files) (whole : Role → List (List Char) → Result) :
    Nat → Role → List (List Char) → Result
  | 0, _, _ => .error .closingParenthesis
  | limit + 1, .negation, words =>
    let next := words.drop 1
    let role := roleHere files next
    (negated files whole limit role (if role = .missing then words else next)).map
      fun (found, last) => (!found, last)
  | _, role, words => primary files whole role words

/-- Tests that are joined; those that both have to hold are joined more tightly. -/
def joined (files : Files) : Nat → Bool → Role → List (List Char) → Result
  | 0, _, _, _ => .error .closingParenthesis
  | depth + 1, tight, role, words =>
    let first :=
      if tight then negated files (joined files depth false) (words.length + 1) role words
      else joined files depth true role words
    match first with
    | .error fault => .error fault
    | .ok (found, last) =>
      if roleHere files (last.drop 1) = (if tight then .conjunction else .disjunction) then
        let next := last.drop 2
        match joined files depth tight (roleHere files next) next with
        | .error fault => .error fault
        | .ok (other, last) => .ok (if tight then found && other else found || other, last)
      else .ok (found, last)

/-- A condition whose first word has a role. -/
def whole (files : Files) (role : Role) (words : List (List Char)) : Except Fault Bool :=
  match joined files (2 * words.length + 2) false role words with
  | .error fault => .error fault
  | .ok (found, last) =>
    match last with
    | word :: _ :: _ => .error (.unexpectedOperator word)
    | _ => .ok found

/-- The condition that words write. Three words around a test of two, and words in parentheses or
after a negation, are read by their number. -/
def holds (files : Files) : List (List Char) → Except Fault Bool
  | [] => .ok false
  | word :: rest =>
    let words := word :: rest
    let counted := rest.length = 2 || rest.length = 3
    let between := rest.length = 2 && (rest.head?.bind (binary? files)).isSome
    if between then whole files .operand words
    else if counted && word = ['('] && words.getLast? = some [')'] then
      whole files (roleHere files rest.dropLast) rest.dropLast
    else if counted && word = ['!'] then (holds files rest).map (!·)
    else whole files (roleHere files words) words

end Condition

end Gutter.Shell
