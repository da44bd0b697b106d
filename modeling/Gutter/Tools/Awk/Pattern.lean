import Gutter.Regular.Node
import Gutter.Text.Hex

/-! Regular expressions as programs that work on lines write them: every byte is a character, and
there are no counts. -/

namespace Gutter.Tools.Awk

open Regular (Test Member Kind)

/-- What is wrong with an expression. -/
inductive PatternFault
  | operand
  | close
  | bracket
  | start
deriving DecidableEq, Repr

def PatternFault.text : PatternFault → String
  | .operand => "missing operand"
  | .close => "missing ')'"
  | .bracket => "bad class -- [], [^] or ["
  | .start => "syntax error ^* or ^+"

def isOctal (c : Char) : Bool := '0' ≤ c && c ≤ '7'

/-- The character of a letter after a backslash. -/
def namedEscape? (c : Char) : Option Char :=
  match c with
  | 'a' => some '\x07'
  | 'b' => some '\x08'
  | 'f' => some '\x0c'
  | 'n' => some '\n'
  | 'r' => some '\r'
  | 't' => some '\t'
  | 'v' => some '\x0b'
  | _ => none

/-- The character that digits after a backslash give, and what follows them. -/
def codedEscape? (text : List Char) : Option (Char × List Char) :=
  let octal := (text.take 3).takeWhile isOctal
  if !octal.isEmpty then
    some (Char.ofNat (Text.valueOfDigits 8 octal % 256), text.drop octal.length)
  else
    match text with
    | 'x' :: rest =>
      let digits := (rest.take 2).takeWhile Text.isHexDigit
      if digits.isEmpty then none
      else some (Char.ofNat (Text.hexValue digits), rest.drop digits.length)
    | _ => none

/-- What stands after a backslash in an expression: a character, whatever it is. -/
def escapedChar : List Char → Char × List Char
  | [] => ('\\', [])
  | c :: rest =>
    match codedEscape? (c :: rest) with
    | some found => found
    | none => ((namedEscape? c).getD c, rest)

/-- The name of a kind in brackets and colons, and what follows it. -/
def kindName? (text : List Char) : Option (Kind × List Char) :=
  let name := text.takeWhile Char.isAlpha
  match text.drop name.length with
  | ':' :: ']' :: rest => (Kind.named? name).map (·, rest)
  | _ => none

/-- One character in a list, and what follows it. -/
def listChar : List Char → Option (Char × List Char)
  | '\\' :: rest => if rest.isEmpty then none else some (escapedChar rest)
  | c :: rest => some (c, rest)
  | [] => none

/-- The members of a list up to its closing bracket. Bounds in the wrong order stand for themselves. -/
def listMembers (first : Bool) : Nat → List Char → Except PatternFault (List Member × List Char)
  | 0, _ => .error .bracket
  | limit + 1, text => do
    let char (c : Char) : Member := .range c c
    if text.head? = some ']' && !first then return ([], text.drop 1)
    match text with
    | '[' :: ':' :: rest =>
      match kindName? rest with
      | none => throw .bracket
      | some (kind, rest) =>
        let (others, rest) ← listMembers false limit rest
        return (.named kind :: others, rest)
    | _ =>
      match listChar text with
      | none => throw .bracket
      | some (low, rest) =>
        match rest with
        | '-' :: after =>
          if after.head? = some ']' || after.take 2 = ['[', ':'] then
            let (others, rest) ← listMembers false limit after
            return (char low :: char '-' :: others, rest)
          else
            match listChar after with
            | none => throw .bracket
            | some (high, rest) =>
              let (others, rest) ← listMembers false limit rest
              if high < low then return (char low :: char '-' :: char high :: others, rest)
              else return (.range low high :: others, rest)
        | _ =>
          let (others, rest) ← listMembers false limit rest
          return (char low :: others, rest)

/-- The list after an opening bracket. -/
def listTest (text : List Char) : Except PatternFault (Test × List Char) := do
  let inverted := text.head? = some '^'
  let inside := if inverted then text.drop 1 else text
  let (members, rest) ← listMembers true (inside.length + 1) inside
  return (.list inverted members, rest)

/-- The repetitions after something. -/
def patternRepeated : Regular.Node → List Char → Regular.Node × List Char
  | node, '*' :: rest => patternRepeated (.repeated node 0 none) rest
  | node, '+' :: rest => patternRepeated (.repeated node 1 none) rest
  | node, '?' :: rest => patternRepeated (.repeated node 0 (some 1)) rest
  | node, rest => (node, rest)

mutual

/-- Alternatives; `depth` groups are open around them. -/
def patternChoice (depth : Nat) : Nat → List Char → Except PatternFault (Regular.Node × List Char)
  | 0, _ => .error .operand
  | limit + 1, text => do
    let (first, rest) ← patternBranch depth true limit text
    match rest with
    | '|' :: rest =>
      let (second, rest) ← patternChoice depth limit rest
      return (.either first second, rest)
    | rest => return (first, rest)

/-- Pieces one after another; the first one must be there. -/
def patternBranch (depth : Nat) (first : Bool) :
    Nat → List Char → Except PatternFault (Regular.Node × List Char)
  | 0, _ => .error .operand
  | limit + 1, text => do
    let more (node : Regular.Node) (rest : List Char) : Except PatternFault (Regular.Node × List Char) := do
      let (node, rest) := patternRepeated node rest
      let (others, rest) ← patternBranch depth false limit rest
      return (if others = .empty then node else .join node others, rest)
    match text with
    | [] => if first then throw .operand else return (.empty, [])
    | c :: rest =>
      match c with
      | '|' => if first then throw .operand else return (.empty, text)
      | '*' => throw .operand
      | '+' => throw .operand
      | '?' => throw .operand
      | '(' =>
        if rest.head? = some ')' then
          if first then throw .operand else more .empty (rest.drop 1)
        else if rest.isEmpty then throw .close
        else
          let (inside, rest) ← patternChoice (depth + 1) limit rest
          match rest with
          | ')' :: rest => more inside rest
          | _ => throw .close
      | ')' =>
        if depth = 0 then more (.one (.char c)) rest
        else if first then throw .operand
        else return (.empty, text)
      | '^' =>
        if rest.head? = some '*' || rest.head? = some '+' then throw .start
        else more (.edge .textStart) rest
      | '$' => more (.edge .textEnd) rest
      | '.' => more (.one .any) rest
      | '[' =>
        let (test, rest) ← listTest rest
        more (.one test) rest
      | '\\' =>
        let (c, rest) := escapedChar rest
        more (.one (.char c)) rest
      | _ => more (.one (.char c)) rest

end

/-- The expression that a text is. -/
def readPattern (text : List Char) : Except PatternFault Regular.Node := do
  if text.isEmpty then return .empty
  return (← patternChoice 0 (3 * text.length + 3) text).1

end Gutter.Tools.Awk
