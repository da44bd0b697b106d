import Gutter.Machine.State

/-! Options of the shell's own commands: letters after a dash, before anything else; and what these
commands do with their arguments first. -/

namespace Gutter.Shell

/-- What is wrong with the options of a command. -/
inductive LetterFault
  | illegal (letter : Char)
  | missing (letter : Char)
deriving DecidableEq, Repr

def LetterFault.message : LetterFault → List Char
  | .illegal letter => "Illegal option -".toList ++ [letter]
  | .missing letter => "No arg for -".toList ++ letter :: " option".toList

/-- Whether a letter is among those that are known, and needs a value. A colon follows those that
do. -/
def letterKind? (letter : Char) : List Char → Option Bool
  | c :: ':' :: rest => if c = letter then some true else letterKind? letter rest
  | c :: rest => if c = letter then some false else letterKind? letter rest
  | [] => none

/-- The letters of one argument; the last may lack its value. -/
def lettersIn (known : List Char) : List Char →
    Except LetterFault (List (Char × List Char) × Option Char)
  | [] => .ok ([], none)
  | letter :: rest =>
    match letterKind? letter known with
    | none => .error (.illegal letter)
    | some true => if rest.isEmpty then .ok ([], some letter) else .ok ([(letter, rest)], none)
    | some false => (lettersIn known rest).map fun (found, open_) => ((letter, []) :: found, open_)

/-- The options before the other arguments, and those. -/
def takeLetters (known : List Char) : List (List Char) →
    Except LetterFault (List (Char × List Char) × List (List Char))
  | ['-', '-'] :: rest => .ok ([], rest)
  | ('-' :: c :: letters) :: rest => do
    let (found, open_) ← lettersIn known (c :: letters)
    match open_, rest with
    | some letter, [] => .error (.missing letter)
    | some letter, value :: rest => do
      let (others, rest) ← takeLetters known rest
      return (found ++ (letter, value) :: others, rest)
    | none, rest => do
      let (others, rest) ← takeLetters known rest
      return (found ++ others, rest)
  | rest => .ok ([], rest)

end Gutter.Shell

namespace Gutter.Machine

open Shell

/-- The options of a command, of which some are known, and its other arguments. -/
def options (known : String) (arguments : List (List Char)) :
    Act (List (Char × List Char) × List (List Char)) := do
  match takeLetters known.toList arguments with
  | .ok found => return found
  | .error fault => fail fault.message

/-- The arguments of a command that knows no options. -/
def withoutOptions (arguments : List (List Char)) : Act (List (List Char)) := do
  return (← options "" arguments).2

/-- The greatest number that a command can be given. -/
def numberLimit : Nat := 2147483647

def illegalNumber {α : Type} (text : List Char) : Act α := fail ("Illegal number: ".toList ++ text)

/-- The number that an argument writes. -/
def numberOf (text : List Char) : Act Nat := do
  let n := Text.valueOfDigits 10 text
  if text.isEmpty || !text.all Char.isDigit || numberLimit < n then illegalNumber text
  return n

end Gutter.Machine
