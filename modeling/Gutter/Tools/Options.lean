import Gutter.Tools.Basic

/-! Options among arguments: letters after a dash, words after two dashes, and their values. The
other arguments are operands, wherever they stand. -/

namespace Gutter.Tools

open Machine Shell

/-- Which values an option takes. -/
inductive Value
  | none
  | needed
  | allowed
deriving DecidableEq, Repr

/-- The options of a tool. Their letters stand in a text, each with a colon after it if it needs a
value and with two if it may have one; words are given with the letter they stand for. -/
structure Options where
  letters : String
  words : List (String × Char) := []
  permutes : Bool := true

/-- The letters of a text with their values. -/
def lettersOf : List Char → List (Char × Value)
  | c :: ':' :: ':' :: rest => (c, .allowed) :: lettersOf rest
  | c :: ':' :: rest => (c, .needed) :: lettersOf rest
  | c :: rest => (c, .none) :: lettersOf rest
  | [] => []

/-- An option that was given, and its value. -/
structure Given where
  letter : Char
  value : List Char
deriving DecidableEq, Repr

/-- What is wrong with an option. -/
inductive OptionFault
  | unknownLetter (letter : Char)
  | missingValue (letter : Char)
  | unknownWord (word : List Char)
  | ambiguous (word : List Char) (words : List String)
  | missingWordValue (word : String)
  | extraValue (word : String)
deriving DecidableEq, Repr

def OptionFault.message : OptionFault → List Char
  | .unknownLetter letter => "invalid option -- '".toList ++ [letter, '\'']
  | .missingValue letter => "option requires an argument -- '".toList ++ [letter, '\'']
  | .unknownWord word => "unrecognized option '--".toList ++ word ++ ['\'']
  | .ambiguous word words =>
    "option '--".toList ++ word ++ "' is ambiguous; possibilities:".toList
      ++ words.flatMap fun word => " '--".toList ++ word.toList ++ ['\'']
  | .missingWordValue word => "option '--".toList ++ word.toList ++ "' requires an argument".toList
  | .extraValue word => "option '--".toList ++ word.toList ++ "' doesn't allow an argument".toList

namespace Options

variable (options : Options)

/-- The word that a part of it stands for: the whole word, or the only one that it starts. -/
def wordFor (part : List Char) : Except OptionFault (String × Char) :=
  match options.words.find? fun w => w.1.toList = part with
  | some found => .ok found
  | none =>
    match options.words.filter fun w => part.isPrefixOf w.1.toList with
    | [] => .error (.unknownWord part)
    | first :: others =>
      if others.all (·.2 = first.2) then .ok first
      else .error (.ambiguous part ((first :: others).map (·.1)))

/-- The options in one group of letters, and whether the last takes the next argument. -/
def group : List Char → Except OptionFault (List Given × Option Char)
  | [] => .ok ([], .none)
  | letter :: rest =>
    match (lettersOf options.letters.toList).lookup letter with
    | none => .error (.unknownLetter letter)
    | some .none => do
      let (given, open_) ← group rest
      return (⟨letter, []⟩ :: given, open_)
    | some .allowed => .ok ([⟨letter, rest⟩], .none)
    | some .needed => if rest.isEmpty then .ok ([], some letter) else .ok ([⟨letter, rest⟩], .none)

/-- Reads arguments: the options in their order, and the operands. -/
def read : List (List Char) → Except OptionFault (List Given × List (List Char))
  | [] => .ok ([], [])
  | ['-', '-'] :: rest => .ok ([], rest)
  | ('-' :: '-' :: text) :: rest => do
    let (part, value) := text.span (· ≠ '=')
    let (word, letter) ← options.wordFor part
    let kind := ((lettersOf options.letters.toList).lookup letter).getD .none
    match kind, value with
    | .none, _ :: _ => .error (.extraValue word)
    | .needed, [] =>
      match rest with
      | [] => .error (.missingWordValue word)
      | value :: rest => do
        let (given, operands) ← read rest
        return (⟨letter, value⟩ :: given, operands)
    | _, value => do
      let (given, operands) ← read rest
      return (⟨letter, value.drop 1⟩ :: given, operands)
  | ('-' :: c :: letters) :: rest => do
    let (found, open_) ← options.group (c :: letters)
    match open_, rest with
    | some letter, [] => .error (.missingValue letter)
    | some letter, value :: rest => do
      let (given, operands) ← read rest
      return (found ++ ⟨letter, value⟩ :: given, operands)
    | none, rest => do
      let (given, operands) ← read rest
      return (found ++ given, operands)
  | operand :: rest =>
    if options.permutes then do
      let (given, operands) ← read rest
      return (given, operand :: operands)
    else .ok ([], operand :: rest)

end Options

/-- The options that were given. -/
structure Choice where
  given : List Given
  operands : List (List Char)

namespace Choice

def has (c : Choice) (letter : Char) : Bool := c.given.any (·.letter = letter)

/-- The last of some options that was given. -/
def last? (c : Choice) (letters : List Char) : Option Char :=
  (c.given.reverse.find? fun g => letters.contains g.letter).map (·.letter)

/-- The last value of an option. -/
def value? (c : Choice) (letter : Char) : Option (List Char) :=
  (c.given.reverse.find? (·.letter = letter)).map (·.value)

def values (c : Choice) (letter : Char) : List (List Char) :=
  (c.given.filter (·.letter = letter)).map (·.value)

end Choice

/-- Reads arguments as the surroundings ask for: where they ask for it, the first operand ends the
options. -/
def readOptions (options : Options) (arguments : List (List Char)) :
    Act (Except OptionFault (List Given × List (List Char))) := do
  let strict := ((← self).exported.lookup "POSIXLY_CORRECT".toList).isSome
  return { options with permutes := options.permutes && !strict }.read arguments

/-- A tool that reads options first; a wrong one ends it with a status. -/
def withOptions (options : Options) (status : Nat) (act : Choice → Act Nat) : Tool :=
    fun arguments => do
  match ← readOptions options arguments with
  | .error fault => misuse status [fault.message]
  | .ok (given, operands) => act ⟨given, operands⟩

/-! ### Words as values -/

/-- The value of a word in a list, of which its start is enough if no other word has it. -/
def chosenIn? {α : Type} (choices : List (String × α)) (word : List Char) : Option α :=
  match choices.lookup (String.ofList word) with
  | some value => some value
  | none =>
    match choices.filter fun choice => word.isPrefixOf choice.1.toList with
    | [choice] => some choice.2
    | _ => none

/-- Complains of a value that is none of some words; those with the same meaning stand in one line. -/
def notAmong {α : Type} [BEq α] (status : Nat) (word : List Char) (option : String)
    (choices : List (String × α)) : Act Nat := do
  warn ["invalid argument ".toList, ← quoted word, " for ".toList, ← quoted option.toList]
  say "Valid arguments are:\n"
  for group in choices.splitBy fun a b => a.2 == b.2 do
    let words ← group.mapM fun choice => quoted choice.1.toList
    write 2 ("  - ".toList ++ (words.intersperse [',', ' ']).flatten ++ ['\n'])
  tryHelp
  return status

end Gutter.Tools
