import Gutter.Regular.Reader

/-! Scripts of the stream editor: commands with the lines for which they run. -/

namespace Gutter.Tools.Sed

/-- An expression with how it is sought. -/
structure Sought where
  node : Regular.Node
  folds : Bool
  ofLines : Bool
deriving DecidableEq, Repr

/-- A line, or several: by number, every so many from one on, the last, those in which an expression
is found; the expression may be the one that was used last. The others stand second: so many lines
after the first, or up to a multiple. -/
inductive Address
  | line (number : Nat)
  | every (first step : Nat)
  | last
  | found (sought : Option Sought)
  | plus (count : Nat)
  | multiple (step : Nat)
deriving DecidableEq, Repr

/-- How letters that follow are changed. -/
inductive Case
  | asIs
  | upper
  | lower
deriving DecidableEq, Repr

/-- A piece of what is put in place of something found: a text, and what a group held after it.
The letters of both are changed, and the first letter in its own way. -/
structure Segment where
  text : List Char
  group : Option Nat
  case : Case
  first : Option Case
deriving DecidableEq, Repr

/-- A substitution: what is sought, what is put in its place, from which time on it is found, whether
everywhere, and what is done with the line then. -/
structure Substitution where
  sought : Option Sought
  segments : List Segment
  from_ : Nat
  everywhere : Bool
  prints : Bool
  executes : Bool
  printsRun : Bool
  output : Option (List Char)
deriving DecidableEq, Repr

/-- What a command does. Blocks and jumps know the number of the command with which to go on. -/
inductive Action
  | block (stop : Nat)
  | nothing
  | append (text : List Char)
  | insert (text : List Char)
  | change (text : List Char)
  | jump (label : List Char)
  | jumpIfDone (label : List Char)
  | jumpUnlessDone (label : List Char)
  | quit (status : Nat)
  | leave (status : Nat)
  | list (width : Option Nat)
  | lineNumber
  | delete
  | deleteFirst
  | fileName
  | get
  | getMore
  | hold
  | holdMore
  | next
  | nextMore
  | print
  | printFirst
  | clear
  | exchange
  | readFile (path : List Char)
  | readLine (path : List Char)
  | write (path : List Char)
  | writeFirst (path : List Char)
  | execute (text : List Char)
  | substitute (s : Substitution)
  | translate (pairs : List (Char × Char))
deriving DecidableEq, Repr

/-- A command, the lines for which it runs, and whether it runs for the others instead. -/
structure Command where
  first : Option Address
  second : Option Address
  inverted : Bool
  action : Action
deriving DecidableEq, Repr

/-- A script: its commands, where its labels stand, the files it writes, and whether it asks for
nothing to be printed by itself. -/
structure Script where
  commands : Array Command
  labels : List (List Char × Nat)
  outputs : List (List Char)
  quiet : Bool

/-- What is wrong with a script. -/
inductive Problem
  | unknownCommand (c : Char)
  | missingCommand
  | firstAddress
  | comma
  | lineZero
  | bangs
  | comment
  | openBrace
  | closeBrace
  | closeAddress
  | extra
  | expectedText
  | labelAddress
  | noLabel
  | oneAddress
  | missingFile
  | sandbox
  | unterminatedAddress
  | unterminatedSubstitution
  | unterminatedTranslation
  | unknownOption
  | twice (letter : Char)
  | severalNumbers
  | zeroNumber
  | differentLengths
  | newer
  | reference (number : Nat)
  | noExpression
  | modifiers
  | expression (fault : Regular.Fault)
deriving DecidableEq, Repr

def Problem.text : Problem → List Char
  | .unknownCommand c => "unknown command: ".toList ++ [Char.ofNat 96, c, '\'']
  | .missingCommand => "missing command".toList
  | .firstAddress => "invalid usage of +N or ~N as first address".toList
  | .comma => "unexpected ".toList ++ [Char.ofNat 96, ',', '\'']
  | .lineZero => "invalid usage of line address 0".toList
  | .bangs => "multiple ".toList ++ [Char.ofNat 96, '!', '\'', 's']
  | .comment => "comments don't accept any addresses".toList
  | .openBrace => "unmatched ".toList ++ [Char.ofNat 96, '\x7b', '\'']
  | .closeBrace => "unexpected ".toList ++ [Char.ofNat 96, '\x7d', '\'']
  | .closeAddress => [Char.ofNat 96, '\x7d', '\''] ++ " doesn't want any addresses".toList
  | .extra => "extra characters after command".toList
  | .expectedText =>
    let quote := fun c => [Char.ofNat 96, c, '\'']
    "expected \\ after ".toList ++ quote 'a' ++ ", ".toList ++ quote 'c' ++ " or ".toList
      ++ quote 'i'
  | .labelAddress => ": doesn't want any addresses".toList
  | .noLabel => "\":\" lacks a label".toList
  | .oneAddress => "command only uses one address".toList
  | .missingFile => "missing filename in r/R/w/W commands".toList
  | .sandbox => "e/r/w commands disabled in sandbox mode".toList
  | .unterminatedAddress => "unterminated address regex".toList
  | .unterminatedSubstitution =>
    "unterminated ".toList ++ [Char.ofNat 96, 's', '\''] ++ " command".toList
  | .unterminatedTranslation =>
    "unterminated ".toList ++ [Char.ofNat 96, 'y', '\''] ++ " command".toList
  | .unknownOption => "unknown option to ".toList ++ [Char.ofNat 96, 's', '\'']
  | .twice letter =>
    "multiple ".toList ++ [Char.ofNat 96, letter, '\''] ++ " options to ".toList
      ++ [Char.ofNat 96, 's', '\''] ++ " command".toList
  | .severalNumbers =>
    "multiple number options to ".toList ++ [Char.ofNat 96, 's', '\''] ++ " command".toList
  | .zeroNumber =>
    "number option to ".toList ++ [Char.ofNat 96, 's', '\''] ++ " command may not be zero".toList
  | .differentLengths =>
    "strings for ".toList ++ [Char.ofNat 96, 'y', '\''] ++ " command are different lengths".toList
  | .newer => "expected newer version of sed".toList
  | .reference number =>
    s!"invalid reference \\{number} on ".toList ++ [Char.ofNat 96, 's', '\''] ++ " command's RHS".toList
  | .noExpression => "no previous regular expression".toList
  | .modifiers => "cannot specify modifiers on empty regexp".toList
  | .expression fault => fault.text.toList

end Gutter.Tools.Sed
