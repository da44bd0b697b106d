import Gutter.Text.CharClass
import Gutter.Text.Numeral

/-! What can be wrong with a pattern, and the messages that say so. -/

namespace Gutter.Pattern

/-- What is wrong with the flags of a group. -/
inductive FlagProblem
  | locale
  | alphabets
  | globalOn
  | globalOff
  | alphabetOff
  | onAndOff

def FlagProblem.message : FlagProblem → String
  | .locale => "cannot use 'L' flag with a str pattern"
  | .alphabets => "flags 'a', 'u' and 'L' are incompatible"
  | .globalOn => "cannot turn on global flag"
  | .globalOff => "cannot turn off global flag"
  | .alphabetOff => "cannot turn off flags 'a', 'u' and 'L'"
  | .onAndOff => "flag turned on and off"

/-- What is wrong with the text of a pattern. -/
inductive Problem
  | escapeAtEnd
  | incompleteEscape (written : List Char)
  | badEscape (written : List Char)
  | octalTooLarge (written : List Char)
  | missing (what : String)
  | unterminatedName (mark : Char)
  | undefinedCharacter (name : List Char)
  | openGroup
  | groupOfLookBehind
  | noGroup (index : Nat)
  | unterminatedSet
  | badRange (first last : List Char)
  | repeatOrder
  | nothingToRepeat
  | repeatedTwice
  | endOfPattern
  | badGroupName (name : List Char)
  | badGroupNumber
  | unknownGroup (name : List Char)
  | unknownExtension (written : List Char)
  | redefinedGroup (name : List Char) (index earlier : Nat)
  | tooManyBranches
  | lateFlags
  | unknownFlag
  | badFlags (problem : FlagProblem)
  | unterminatedGroup
  | unterminatedComment
  | unbalanced
  | templateRepeat (kind : String)
  | widthVaries
  | tooFarBehind

def Problem.message : Problem → String
  | .escapeAtEnd => "bad escape (end of pattern)"
  | .incompleteEscape written => "incomplete escape " ++ String.ofList written
  | .badEscape written => "bad escape " ++ String.ofList written
  | .octalTooLarge written =>
    "octal escape value " ++ String.ofList written ++ " outside of range 0-0o377"
  | .missing what => "missing " ++ what
  | .unterminatedName mark => "missing " ++ mark.toString ++ ", unterminated name"
  | .undefinedCharacter name =>
    "undefined character name " ++ String.ofList (Text.quoteChars name)
  | .openGroup => "cannot refer to an open group"
  | .groupOfLookBehind =>
    "cannot refer to group defined in the same lookbehind subpattern"
  | .noGroup index => s!"invalid group reference {index}"
  | .unterminatedSet => "unterminated character set"
  | .badRange first last =>
    "bad character range " ++ String.ofList first ++ "-" ++ String.ofList last
  | .repeatOrder => "min repeat greater than max repeat"
  | .nothingToRepeat => "nothing to repeat"
  | .repeatedTwice => "multiple repeat"
  | .endOfPattern => "unexpected end of pattern"
  | .badGroupName name =>
    "bad character in group name " ++ String.ofList (Text.quoteChars name)
  | .badGroupNumber => "bad group number"
  | .unknownGroup name => "unknown group name " ++ String.ofList (Text.quoteChars name)
  | .unknownExtension written => "unknown extension ?" ++ String.ofList written
  | .redefinedGroup name index earlier =>
    "redefinition of group name " ++ String.ofList (Text.quoteChars name)
      ++ s!" as group {index}; was group {earlier}"
  | .tooManyBranches => "conditional backref with more than two branches"
  | .lateFlags => "global flags not at the start of the expression"
  | .unknownFlag => "unknown flag"
  | .badFlags problem => "bad inline flags: " ++ problem.message
  | .unterminatedGroup => "missing ), unterminated subpattern"
  | .unterminatedComment => "missing ), unterminated comment"
  | .unbalanced => "unbalanced parenthesis"
  | .templateRepeat kind => "internal: unsupported template operator " ++ kind
  | .widthVaries => "look-behind requires fixed-width pattern"
  | .tooFarBehind => "looks too much behind"

/-- Why a text is no pattern. Apart from what is wrong with it as it is written, a number in it may
be too large or too long, and its flags may ask for two alphabets. -/
inductive Fault
  | written (problem : Problem) (position : Option Nat)
  | repeatTooLarge
  | twoAlphabets
  | numeral (e : Text.NumeralTooLong)

/-- The line and column of a position; both count from 1. -/
def lineAndColumn (pattern : List Char) (position : Nat) : Nat × Nat :=
  let before := pattern.take position
  (before.count '\n' + 1, (before.reverse.takeWhile (· ≠ '\n')).length + 1)

/-- The message about a fault at `position`, with line and column if the pattern has
several lines. -/
def located (pattern : List Char) (message : String) (position : Nat) : String :=
  let place := s!"{message} at position {position}"
  if pattern.contains '\n' then
    let (line, column) := lineAndColumn pattern position
    s!"{place} (line {line}, column {column})"
  else place

def Fault.message (pattern : List Char) : Fault → String
  | .written problem none => problem.message
  | .written problem (some position) => located pattern problem.message position
  | .repeatTooLarge => "the repetition number is too large"
  | .twoAlphabets => "ASCII and UNICODE flags are incompatible"
  | .numeral e => e.message

end Gutter.Pattern
