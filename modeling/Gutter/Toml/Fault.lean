import Gutter.Text.CharClass
import Gutter.Text.Numeral

/-! What is wrong with a TOML document, where, and how that is said. -/

namespace Gutter.Toml

/-- The path of a table or value: the names that lead to it from the root. -/
abbrev Key := List String

inductive Problem
  | statement
  | lineEnd
  | equals
  | keyStart
  | value
  | date
  | unclosedArray
  | unclosedInlineTable
  | unclosedTableName
  | unclosedArrayName
  | declaredTwice (key : Key)
  | frozen (key : Key)
  | redefined (key : Key)
  | overwritten
  | duplicateKey (name : String)
  | backslash
  | hexDigits
  | noScalar
  | unterminated
  | missing (mark : List Char)
  | illegalChar (c : Char)
  | invalidChar (c : Char)
deriving DecidableEq, Repr

/-- A key in parentheses; one name alone has a comma after it. -/
def keyText (key : Key) : String :=
  match key with
  | [name] => "(" ++ Text.quote name ++ ",)"
  | _ => "(" ++ ", ".intercalate (key.map Text.quote) ++ ")"

def quoted (text : List Char) : String := String.ofList (Text.quoteChars text)

def Problem.message : Problem → String
  | .statement => "Invalid statement"
  | .lineEnd => "Expected newline or end of document after a statement"
  | .equals => "Expected '=' after a key in a key/value pair"
  | .keyStart => "Invalid initial character for a key part"
  | .value => "Invalid value"
  | .date => "Invalid date or datetime"
  | .unclosedArray => "Unclosed array"
  | .unclosedInlineTable => "Unclosed inline table"
  | .unclosedTableName => "Expected ']' at the end of a table declaration"
  | .unclosedArrayName => "Expected ']]' at the end of an array declaration"
  | .declaredTwice key => "Cannot declare " ++ keyText key ++ " twice"
  | .frozen key => "Cannot mutate immutable namespace " ++ keyText key
  | .redefined key => "Cannot redefine namespace " ++ keyText key
  | .overwritten => "Cannot overwrite a value"
  | .duplicateKey name => "Duplicate inline table key " ++ Text.quote name
  | .backslash => "Unescaped '\\' in a string"
  | .hexDigits => "Invalid hex value"
  | .noScalar => "Escaped character is not a Unicode scalar value"
  | .unterminated => "Unterminated string"
  | .missing mark => "Expected " ++ quoted mark
  | .illegalChar c => "Illegal character " ++ quoted [c]
  | .invalidChar c => "Found invalid character " ++ quoted [c]

/-- Why reading stopped: a problem in front of the text `rest`, or an integer with too
many digits. -/
inductive Refusal
  | problem (problem : Problem) (rest : List Char)
  | numeralTooLong (e : Text.NumeralTooLong)
deriving DecidableEq, Repr

/-- What was read from the front of a text, and the text after it. -/
abbrev Reading (α : Type) := Except Refusal (α × List Char)

def fail {α : Type} (problem : Problem) (rest : List Char) : Except Refusal α :=
  .error (.problem problem rest)

/-- The line and column, from 1, of the place in `source` where `rest` is left. -/
def placeText (source rest : List Char) : String :=
  if rest.isEmpty then "end of document"
  else
    let before := source.take (source.length - rest.length)
    let line := before.count '\n' + 1
    let column := (before.reverse.takeWhile (· ≠ '\n')).length + 1
    s!"line {line}, column {column}"

def problemText (source : List Char) (problem : Problem) (rest : List Char) : String :=
  s!"{problem.message} (at {placeText source rest})"

end Gutter.Toml
