import Gutter.Shell.Text

/-! The syntax of the shell: words with their parts, statements, and what is wrong with a text that
is no program. Every character of a shell's text stands for one byte. -/

namespace Gutter.Shell

/-- What a parameter in braces asks for: its value, its length, something else where it is missing,
or its value without a pattern at one end. -/
inductive Use
  | value
  | length
  | missing (evenEmpty : Bool) (action : Char)
  | trimmed (atEnd longest : Bool)
  | bad
deriving DecidableEq, Repr

/-- Where a redirection leads: to a file, to another descriptor, or from a text. -/
inductive Direction
  | input
  | update
  | output
  | overwrite
  | append
  | duplicate
  | text
deriving DecidableEq, Repr

mutual

/-- A part of a word. Quoted text is there even if it is empty. -/
inductive Part
  | bare (text : List Char)
  | quoted (text : List Char)
  | parameter (inQuotes : Bool) (name : List Char) (use : Use) (operand : List Part)
  | command (inQuotes : Bool) (program : Statement)
  | arithmetic (inQuotes : Bool) (expression : List Part)

/-- A redirection of a descriptor. -/
inductive Redirect
  | to (descriptor : Nat) (direction : Direction) (target : List Part)

/-- A statement; some have the number of their line. A choice of `choice` stands between one list
of patterns and the next, and the last leads to `skip`. -/
inductive Statement
  | skip
  | simple (line : Nat) (assignments : List (List Char × List Part)) (words : List (List Part))
    (redirects : List Redirect)
  | redirected (line : Nat) (body : Statement) (redirects : List Redirect)
  | subshell (line : Nat) (body : Statement) (redirects : List Redirect)
  | pipe (first second : Statement)
  | negated (body : Statement)
  | sequence (first second : Statement)
  | both (first second : Statement)
  | either (first second : Statement)
  | background (body : Statement)
  | choose (condition yes no : Statement)
  | loop (while_ : Bool) (condition body : Statement)
  | each (line : Nat) (name : List Char) (words : Option (List (List Part))) (body : Statement)
  | select (line : Nat) (word : List Part) (choices : Statement)
  | choice (patterns : List (List Part)) (body next : Statement)
  | define (name : List Char) (body : Statement)

end

abbrev Word := List Part

/-- The text of a word without quotes and without anything that is replaced. -/
def bareText? : Word → Option (List Char)
  | [.bare text] => some text
  | _ => none

/-- The word is this text, and nothing of it is quoted. -/
def isBare (text : String) (word : Word) : Bool := bareText? word = some text.toList

/-- Why a text is no shell program. -/
inductive SyntaxFault
  | openQuote
  | openBrace
  | openArithmetic
  | openBackquote
  | unexpected (found : String) (expecting : Option String)
  | badLoopVariable
  | badFunctionName
  | badDescriptor
deriving DecidableEq, Repr

/-- Braces have no place in the templates of texts, so they are joined from their own text. -/
def closingBrace : String := "\x7d"

def SyntaxFault.message (fault : SyntaxFault) : String :=
  "Syntax error: " ++ match fault with
    | .openQuote => "Unterminated quoted string"
    | .openBrace => "Missing '" ++ closingBrace ++ "'"
    | .openArithmetic => "Missing '))'"
    | .openBackquote => "EOF in backquote substitution"
    | .unexpected found none => found ++ " unexpected"
    | .unexpected found (some token) => found ++ " unexpected (expecting " ++ token ++ ")"
    | .badLoopVariable => "Bad for loop variable"
    | .badFunctionName => "Bad function name"
    | .badDescriptor => "Bad fd number"

end Gutter.Shell
