import Gutter.Text.CharClass
import Gutter.Text.Split

/-! Shell words: a command line as the words that blanks separate, with quotes and backslashes taken
away, and the quoting of a text so that it is one word. -/

namespace Gutter.Shell

/-- Why a command line has no words: a quote is not closed, or a backslash ends it. -/
inductive WordsError
  | noClosingQuote
  | nothingEscaped
deriving DecidableEq, Repr

def WordsError.message : WordsError → String
  | .noClosingQuote => "No closing quotation"
  | .nothingEscaped => "No escaped character"

/-- Where a command line is being read: between words, in a word, in quotes, or after
a backslash. -/
inductive Mode
  | between
  | word
  | single
  | double
  | escaped
  | escapedInDouble
deriving DecidableEq, Repr

/-- Blanks between words. -/
def isWordGap (c : Char) : Bool := c = ' ' || c = '\t' || c = '\r' || c = '\n'

/-- The mode after a character outside quotes that is no blank: a quote or a backslash is taken
away, and any other character belongs to the word. -/
def wordStep (word : List Char) (c : Char) : Mode × List Char :=
  if c = '\\' then (.escaped, word)
  else if c = '\'' then (.single, word)
  else if c = '"' then (.double, word)
  else (.word, word ++ [c])

/-- The words of what is left of a command line; `word` has been read of the present one. -/
def wordsFrom : Mode → List Char → List Char → Except WordsError (List (List Char))
  | .between, _, [] => .ok []
  | .between, _, c :: rest =>
    if isWordGap c then wordsFrom .between [] rest
    else wordsFrom (wordStep [] c).1 (wordStep [] c).2 rest
  | .word, word, [] => .ok [word]
  | .word, word, c :: rest =>
    if isWordGap c then (wordsFrom .between [] rest).map (word :: ·)
    else wordsFrom (wordStep word c).1 (wordStep word c).2 rest
  | .single, _, [] => .error .noClosingQuote
  | .single, word, c :: rest =>
    if c = '\'' then wordsFrom .word word rest else wordsFrom .single (word ++ [c]) rest
  | .double, _, [] => .error .noClosingQuote
  | .double, word, c :: rest =>
    if c = '"' then wordsFrom .word word rest
    else if c = '\\' then wordsFrom .escapedInDouble word rest
    else wordsFrom .double (word ++ [c]) rest
  | .escaped, _, [] => .error .nothingEscaped
  | .escaped, word, c :: rest => wordsFrom .word (word ++ [c]) rest
  | .escapedInDouble, _, [] => .error .nothingEscaped
  | .escapedInDouble, word, c :: rest =>
    if c = '\\' ∨ c = '"' then wordsFrom .double (word ++ [c]) rest
    else wordsFrom .double (word ++ ['\\', c]) rest

/-- The words of a command line. -/
def words (line : List Char) : Except WordsError (List (List Char)) := wordsFrom .between [] line

/-- Needs no quotes. -/
def isPlainChar (c : Char) : Bool :=
  Text.isAsciiWordChar c || ['@', '%', '+', '=', ':', ',', '.', '/', '-'].contains c

/-- A text as one word: in single quotes unless it is plain, with its own single quotes in double
quotes between them. -/
def quoteWord (text : List Char) : List Char :=
  if text.isEmpty then ['\'', '\'']
  else if text.all isPlainChar then text
  else
    '\'' :: text.flatMap (fun c => if c = '\'' then ['\'', '"', '\'', '"', '\''] else [c]) ++ ['\'']

end Gutter.Shell
