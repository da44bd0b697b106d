import Gutter.Text.CharClass
import Gutter.Text.Split

/-! Word wrapping: a text as words with the blanks after them, and the lines that these
words fill. -/

namespace Gutter.Text

/-- A word and the blanks that follow it. -/
structure Spaced where
  word : List Char
  gap : List Char
deriving DecidableEq, Repr

/-- The blanks at the start of a text and the words after them. -/
def spacedWords : List Char → List Char × List Spaced
  | [] => ([], [])
  | c :: rest =>
    let (lead, words) := spacedWords rest
    if isBlank c then (c :: lead, words)
    else
      match lead, words with
      | [], next :: more => ([], ⟨c :: next.word, next.gap⟩ :: more)
      | lead, words => ([], ⟨[c], lead⟩ :: words)

/-- Without blanks at the end. -/
def trimEnd (text : List Char) : List Char := trimEndWhere isBlank text

/-- Has a character that is no blank. -/
def hasInk (text : List Char) : Bool := text.any fun c => !isBlank c

/-- The lines that end in `gap`, the first of which starts with `current`, and the start of the line
after them. -/
def breakGap : List Char → List Char → List (List Char) × List Char
  | current, [] => ([], current)
  | current, c :: gap =>
    if c = '\n' then
      let (lines, last) := breakGap [] gap
      (trimEnd current :: lines, last)
    else breakGap (current ++ [c]) gap

/-- The lines that `words` fill after `current`. A word that would reach past `width` starts a line,
unless there is only blank before it. -/
def fillLines (width : Int) : List Char → List Spaced → List (List Char)
  | current, [] => if hasInk current then [trimEnd current] else []
  | current, ⟨word, gap⟩ :: rest =>
    if hasInk current ∧ width < current.length + word.length then
      let (lines, last) := breakGap word gap
      trimEnd current :: lines ++ fillLines width last rest
    else
      let (lines, last) := breakGap (current ++ word) gap
      lines ++ fillLines width last rest

/-- The lines of `text`, no wider than `width` where its words allow it. -/
def wrapChars (width : Int) (text : List Char) : List (List Char) :=
  fillLines width [] (spacedWords text).2

/-- The width of lines when none is asked for. -/
def defaultWidth : Nat := 80

def wrap (text : String) (width : Int) : List String :=
  (wrapChars width text.toList).map String.ofList

end Gutter.Text
