import Gutter.Regular.Match
import Gutter.Tools.Awk.Pattern
import Gutter.Tools.Awk.Value
import Gutter.Tools.Basic

/-! Records and their fields: how what comes in is cut into lines, and a line into pieces; and how
what is found in a text is replaced. -/

namespace Gutter.Tools.Awk

open Machine

/-- How a text is cut into pieces: between blanks, into its characters, at a character, or where an
expression is found. -/
inductive Separator
  | blanks
  | characters
  | mark (c : Char)
  | pattern (node : Regular.Node)

def Separator.ofText : List Char → Except PatternFault Separator
  | [] => .ok .characters
  | [' '] => .ok .blanks
  | [c] => .ok (.mark c)
  | text => (readPattern text).map .pattern

def onText (node : Regular.Node) (text : List Char) : Regular.Search := node.on { wide := false } text

/-- The first place from one on where something is found that is not empty. -/
def foundFrom (search : Regular.Search) : Nat → Nat → Option Regular.Found
  | 0, _ => none
  | limit + 1, place =>
    match search.from? place with
    | none => none
    | some found =>
      if found.start < found.stop then some found else foundFrom search limit (found.start + 1)

/-- The pieces of a text between what is found in it, from a place on. -/
def piecesFrom (search : Regular.Search) (text : List Char) : Nat → Nat → List (List Char)
  | 0, _ => []
  | limit + 1, place =>
    match foundFrom search (text.length + 1) place with
    | none => [text.drop place]
    | some found =>
      (text.drop place).take (found.start - place) :: piecesFrom search text limit found.stop

def isFieldGap (c : Char) : Bool := isGap c || c = '\n'

/-- The pieces of a text. -/
def Separator.cut (s : Separator) (text : List Char) : List (List Char) :=
  if text.isEmpty then []
  else
    match s with
    | .blanks => (text.splitBy fun a b => isFieldGap a = isFieldGap b).filter fun piece =>
        !piece.all isFieldGap
    | .characters => text.map fun c => [c]
    | .mark c => Text.splitOn c text
    | .pattern node => piecesFrom (onText node text) text (text.length + 1) 0

/-! ### Replacing -/

/-- What is put in place of what was found: an ampersand stands for that. Before one, two backslashes
are one of them, and one takes the meaning away from it. -/
def replacementFor (found : List Char) : Nat → List Char → List Char
  | _, [] => []
  | slashes, '&' :: rest =>
    List.replicate (slashes / 2) '\\' ++
      (if slashes % 2 = 0 then found else ['&']) ++ replacementFor found 0 rest
  | slashes, '\\' :: rest =>
    match rest.dropWhile (· = '\\') with
    | '&' :: _ => replacementFor found (slashes + 1) rest
    | _ => '\\' :: replacementFor found 0 rest
  | _, c :: rest => c :: replacementFor found 0 rest

/-- Replaces what is found from a place on, once or everywhere; nothing empty is found where the last
thing ended. The pieces are newest first. -/
def replacedFrom (search : Regular.Search) (text new : List Char) (everywhere : Bool) :
    Nat → Option Nat → Nat → Nat → List (List Char) → List (List Char) × Nat
  | 0, _, place, count, done => (text.drop place :: done, count)
  | limit + 1, last, place, count, done =>
    match search.from? place with
    | none => (text.drop place :: done, count)
    | some found =>
      let here := (text.drop found.start).take (found.stop - found.start)
      let before := (text.drop place).take (found.start - place)
      let made := replacementFor here 0 new
      let isEmpty := found.start = found.stop
      let char := (text.drop found.start).take 1
      if isEmpty && last = some found.start then
        if char.isEmpty then (before :: done, count)
        else replacedFrom search text new everywhere limit none (found.start + 1) count
          (char :: before :: done)
      else if !everywhere then (text.drop found.stop :: made :: before :: done, count + 1)
      else if isEmpty then
        if char.isEmpty then (made :: before :: done, count + 1)
        else replacedFrom search text new everywhere limit none (found.start + 1) (count + 1)
          (char :: made :: before :: done)
      else replacedFrom search text new everywhere limit (some found.stop) found.stop (count + 1)
        (made :: before :: done)

/-- The text with replacements, and their number. -/
def replaced (node : Regular.Node) (text new : List Char) (everywhere : Bool) : List Char × Nat :=
  let (pieces, count) :=
    replacedFrom (onText node text) text new everywhere (2 * text.length + 2) none 0 0 []
  (pieces.reverse.flatten, count)

/-! ### Records -/

/-- The same lines, with another mark at their ends. -/
def markedBy (mark : Char) (l : Lines) : Lines :=
  if l.mark = mark then l
  else
    let all := ({ l with mark, ready := [], start := [] }).add l.left
    if all.isOpen || all.start.isEmpty then all
    else { all with ready := all.ready ++ [all.start], start := [] }

/-- All that comes in. -/
def allOf (l : Lines) : Act (List Char) := do
  if l.isOpen then
    let more ← readAll 0
    return l.left ++ more
  else return l.left

/-- The first paragraph of a text, and what follows it. -/
def paragraph (text : List Char) : Option (List Char × List Char) :=
  let text := text.dropWhile (· = '\n')
  if text.isEmpty then none
  else
    let search := onText (.repeated (.one (.char '\n')) 2 none) text
    match search.from? 0 with
    | some found => some (text.take found.start, text.drop found.stop)
    | none => some (if text.getLast? = some '\n' then text.dropLast else text, [])

/-- The text up to the first place where an expression is found, and what follows that. -/
def recordUpTo (node : Regular.Node) (text : List Char) : Option (List Char × List Char) :=
  if text.isEmpty then none
  else
    match foundFrom (onText node text) (text.length + 1) 0 with
    | some found => some (text.take found.start, text.drop found.stop)
    | none => some (text, [])

/-- The next record, and what is left. -/
def nextRecord (separator : List Char) (l : Lines) :
    Act (Except PatternFault (Option (List Char) × Lines)) := do
  match separator with
  | [mark] =>
    let (line, l) ← (markedBy mark l).next
    return .ok (line.map fun line => if line.getLast? = some mark then line.dropLast else line, l)
  | [] =>
    match paragraph (← allOf l) with
    | none => return .ok (none, .ofBytes '\n' [])
    | some (record, rest) => return .ok (some record, .ofBytes '\n' rest)
  | text =>
    match readPattern text with
    | .error fault => return .error fault
    | .ok node =>
      match recordUpTo node (← allOf l) with
      | none => return .ok (none, .ofBytes '\n' [])
      | some (record, rest) => return .ok (some record, .ofBytes '\n' rest)

end Gutter.Tools.Awk
