import Gutter.Files.Tree
import Gutter.Shell.Text
import Gutter.Text.Hex

/-! Patterns of the shell: which texts they fit, what they trim, and which files they name. -/

namespace Gutter.Shell

/-- A character of an expanded word. Quoted characters stand for themselves. -/
structure Glyph where
  char : Char
  quoted : Bool
deriving DecidableEq, Repr

abbrev Glob := List Glyph

def isMark (c : Char) (g : Glyph) : Bool := !g.quoted && g.char = c

/-- The characters of a set in brackets, with its ranges. -/
inductive SetItem
  | range (first last : Char)
  | klass (name : List Char)
deriving DecidableEq, Repr

def SetItem.has (c : Char) : SetItem → Bool
  | .range first last => first ≤ c && c ≤ last
  | .klass name =>
    match String.ofList name with
    | "digit" => c.isDigit
    | "alpha" => c.isAlpha
    | "alnum" => c.isAlphanum
    | "upper" => c.isUpper
    | "lower" => c.isLower
    | "space" => c = ' ' || ('\t' ≤ c && c ≤ '\r')
    | "blank" => c = ' ' || c = '\t'
    | "punct" => '!' ≤ c && c ≤ '~' && !c.isAlphanum
    | "xdigit" => Text.isHexDigit c
    | "cntrl" => c < ' ' || c = '\x7f'
    | "graph" => '!' ≤ c && c ≤ '~'
    | "print" => ' ' ≤ c && c ≤ '~'
    | _ => false

/-- The items of a set up to its closing bracket; a bracket in front is an item. -/
def setItems (first : Bool) : Nat → Glob → Option (List SetItem × Glob)
  | 0, _ => none
  | _, [] => none
  | limit + 1, g :: rest =>
    if isMark ']' g && !first then some ([], rest)
    else
      let next (item : SetItem) (rest : Glob) : Option (List SetItem × Glob) :=
        (setItems false limit rest).map fun (items, rest) => (item :: items, rest)
      match rest with
      | a :: b :: rest' =>
        if isMark '[' g && isMark ':' a then
          let name := (b :: rest').takeWhile (!isMark ':' ·)
          next (.klass (name.map (·.char))) (((b :: rest').drop name.length).drop 2)
        else if isMark '-' a && !isMark ']' b then next (.range g.char b.char) rest'
        else next (.range g.char g.char) rest
      | _ => next (.range g.char g.char) rest

/-- Whether a character is in the set that stands after a bracket, and what follows the set. -/
def inSet (pattern : Glob) (c : Char) : Option (Bool × Glob) :=
  let inverted := pattern.head?.any (isMark '!')
  let pattern := if inverted then pattern.drop 1 else pattern
  (setItems true (pattern.length + 1) pattern).map fun (items, rest) =>
    ((items.any (·.has c)) != inverted, rest)

/-- The pattern fits the text; every step takes away from the pattern or the text. -/
def fitsWithin : Nat → Glob → List Char → Bool
  | 0, _, _ => false
  | _, [], text => text.isEmpty
  | limit + 1, g :: pattern, text =>
    if isMark '*' g then
      fitsWithin limit pattern text
        || match text with
          | [] => false
          | _ :: rest => fitsWithin limit (g :: pattern) rest
    else
      match text with
      | [] => false
      | c :: rest =>
        if isMark '?' g then fitsWithin limit pattern rest
        else if isMark '[' g then
          match inSet pattern c with
          | some (found, pattern) => found && fitsWithin limit pattern rest
          | none => c = '[' && fitsWithin limit pattern rest
        else g.char = c && fitsWithin limit pattern rest

def fits (pattern : Glob) (text : List Char) : Bool :=
  fitsWithin (pattern.length + text.length + 1) pattern text

/-- Takes away what fits the pattern at one end of a text, as little or as much as possible; `none` if
nothing does. -/
def trim? (atEnd longest : Bool) (pattern : Glob) (text : List Char) : Option (List Char) :=
  let counts := List.range (text.length + 1)
  let counts := if longest != atEnd then counts.reverse else counts
  let found := counts.find? fun count =>
    fits pattern (if atEnd then text.drop count else text.take count)
  found.map fun count => if atEnd then text.take count else text.drop count

/-- A text without what fits the pattern at one of its ends. -/
def trim (atEnd longest : Bool) (pattern : Glob) (text : List Char) : List Char :=
  (trim? atEnd longest pattern text).getD text

/-- Texts without the shortest end that fits: that of the last text which has one. No text after it is
left. -/
def trimTail? (pattern : Glob) : List (List Char) → Option (List (List Char))
  | [] => none
  | text :: rest =>
    match trimTail? pattern rest with
    | some kept => some (text :: kept)
    | none => (trim? true false pattern text).map ([·])

/-- Texts without what fits at one end of them all. Only the first is looked at, unless it is the
shortest end that is wanted; a first text that is taken whole or loses its longest end takes the others
with it. -/
def trimTexts (atEnd longest : Bool) (pattern : Glob) (texts : List (List Char)) :
    List (List Char) :=
  match texts with
  | [] => []
  | first :: rest =>
    match atEnd, longest with
    | true, true => ((trim? true true pattern first).map ([·])).getD texts
    | true, false => (trimTail? pattern texts).getD texts
    | false, true => if fits pattern first then [[]] else trim false true pattern first :: rest
    | false, false => trim false false pattern first :: rest

/-- Whether something in a pattern stands for other characters; a bracket must be closed for that. -/
def hasMark : Glob → Bool
  | [] => false
  | g :: rest =>
    isMark '*' g || isMark '?' g || (isMark '[' g && rest.any (·.char = ']')) || hasMark rest

def charLess : List Char → List Char → Bool
  | [], [] => true
  | [], _ => true
  | _, [] => false
  | a :: s, b :: t => if a = b then charLess s t else a < b

/-- The names in the directory that a path leads to, in order and as bytes. -/
def namesIn (files : Files) (path : List Char) : List (List Char) :=
  match files.locate (textOf (if path.isEmpty then ['.'] else path)) with
  | .ok (place, some .directory) =>
    ((files.names place).map fun name => bytesOf (String.ofList name)).mergeSort charLess
  | _ => []

/-- Splits a pattern at its slashes. -/
def globParts : Glob → List Glob
  | [] => [[]]
  | g :: rest =>
    if g.char = '/' then [] :: globParts rest
    else
      match globParts rest with
      | part :: parts => (g :: part) :: parts
      | [] => [[g]]

/-- Extends paths by one part of a pattern. -/
def globStep (files : Files) (last : Bool) (found : List (List Char)) (part : Glob) :
    List (List Char) :=
  let slash := if last then [] else ['/']
  found.flatMap fun path =>
    if hasMark part then
      let dotted := part.head?.any (·.char = '.')
      let all := (if dotted then [['.'], ['.', '.']] else []) ++ namesIn files path
      let names := all.filter fun name => fits part name && (name.head? ≠ some '.' || dotted)
      let paths := names.map fun name => path ++ name
      (paths.filter fun path => last || files.isDirectory (textOf path)).map (· ++ slash)
    else
      let path := path ++ part.map (·.char)
      let there := match files.seek (!last) (textOf (if path.isEmpty then ['/'] else path)) with
        | .ok (_, some _) => true
        | _ => part.isEmpty
      if there then [path ++ slash] else []

def globThrough (files : Files) : List (List Char) → List Glob → List (List Char)
  | found, [] => found
  | found, [part] => globStep files true found part
  | found, part :: parts => globThrough files (globStep files false found part) parts

/-- The files that a pattern names; a pattern that names none stands for itself. -/
def expandGlob (files : Files) (pattern : Glob) : List (List Char) :=
  let plain := pattern.map (·.char)
  if !hasMark pattern then [plain]
  else
    match globThrough files [[]] (globParts pattern) with
    | [] => [plain]
    | found => found

end Gutter.Shell
