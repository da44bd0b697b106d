import Gutter.Regular.Match
import Gutter.Regular.Reader
import Gutter.Tools.Reading

/-! Tools that turn texts around: the records of a file, or the characters of each line. -/

namespace Gutter.Tools

open Machine Shell

/-! ### Records -/

/-- The last place of a word in a text that is given from its end on, with its size. -/
def lastPlace (word : List Char) : Nat → List Char → Option Nat
  | _, [] => none
  | size, c :: rest =>
    if word.reverse.isPrefixOf (c :: rest) then some (size - word.length)
    else lastPlace word (size - 1) rest

/-- What separates records: a word, or what an expression finds. -/
inductive Divider
  | word (word : List Char)
  | shape (wide : Bool) (node : Regular.Node)

/-- Where the last divider of a text starts and ends. -/
def Divider.last? (d : Divider) (text : List Char) : Option (Nat × Nat) :=
  match d with
  | .word letters =>
    (lastPlace letters text.length text.reverse).map fun start => (start, start + letters.length)
  | .shape wide node =>
    let search := node.on { wide } (Regular.signs wide text)
    let size (signs : Nat) : Nat :=
      (Regular.unsigned wide ((Regular.signs wide text).take signs)).length
    (List.range search.size).reverse.findSome? fun start =>
      (search.at? start).map fun found => (size found.start, size found.stop)

/-- The records of a text from its end on. Dividers belong to the records before them, or to those
after them; the next one is sought before `stop`. -/
def recordsFrom (d : Divider) (ends : Bool) : Nat → Bool → List Char → Nat → List (List Char)
  | 0, _, text, _ => [text]
  | limit + 1, isFirst, text, stop =>
    match d.last? (text.take stop) with
    | none => [text]
    | some (start, after) =>
      if ends then
        let rest := recordsFrom d ends limit false (text.take after) start
        if isFirst && after = text.length then rest else text.drop after :: rest
      else text.drop start :: recordsFrom d ends limit false (text.take start) start

/-- The records of a text from its end on; lines are found at once. -/
def records (d : Divider) (ends : Bool) (text : List Char) : List (List Char) :=
  match d, ends with
  | .word [mark], true => (fullLinesBy mark text).reverse
  | _, _ => recordsFrom d ends (text.length + 1) true text text.length

/-- Prints records in the opposite order. -/
def tac : Tool :=
    withOptions ⟨"brs:", [("before", 'b'), ("regex", 'r'), ("separator", 's')], true⟩ 1 fun c => do
  let wide ← isWide
  let text := (c.value? 's').getD ['\n']
  let divider : Divider ← if c.has 'r' then
      if text.isEmpty then
        warn ["separator cannot be empty".toList]
        return 1
      match Regular.read .editor (Regular.signs wide text) with
      | .ok node => pure (.shape wide node)
      | .error fault =>
        warn [fault.text.toList]
        return 1
    else pure (.word (if text.isEmpty then ['\x00'] else text))
  let mut status := 0
  for path in (if c.operands.isEmpty then [['-']] else c.operands) do
    match ← bytesAt path with
    | .ok bytes => put (records divider (!c.has 'b') bytes).flatten
    | .error fault =>
      status := 1
      if fault = .isDirectory then warn [← nameOf path, ": read error: ".toList, faultName fault]
      else warn ["failed to open ".toList, ← named path, " for reading: ".toList, faultName fault]
  return status

/-! ### Lines -/

/-- Turns every line around. -/
def rev : Tool := fun arguments => do
  let wide ← isWide
  let mut status := 0
  for path in (if arguments.isEmpty then [['-']] else arguments) do
    match ← bytesAt path with
    | .ok bytes =>
      for line in fullLines bytes do
        let ended := line.getLast? = some '\n'
        let body := if ended then line.dropLast else line
        put ((charsIn wide body).reverse.flatten ++ if ended then ['\n'] else [])
    | .error fault =>
      status := 1
      say s!"rev: cannot open {textOf path}: {fault.text}\n"
  return status

end Gutter.Tools
