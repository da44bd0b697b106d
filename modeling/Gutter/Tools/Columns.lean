import Gutter.Shell.Text
import Gutter.Tools.Reading

/-! Tools that work on the columns and fields of lines: parts of lines, lines side by side, lines of
a limited width, and tabs. -/

namespace Gutter.Tools

open Machine Shell

/-! ### Parts of lines -/

/-- Numbers from one to another; without a last number all that follow. -/
structure Range where
  first : Nat
  last : Option Nat
deriving DecidableEq, Repr

def Range.has (r : Range) (n : Nat) : Bool := r.first ≤ n && r.last.all (n ≤ ·)

/-- What is wrong with a list of ranges. -/
inductive RangeFault
  | zero
  | decreasing
  | noEnds
  | badRange
  | badValue (text : List Char)
  | tooLarge (digits : List Char)

/-- One range of a list. -/
def rangeOf (text : List Char) : Except RangeFault Range :=
  let number (digits : List Char) : Except RangeFault Nat :=
    if digits.all Char.isDigit then
      let n := Text.valueOfDigits 10 digits
      if n = 0 then .error .zero
      else if countLimit ≤ n then .error (.tooLarge digits)
      else .ok n
    else .error (.badValue digits)
  match Text.splitOn '-' text with
  | [n] => do
    let n ← number n
    return ⟨n, some n⟩
  | [[], []] => .error .noEnds
  | [[], last] => do return ⟨1, some (← number last)⟩
  | [first, []] => do return ⟨← number first, none⟩
  | [first, last] => do
    let first ← number first
    let last ← number last
    if last < first then .error .decreasing else return ⟨first, some last⟩
  | _ => .error .badRange

/-- The ranges of a list, which commas or blanks separate. -/
def rangesOf (text : List Char) : Except RangeFault (List Range) :=
  (Text.splitOn ',' (text.map fun c => if c = ' ' || c = '\t' then ',' else c)).mapM rangeOf

def cutOptions : Options :=
  { letters := "b:c:d:f:nszO:C"
    words := [("bytes", 'b'), ("characters", 'c'), ("delimiter", 'd'), ("fields", 'f'),
      ("only-delimited", 's'), ("zero-terminated", 'z'), ("output-delimiter", 'O'),
      ("complement", 'C')] }

/-- Says what is wrong with a list of ranges. -/
def complainOfRange (fields : Bool) (list : List Char) (fault : RangeFault) : Act Nat := do
  match fault with
  | .zero =>
    misuse 1 [(if fields then "fields are numbered from 1"
      else "byte/character positions are numbered from 1").toList]
  | .decreasing => misuse 1 ["invalid decreasing range".toList]
  | .noEnds => misuse 1 ["invalid range with no endpoint: ".toList, list]
  | .badRange =>
    misuse 1 [(if fields then "invalid field range" else "invalid byte or character range").toList]
  | .badValue text =>
    let what := if fields then "invalid field value " else "invalid byte/character position "
    misuse 1 [what.toList, ← quoted text]
  | .tooLarge digits =>
    let what := if fields then "field number " else "byte/character offset "
    misuse 1 [what.toList, ← quoted digits, " is too large".toList]

/-- Chosen items with a text between those that were apart. -/
def chosenItems (ranges : List Range) (others : Bool) (items : List (List Char)) :
    List (List Char) :=
  (items.zipIdx 1).filterMap fun (item, n) =>
    if ranges.any (·.has n) ≠ others then some item else none

/-- Chosen bytes; a text stands between ranges that do not touch. -/
def chosenBytes (ranges : List Range) (others : Bool) (between : List Char) (line : List Char) :
    List Char :=
  let isChosen (n : Nat) : Bool := ranges.any (·.has n) ≠ others
  let starts (n : Nat) : Bool := ranges.any (·.first = n) && !(ranges.any fun r =>
    r.first < n && r.has n)
  let pieces := (line.zipIdx 1).filterMap fun (c, n) =>
    if !isChosen n then none
    else some (if starts n && (List.range n).any (fun k => 0 < k && isChosen k) then
      between ++ [c] else [c])
  pieces.flatten

def cut : Tool := withOptions cutOptions 1 fun c => do
  let lists := c.given.filter fun g => ['b', 'c', 'f'].contains g.letter
  match lists with
  | [] => misuse 1 ["you must specify a list of bytes, characters, or fields".toList]
  | _ :: _ :: _ => misuse 1 ["only one list may be specified".toList]
  | [list] =>
    let fields := list.letter = 'f'
    let delimiter := c.value? 'd'
    if delimiter.any fun d => 1 < d.length then
      return ← misuse 1 ["the delimiter must be a single character".toList]
    if !fields && delimiter.isSome then
      return ← misuse 1
        ["an input delimiter may be specified only when operating on fields".toList]
    if !fields && c.has 's' then
      return ← misuse 1 [("suppressing non-delimited lines makes sense\n\tonly when operating "
        ++ "on fields").toList]
    match rangesOf list.value with
    | .error fault => complainOfRange fields list.value fault
    | .ok ranges =>
      let mark := if c.has 'z' then '\x00' else '\n'
      let d := (delimiter.getD ['\t']).headD '\x00'
      let between := (c.value? 'O').getD (if fields then [d] else [])
      overInputs c.operands fun _ bytes => do
        for line in (linesBy mark bytes).1 do
          if !fields then put (chosenBytes ranges (c.has 'C') between line ++ [mark])
          else if line.contains d then
            let items := chosenItems ranges (c.has 'C') (Text.splitOn d line)
            put ((items.intersperse between).flatten ++ [mark])
          else if !c.has 's' then put (line ++ [mark])

/-! ### Lines side by side -/

/-- The characters of a list of separators. -/
def separatorsOf (text : List Char) : List (List Char) :=
  match text with
  | '\\' :: '0' :: rest => [] :: separatorsOf rest
  | '\\' :: c :: rest => unescape ['\\', c] :: separatorsOf rest
  | c :: rest => [c] :: separatorsOf rest
  | [] => []

/-- Items joined by separators that are used in turn. -/
def joinInTurn (separators : List (List Char)) (items : List (List Char)) : List Char :=
  (items.zipIdx.map fun (item, n) =>
    if n = 0 then item
    else ((separators[(n - 1) % separators.length]?).getD []) ++ item).flatten

/-- Rows of the columns, until all have ended. -/
def rowsOf : Nat → List (List (List Char)) → List (List (List Char))
  | 0, _ => []
  | limit + 1, columns =>
    if columns.all List.isEmpty then []
    else columns.map (·.headD []) :: rowsOf limit (columns.map (·.drop 1))

def pasteOptions : Options :=
  { letters := "d:sz"
    words := [("delimiters", 'd'), ("serial", 's'), ("zero-terminated", 'z')] }

def paste : Tool := withOptions pasteOptions 1 fun c => do
  let separators := separatorsOf ((c.value? 'd').getD ['\t'])
  let separators := if separators.isEmpty then [[]] else separators
  let mark := if c.has 'z' then '\x00' else '\n'
  let files := if c.operands.isEmpty then [['-']] else c.operands
  let inputs := files.countP isInput
  let mut status := 0
  let mut columns : List (List (List Char)) := []
  let mut own : Option (List (List Char)) := none
  let mut index := 0
  for path in files do
    if isInput path && own.isNone then
      own := some (linesBy mark (← readAll 0)).1
    if isInput path && !c.has 's' then
      let mine := (own.getD []).zipIdx.filterMap fun (line, n) =>
        if n % inputs = index then some line else none
      columns := columns ++ [mine]
      index := index + 1
    else if isInput path then
      columns := columns ++ [own.getD []]
      own := some []
    else
      match ← inputOf path with
      | some bytes => columns := columns ++ [(linesBy mark bytes).1]
      | none =>
        status := 1
        if !c.has 's' then return 1
  let rows := if c.has 's' then columns
    else rowsOf (columns.foldl (fun n column => max n column.length) 0) columns
  put (rows.flatMap fun row => joinInTurn separators row ++ [mark])
  return status

/-! ### Width -/

/-- The column after a character. -/
def columnAfter (inBytes : Bool) (column : Nat) (c : Char) : Nat :=
  if inBytes then column + 1
  else if c = '\x08' then column - 1
  else if c = '\r' then 0
  else if c = '\t' then (column / 8 + 1) * 8
  else column + 1

def widthOf (inBytes : Bool) (text : List Char) : Nat := text.foldl (columnAfter inBytes) 0

/-- Breaks a line where it exceeds a width; `atBlanks` breaks after the last blank before it. `held`
is the text since the last break, the newest character first. -/
def foldLine (width : Nat) (inBytes atBlanks : Bool) : Nat → List Char → List Char → List Char
  | 0, held, rest => held.reverse ++ rest
  | _, held, [] => held.reverse
  | limit + 1, held, c :: rest =>
    let column := columnAfter inBytes (widthOf inBytes held.reverse) c
    if column ≤ width || held.isEmpty then foldLine width inBytes atBlanks limit (c :: held) rest
    else
      let after := held.takeWhile fun c => c ≠ ' ' && c ≠ '\t'
      let before := held.drop after.length
      if atBlanks && !before.isEmpty then
        before.reverse ++ '\n' :: foldLine width inBytes atBlanks limit after (c :: rest)
      else held.reverse ++ '\n' :: foldLine width inBytes atBlanks limit [] (c :: rest)

def fold : Tool := fun arguments => do
  let arguments := match arguments with
    | ('-' :: d :: text) :: rest =>
      if (d :: text).all Char.isDigit then ['-', 'w'] :: (d :: text) :: rest else arguments
    | _ => arguments
  (withOptions { letters := "bsw:", words := [("bytes", 'b'), ("spaces", 's'), ("width", 'w')] } 1
    fun c => do
      let text := (c.value? 'w').getD ['8', '0']
      if text.isEmpty || !text.all Char.isDigit then
        warn ["invalid number of columns: ".toList, ← quoted text]
        return 1
      let width := Text.valueOfDigits 10 text
      if width = 0 then
        warn ["invalid number of columns: ".toList, ← quoted text,
          ": Numerical result out of range".toList]
        return 1
      overInputs c.operands fun _ bytes => do
        for line in fullLines bytes do
          let ended := line.getLast? = some '\n'
          let body := if ended then line.dropLast else line
          let folded := foldLine width (c.has 'b') (c.has 's') (2 * body.length + 1) [] body
          put (folded ++ if ended then ['\n'] else [])) arguments

/-! ### Tabs -/

/-- The places of tabs: listed ones, and multiples of a size after them. -/
structure Tabs where
  listed : List Nat
  size : Nat

/-- The next place of a tab. -/
def Tabs.next (tabs : Tabs) (column : Nat) : Nat :=
  match tabs.listed.find? (column < ·) with
  | some stop => stop
  | none => if tabs.size = 0 then column + 1 else (column / tabs.size + 1) * tabs.size

def tabsOf (text : List Char) : Option Tabs :=
  let parts := Text.splitOn ',' (text.map fun c => if c = ' ' then ',' else c)
  if parts.all fun part => !part.isEmpty && part.all Char.isDigit then
    match parts.map (Text.valueOfDigits 10) with
    | [size] => some ⟨[], size⟩
    | stops => some ⟨stops, 0⟩
  else none

def expandLine (tabs : Tabs) (initial : Bool) : Bool → Nat → List Char → List Char
  | _, _, [] => []
  | atStart, column, c :: rest =>
    if c = '\t' && (atStart || !initial) then
      let next := tabs.next column
      List.replicate (next - column) ' ' ++ expandLine tabs initial atStart next rest
    else
      c :: expandLine tabs initial (atStart && c = ' ')
        (if c = '\x08' then column - 1 else column + 1) rest

/-- Puts tabs for blanks that reach the place of a tab; `held` blanks wait for it. -/
def unexpandLine (tabs : Tabs) (all : Bool) : Bool → Nat → List Char → List Char → List Char
  | _, _, held, [] => held.reverse
  | active, column, held, c :: rest =>
    if active && (c = ' ' || c = '\t') then
      let next := if c = '\t' then tabs.next column else column + 1
      let reaches := tabs.next column = next
      if c = '\t' then '\t' :: unexpandLine tabs all active next [] rest
      else if reaches && !held.isEmpty then '\t' :: unexpandLine tabs all active next [] rest
      else if reaches then ' ' :: unexpandLine tabs all active next [] rest
      else unexpandLine tabs all active next (c :: held) rest
    else held.reverse ++ c :: unexpandLine tabs all (active && all) (column + 1) [] rest

def tabOptions : Options :=
  { letters := "at:iF"
    words := [("all", 'a'), ("tabs", 't'), ("initial", 'i'), ("first-only", 'F')] }

def withTabs (act : Choice → Tabs → Act Nat) : Tool := withOptions tabOptions 1 fun c => do
  let text := (c.value? 't').getD ['8']
  match tabsOf text with
  | none =>
    warn ["tab size contains invalid character(s): ".toList, ← quoted text]
    return 1
  | some tabs =>
    if tabs.size = 0 && tabs.listed.isEmpty || tabs.listed.contains 0 then
      warn ["tab size cannot be 0".toList]
      return 1
    else if (tabs.listed.zip (tabs.listed.drop 1)).any fun (a, b) => b ≤ a then
      warn ["tab sizes must be ascending".toList]
      return 1
    else act c tabs

def expand : Tool := withTabs fun c tabs =>
  overInputs c.operands fun _ bytes => do
    for line in fullLines bytes do put (expandLine tabs (c.has 'i') true 0 line)

def unexpand : Tool := withTabs fun c tabs =>
  overInputs c.operands fun _ bytes => do
    let all := (c.has 'a' || c.has 't') && !c.has 'F'
    for line in fullLines bytes do put (unexpandLine tabs all true 0 [] line)

end Gutter.Tools
