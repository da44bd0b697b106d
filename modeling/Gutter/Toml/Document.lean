import Gutter.Text.Utf8
import Gutter.Toml.Scalar
import Gutter.Toml.Text
import Gutter.Value

/-! TOML documents: tables, whose entries keep the order of their writing and are changed at the end
of a path of names, with marks on paths that may not be opened again; values, which are texts,
scalars, arrays and inline tables; and statements that each add an entry or open a table. -/

namespace Gutter.Toml

/-! ### Tables -/

abbrev Entries := List (String × Value)

/-- The entry of a name takes a value; a name without an entry gets one at the end. -/
def put (name : String) (value : Value) : Entries → Entries
  | [] => [(name, value)]
  | (other, old) :: rest =>
    if other = name then (name, value) :: rest else (other, old) :: put name value rest

/-- Changes the table at the end of a path; tables on the way that do not exist are made. Where
`throughLists` holds, a list stands for its last item. There is no result if something else than a
table is on the way, or `change` has none. -/
def within (throughLists : Bool) : Key → (Entries → Option Entries) → Entries → Option Entries
  | [], change, entries => change entries
  | name :: path, change, entries =>
    match Value.find? name entries with
    | none => (within throughLists path change []).map fun inner => put name (.table inner) entries
    | some (.table inner) =>
      (within throughLists path change inner).map fun inner => put name (.table inner) entries
    | some (.list items) =>
      match throughLists, items.getLast? with
      | true, some (.table inner) =>
        (within throughLists path change inner).map fun inner =>
          put name (.list (items.dropLast ++ [.table inner])) entries
      | _, _ => none
    | some _ => none

/-- Adds an entry whose name is new. -/
def addNew (name : String) (value : Value) (entries : Entries) : Option Entries :=
  if (Value.find? name entries).isSome then none else some (put name value entries)

/-- Adds an empty table to the list of a name, which may be new. -/
def appendTable (name : String) (entries : Entries) : Option Entries :=
  match Value.find? name entries with
  | none => some (put name (.list [.table []]) entries)
  | some (.list items) => some (put name (.list (items ++ [.table []])) entries)
  | some _ => none

/-- Tables and lists, whose contents are complete once they are written as a value. -/
def isContainer : Value → Bool
  | .table _ => true
  | .list _ => true
  | _ => false

/-- Marks on paths: tables that were declared, values that are complete, and tables that will count
as declared from the next declaration on. -/
structure Marks where
  declared : List Key
  complete : List Key
  pending : List Key

namespace Marks

def none : Marks := ⟨[], [], []⟩

def isDeclared (marks : Marks) (key : Key) : Bool := marks.declared.contains key

/-- A path is frozen if it, or one that leads to it, is complete. -/
def isFrozen (marks : Marks) (key : Key) : Bool :=
  marks.complete.any fun start => start.isPrefixOf key

def declare (marks : Marks) (key : Key) : Marks := { marks with declared := key :: marks.declared }

def markComplete (marks : Marks) (key : Key) : Marks :=
  { marks with complete := key :: marks.complete }

/-- Removes the marks of a path and of all that it leads to. -/
def release (marks : Marks) (key : Key) : Marks :=
  { marks with
    declared := marks.declared.filter (!key.isPrefixOf ·)
    complete := marks.complete.filter (!key.isPrefixOf ·) }

/-- What is pending counts from now on. -/
def settle (marks : Marks) : Marks :=
  { marks with declared := marks.pending ++ marks.declared, pending := [] }

end Marks

/-! ### Values -/

/-- Skips blanks, line ends and comments. The length of the text bounds the number of steps. -/
def skipLinesWithin : Nat → List Char → Except Refusal (List Char)
  | 0, text => .ok text
  | steps + 1, text =>
    match text.dropWhile isSpaceOrNewline with
    | '#' :: rest => (skipComment ('#' :: rest)).bind (skipLinesWithin steps)
    | rest => .ok rest

def skipLines (text : List Char) : Except Refusal (List Char) := skipLinesWithin text.length text

/-- Adds what a key of an inline table stands for. -/
def addInline (entries : Entries) (path : Key) (value : Value) (rest : List Char) :
    Except Refusal Entries :=
  let name := path.getLastD ""
  match within false path.dropLast some entries with
  | none => fail .overwritten rest
  | some _ =>
    match within false path.dropLast (addNew name value) entries with
    | none => fail (.duplicateKey name) rest
    | some entries => .ok entries

mutual

/-- A value at the start of the text. -/
def valueWithin : Nat → List Char → Except Refusal (Value × List Char)
  | 0, text => fail .value text
  | steps + 1, text =>
    match text? text with
    | some reading => reading.map fun (body, rest) => (.text (String.ofList body), rest)
    | none =>
      match text with
      | 't' :: 'r' :: 'u' :: 'e' :: rest => .ok (.bool true, rest)
      | 'f' :: 'a' :: 'l' :: 's' :: 'e' :: rest => .ok (.bool false, rest)
      | '[' :: rest => do
        match ← skipLines rest with
        | ']' :: after => return (.list [], after)
        | inner =>
          let (items, after) ← itemsWithin steps inner
          return (.list items, after)
      | '\x7b' :: rest =>
        match skipSpaces rest with
        | '\x7d' :: after => .ok (.table [], after)
        | inner =>
          (entriesWithin steps [] .none inner).map fun (entries, after) => (.table entries, after)
      | text => (scalar? text).getD (fail .value text)

/-- The items of an array up to its end. A comma may follow the last one. -/
def itemsWithin : Nat → List Char → Except Refusal (List Value × List Char)
  | 0, text => fail .value text
  | steps + 1, text => do
    let (item, rest) ← valueWithin steps text
    match ← skipLines rest with
    | ']' :: after => return ([item], after)
    | ',' :: after =>
      match ← skipLines after with
      | ']' :: after => return ([item], after)
      | inner =>
        let (items, after) ← itemsWithin steps inner
        return (item :: items, after)
    | rest => fail .unclosedArray rest

/-- The entries of an inline table up to its end; `marks` are those of the entries before. -/
def entriesWithin :
    Nat → Entries → Marks → List Char → Except Refusal (Entries × List Char)
  | 0, _, _, text => fail .value text
  | steps + 1, entries, marks, text => do
    let (path, value, rest) ← pairWithin steps text
    if marks.isFrozen path then fail (.frozen path) rest
    else
      let entries ← addInline entries path value rest
      match skipSpaces rest with
      | '\x7d' :: after => return (entries, after)
      | ',' :: after =>
        let marks := if isContainer value then marks.markComplete path else marks
        entriesWithin steps entries marks (skipSpaces after)
      | rest => fail .unclosedInlineTable rest

/-- A key, an equals sign and a value. -/
def pairWithin : Nat → List Char → Except Refusal (Key × Value × List Char)
  | 0, text => fail .value text
  | steps + 1, text => do
    let (path, rest) ← key text
    match rest with
    | '=' :: after =>
      let (value, rest) ← valueWithin steps (skipSpaces after)
      return (path, value, rest)
    | rest => fail .equals rest

end

/-- A bound for the steps that a text takes: each character opens at most three. -/
def stepsFor (text : List Char) : Nat := 3 * text.length + 3

/-- A key, an equals sign and a value. -/
def pair (text : List Char) : Except Refusal (Key × Value × List Char) :=
  pairWithin (stepsFor text) text

/-! ### Statements -/

/-- What the statements so far have made, and the table that is open. -/
structure Document where
  entries : Entries
  marks : Marks
  header : Key

namespace Document

def empty : Document := ⟨[], .none, []⟩

/-- The keys of the tables on the way to what a key adds. -/
def wayTo (header path : Key) : List Key :=
  (List.range path.length).filterMap fun count =>
    if count = 0 then none else some (header ++ path.take count)

/-- Adds an entry to the open table. The tables on the way may not have been declared, and count as
declared from the next declaration on. -/
def add (document : Document) (path : Key) (value : Value) (rest : List Char) :
    Except Refusal Document :=
  let way := wayTo document.header path
  let marks := document.marks
  match way.find? marks.isDeclared with
  | some declared => fail (.redefined declared) rest
  | none =>
    let parent := document.header ++ path.dropLast
    let marks := { marks with pending := way ++ marks.pending }
    if marks.isFrozen parent then fail (.frozen parent) rest
    else
      match within true parent (addNew (path.getLastD "") value) document.entries with
      | none => fail .overwritten rest
      | some entries =>
        let whole := document.header ++ path
        let marks := if isContainer value then marks.markComplete whole else marks
        .ok { document with entries, marks }

/-- Opens the table of a key. -/
def openTable (document : Document) (path : Key) (rest : List Char) : Except Refusal Document :=
  let marks := document.marks
  if marks.isDeclared path || marks.isFrozen path then fail (.declaredTwice path) rest
  else
    match within true path some document.entries with
    | none => fail .overwritten rest
    | some entries => .ok ⟨entries, marks.declare path, path⟩

/-- Appends a table to the array of a key, and opens it. -/
def openItem (document : Document) (path : Key) (rest : List Char) : Except Refusal Document :=
  let marks := document.marks
  if marks.isFrozen path then fail (.frozen path) rest
  else
    match within true path.dropLast (appendTable (path.getLastD "")) document.entries with
    | none => fail .overwritten rest
    | some entries => .ok ⟨entries, (marks.release path).declare path, path⟩

def settle (document : Document) : Document :=
  { document with marks := document.marks.settle }

end Document

/-- One statement at the start of a line that is not empty. -/
def statement (document : Document) (text : List Char) :
    Except Refusal (Document × List Char) := do
  match text with
  | '[' :: '[' :: rest =>
    let (path, rest) ← key (skipSpaces rest)
    let document ← document.settle.openItem path rest
    match rest with
    | ']' :: ']' :: after => return (document, after)
    | rest => fail .unclosedArrayName rest
  | '[' :: rest =>
    let (path, rest) ← key (skipSpaces rest)
    let document ← document.settle.openTable path rest
    match rest with
    | ']' :: after => return (document, after)
    | rest => fail .unclosedTableName rest
  | '#' :: _ => return (document, text)
  | c :: _ =>
    if isKeyStart c then
      let (path, value, rest) ← pair text
      return (← document.add path value rest, rest)
    else fail .statement text
  | [] => return (document, [])

/-- The statements of a document, each on a line. The length of the text bounds their number. -/
def statementsWithin : Nat → Document → List Char → Except Refusal Document
  | 0, document, _ => .ok document
  | steps + 1, document, text =>
    match skipSpaces text with
    | [] => .ok document
    | '\n' :: rest => statementsWithin steps document rest
    | line => do
      let (document, rest) ← statement document line
      match ← skipComment (skipSpaces rest) with
      | [] => .ok document
      | '\n' :: rest => statementsWithin steps document rest
      | rest => fail .lineEnd rest

/-- Why there are no entries: bytes that are no text, a problem with its place, or an integer that
is too long. -/
inductive Error
  | bytes (e : Text.Utf8.DecodeError)
  | problem (message : String)
  | numeralTooLong (e : Text.NumeralTooLong)

/-- The entries of the document that a text writes. Line ends may have carriage returns. -/
def ofText (text : List Char) : Except Error Entries :=
  let source := Text.replaceAll ['\r', '\n'] ['\n'] text
  match statementsWithin (source.length + 1) .empty source with
  | .ok document => .ok document.entries
  | .error (.problem problem rest) => .error (.problem (problemText source problem rest))
  | .error (.numeralTooLong e) => .error (.numeralTooLong e)

/-- The entries of the document that bytes encode. -/
def ofBytes (bytes : List UInt8) : Except Error Entries :=
  match Text.Utf8.decode bytes with
  | .ok text => ofText text
  | .error e => .error (.bytes e)

end Gutter.Toml
