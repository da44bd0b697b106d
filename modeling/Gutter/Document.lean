import Gutter.Files.Tree
import Gutter.Text.Utf8

/-! Documents: texts in lines that are edited, with a revision that counts the edits. -/

namespace Gutter

/-- A document. Its number is its own, and its name is that of the file that it stands for. -/
structure Document where
  id : Nat
  filename : Option String
  lines : List (List Char)
  revision : Nat
deriving DecidableEq, Repr

namespace Document

open Text (splitOn joinWith)

def ofText (id : Nat) (text : List Char) (filename : Option String) : Document :=
  ⟨id, filename, splitOn '\n' text, 0⟩

def text (document : Document) : List Char := joinWith '\n' document.lines

/-- The line of a number from 1; it is empty if there is none. -/
def line (document : Document) (number : Int) : List Char :=
  if 1 ≤ number then (document.lines[(number - 1).toNat]?).getD [] else []

/-- The document after an edit that made these its lines. -/
def edited (document : Document) (lines : List (List Char)) : Document :=
  { document with lines, revision := document.revision + 1 }

def setText (document : Document) (text : List Char) : Document :=
  document.edited (splitOn '\n' text)

/-- The nearest number to `n` from 1 to `last`. -/
def clamp (n : Int) (last : Nat) : Nat := (min (max n 1) last).toNat

/-- The lines with the one of index `index` replaced by those of a text. -/
def splice (lines : List (List Char)) (index : Nat) (text : List Char) : List (List Char) :=
  lines.take index ++ splitOn '\n' text ++ lines.drop (index + 1)

/-- Puts a text in front of a column. A place outside of the document stands for the nearest one in
it. -/
def insert (document : Document) (line col : Int) (text : List Char) : Document :=
  let index := clamp line document.lines.length - 1
  let current := (document.lines[index]?).getD []
  let offset := clamp col (current.length + 1) - 1
  document.edited
    (splice document.lines index (current.take offset ++ text ++ current.drop offset))

/-- Puts a text in the place of a line, which has to exist. -/
def replaceLine? (document : Document) (line : Int) (text : List Char) : Option Document :=
  if 1 ≤ line ∧ line ≤ document.lines.length then
    some (document.edited (splice document.lines (line - 1).toNat text))
  else none

/-- A change of a document: an edit of its text, or a new name, which is the normal form of a
path. -/
inductive Change
  | setText (text : List Char)
  | insert (line col : Int) (text : List Char)
  | replaceLine (line : Int) (text : List Char)
  | rename (path : String)

/-- The document after a change, unless the change is of a line that does not exist. -/
def change? (document : Document) : Change → Option Document
  | .setText text => some (document.setText text)
  | .insert line col text => some (document.insert line col text)
  | .replaceLine line text => document.replaceLine? line text
  | .rename path => some { document with filename := some (Path.normal path) }

def outOfRange (line : Int) : String := s!"line {line} out of range"

/-- The text with every line end, whether marked by a carriage return, a newline or both, as a
newline. -/
def unifyNewlines : List Char → List Char
  | '\r' :: '\n' :: rest => '\n' :: unifyNewlines rest
  | '\r' :: rest => '\n' :: unifyNewlines rest
  | c :: rest => c :: unifyNewlines rest
  | [] => []

/-- Why a file has no text. -/
inductive ReadError
  | file (e : Files.Failure)
  | bytes (e : Text.Utf8.DecodeError)

def ReadError.message : ReadError → String
  | .file e => e.message
  | .bytes e => e.message

/-- The text of a file. -/
def readText (files : Files) (path : String) : Except ReadError (List Char) :=
  match files.read path with
  | .error e => .error (.file e)
  | .ok bytes =>
    match Text.Utf8.decode bytes with
    | .error e => .error (.bytes e)
    | .ok text => .ok (unifyNewlines text)

/-- A document with the text of a file, named by the normal form of its path. -/
def ofFile (files : Files) (id : Nat) (path : String) : Except ReadError Document :=
  let name := Path.normal path
  (readText files name).map fun text => ofText id text (some name)

/-- Why a document cannot be saved. -/
inductive SaveError
  | noName
  | file (e : Files.Failure)

def SaveError.message : SaveError → String
  | .noName => "cannot save a document without a filename"
  | .file e => e.message

/-- Writes the text to a file, which then names the document. -/
def save (document : Document) (files : Files) (path : Option String) :
    Except SaveError (Files × Document) :=
  match path.or document.filename with
  | none => .error .noName
  | some target =>
    let name := Path.normal target
    match files.write name (Text.Utf8.encode document.text) with
    | .error e => .error (.file e)
    | .ok files => .ok (files, { document with filename := some name })

def describe (document : Document) : String :=
  let filename := (document.filename.map Text.quote).getD "None"
  s!"TextDocument(id={document.id}, filename={filename}, revision={document.revision})"

end Document

end Gutter
