import Gutter.Environment
import Gutter.Text.CharClass

/-! Why a file cannot be used, and how that is said; and paths: texts that name files, their normal
form, and their absolute form. -/

namespace Gutter.Files

inductive Fault
  | notFound
  | inputOutput
  | badDescriptor
  | noSpace
  | notProgram
  | notPermitted
  | notDirectory
  | isDirectory
  | nameTooLong
  | nullByte
  | exists
  | notEmpty
  | tooManyLinks
  | invalid
deriving DecidableEq, Repr

/-- The number of a fault. -/
def Fault.code : Fault → Nat
  | .notFound => 2
  | .inputOutput => 5
  | .badDescriptor => 9
  | .noSpace => 28
  | .notProgram => 8
  | .notPermitted => 13
  | .notDirectory => 20
  | .isDirectory => 21
  | .nameTooLong => 36
  | .nullByte => 0
  | .exists => 17
  | .notEmpty => 39
  | .tooManyLinks => 40
  | .invalid => 22

def Fault.text : Fault → String
  | .notFound => "No such file or directory"
  | .inputOutput => "Input/output error"
  | .badDescriptor => "Bad file descriptor"
  | .noSpace => "No space left on device"
  | .notProgram => "Exec format error"
  | .notPermitted => "Permission denied"
  | .notDirectory => "Not a directory"
  | .isDirectory => "Is a directory"
  | .nameTooLong => "File name too long"
  | .nullByte => "embedded null byte"
  | .exists => "File exists"
  | .notEmpty => "Directory not empty"
  | .tooManyLinks => "Too many levels of symbolic links"
  | .invalid => "Invalid argument"

/-- A fault, and the path that was asked for. -/
structure Failure where
  fault : Fault
  path : String
deriving DecidableEq, Repr

/-- Paths with a null byte are refused before they are looked up, and a file that was opened is no
longer known by its path. -/
def Failure.message (e : Failure) : String :=
  let numbered := s!"[Errno {e.fault.code}] {e.fault.text}"
  match e.fault with
  | .nullByte => e.fault.text
  | .inputOutput => numbered
  | .noSpace => numbered
  | _ => s!"{numbered}: {Text.quote e.path}"

end Gutter.Files

namespace Gutter

/-- A path as the number of slashes in front of it, and its parts. Two slashes in front differ from
one; three and more do not. -/
structure Path where
  slashes : Nat
  parts : List (List Char)
deriving DecidableEq, Repr

namespace Path

def isPart (part : List Char) : Bool := !part.isEmpty && part ≠ ['.']

/-- The path that a text writes; empty parts and single dots do not count. -/
def ofText (text : List Char) : Path :=
  let slashes := match text with
    | '/' :: '/' :: '/' :: _ => 1
    | '/' :: '/' :: _ => 2
    | '/' :: _ => 1
    | _ => 0
  ⟨slashes, (Text.splitOn '/' text).filter isPart⟩

/-- The normal form of a path's text; a path without parts is a dot or its slashes. -/
def text (path : Path) : List Char :=
  if path.slashes = 0 && path.parts.isEmpty then ['.']
  else List.replicate path.slashes '/' ++ Text.joinWith '/' path.parts

def normal (text : String) : String := String.ofList (ofText text.toList).text

def isAbsolute (path : Path) : Bool := 0 < path.slashes

/-- Follows the parts of a path from a place; two dots lead one step back, but not beyond
the root. -/
def follow : List (List Char) → List (List Char) → List (List Char)
  | place, [] => place
  | place, part :: rest =>
    if part = ['.', '.'] then follow place.dropLast rest else follow (place ++ [part]) rest

/-- The text of a place. -/
def placeText (place : List (List Char)) : List Char := '/' :: Text.joinWith '/' place

/-- Why a path has no absolute form. -/
inductive Fault
  | noHome
  | nullByte
deriving DecidableEq, Repr

def Fault.message : Fault → String
  | .noHome => "Could not determine home directory."
  | .nullByte => "embedded null byte"

/-- Where users are at home, and where relative paths start. -/
structure Base where
  env : Environment
  homes : List (String × String)
  place : List (List Char)

/-- The home for a first part that starts with a tilde: that of the current user, or of the one who
is named. -/
def home? (base : Base) (part : List Char) : Option (List Char) :=
  let found := match part.drop 1 with
    | [] => base.env.find? "HOME"
    | name => base.homes.lookup (String.ofList name)
  found.map fun home =>
    match Text.trimEndWhere (· = '/') home.toList with
    | [] => ['/']
    | home => home

/-- The path with a tilde at its start replaced by a home. -/
def expandHome (base : Base) (path : Path) : Except Fault Path :=
  match path.isAbsolute, path.parts with
  | false, ('~' :: name) :: rest =>
    if name.contains '\x00' then .error .nullByte
    else
      match home? base ('~' :: name) with
      | none => .error .noHome
      | some home =>
        if home.head? = some '~' then .error .noHome
        else
          let start := ofText home
          .ok { start with parts := start.parts ++ rest }
  | _, _ => .ok path

/-- The absolute form of a path. -/
def resolve (base : Base) (path : Path) : Except Fault (List Char) :=
  match expandHome base path with
  | .error e => .error e
  | .ok path =>
    if path.parts.any (·.contains '\x00') then .error .nullByte
    else
      let start := if path.isAbsolute then [] else base.place
      .ok (placeText (follow start path.parts))

/-- The absolute form of a file's name, empty for a document without one. -/
def ofName (base : Base) (filename : Option String) : Except Fault String :=
  match filename with
  | none => .ok ""
  | some name =>
    if name.isEmpty then .ok ""
    else (resolve base (ofText name.toList)).map String.ofList

end Path

end Gutter
