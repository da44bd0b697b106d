import Gutter.Shell.Modes
import Gutter.Tools.Basic

/-! What tools tell of a file: how long it is, at how many places it stands, what kind it has. -/

namespace Gutter.Tools

open Machine Shell

/-- A file: its name as it is shown, its place, and what is there. -/
structure Entry where
  name : List Char
  place : List (List Char)
  node : Node

namespace Entry

def size (e : Entry) : Nat :=
  match e.node with
  | .directory => 4096
  | .file bytes _ => bytes.length
  | .link target => Files.byteSize target
  | .tool _ => 100000
  | .sealedFile => 0
  | .device _ => 0

/-- The blocks of 1024 bytes that a file takes. -/
def blocks (e : Entry) : Nat :=
  match e.node with
  | .link _ => 0
  | _ => (e.size + 4095) / 4096 * 4

/-- How often a file stands in directories; a directory stands in itself, too, and in those within
it. -/
def links (files : Files) (e : Entry) : Nat :=
  if e.node = .directory then
    2 + ((files.names e.place).filter fun name =>
      files.node? (e.place ++ [name]) = some .directory).length
  else (files.sharers e.place).length

/-- A number that files have in common if they share their bytes. -/
def number (files : Files) (e : Entry) : Nat :=
  let first := (files.sharers e.place).getLastD e.place
  let later := files.nodes.takeWhile fun n => n.1 ≠ first
  131072 + (files.nodes.length - later.length)

def kindLetter (e : Entry) : Char :=
  match e.node with
  | .directory => 'd'
  | .link _ => 'l'
  | .device _ => 'c'
  | _ => '-'

/-- What kind of file it is, in words. -/
def kindName (e : Entry) : String :=
  match e.node with
  | .directory => "directory"
  | .link _ => "symbolic link"
  | .device _ => "character special file"
  | .file [] _ => "regular empty file"
  | _ => "regular file"

/-- The numbers of a device. -/
def device (e : Entry) : Option (Nat × Nat) :=
  match e.node with
  | .device .sink => some (1, 3)
  | .device .source => some (1, 5)
  | .device .full => some (1, 7)
  | _ => none

/-- The kind and the rights in ten letters. -/
def rightsText (files : Files) (e : Entry) : List Char :=
  e.kindLetter :: Modes.text (files.rightsAt e.place)

/-- Where a link leads. -/
def target (e : Entry) : List Char :=
  match e.node with
  | .link target => bytesOf (String.ofList target)
  | _ => []

end Entry

/-- A number of bytes with a letter for thousands, where each is `base`; it is rounded up, and has a
digit after a point if it is below ten. -/
def scaled (base n : Nat) : List Char :=
  let rec go : Nat → Nat → List Char → List Char
    | 0, _, _ => digits n
    | limit + 1, unit, letters =>
      let tenths := (n * 10 + unit - 1) / unit
      let wholes := (n + unit - 1) / unit
      let letter := letters.take 1
      if tenths ≤ 99 then digits (tenths / 10) ++ '.' :: digits (tenths % 10) ++ letter
      else if wholes < base then digits wholes ++ letter
      else go limit (unit * base) (letters.drop 1)
  if n < base then digits n
  else go 8 base (if base = 1000 then "kMGTPEZY" else "KMGTPEZY").toList

end Gutter.Tools
