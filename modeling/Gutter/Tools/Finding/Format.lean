import Gutter.Tools.Entry
import Gutter.Tools.Instant
import Gutter.Tools.Printing

/-! What is printed of a file that was found: a format of texts and of directives, each of which tells
something about the file. -/

namespace Gutter.Tools.Finding

open Machine Shell

/-- What is found: its path, where the walk started, how deep it is, and what it is. -/
structure Found where
  path : List Char
  root : List Char
  depth : Nat
  place : List (List Char)
  node : Node

def Found.entry (found : Found) : Entry := ⟨found.path, found.place, found.node⟩

/-- A directive; `detail` is the letter after one that tells a time. -/
structure Directive where
  flags : List Char
  width : Nat
  precision : Option Nat
  letter : Char
  detail : Char
deriving DecidableEq, Repr

inductive Piece
  | text (text : List Char)
  | directive (directive : Directive)
  | stop
deriving DecidableEq, Repr

/-- What is wrong with a format. -/
inductive FormatFault
  | ending
  | reserved (c : Char)
deriving DecidableEq, Repr

/-- Reads a format; the texts are warnings. -/
def readFormat : Nat → List Char → Except FormatFault (List Piece × List (List Char))
  | 0, _ => .ok ([], [])
  | limit + 1, '\\' :: rest =>
    let plain (text : List Char) (rest : List Char) :
        Except FormatFault (List Piece × List (List Char)) := do
      let (pieces, warnings) ← readFormat limit rest
      return (.text text :: pieces, warnings)
    let octal := octalDigits 3 rest
    match octal, rest with
    | [], [] => .ok ([.text ['\\']], [])
    | [], 'c' :: _ => .ok ([.stop], [])
    | [], c :: more =>
      match if c = 'e' then none else controlEscape? c with
      | some char => plain [char] more
      | none => do
        let (pieces, warnings) ← readFormat limit more
        let warning := "warning: unrecognized escape ".toList ++ Char.ofNat 96 :: '\\' :: c :: ['\'']
        return (.text ['\\', c] :: pieces, warning :: warnings)
    | octal, _ => plain [octalByte octal] (rest.drop octal.length)
  | limit + 1, '%' :: rest =>
    let (flags, after) := rest.span ['-', '+', ' ', '#', '0'].contains
    let (width, after) := after.span Char.isDigit
    let (precision, after) : Option (List Char) × List Char := match after with
      | '.' :: more => (some (more.takeWhile Char.isDigit), more.dropWhile Char.isDigit)
      | more => (none, more)
    let number (digits : List Char) : Nat := Text.valueOfDigits 10 digits
    match after with
    | [] => .error .ending
    | '%' :: more => do
      let (pieces, warnings) ← readFormat limit more
      return (.text ['%'] :: pieces, warnings)
    | c :: more =>
      let given := rest.take (rest.length - after.length)
      let directive (detail : Char) (more : List Char) :
          Except FormatFault (List Piece × List (List Char)) := do
        let (pieces, warnings) ← readFormat limit more
        return (.directive ⟨flags, number width, precision.map number, c, detail⟩ :: pieces, warnings)
      if ['{', '[', '('].contains c then .error (.reserved c)
      else if ['A', 'B', 'C', 'T'].contains c then
        match more with
        | [] => .error .ending
        | detail :: more => directive detail more
      else if "abcdDfFgGhHiklmMnpPsStuUyYZ".toList.contains c then directive ' ' more
      else do
        let (pieces, warnings) ← readFormat limit more
        let warning := "warning: unrecognized format directive ".toList
          ++ Char.ofNat 96 :: '%' :: given ++ [c, '\'']
        return (.text ('%' :: given ++ [c]) :: pieces, warning :: warnings)
  | limit + 1, c :: rest =>
    let text := (c :: rest).takeWhile fun c => c ≠ '%' && c ≠ '\\'
    do
      let (pieces, warnings) ← readFormat limit ((c :: rest).drop text.length)
      return (.text text :: pieces, warnings)
  | _, [] => .ok ([], [])

/-- A time as a letter asks for it; seconds have ten digits after their point. -/
def timeText (zone : Zone) (instant : Instant) (detail : Char) : List Char :=
  let clock := instant.clock zone
  let fraction := '.' :: Clock.fractionDigits instant.nanos 9 ++ ['0']
  let second := clock.format "%S".toList ++ fraction
  match detail with
  | '@' => clock.format "%s".toList ++ fraction
  | 'S' => second
  | 'T' => clock.format "%H:%M:".toList ++ second
  | 'X' => clock.format "%H:%M:".toList ++ second
  | '+' => clock.format "%Y-%m-%d+%H:%M:".toList ++ second
  | ' ' => clock.format "%a %b %e %H:%M:".toList ++ second ++ clock.format " %Y".toList
  | c => clock.format ['%', c]

def kindOf (node : Node) : Char :=
  match node with
  | .directory => 'd'
  | .link _ => 'l'
  | .device _ => 'c'
  | _ => 'f'

/-- What kind a file has after its links. -/
def kindBehind (files : Files) (found : Found) : Char :=
  match found.node with
  | .link _ =>
    match files.find (String.ofList (Path.placeText found.place)) with
    | .ok node => kindOf node
    | .error .tooManyLinks => 'L'
    | .error _ => 'N'
  | node => kindOf node

/-- The start of a path up to its last slash. -/
def pathAbove (path : List Char) : List Char :=
  if path.contains '/' then ((path.reverse.dropWhile (· ≠ '/')).drop 1).reverse else ['.']

/-- What a directive tells. -/
def Directive.text (d : Directive) (files : Files) (zone : Zone) (found : Found) : List Char :=
  let entry := found.entry
  let instant := instantOfTime (files.time found.place)
  let time := timeText zone instant
  let text := match d.letter with
    | 'p' => found.path
    | 'f' =>
      let ended := found.path.getLast? = some '/' && found.path.any (· ≠ '/')
      lastPart found.path ++ if ended then ['/'] else []
    | 'h' => pathAbove found.path
    | 'H' => found.root
    | 'P' => (found.path.drop found.root.length).dropWhile (· = '/')
    | 's' => digits entry.size
    | 'b' => digits (entry.blocks * 2)
    | 'k' => digits entry.blocks
    | 'd' => digits found.depth
    | 'y' => [kindOf found.node]
    | 'Y' => [kindBehind files found]
    | 'm' =>
      let rights := Nat.toDigits 8 (files.rightsAt found.place)
      if d.flags.contains '#' then '0' :: rights else rights
    | 'M' => entry.rightsText files
    | 'u' => "root".toList
    | 'g' => "root".toList
    | 'U' => ['0']
    | 'G' => ['0']
    | 'n' => digits (entry.links files)
    | 'i' => digits (entry.number files)
    | 'l' => entry.target
    | 'D' => "46".toList
    | 'F' => "overlay".toList
    | 'S' =>
      if entry.size = 0 then ['1']
      else digits (entry.blocks * 1024 / entry.size)
    | 'Z' => []
    | _ => time d.detail
  let room := d.width - text.length
  let zeros := d.flags.contains '0' && (d.letter = 'm' || d.letter = 'd')
  let text := if d.letter = 'm' || d.letter = 'd' then text else d.precision.elim text text.take
  if d.flags.contains '-' then text ++ List.replicate room ' '
  else List.replicate room (if zeros then '0' else ' ') ++ text

def formatText (files : Files) (zone : Zone) (found : Found) : List Piece → List Char
  | [] => []
  | .stop :: _ => []
  | .text text :: rest => text ++ formatText files zone found rest
  | .directive d :: rest => d.text files zone found ++ formatText files zone found rest

/-- The line that tells all of a file. -/
def listText (files : Files) (zone : Zone) (wide : Bool) (found : Found) : List Char :=
  let entry := found.entry
  let time := files.time found.place
  let date := ((instantOfTime time).clock zone).format
    (if isRecent files time then "%b %e %H:%M" else "%b %e  %Y").toList
  let owner := "root     root     ".toList
  let escaped (name : List Char) : List Char := (marks wide name).flatMap fun
    | .shown bytes => if bytes = [' '] || bytes = ['\\'] || bytes = ['"'] then '\\' :: bytes else bytes
    | .hidden byte => escapeOf byte
  let size := match entry.device with
    | some (major, minor) => aligned 3 (digits major) ++ ',' :: ' ' :: aligned 3 (digits minor)
    | none => aligned 8 (digits entry.size)
  let arrow := match found.node with
    | .link _ => " -> ".toList ++ escaped entry.target
    | _ => []
  aligned 9 (digits (entry.number files)) ++ ' ' :: aligned 6 (digits entry.blocks) ++ ' ' ::
    entry.rightsText files ++ ' ' :: aligned 3 (digits (entry.links files)) ++ ' ' :: owner ++ size
    ++ ' ' :: date ++ ' ' :: escaped found.path ++ arrow ++ ['\n']

end Gutter.Tools.Finding
