import Gutter.Files.Tree
import Gutter.Machine.State
import Gutter.Shell.Arithmetic
import Gutter.Shell.Reader
import Gutter.Shell.Signal

/-! Expansion: the fields that a word of a command stands for. -/

namespace Gutter.Machine

open Shell

/-- What expansion makes of a part: characters, the sign that a field is there even if it is empty,
and gaps between fields. -/
inductive Piece
  | char (c : Char) (quoted splits : Bool)
  | presence
  | gap
deriving DecidableEq, Repr

/-- Where a word stands. Words among the words of a command give fields, and so do those inside the
quotes of such a word; a text that is matched, a value and other texts are one. Tildes count at the
start of a word, in a value also after colons, but not in quotes or in other texts. -/
inductive Place
  | field
  | inside
  | matched
  | value
  | text
deriving DecidableEq, Repr

/-- Whether words give fields there. -/
def Place.spreads : Place → Bool
  | .field => true
  | .inside => true
  | _ => false

/-- The place inside quotes. -/
def Place.quoted (place : Place) : Place := if place.spreads then .inside else .text

/-- How a statement is run: a failure of what is tested does not end a shell that was asked to end
with the first failure, and what comes last needs no process of its own. -/
structure Manner where
  tested : Bool
  last : Bool
deriving DecidableEq, Repr

namespace Manner

def plain : Manner := ⟨false, false⟩

def test : Manner := ⟨true, false⟩

/-- The last that a process does. -/
def final : Manner := ⟨false, true⟩

/-- More comes after it. -/
def inside (manner : Manner) : Manner := { manner with last := false }

end Manner

/-- What the shell does step by step. The lines of a program from a file can be told as they are
read. -/
inductive Work
  | statement (statement : Statement) (manner : Manner)
  | word (place : Place) (word : Word)
  | program (fromFile : Bool) (text : List Char) (manner : Manner)
  | execute (path name : List Char) (arguments : List (List Char))

/-- Does work of a smaller depth. -/
abbrev Worker := Work → Act (List Piece)

/-- Stops at a text that is no program, in the line where that was found. -/
def stopAt {α : Type} (fault : LineFault) : Act α := do
  updateSelf fun p => { p with line := fault.line }
  fail (bytesOf fault.fault.message)

def pieceChars (quoted splits : Bool) (text : List Char) : List Piece :=
  text.map fun c => .char c quoted splits

def defaultSeparators : List Char := [' ', '\t', '\n']

def separators : Act (List Char) := do return (← lookUpVariable "IFS".toList).getD defaultSeparators

/-- The character that joins fields: the first of the separators. -/
def joint : Act (List Char) := do return (← separators).take 1

/-- The characters of pieces, where gaps are filled. -/
def glyphs (filling : List Char) (pieces : List Piece) : Glob :=
  pieces.flatMap fun
    | .char c quoted _ => [⟨c, quoted⟩]
    | .presence => []
    | .gap => filling.map fun c => ⟨c, true⟩

/-- The text of pieces that are one field. -/
def textOfPieces (pieces : List Piece) : Act (List Char) := do
  return (glyphs (← joint) pieces).map (·.char)

/-- A field that is being read, and those before it, the newest first. -/
structure Splitting where
  field : Glob
  present : Bool
  afterBlank : Bool
  done : List Glob

def Splitting.close (s : Splitting) : Splitting :=
  { s with field := [], present := false, done := s.field.reverse :: s.done }

def splitStep (ifs : List Char) (s : Splitting) (piece : Piece) : Splitting :=
  match piece with
  | .presence => { s with present := true }
  | .gap => if s.present then { s.close with afterBlank := false } else s
  | .char c quoted splits =>
    if splits && ifs.contains c then
      if defaultSeparators.contains c then
        if s.present then { s.close with afterBlank := true } else s
      else if s.afterBlank && !s.present then { s with afterBlank := false }
      else { s.close with afterBlank := false }
    else { s with field := ⟨c, quoted⟩ :: s.field, present := true, afterBlank := false }

/-- The fields of pieces: characters that were not written but came from a value separate them. -/
def splitFields (ifs : List Char) (pieces : List Piece) : List Glob :=
  let s := pieces.foldl (splitStep ifs) ⟨[], false, false, []⟩
  let s := if s.present then s.close else s
  s.done.reverse

/-- The arguments as one text. -/
def joinedArguments : Act (List Char) := do
  return ((← self).arguments.intersperse (← joint)).flatten

/-- Some parameters are always there. -/
def parameterValue (name : List Char) : Act (Option (List Char)) := do
  let p ← self
  let number (n : Nat) : Option (List Char) := some (Nat.toDigits 10 n)
  match name with
  | ['#'] => return number p.arguments.length
  | ['?'] => return number p.status
  | ['$'] => return number p.shell
  | ['!'] => return p.lastJob.map (Nat.toDigits 10 ·)
  | ['-'] => return some (lettersOn p.options)
  | ['0'] => return some p.name
  | ['@'] => return some (← joinedArguments)
  | ['*'] => return some (← joinedArguments)
  | name =>
    if name.all Char.isDigit then
      let n := decimal name
      return if n = 0 then some p.name else p.arguments[n - 1]?
    else lookUpVariable name

/-- The pieces of some arguments. -/
def argumentPieces (inQuotes star : Bool) (arguments : List (List Char)) : Act (List Piece) := do
  if inQuotes && star then
    return pieceChars true false (arguments.intersperse (← joint)).flatten
  let fields := arguments.map fun text =>
    if inQuotes then .presence :: pieceChars true false text else pieceChars false true text
  return (fields.intersperse [.gap]).flatten

def isList (name : List Char) : Bool := name = ['@'] || name = ['*']

def unset {α : Type} (name : List Char) : Act α := fail (name ++ ": parameter not set".toList)

/-- The value of a parameter; it is an error that it has none if the shell was asked for that. -/
def valueOf (name : List Char) : Act (List Char) := do
  match ← parameterValue name with
  | some value => return value
  | none => if (← self).options.contains 'u' then unset name else return []

/-- The text that a word gives where it is not split. -/
def textIn (worker : Worker) (place : Place) (word : Word) : Act (List Char) := do
  textOfPieces (← worker (.word place word))

/-- Gives a parameter the value that it lacks. -/
def giveValue (name text : List Char) : Act Unit := do
  if !isName name then fail (name ++ ": bad variable name".toList)
  setVariable name text

def parameterPieces (worker : Worker) (place : Place) (inQuotes : Bool) (name : List Char)
    (use : Use) (operand : Word) : Act (List Piece) := do
  let chars (text : List Char) : List Piece :=
    (if inQuotes then [.presence] else []) ++ pieceChars inQuotes (!inQuotes) text
  let whole : Act (List Piece) := do
    if isList name then argumentPieces inQuotes (name = ['*']) (← self).arguments
    else return chars (← valueOf name)
  match use with
  | .bad => fail "Bad substitution".toList
  | .value => whole
  | .length => return chars (Nat.toDigits 10 (← valueOf name).length)
  | .missing evenEmpty action =>
    let value ← parameterValue name
    let there := value.any fun text => !(evenEmpty && text.isEmpty)
    let instead : Act (List Piece) := do
      let pieces ← worker (.word (if inQuotes then place.quoted else place) operand)
      return pieces.map fun
        | .char c quoted _ => .char c quoted (!inQuotes && !quoted)
        | piece => piece
    match action with
    | '+' => if there then instead else return []
    | '=' =>
      if there then whole
      else
        let text ← textIn worker (if inQuotes then .text else .value) operand
        giveValue name text
        return chars text
    | '?' =>
      if there then whole
      else
        let text ← textIn worker (if inQuotes then .text else .matched) operand
        let default := if evenEmpty then "parameter not set or null" else "parameter not set"
        fail (name ++ ": ".toList ++ if operand.isEmpty then default.toList else text)
    | _ => if there then whole else instead
  | .trimmed atEnd longest =>
    let pattern := glyphs (← joint) (← worker (.word .matched operand))
    if isList name && place.spreads && !(inQuotes && name = ['*']) then
      argumentPieces inQuotes false (trimTexts atEnd longest pattern (← self).arguments)
    else return chars (trim atEnd longest pattern (← valueOf name))

/-- Runs an act in a child process and gives what it prints. -/
def capture (act : Act Unit) : Act (List Char) := do
  let index ← emptyPipe
  let reading (channels : List (Nat × Channel)) : List (Nat × Channel) :=
    (1, .pipe index) :: channels.filter (·.1 ≠ 1)
  let result ← inProcess (fun p => { p with channels := reading p.channels }) do
    spend subshellTime
    act
  let parent ← self
  updateSelf fun p => { p with channels := [(0, .pipe index)] }
  let text ← readAll 0
  updateSelf fun p => { p with channels := parent.channels }
  let status ← statusAfter result
  updateSelf fun p => { p with substituted := some status }
  return ((text.filter (· ≠ '\x00')).reverse.dropWhile (· = '\n')).reverse

def arithmetic (source : List Char) : Act Int := do
  let p ← self
  let lookUp (name : List Char) : List Char := ((p.vars.lookup name).bind (·.value)).getD []
  match Arithmetic.evaluate lookUp source with
  | .error e => fail e.message
  | .ok (n, assigned) =>
    for (name, value) in assigned.reverse do setVariable name value
    return n

/-- The home that a tilde with a name stands for. -/
def homeOf (name : List Char) : Act (Option (List Char)) := do
  if name.isEmpty then lookUpVariable "HOME".toList
  else return ((← get).files.homes.lookup (textOf name)).map bytesOf

/-- The pieces of text that is not quoted. A tilde at its start, and in a value after a colon, is a
home up to the next slash; `closed` tells that the text ends the word. -/
def barePieces (place : Place) (atStart closed : Bool) (text : List Char) :
    Act (List Piece) := do
  let isEnd (c : Char) : Bool := c = '/' || (place = .value && c = ':')
  let segment (start : Bool) (text : List Char) (closed : Bool) : Act (List Piece) := do
    match start, text with
    | true, '~' :: rest =>
      let name := rest.takeWhile (!isEnd ·)
      let after := rest.drop name.length
      if after.isEmpty && !closed then return pieceChars false false text
      match ← homeOf name with
      | some home => return pieceChars true false home ++ pieceChars false false after
      | none => return pieceChars false false text
    | _, _ => return pieceChars false false text
  match place with
  | .text => return pieceChars false false text
  | .inside => return pieceChars false false text
  | .field => segment atStart text closed
  | .matched => segment atStart text closed
  | .value =>
    let segments := Text.splitOn ':' text
    let mut pieces : List Piece := []
    for (part, index) in segments.zipIdx do
      let last := index + 1 = segments.length
      let found ← segment (atStart || 0 < index) part (closed || !last)
      pieces := pieces ++ (if index = 0 then [] else [.char ':' false false]) ++ found
    return pieces

/-- The pieces of one part. -/
def partPieces (worker : Worker) (place : Place) (atStart closed : Bool) (part : Part) :
    Act (List Piece) := do
  match part with
  | .bare text => barePieces place atStart closed text
  | .quoted text => return .presence :: pieceChars true false text
  | .parameter inQuotes name use operand =>
    parameterPieces worker place inQuotes name use operand
  | .command inQuotes program =>
    let text ← capture do let _ ← worker (.statement program .final)
    return pieceChars inQuotes (!inQuotes) text
  | .arithmetic inQuotes expression =>
    let text ← textIn worker .text expression
    return pieceChars inQuotes (!inQuotes) (toString (← arithmetic text)).toList

/-- The pieces of parts, one after another. -/
def partsFrom (worker : Worker) (place : Place) (atStart : Bool) : Word → Act (List Piece)
  | [] => pure []
  | part :: rest => do
    let first ← partPieces worker place atStart rest.isEmpty part
    return first ++ (← partsFrom worker place false rest)

def wordPieces (worker : Worker) (place : Place) (word : Word) : Act (List Piece) :=
  partsFrom worker place true word

/-- The pattern that a word writes. -/
def patternOf (worker : Worker) (word : Word) : Act Glob := do
  return glyphs (← joint) (← worker (.word .matched word))

/-- The fields of a word. -/
def fieldsOfWord (worker : Worker) (word : Word) : Act (List (List Char)) := do
  let pieces ← worker (.word .field word)
  let fields := splitFields (← separators) pieces
  let s ← get
  if s.self.options.contains 'f' then return fields.map fun field => field.map (·.char)
  return fields.flatMap (expandGlob s.files)

def fieldsOfWords (worker : Worker) : List Word → Act (List (List Char))
  | [] => pure []
  | word :: rest => do
    return (← fieldsOfWord worker word) ++ (← fieldsOfWords worker rest)

end Gutter.Machine
