import Gutter.Machine.State
import Gutter.Tools.Quote

/-! Tools: the programs that every machine has. A tool is called by the name of its file and with
its arguments, and ends with a status. -/

namespace Gutter.Tools

open Machine Shell

abbrev Tool := List (List Char) → Act Nat

/-- Prints a text. -/
def put (text : List Char) : Act Unit := write 1 text

def putLine (text : List Char) : Act Unit := write 1 (text ++ ['\n'])

/-- Says something without the name of the tool. -/
def say (text : String) : Act Unit := write 2 (bytesOf text)

/-- Says something after the name of the tool, in pieces. -/
def warn (pieces : List (List Char)) : Act Unit := do
  write 2 ((← self).name ++ ": ".toList ++ pieces.flatten ++ ['\n'])

/-- The tool writes in the characters of the locale. -/
def isWide : Act Bool := do
  let exported := (← self).exported
  let chosen := ["LC_ALL", "LC_CTYPE", "LANG"].filterMap fun name => exported.lookup name.toList
  let name := ((chosen.filter (!·.isEmpty)).headD []).map Char.toUpper
  return (String.ofList (name.filter (· ≠ '-'))).endsWith "UTF8"

/-- A word between the quotes of the locale. -/
def quoted (word : List Char) : Act (List Char) := do return inQuotes (← isWide) word

/-- A file's name in the quotes of a shell. -/
def named (name : List Char) : Act (List Char) := do return shellQuoted (← isWide) name

/-- A file's name before a colon, in quotes only if it needs them. -/
def nameOf (name : List Char) : Act (List Char) := do return shellName (← isWide) true name

/-- Points to the help of the tool. -/
def tryHelp : Act Unit := do
  write 2 ("Try '".toList ++ (← self).name ++ " --help' for more information.\n".toList)

/-- Says what is wrong with the arguments, and ends with a status. -/
def misuse (status : Nat) (pieces : List (List Char)) : Act Nat := do
  warn pieces
  tryHelp
  return status

/-- Complains that something of which there has to be one is missing. -/
def missingOperand (status : Nat) : Act Nat := misuse status ["missing operand".toList]

def extraOperand (status : Nat) (operand : List Char) : Act Nat := do
  misuse status ["extra operand ".toList, ← quoted operand]

/-- What a fault of a file is called. -/
def faultName (fault : Files.Fault) : List Char := fault.text.toList

/-- Tells that something cannot be done. -/
def refuse (pieces : List (List Char)) (fault : Files.Fault) : Act Unit :=
  warn (pieces ++ [": ".toList, faultName fault])

/-- Where a path leads to the tool's own input. -/
def isInput (path : List Char) : Bool := path = ['-'] || path = "/dev/stdin".toList

/-- Whether a path leads to a device that gives bytes without end. -/
def isEndless (path : List Char) : Act Bool := do
  return ((← get).files.device? (textOf path)).any (· ≠ .sink)

/-- Acts where bytes come in without end. -/
def fromSource {α : Type} (act : Act α) : Act α := do
  let channels := (← self).channels
  let source ← sourcePipe
  updateSelf fun p => { p with channels := (0, source) :: channels.filter (·.1 ≠ 0) }
  let found ← act
  updateSelf fun p => { p with channels }
  return found

/-- Why nothing can be read from what comes in. -/
def inputFault? : Act (Option Files.Fault) := do
  match ← channel? 0 with
  | some .directory => return some .isDirectory
  | none => return some .badDescriptor
  | _ => return none

/-- The bytes of a file, or what comes in; `none` tells why there are none. -/
def bytesAt (path : List Char) : Act (Except Files.Fault (List Char)) := do
  if isInput path then
    match ← inputFault? with
    | some fault => return .error fault
    | none => return .ok (← readAll 0)
  else if ← isEndless path then return .ok (← fromSource (readAll 0))
  else
    match (← get).files.read (textOf path) with
    | .ok bytes => return .ok (charsOf bytes)
    | .error e => return .error e.fault

/-- The bytes of a file, or a complaint about it. -/
def inputOf (path : List Char) : Act (Option (List Char)) := do
  match ← bytesAt path with
  | .ok bytes => return some bytes
  | .error fault =>
    warn [← nameOf path, ": ".toList, faultName fault]
    return none

/-- Does something with the bytes of every file, or with what comes in if there is none; the status
is 1 if there is a file that cannot be read. -/
def overInputs (paths : List (List Char)) (act : List Char → List Char → Act Unit) : Act Nat := do
  let mut status := 0
  for path in (if paths.isEmpty then [['-']] else paths) do
    match ← inputOf path with
    | some bytes => act path bytes
    | none => status := 1
  return status

/-- The lines of a text without the marks that end them; whether the last one is ended. -/
def linesBy (mark : Char) (text : List Char) : List (List Char) × Bool :=
  let lines := Text.splitOn mark text
  if lines.getLast? = some [] then (lines.dropLast, true) else (lines, false)

def linesOf (text : List Char) : List (List Char) := (linesBy '\n' text).1

/-- The lines of a text, each with the mark that ends it. -/
def fullLinesBy (mark : Char) (text : List Char) : List (List Char) :=
  let lines := Text.splitOn mark text
  let whole := lines.dropLast.map (· ++ [mark])
  match lines.getLast? with
  | some (c :: rest) => whole ++ [c :: rest]
  | _ => whole

def fullLines (text : List Char) : List (List Char) := fullLinesBy '\n' text

/-- Lines that come one after another: those that are there with the marks that end them, the start of
one that is not, and whether more may come in. -/
structure Lines where
  mark : Char
  ready : List (List Char) := []
  start : List Char := []
  isOpen : Bool := false
  room : Nat := sampleSize

namespace Lines

def ofBytes (mark : Char) (bytes : List Char) : Lines := { mark, ready := fullLinesBy mark bytes }

/-- All that comes in. -/
def ofInput (mark : Char) : Lines := { mark, isOpen := true }

/-- What has been read and not been taken. -/
def left (l : Lines) : List Char := l.ready.flatten ++ l.start

/-- Adds bytes that have come in. -/
def add (l : Lines) (bytes : List Char) : Lines :=
  let lines := fullLinesBy l.mark (l.start ++ bytes)
  match lines.getLast? with
  | some last =>
    if last.getLast? = some l.mark then { l with ready := l.ready ++ lines, start := [] }
    else { l with ready := l.ready ++ lines.dropLast, start := last }
  | none => l

/-- No more is read of what has no end, since enough was. -/
def isSated (l : Lines) : Act Bool := do
  if l.room ≠ 0 || !(← self).streams then return false
  return (← source? 0).any fun (_, pipe) => pipe.closes.isNone

/-- Reads until a line is there, or nothing comes in any more. -/
def fill : Nat → Lines → Act Lines
  | 0, l => pure l
  | limit + 1, l => do
    if !l.ready.isEmpty || !l.isOpen then return l
    if ← l.isSated then
      updateSelf fun p => { p with starved := true }
      return { l with isOpen := false, start := [] }
    match ← readChunk 0 with
    | some bytes => fill limit { l.add bytes with room := l.room - bytes.length }
    | none =>
      return { l with isOpen := false, start := [], ready := if l.start.isEmpty then [] else [l.start] }

/-- The next line, with its mark if it has one. -/
def next (l : Lines) : Act (Option (List Char) × Lines) := do
  let l ← if l.isOpen && l.ready.isEmpty then fill (← pieces 0) l else pure l
  return (l.ready.head?, { l with ready := l.ready.drop 1 })

end Lines

/-- The lines of a file, or those that come in. -/
def linesAt (mark : Char) (path : List Char) : Act (Except Files.Fault Lines) := do
  if isInput path && (← inputFault?).isNone then return .ok (.ofInput mark)
  return (← bytesAt path).map (.ofBytes mark)

/-- Takes bytes that come in; the first number is how many pieces may be read. -/
def takeBytes : Nat → Nat → List (List Char) → Act (List (List Char) × List Char)
  | 0, _, taken => return (taken.reverse, [])
  | _, 0, taken => return (taken.reverse, [])
  | limit + 1, count, taken => do
    match ← readChunk 0 with
    | none => return (taken.reverse, [])
    | some bytes =>
      if count ≤ bytes.length then return ((bytes.take count :: taken).reverse, bytes.drop count)
      else takeBytes limit (count - bytes.length) (bytes :: taken)

/-- At most so many of the bytes that come in. -/
def readSome (count : Nat) : Act (List Char) := do
  let (taken, left) ← takeBytes (← pieces 0) count []
  unread 0 left
  return taken.flatten

/-- At most so many bytes of a file, or of what comes in. -/
def someBytesAt (count : Nat) (path : List Char) : Act (Except Files.Fault (List Char)) := do
  if isInput path && (← inputFault?).isNone then return .ok (← readSome count)
  else if ← isEndless path then return .ok (← fromSource (readSome count))
  else return (← bytesAt path).map (·.take count)

/-- The bytes of all files one after another, at most so many if there is a limit. -/
def joinedInputs (limit : Option Nat) (paths : List (List Char)) : Act (List Char × Nat) := do
  let mut status := 0
  let mut left := limit
  let mut read : List (List Char) := []
  for path in (if paths.isEmpty then [['-']] else paths) do
    match ← (match left with
      | some count => someBytesAt count path
      | none => bytesAt path) with
    | .ok bytes =>
      read := bytes :: read
      left := left.map (· - bytes.length)
    | .error fault =>
      warn [← nameOf path, ": ".toList, faultName fault]
      status := 1
  return (read.reverse.flatten, status)

/-- What a tool says of an output that takes nothing, and its status. -/
def outputFault (tool : String) (fault : Files.Fault) : String × Nat :=
  let own := match tool with
    | "head" => "error writing 'standard output'"
    | "tail" => "error writing 'standard output'"
    | "tee" => "'standard output'"
    | "sort" => "write failed: 'standard output'"
    | "yes" => "standard output"
    | "cat" => if fault = .badDescriptor then "standard output" else "write error"
    | _ => "write error"
  (own, if ["ls", "sort", "grep", "egrep", "fgrep", "diff", "cmp"].contains tool then 2 else 1)

/-- Complains if a tool could not print what it had to. -/
def checkOutput (tool : String) : Act Unit := do
  match (← self).lost with
  | some fault =>
    let (own, status) := outputFault tool fault
    warn [own.toList, ": ".toList, faultName fault]
    setStatus status
  | none => pure ()

/-- A number with blanks before it. -/
def aligned (width : Nat) (text : List Char) : List Char :=
  List.replicate (width - text.length) ' ' ++ text

def digits (n : Nat) : List Char := Nat.toDigits 10 n

/-- Makes a file hold bytes, or adds them to it. The tool's own channels have paths, too. -/
def writeFile (path bytes : List Char) (keep : Bool) : Act (Except Files.Fault Unit) := do
  match String.ofList path with
  | "/dev/stdout" =>
    write 1 bytes
    return .ok ()
  | "/dev/stderr" =>
    write 2 bytes
    return .ok ()
  | _ =>
    let files := (← get).files
    let old := if keep then (files.read (textOf path)).toOption.getD [] else []
    match files.write (textOf path) (old ++ toBytes bytes) with
    | .ok changed =>
      match files.locate (textOf path) with
      | .ok (place, none) => createAt place (.file (toBytes bytes) false) 0o666
      | _ => changeFiles fun _ => changed
      return .ok ()
    | .error e => return .error e.fault

end Gutter.Tools
