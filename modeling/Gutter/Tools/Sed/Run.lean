import Gutter.Regular.Match
import Gutter.Tools.Running
import Gutter.Tools.Sed.Reader

/-! Scripts of the stream editor at work: the line that is being edited, what is held, and what comes
out. -/

namespace Gutter.Tools.Sed

open Machine

/-- How lines are read and printed. -/
structure Settings where
  script : Script
  quiet : Bool
  wide : Bool
  apart : Bool
  inPlace : Option (List Char)
  mark : Char
  width : Nat
  strict : Bool

/-- A line without its mark, and whether it had one. -/
structure Text where
  bytes : List Char
  ended : Bool
deriving DecidableEq, Repr

/-- Where a command is within the range of its lines. An open one may end at a line; it is exact if
no later line belongs to it. -/
inductive Progress
  | outside
  | within (last : Option Nat) (exact : Bool)
  | over
deriving DecidableEq, Repr

/-- What is printed before the next line is read. -/
inductive Waiting
  | text (bytes : List Char)
  | file (path : List Char)
deriving DecidableEq, Repr

/-- The files that are still to be read, and the lines that are left of the one that is open. -/
structure Input where
  later : List (List Char)
  lines : Lines := { mark := '\n' }
  name : List Char := ['-']
  isOpen : Bool := false
  fresh : Bool := false

/-- The editor at work. What is printed is gathered; in place of a file its new bytes are. -/
structure Editor where
  input : Input
  space : Text := ⟨[], true⟩
  held : Text := ⟨[], true⟩
  line : Nat := 0
  replaced : Bool := false
  waiting : List Waiting := []
  progress : List (Nat × Progress) := []
  last : Option Sought := none
  printed : List (List Char) := []
  edited : Option (List (List Char)) := none
  unended : List (List Char) := []
  readers : List (List Char × List (List Char)) := []
  status : Nat := 0

/-- Why the editor stops: with a status, or with something to say about it. -/
inductive Halt
  | noExpression
  | spoken (pieces : List (List Char)) (n : Nat)

abbrev Edit := ExceptT Halt (StateT Editor Act)

def doing {α : Type} (act : Act α) : Edit α := liftM act

/-! ### Output -/

/-- Prints what was gathered. -/
def flush : Edit Unit := do
  let text := (← get).printed.reverse.flatten
  modify fun e => { e with printed := [] }
  doing (put text)

def toOutput (bytes : List Char) : Edit Unit :=
  modify fun e => { e with printed := bytes :: e.printed }

/-- The name under which it is noted that the last line of the main output has no mark. -/
def mainOutput : List Char := []

def toMain (bytes : List Char) : Edit Unit :=
  modify fun e =>
    match e.edited with
    | some old => { e with edited := some (bytes :: old) }
    | none => { e with printed := bytes :: e.printed }

/-- Writes bytes to a file of the script, or to an output that it names. -/
def toFile (path bytes : List Char) : Edit Unit := do
  match String.ofList path with
  | "/dev/stdout" => toOutput bytes
  | "/dev/stderr" => doing (write 2 bytes)
  | _ =>
    let _ ← doing (writeFile path bytes true)

def send (output bytes : List Char) : Edit Unit :=
  if output = mainOutput then toMain bytes else toFile output bytes

/-- Ends the last line of an output if that has no mark. -/
def endLine (s : Settings) (output : List Char) : Edit Unit := do
  if (← get).unended.contains output then
    send output [s.mark]
    modify fun e => { e with unended := e.unended.filter (· ≠ output) }

/-- Writes a line, with its mark if it has one. -/
def sendLine (s : Settings) (output : List Char) (text : Text) : Edit Unit := do
  endLine s output
  send output (if text.ended then text.bytes ++ [s.mark] else text.bytes)
  if !text.ended then modify fun e => { e with unended := output :: e.unended }

/-- Writes bytes after a line. -/
def sendBytes (s : Settings) (output bytes : List Char) : Edit Unit := do
  endLine s output
  send output bytes

def printSpace (s : Settings) : Edit Unit := do sendLine s mainOutput (← get).space

/-- Prints what waits for the end of the line. -/
def printWaiting (s : Settings) : Edit Unit := do
  let waiting := (← get).waiting.reverse
  modify fun e => { e with waiting := [] }
  for w in waiting do
    endLine s mainOutput
    match w with
    | .text bytes => toMain bytes
    | .file path =>
      match ← doing (bytesAt path) with
      | .ok bytes => toMain bytes
      | .error _ => pure ()

/-! ### Input -/

/-- The name of the copy that is kept of a file: an ending is added, or takes in the name. -/
def copyName (ending path : List Char) : List Char :=
  let (before, name) := (partsBefore path, lastPart path)
  let copy := if ending.contains '*' then
      ending.flatMap fun c => if c = '*' then name else [c]
    else name ++ ending
  if copy.contains '/' || before.isEmpty || !path.contains '/' then copy else before ++ '/' :: copy

/-- Puts the new bytes in place of a file. -/
def closeEdited (s : Settings) : Edit Unit := do
  match s.inPlace, (← get).edited with
  | some ending, some bytes =>
    let path := (← get).input.name
    modify fun e => { e with edited := none }
    doing do
      let files := (← getThe State).files
      match files.seek false (Shell.textOf path) with
      | .ok (place, _) =>
        let (old, executable) := match files.find (Shell.textOf path) with
          | .ok (.file old executable) => (old, executable)
          | _ => ([], false)
        if !ending.isEmpty then
          match files.seek false (Shell.textOf (copyName ending path)) with
          | .ok (copy, _) => changeFiles fun files => files.set copy (.file old executable)
          | .error _ => pure ()
        changeFiles fun files =>
          files.set place (.file (Shell.toBytes bytes.reverse.flatten) executable)
      | .error _ => pure ()
  | _, _ => pure ()

/-- Opens files up to one that has lines; whether there is one. A file that is edited in place, or
that stands for itself, is opened only when it is wanted. -/
def openNext (s : Settings) (stays : Bool) : Nat → Edit Bool
  | 0 => pure false
  | limit + 1 => do
    let (line, lines) ← doing (← get).input.lines.next
    if line.isSome then
      let lines := { lines with ready := line.toList ++ lines.ready }
      modify fun e => { e with input := { e.input with lines } }
      return true
    let e ← get
    if stays && e.input.isOpen then return false
    if e.input.isOpen then closeEdited s
    match e.input.later with
    | [] =>
      modify fun e => { e with input := { e.input with isOpen := false } }
      return false
    | path :: later =>
      modify fun e => { e with input := { later, name := path } }
      let isThere := s.inPlace.isSome && path ≠ ['-']
      let read ← doing (linesAt s.mark path)
      match read with
      | .error .isDirectory =>
        if isThere then throw (.spoken ["couldn't edit ".toList, path, ": not a regular file".toList] 4)
        else throw (.spoken ["read error on ".toList, path, ": Is a directory".toList] 4)
      | .error fault =>
        doing (warn ["can't read ".toList, path, ": ".toList, faultName fault])
        modify fun e => { e with status := 2 }
        openNext s stays limit
      | .ok lines =>
        modify fun e =>
          { e with
            input := { e.input with
              lines, isOpen := true, fresh := s.apart }
            edited := if isThere then some [] else none }
        openNext s stays limit

/-- No line comes after the present one. -/
def isLast (s : Settings) : Edit Bool := do
  return !(← openNext s s.apart ((← get).input.later.length + 2))

/-- The state in which the ranges are at the start of a file. -/
def Settings.startProgress (s : Settings) : List (Nat × Progress) :=
  s.script.commands.toList.zipIdx.filterMap fun (c, index) =>
    if c.first = some (.line 0) then some (index, .within none true) else none

/-- Takes the next line, in place of the present one or after it; whether there is one. -/
def nextLine (s : Settings) (adds : Bool) : Edit Bool := do
  printWaiting s
  modify fun e => { e with replaced := false }
  if ← openNext s false ((← get).input.later.length + 2) then
    let e ← get
    match ← doing e.input.lines.next with
    | (none, _) => return false
    | (some line, lines) =>
      let ended := line.getLast? = some s.mark
      let bytes := if ended then line.dropLast else line
      if e.input.fresh then
        modify fun e =>
          { e with line := 0, held := ⟨[], true⟩, progress := s.startProgress, readers := [] }
      modify fun e =>
        { e with
          input := { e.input with lines, fresh := false }
          line := e.line + 1
          space := ⟨if adds then e.space.bytes ++ s.mark :: bytes else bytes, ended⟩ }
      return true
  else return false

/-! ### Lines for which commands run -/

def sightOf (s : Settings) (sought : Sought) : Regular.Sight :=
  { wide := s.wide, folds := sought.folds, ofLines := sought.ofLines }

/-- The expression that is meant, which is then the last one. -/
def meant (sought : Option Sought) : Edit Sought := do
  match sought <|> (← get).last with
  | some found =>
    modify fun e => { e with last := some found }
    return found
  | none => throw .noExpression

/-- The expression is found in the space. -/
def isFound (s : Settings) (sought : Option Sought) : Edit Bool := do
  let sought ← meant sought
  let chars := Regular.signs s.wide (← get).space.bytes
  return (sought.node.on (sightOf s sought) chars).isThere

/-- An address names the present line. -/
def names (s : Settings) (a : Address) : Edit Bool := do
  let line := (← get).line
  match a with
  | .line n => return line = n
  | .every first step => return first ≤ line && (line - first) % step = 0
  | .last => isLast s
  | .found sought => isFound s sought
  | _ => return false

/-- A range starts in the present line. -/
def startsRange (s : Settings) (first : Address) (progress : Progress) : Edit Bool := do
  match first with
  | .line n => return progress ≠ .over && n ≤ (← get).line
  | a => names s a

/-- The range of two addresses in the present line: whether it belongs to it, and how it goes on. -/
def rangeStep (s : Settings) (first second : Address) (progress : Progress) :
    Edit (Bool × Progress) := do
  let line := (← get).line
  match progress with
  | .within last exact =>
    match second with
    | .found sought => return (true, if ← isFound s sought then .over else progress)
    | .last => return (true, if ← isLast s then .over else progress)
    | _ =>
      match last with
      | some n =>
        if n < line && exact then
          let again ← if first matches .line _ then pure false else names s first
          return (again, .over)
        else return (true, if n ≤ line then .over else progress)
      | none => return (true, if ← names s second then .over else progress)
  | _ =>
    if !(← startsRange s first progress) then return (false, progress)
    else
      match second with
      | .line n =>
        if n ≤ line then
          let alone := !(first matches .line _) || n = line || first = .line line
          return (alone, .over)
        else return (true, .within (some n) true)
      | .plus count =>
        return (true, if count = 0 then .over else .within (some (line + count)) false)
      | .multiple step =>
        let stop := if step = 0 then line else (line + step - 1) / step * step
        return (true, if stop ≤ line then .over else .within (some stop) false)
      | _ => return (true, .within none true)

/-- A command runs for the present line. -/
def selects (s : Settings) (index : Nat) (c : Command) : Edit Bool := do
  let chosen ← match c.first, c.second with
    | none, _ => pure true
    | some a, none => names s a
    | some a, some b =>
      let progress := ((← get).progress.lookup index).getD .outside
      let (chosen, next) ← rangeStep s a b progress
      modify fun e =>
        { e with progress := (index, next) :: e.progress.filter (·.1 ≠ index) }
      pure chosen
  return chosen != c.inverted

/-! ### Substitutions -/

def changeCase (wide : Bool) (case : Case) (c : Char) : Char :=
  match case with
  | .asIs => c
  | .upper => if c.toNat < 0x80 || !wide then c.toUpper else Char.ofNat (Text.upperCode c.toNat)
  | .lower => if c.toNat < 0x80 || !wide then c.toLower else Char.ofNat (Text.lowerCode c.toNat)

def changeCases (wide : Bool) (case : Case) (first : Option Case) (text : List Char) : List Char :=
  match text with
  | [] => []
  | c :: rest => changeCase wide (first.getD case) c :: rest.map (changeCase wide case)

/-- What is put in place of something found. A first letter that is asked for by an empty group may
come in the next piece. -/
def replacement (wide : Bool) (text : List Char) (found : Regular.Found) :
    Option Case → List Segment → List Char
  | _, [] => []
  | carried, seg :: rest =>
    let first := seg.first <|> carried
    let head := changeCases wide seg.case first (Regular.signs wide seg.text)
    let first := if seg.text.isEmpty then first else none
    match seg.group with
    | none => head ++ replacement wide text found none rest
    | some number =>
      let (start, stop) := (found.group number).getD (0, 0)
      if start = stop then
        head ++ replacement wide text found (if seg.first.isSome then first else none) rest
      else
        head ++ changeCases wide seg.case first ((text.drop start).take (stop - start))
          ++ replacement wide text found none rest

/-- The text with what is found replaced, newest first, and whether anything was. Nothing empty is
found where the last thing that was found ends. -/
def replaceFrom (search : Regular.Search) (text : List Char) (new : Regular.Found → List Char)
    (from_ : Nat) (everywhere : Bool) :
    Nat → Nat → Option Nat → Nat → List (List Char) → List (List Char) × Bool
  | 0, _, _, place, done => (text.drop place :: done, false)
  | limit + 1, count, previous, place, done =>
    match search.from? place with
    | none => (text.drop place :: done, false)
    | some found =>
      let before := (text.drop place).take (found.start - place)
      let here := (text.drop found.start).take (found.stop - found.start)
      if found.stop = found.start then
        let next := (text.drop found.start).take 1
        let goOn (count : Nat) (done : List (List Char)) : List (List Char) × Bool :=
          if next.isEmpty then (done, false)
          else
            replaceFrom search text new from_ everywhere limit count none (found.start + 1)
              (next :: done)
        if previous = some found.start then goOn count (before :: done)
        else if count + 1 < from_ then goOn (count + 1) (before :: done)
        else if everywhere then
          ((goOn (count + 1) (new found :: before :: done)).1, true)
        else (text.drop found.start :: new found :: before :: done, true)
      else if count + 1 < from_ then
        replaceFrom search text new from_ everywhere limit (count + 1) (some found.stop) found.stop
          (here :: before :: done)
      else if everywhere then
        ((replaceFrom search text new from_ everywhere limit (count + 1) (some found.stop) found.stop
          (new found :: before :: done)).1, true)
      else (text.drop found.stop :: new found :: before :: done, true)

/-- What a command of the shell prints, without the newline at its end. -/
def outputOf (worker : Worker) (s : Settings) (command : List Char) : Edit (List Char) := do
  let text ← doing (shellOutput worker command)
  return if text.getLast? = some s.mark then text.dropLast else text

def substitute (worker : Worker) (s : Settings) (sub : Substitution) : Edit Unit := do
  let sought ← meant sub.sought
  let e ← get
  let chars := Regular.signs s.wide e.space.bytes
  let search := sought.node.on (sightOf s sought) chars
  let new (found : Regular.Found) : List Char := replacement s.wide chars found none sub.segments
  let (pieces, done) :=
    replaceFrom search chars new sub.from_ sub.everywhere (chars.length + 2) 0 none 0 []
  if done then
    let text := Regular.unsigned s.wide pieces.reverse.flatten
    modify fun e => { e with space := { e.space with bytes := text }, replaced := true }
    if sub.prints then printSpace s
    if sub.executes then
      let text ← outputOf worker s (← get).space.bytes
      modify fun e => { e with space := { e.space with bytes := text } }
    if sub.printsRun then printSpace s
    match sub.output with
    | some path => sendLine s path (← get).space
    | none => pure ()

/-! ### Commands -/

/-- A byte so that it can be seen without doubt. -/
def unambiguous (c : Char) : List Char :=
  match c with
  | '\\' => ['\\', '\\']
  | _ => if ' ' ≤ c && c ≤ '~' then [c] else escapeOf c

/-- A line in pieces that are no wider than asked for. -/
def listed (mark : Char) (width : Nat) : Nat → List (List Char) → List Char
  | _, [] => ['$', mark]
  | column, piece :: rest =>
    if 0 < width && width - 1 < column + piece.length then
      '\\' :: mark :: piece ++ listed mark width piece.length rest
    else piece ++ listed mark width (column + piece.length) rest

/-- What follows a command: the next one, another one, the end of the script, the end without
printing, the script again for what is left, or the end of all. -/
inductive Flow
  | next
  | jump (index : Nat)
  | finished
  | dropped
  | again
  | stopped (status : Nat)
  | exhausted

/-- Where a label stands; without a name it is the end. -/
def target (s : Settings) (label : List Char) : Nat :=
  if label.isEmpty then s.script.commands.size
  else (s.script.labels.lookup label).getD s.script.commands.size

/-- The first line of a text. -/
def firstLine (s : Settings) (text : Text) : Text :=
  if text.bytes.contains s.mark then ⟨text.bytes.takeWhile (· ≠ s.mark), true⟩ else text

/-- The next line of a file of which lines are read one by one. -/
def lineOf (s : Settings) (path : List Char) : Edit (Option (List Char)) := do
  let lines ← match (← get).readers.lookup path with
    | some lines => pure lines
    | none =>
      match ← doing (bytesAt path) with
      | .ok bytes => pure (fullLinesBy s.mark bytes)
      | .error _ => pure []
  modify fun e =>
    { e with readers := (path, lines.drop 1) :: e.readers.filter (·.1 ≠ path) }
  return lines.head?

def setSpace (bytes : List Char) : Edit Unit :=
  modify fun e => { e with space := { e.space with bytes } }

/-- A text that ends with the mark of lines instead of a newline. -/
def marked (s : Settings) (text : List Char) : List Char :=
  if text.isEmpty then [] else text.dropLast ++ [s.mark]

def run (worker : Worker) (s : Settings) (index : Nat) (action : Action) : Edit Flow := do
  let e ← get
  match action with
  | .block _ => return .next
  | .nothing => return .next
  | .append text =>
    modify fun e => { e with waiting := .text text :: e.waiting }
    return .next
  | .insert text =>
    sendBytes s mainOutput (marked s text)
    return .next
  | .change text =>
    let open_ := match e.progress.lookup index with
      | some (.within _ _) => true
      | _ => false
    if !open_ then sendBytes s mainOutput (marked s text)
    return .dropped
  | .jump label => return .jump (target s label)
  | .jumpIfDone label =>
    modify fun e => { e with replaced := false }
    return if e.replaced then .jump (target s label) else .next
  | .jumpUnlessDone label =>
    modify fun e => { e with replaced := false }
    return if e.replaced then .next else .jump (target s label)
  | .quit status =>
    if !s.quiet then printSpace s
    endLine s mainOutput
    printWaiting s
    return .stopped status
  | .leave status => return .stopped status
  | .list width =>
    let text := e.space.bytes.map fun c =>
      if c = '\n' then ['\\', 'n'] else unambiguous c
    sendBytes s mainOutput (listed s.mark (width.getD s.width) 0 text)
    return .next
  | .lineNumber =>
    sendBytes s mainOutput (digits e.line ++ [s.mark])
    return .next
  | .delete => return .dropped
  | .deleteFirst =>
    if e.space.bytes.contains s.mark then
      setSpace ((e.space.bytes.dropWhile (· ≠ s.mark)).drop 1)
      return .again
    else return .dropped
  | .fileName =>
    sendBytes s mainOutput (e.input.name ++ [s.mark])
    return .next
  | .get =>
    set { e with space := e.held }
    return .next
  | .getMore =>
    set { e with space := ⟨e.space.bytes ++ s.mark :: e.held.bytes, e.held.ended⟩ }
    return .next
  | .hold =>
    set { e with held := e.space }
    return .next
  | .holdMore =>
    set { e with held := ⟨e.held.bytes ++ s.mark :: e.space.bytes, e.space.ended⟩ }
    return .next
  | .exchange =>
    set { e with space := e.held, held := e.space }
    return .next
  | .next =>
    let last ← isLast s
    if !s.quiet && !(last && s.strict) then printSpace s
    if last then return .dropped
    let _ ← nextLine s false
    return .next
  | .nextMore =>
    if ← isLast s then
      if !s.quiet && !s.strict then printSpace s
      return .dropped
    let _ ← nextLine s true
    return .next
  | .print =>
    printSpace s
    return .next
  | .printFirst =>
    sendLine s mainOutput (firstLine s e.space)
    return .next
  | .clear =>
    setSpace []
    return .next
  | .readFile path =>
    modify fun e => { e with waiting := .file path :: e.waiting }
    return .next
  | .readLine path =>
    match ← lineOf s path with
    | some bytes => modify fun e => { e with waiting := .text bytes :: e.waiting }
    | none => pure ()
    return .next
  | .write path =>
    sendLine s path e.space
    return .next
  | .writeFirst path =>
    sendLine s path (firstLine s e.space)
    return .next
  | .execute text =>
    if text.isEmpty then
      let text ← outputOf worker s e.space.bytes
      modify fun e => { e with space := ⟨text, true⟩ }
    else
      endLine s mainOutput
      toMain (← doing (shellOutput worker text))
    return .next
  | .substitute sub =>
    substitute worker s sub
    return .next
  | .translate pairs =>
    let chars := Regular.signs s.wide e.space.bytes
    setSpace (Regular.unsigned s.wide (chars.map fun c => (pairs.lookup c).getD c))
    return .next

/-- Runs the commands from one on; the number of steps is a limit. -/
def runFrom (worker : Worker) (s : Settings) : Nat → Nat → Edit Flow
  | 0, _ => pure .exhausted
  | limit + 1, index => do
    match s.script.commands[index]? with
    | none => return .finished
    | some c =>
      if ← selects s index c then
        match ← run worker s index c.action with
        | .next => runFrom worker s limit (index + 1)
        | .jump index => runFrom worker s limit index
        | flow => return flow
      else
        match c.action with
        | .block stop => runFrom worker s limit stop
        | _ => runFrom worker s limit (index + 1)

/-- The most commands that run for one line, and the most lines. -/
def commandLimit : Nat := 1000000

def lineLimit : Nat := 100000000

/-- Runs the script for the present line, and for all after it. -/
def runLines (worker : Worker) (s : Settings) : Nat → Edit Nat
  | 0 => return 0
  | limit + 1 => do
    let goOn : Edit Nat := do
      if ← nextLine s false then runLines worker s limit else return (← get).status
    match ← runFrom worker s commandLimit 0 with
    | .finished =>
      if !s.quiet then printSpace s
      goOn
    | .again =>
      printWaiting s
      runLines worker s limit
    | .stopped status => do
      let e ← get
      return if status = 0 then e.status else status
    | .exhausted =>
      flush
      doing (throw .overdue)
    | _ => goOn

/-- Edits all input, and gives what was not read of it back. -/
def edit (worker : Worker) (s : Settings) : Edit Nat := do
  for path in s.script.outputs do
    if !(["/dev/stdout", "/dev/stderr"].contains (String.ofList path)) then
      match ← doing (writeFile path [] false) with
      | .ok () => pure ()
      | .error fault =>
        throw (.spoken ["couldn't open file ".toList, path, ": ".toList, faultName fault] 4)
  modify fun e => { e with progress := s.startProgress }
  let started ← nextLine s false
  let ended : Edit Nat := do return (← get).status
  let status ← if started then runLines worker s lineLimit else ended
  printWaiting s
  let e ← get
  if e.input.isOpen then closeEdited s
  flush
  if isInput e.input.name then doing (giveBack 0 e.input.lines.left)
  return status

end Gutter.Tools.Sed
