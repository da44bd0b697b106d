import Gutter.Shell.Condition
import Gutter.Shell.Signal
import Gutter.Shell.Syntax

/-! The machine on which commands run: processes with their channels, pipes whose bytes carry the
time at which they were written, and the output that is collected. Times are in microseconds. -/

namespace Gutter.Machine

open Shell

/-- Where a descriptor leads. -/
inductive Channel
  | sink
  | full
  | output
  | directory
  | pipe (index : Nat)
  | file (place : List (List Char))
deriving DecidableEq, Repr

/-- How a process ends. -/
inductive Ending
  | code (n : Nat)
  | signal (n : Nat)
deriving DecidableEq, Repr

/-- The status that a shell sees. -/
def Ending.status : Ending → Nat
  | .code n => n
  | .signal n => 128 + n

/-- Why a process does not go on with its next command. A fault ends a shell unless the command in
which it was found may fail, and a process is replaced by another program that ends in its place, or
never. A process is overdue if it waits beyond the deadline or for ever. -/
inductive Stop
  | ends (ending : Ending)
  | replaced (ending : Option Ending)
  | faults
  | returns (status : Nat)
  | breaks (levels : Nat)
  | continues (levels : Nat)
  | overdue
  | exhausted
deriving DecidableEq, Repr

/-- A variable without a value may be exported or fixed before it gets one. -/
structure Variable where
  value : Option (List Char)
  exported : Bool
  fixed : Bool
deriving DecidableEq, Repr

/-- What a function puts back when it ends: a variable, or the options of the shell. -/
inductive Saved
  | variable (name : List Char) (old : Option Variable)
  | options (letters : List Char)
deriving DecidableEq, Repr

/-- Where the options among the arguments are read: the number of the next argument, and how many
characters of the one before it have been taken. -/
structure Scan where
  next : Nat
  taken : Option Nat
deriving DecidableEq, Repr

/-- A job of a shell: its number, its processes, and whether it was waited for. -/
structure Listed where
  number : Nat
  processes : List Nat
  waited : Bool
deriving DecidableEq, Repr

/-- A process. `substituted` is the status of the last command that ran while words were expanded,
`shell` is the process whose number the shell calls its own, `job` the one that was started beside
others, and `context` the command of the shell that is at work. `loops` and `calls` tell how deep it is
in loops and functions. `locals` is there inside functions,
`known` are the files of commands that have been run, and `directory` is the current place as the
shell calls it. One that `streams` writes while it reads; it is starved if it could go on so without
end. `lost` tells why something that it wrote to its output is lost. -/
structure Process where
  id : Nat
  parent : Nat
  shell : Nat
  job : Nat
  clock : Nat
  name : List Char
  context : Option (List Char)
  arguments : List (List Char)
  vars : List (List Char × Variable)
  functions : List (List Char × Statement)
  aliases : List (List Char × List Char)
  channels : List (Nat × Channel)
  status : Nat
  substituted : Option Nat
  line : Nat
  options : List Char
  traps : List (Nat × List Char)
  lastJob : Option Nat
  jobs : List Listed
  loops : Nat
  calls : Nat
  locals : Option (List Saved)
  known : List (List Char × List Char)
  place : List (List Char)
  directory : List Char
  scan : Scan
  mask : Nat
  niceness : Int := 0
  streams : Bool := false
  starved : Bool := false
  lost : Option Files.Fault := none

/-- Bytes in a pipe with the times at which they were written, the newest first, and those that can
be read. A pipe that is never closed has no end. What was read of a file, and not used, can be given
back. -/
structure Pipe where
  written : List (Nat × List Char)
  unread : List (Nat × List Char)
  closes : Option Nat
  size : Nat
  count : Nat := 0
  isFile : Bool := false
deriving Repr

/-- Bytes of the collected output. -/
structure Chunk where
  time : Nat
  job : Nat
  bytes : List Char
deriving Repr

/-- A signal on its way to a process. -/
structure Delivery where
  time : Nat
  target : Nat
  signal : Nat
deriving DecidableEq, Repr

/-- A process that runs beside others; one that never ends has no end. -/
structure Job where
  id : Nat
  ends : Option (Nat × Ending)
deriving Repr

/-- The machine, with the processes that run beside others and the signals on their way. -/
structure State where
  files : Files
  pipes : Array Pipe
  output : List Chunk
  holds : List (Nat × Option Nat)
  jobs : List Job
  deliveries : List Delivery
  nextId : Nat
  deadline : Option Nat
  self : Process

abbrev Act := ExceptT Stop (StateM State)

def updateSelf (f : Process → Process) : Act Unit := modify fun s => { s with self := f s.self }

def self : Act Process := do return (← get).self

/-- Changes the files. -/
def changeFiles (f : Files → Files) : Act Unit := modify fun s => { s with files := f s.files }

/-- Creates something with all rights that are wanted and that the process gives to what it
creates. -/
def createAt (place : List (List Char)) (node : Node) (wanted : Nat) : Act Unit := do
  let rights := wanted - (wanted &&& (← self).mask)
  changeFiles fun files =>
    let files := files.set place node
    if rights = files.rightsAt place then files else files.setRights place rights

/-- The time between two moments at which files are written. -/
def moment : Nat := 4000

/-- The moment of files at a time of the clock. -/
def momentAt (clock : Nat) : Nat := Files.startTime + (clock / moment + 1) * moment * 1000

/-- Signals that stop a process until it is told to go on. -/
def stopsProcess (signal : Nat) : Bool := 19 ≤ signal && signal ≤ 22

/-- The signal that ends the present process, if one has arrived. -/
def State.fatal? (s : State) : Option Delivery :=
  s.deliveries.find? fun d =>
    d.target = s.self.id && d.time ≤ s.self.clock && !Shell.Signal.isHarmless d.signal
      && (d.signal = 9 || (s.self.traps.lookup d.signal).isNone)

/-- Sets the clock of the present process. -/
def setClock (clock : Nat) : Act Unit := modify fun s =>
  { s with self := { s.self with clock }, files := { s.files with now := momentAt clock } }

/-- Lets time pass. Beyond the deadline nothing happens any more. -/
def spend (microseconds : Nat) : Act Unit := do
  let start := (← self).clock
  setClock (start + microseconds)
  let s ← get
  match s.fatal? with
  | some delivery =>
    setClock (max start delivery.time)
    if stopsProcess delivery.signal then throw .overdue
    throw (.ends (.signal delivery.signal))
  | none => if s.deadline.any (· < s.self.clock) then throw .overdue

/-- Waits for a time; without one, for ever. -/
def waitUntil (time : Option Nat) : Act Unit := do
  match time with
  | none => throw .overdue
  | some time => spend (time - (← self).clock)

/-! ### Writing and reading -/

/-- The most bytes, and the most pieces, that are written into a pipe. Its writer is stopped then, and
who reads all of them waits for more without end. -/
def pipeLimit : Nat := 40000000

def pieceLimit : Nat := 100000

def brokenPipe : Ending := .signal 13

def channel? (descriptor : Nat) : Act (Option Channel) := do
  return (← self).channels.lookup descriptor

/-- Writes bytes to a channel. -/
def writeTo (channel : Channel) (bytes : List Char) : Act Unit := do
  let s ← get
  match channel with
  | .sink => pure ()
  | .full => pure ()
  | .directory => pure ()
  | .output =>
    set { s with output := ⟨s.self.clock, s.self.job, bytes⟩ :: s.output }
  | .pipe index =>
    match s.pipes[index]? with
    | none => pure ()
    | some pipe =>
      if pipeLimit < pipe.size || pieceLimit < pipe.count then
        set { s with pipes := s.pipes.set! index { pipe with closes := none } }
        throw (.ends brokenPipe)
      let pipe := { pipe with
        written := (s.self.clock, bytes) :: pipe.written
        size := pipe.size + bytes.length
        count := pipe.count + 1 }
      set { s with pipes := s.pipes.set! index pipe }
  | .file place =>
    match s.files.node? place with
    | some (.file old executable) =>
      set { s with files := s.files.set place (.file (old ++ toBytes bytes) executable) }
    | _ => pure ()

/-- Notes why what was written to the output is lost. -/
def lose (fault : Files.Fault) : Act Unit := updateSelf fun p => { p with lost := some fault }

/-- Writes bytes to a descriptor; what is written to one that is closed or full is lost. -/
def write (descriptor : Nat) (bytes : List Char) : Act Unit := do
  if !bytes.isEmpty then
    match ← channel? descriptor with
    | some .full => if descriptor = 1 then lose .noSpace
    | some channel => writeTo channel bytes
    | none => if descriptor = 1 then lose .badDescriptor

def newPipe (pipe : Pipe) : Act Nat := do
  let s ← get
  set { s with pipes := s.pipes.push pipe }
  return s.pipes.size

/-- A pipe into which something will be written from now on. -/
def emptyPipe : Act Nat := do
  newPipe { written := [], unread := [], closes := some (← self).clock, size := 0 }

/-- The bytes that are read at once of a source, and how many times they can be read. -/
def sourceChunk : List Char := List.replicate 4096 '\x00'

/-- A pipe from which zeros can be read without end. -/
def sourcePipe : Act Channel := do
  let time := (← self).clock
  let unread := List.replicate (pipeLimit / 4096) (time, sourceChunk)
  return .pipe (← newPipe { written := [], unread, closes := none, size := 0 })

/-- A pipe that holds bytes and is closed. -/
def pipeOf (isFile : Bool) (bytes : List Char) : Act Channel := do
  let time := (← self).clock
  let unread := if bytes.isEmpty then [] else [(time, bytes)]
  return .pipe (← newPipe { written := [], unread, closes := some time, size := 0, isFile })

/-- Brings what was written to a pipe in the order of its times, so that it can be read. -/
def Pipe.settled (pipe : Pipe) : Pipe :=
  if pipe.written.isEmpty then pipe
  else
    { pipe with
      written := []
      unread := pipe.unread ++ pipe.written.reverse.mergeSort fun a b => a.1 ≤ b.1 }

/-- The pipe that a descriptor reads from. -/
def source? (descriptor : Nat) : Act (Option (Nat × Pipe)) := do
  match ← channel? descriptor with
  | some (.pipe index) =>
    let s ← get
    match s.pipes[index]? with
    | none => return none
    | some pipe =>
      let pipe := pipe.settled
      set { s with pipes := s.pipes.set! index pipe }
      return some (index, pipe)
  | _ => return none

def setPipe (index : Nat) (pipe : Pipe) : Act Unit :=
  modify fun s => { s with pipes := s.pipes.set! index pipe }

/-- The next bytes that a descriptor reads, when they are there; `none` at the end. -/
def readChunk (descriptor : Nat) : Act (Option (List Char)) := do
  match ← source? descriptor with
  | none => return none
  | some (index, pipe) =>
    match pipe.unread with
    | (time, bytes) :: rest =>
      waitUntil (some (max time (← self).clock))
      setPipe index { pipe with unread := rest }
      return some bytes
    | [] =>
      waitUntil (pipe.closes.map (max · (← self).clock))
      return none

/-- Puts bytes back that were read too far. -/
def unread (descriptor : Nat) (bytes : List Char) : Act Unit := do
  match ← source? descriptor with
  | some (index, pipe) =>
    if !bytes.isEmpty then
      setPipe index { pipe with unread := ((← self).clock, bytes) :: pipe.unread }
  | none => pure ()

/-- Gives back what was read of a file. -/
def giveBack (descriptor : Nat) (bytes : List Char) : Act Unit := do
  match ← source? descriptor with
  | some (_, pipe) => if pipe.isFile then unread descriptor bytes
  | none => pure ()

/-- How many bytes come in, if that is known before they are read. -/
def sizeOfInput : Act (Option Nat) := do
  match ← source? 0 with
  | some (_, pipe) =>
    return if pipe.isFile then some (pipe.unread.foldl (fun n p => n + p.2.length) 0) else none
  | none => return none

/-- How many pieces can be read from a descriptor before it ends. -/
def pieces (descriptor : Nat) : Act Nat := do
  match ← source? descriptor with
  | none => return 1
  | some (_, pipe) => return pipe.unread.length + 2

/-- Does something with all that a descriptor reads, piece by piece. -/
def eachChunk (descriptor : Nat) (act : List Char → Act Unit) : Act Unit := do
  go (← pieces descriptor)
where
  go : Nat → Act Unit
    | 0 => pure ()
    | limit + 1 => do
      match ← readChunk descriptor with
      | none => pure ()
      | some bytes =>
        act bytes
        go limit

/-- How much is read of what has no end. -/
def sampleSize : Nat := 200000

/-- All that a descriptor reads. What has no end is read in part by a process that streams. -/
def readAll (descriptor : Nat) : Act (List Char) := do
  let endless := (← source? descriptor).any fun (_, pipe) => pipe.closes.isNone
  if endless && (← self).streams then
    updateSelf fun p => { p with starved := true }
    go (← pieces descriptor) (some sampleSize) []
  else go (← pieces descriptor) none []
where
  go : Nat → Option Nat → List (List Char) → Act (List Char)
    | 0, _, read => return read.reverse.flatten
    | limit + 1, room, read => do
      if room = some 0 then return read.reverse.flatten
      match ← readChunk descriptor with
      | none => return read.reverse.flatten
      | some bytes => go limit (room.map (· - bytes.length)) (bytes :: read)

/-- One line with its newline; shorter at the end, and `none` after it. -/
def readLine (descriptor : Nat) : Act (Option (List Char)) := do go (← pieces descriptor) []
where
  go : Nat → List Char → Act (Option (List Char))
    | 0, read => return if read.isEmpty then none else some read
    | limit + 1, read => do
      match ← readChunk descriptor with
      | none => return if read.isEmpty then none else some read
      | some bytes =>
        let (line, rest) := bytes.span (· ≠ '\n')
        match rest with
        | [] => go limit (read ++ line)
        | newline :: rest =>
          unread descriptor rest
          return some (read ++ line ++ [newline])

/-! ### Processes -/

/-- The time a process takes to start. -/
def startTime : Nat := 1000

/-- The time after which a shell beside another one, and one that is waited for, are at work. -/
def besideTime : Nat := 200

def subshellTime : Nat := 300

/-- The time it takes to look for a command that is nowhere. -/
def searchTime : Nat := 20

/-- Notes that a process held a channel up to a time. -/
def close (job : Nat) (time : Option Nat) (channel : Channel) : Act Unit := do
  match channel with
  | .output => modify fun s => { s with holds := (job, time) :: s.holds }
  | .pipe index =>
    modify fun s =>
      match s.pipes[index]? with
      | none => s
      | some pipe =>
        let closes := match pipe.closes, time with
          | some a, some b => some (max a b)
          | _, _ => none
        { s with pipes := s.pipes.set! index { pipe with closes } }
  | _ => pure ()

/-- Notes that a process is done with its channels. -/
def closeAll (time : Option Nat) (p : Process) : Act Unit := do
  for (_, channel) in p.channels do close p.job time channel

/-- Notes that the present process no longer holds channels that it had before. -/
def release (before : List (Nat × Channel)) : Act Unit := do
  let p ← self
  for (_, channel) in before do
    if !p.channels.any (·.2 = channel) then close p.job (some p.clock) channel

/-- Runs a process to its end, and goes back to the one that was there. Its end is `none` if it is
never reached. -/
def inProcess (change : Process → Process) (act : Act Unit) : Act (Option (Nat × Ending)) := do
  let before ← get
  let parent := before.self
  let id := before.nextId
  let ignored := parent.traps.filter (·.2.isEmpty)
  let child := { parent with id, parent := parent.id, traps := ignored, jobs := [], lost := none }
  set { before with nextId := id + 1, self := change child }
  let body : Act (Option Ending) :=
    tryCatch (do act; return some (.code (← self).status)) fun stop =>
      match stop with
      | .ends ending => return some ending
      | .replaced ending => return ending
      | .faults => return some (.code 2)
      | .returns status => return some (.code status)
      | .overdue => return none
      | .exhausted => throw .exhausted
      | _ => do return some (.code (← self).status)
  let ending ← body
  let child ← self
  let result := ending.map fun ending => (child.clock, ending)
  closeAll (result.map (·.1)) child
  modify fun s => { s with self := parent, files := { s.files with place := parent.place } }
  return result

def setStatus (n : Nat) : Act Unit := updateSelf fun p => { p with status := n }

/-- Waits for the end of a process and gives its status. -/
def statusAfter (result : Option (Nat × Ending)) : Act Nat := do
  match result with
  | none => throw .overdue
  | some (time, ending) =>
    waitUntil (some (max time (← self).clock))
    match ending with
    | .signal n => write 2 (Shell.Signal.toldNotice n)
    | .code _ => pure ()
    return ending.status

/-- Waits for the end of a process and takes over its status. -/
def collect (result : Option (Nat × Ending)) : Act Unit := do setStatus (← statusAfter result)

/-! ### Complaints -/

/-- Says what went wrong, after the name of the program, the line, and the command of the shell that
is at work. -/
def complain (text : List Char) : Act Unit := do
  let p ← self
  let context := p.context.elim [] (· ++ ": ".toList)
  write 2 (p.name ++ s!": {p.line}: ".toList ++ context ++ text ++ ['\n'])

/-- Stops the command of the shell that is at work, and a shell that cannot go on. -/
def fail {α : Type} (text : List Char) : Act α := do
  complain text
  setStatus 2
  throw .faults

/-! ### Variables -/

def lookUpVariable (name : List Char) : Act (Option (List Char)) := do
  return ((← self).vars.lookup name).bind (·.value)

def putVariable (name : List Char) (v : Variable) : Act Unit :=
  updateSelf fun p =>
    if p.vars.any (·.1 = name) then
      { p with vars := p.vars.map fun old => if old.1 = name then (name, v) else old }
    else { p with vars := p.vars ++ [(name, v)] }

/-- Gives a variable a value; it stays exported if it was, and what is fixed cannot change. -/
def setVariable (name value : List Char) : Act Unit := do
  let p ← self
  let old := p.vars.lookup name
  if old.any (·.fixed) then fail (name ++ ": is read only".toList)
  if name = "OPTIND".toList then
    updateSelf fun p => { p with scan := ⟨max 1 (Text.valueOfDigits 10 value), none⟩ }
  putVariable name ⟨some value, old.any (·.exported) || p.options.contains 'a', false⟩

/-- Marks a variable as one that children know. -/
def exportVariable (name : List Char) : Act Unit := do
  match (← self).vars.lookup name with
  | some v => putVariable name { v with exported := true }
  | none => putVariable name ⟨none, true, false⟩

/-- Marks a variable as one that does not change any more. -/
def fixVariable (name : List Char) : Act Unit := do
  match (← self).vars.lookup name with
  | some v => putVariable name { v with fixed := true }
  | none => putVariable name ⟨none, false, true⟩

def dropVariable (name : List Char) : Act Unit :=
  updateSelf fun p => { p with vars := p.vars.filter (·.1 ≠ name) }

/-- What a child process knows of the variables. -/
def Process.exported (p : Process) : List (List Char × List Char) :=
  p.vars.filterMap fun (name, v) =>
    if v.exported then v.value.map (name, ·) else none

/-- Variables that a process is given. -/
def given (vars : List (List Char × List Char)) : List (List Char × Variable) :=
  vars.map fun (name, value) => (name, ⟨some value, true, false⟩)

/-- The group of a variable's name: the sum of its characters, the first of which counts sixteen
times more, in the range below 39. -/
def nameGroup (name : List Char) : Nat :=
  (name.foldl (fun n c => n + c.toNat) (16 * (name.headD ' ').toNat)) % 39

/-- The variables as a shell hands them over: by the groups of their names. -/
def Process.handedOver (p : Process) : List (List Char × List Char) :=
  p.exported.mergeSort fun a b => nameGroup a.1 ≤ nameGroup b.1

end Gutter.Machine
