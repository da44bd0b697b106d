import Gutter.Linter.Basic
import Gutter.Machine.Perform
import Gutter.Number.Printed
import Gutter.Refresh.Outcome

/-! Launching commands: which file a command names, why it may not start, and what has been printed
when it ends or when its time is over. -/

namespace Gutter.Machine

open Number (Binary64)

/-- Why a command does not start. -/
inductive Refusal
  | noArguments
  | notOnPath (name : String)
  | nullByte
  | badVariable
  | file (failure : Files.Failure)
deriving DecidableEq, Repr

def Refusal.message : Refusal → String
  | .noArguments => "subprocess command requires at least one argument"
  | .notOnPath name => s!"Executable '{name}' was not found on PATH"
  | .nullByte => "embedded null byte"
  | .badVariable => "illegal environment variable name"
  | .file e => e.message

/-- A command that has run: the words that were executed, the status, what was printed, a notice if
its time was over, and the time it took in microseconds. -/
structure Completed where
  words : List String
  status : Int
  printed : String
  notice : Option String
  time : Nat
deriving DecidableEq, Repr

/-- How commands run: with the variables around them or others in their place, in a directory, and
for a time. -/
structure Setting where
  env : Environment
  childEnv : Option Environment := none
  directory : Option String := none
  timeout : Option Binary64 := none

def Completed.outcome (c : Completed) : Outcome := .ended c.status c.printed c.notice

/-- The message for a command whose status was checked and is not zero. -/
def Completed.failureMessage (c : Completed) : String :=
  let output := if c.printed.isEmpty then "<none>" else c.printed
  let head := c.words.headD ""
  s!"Command '{head}' exited with status {c.status}. output: {output}"

/-- The devices that every machine has. -/
def devices : List (String × Device) := [("null", .sink), ("zero", .source), ("full", .full)]

/-- The files with the tools, the devices and the list of users that every machine has. -/
def equip (files : Files) : Files :=
  let names := Tools.toolNames ++ shellNames
  let directories := [["usr".toList, "bin".toList], ["bin".toList]]
  let files := devices.foldl (fun files (name, device) =>
    files.install ["dev".toList, name.toList] (.device device)) files
  let files := files.install ["etc".toList, "passwd".toList]
    (.file (Text.Utf8.encode Files.standardUsers.toList) false)
  names.foldl (fun files name =>
    directories.foldl (fun files place => files.install (place ++ [name.toList]) (.tool name))
      files)
    files

/-- Where programs are searched for if there is no path. -/
def standardPath : String := "/bin:/usr/bin"

/-- The file that a name stands for: a name with a slash itself, or the first on the path. -/
def which (files : Files) (env : Environment) (name : String) : Option String :=
  let chars := name.toList
  if chars.contains '/' then if isRunnable files name then some name else none
  else
    let path := ((env.find? "PATH").getD standardPath).toList
    if path.isEmpty then none
    else
      let candidates := (directories path).map fun directory =>
        if directory.isEmpty then chars
        else if directory.getLast? = some '/' then directory ++ chars
        else directory ++ '/' :: chars
      (candidates.map String.ofList).find? (isRunnable files)

/-- The words that are executed for a command. -/
def wordsOf (files : Files) (env : Environment) : Command → Except Refusal (List String)
  | .shell line => .ok [line]
  | .call [] => .error .noArguments
  | .call (head :: rest) =>
    if head.toList.head? = some '/' then .ok (Path.normal head :: rest)
    else
      match which files env head with
      | some path => .ok (path :: rest)
      | none => .error (.notOnPath head)

def hasNull (text : String) : Bool := text.toList.contains '\x00'

/-- Time in microseconds; `none` is without end. -/
def microseconds (time : Binary64) : Option Nat :=
  match time with
  | .finite negative .. =>
    let (num, den) := time.ratio
    some (if negative then 0 else num * 1000000 / den)
  | _ => none

def depthLimit : Nat := 20000

/-- The machine before a command starts in a place. -/
def initial (files : Files) (env : Environment) (deadline : Option Nat) : State :=
  let vars := given (env.vars.map fun (name, value) => (Shell.bytesOf name, Shell.bytesOf value))
  let first : Process :=
    { id := firstId, parent := 0, shell := firstId, job := firstId, clock := 0, name := [],
      context := none, arguments := [], vars, functions := [], aliases := [],
      channels := [(0, .sink), (1, .output), (2, .output)], status := 0, substituted := none,
      line := 0, options := [], traps := [], lastJob := none, jobs := [], loops := 0, calls := 0,
      locals := none, known := [], place := files.place, directory := pathOfPlace files.place,
      scan := ⟨1, none⟩, mask := 0o22 }
  { files, pipes := #[], output := [], holds := [], jobs := [], deliveries := [],
    nextId := firstId + 1, deadline, self := first }

/-- The later of two times, either of which may never come. -/
def later : Option Nat → Option Nat → Option Nat
  | some a, some b => some (max a b)
  | _, _ => none

/-- What was written by a time, in order. -/
def printedBy (deadline : Option Nat) (output : List Chunk) : List Char :=
  let chunks := output.reverse.mergeSort fun a b => a.time ≤ b.time
  let chunks := chunks.filter fun chunk => deadline.all (chunk.time ≤ ·)
  (chunks.map (·.bytes)).flatten

def statusOf : Ending → Int
  | .code n => n
  | .signal n => -n

def timeoutNotice (time : Binary64) : String :=
  s!"Command timed out after {Number.tenthsText time}s"

/-- A command that can start: its words, its variables, the files as seen from its directory, and
what it does. -/
structure Ready where
  words : List String
  env : Environment
  files : Files
  program : Act Unit

/-- Makes a command ready, or refuses it. -/
def prepare (files : Files) (setting : Setting) (command : Command) : Except Refusal Ready := do
  let words ← wordsOf files setting.env command
  let env := setting.childEnv.getD setting.env
  if words.any hasNull then throw .nullByte
  if env.vars.any fun v => v.1.toList.contains '=' then throw .badVariable
  if env.vars.any fun v => hasNull v.1 || hasNull v.2 then throw .nullByte
  let inside ← match setting.directory with
    | none => pure files
    | some directory =>
      match files.locate directory with
      | .error .nullByte => throw .nullByte
      | .error fault => throw (.file ⟨fault, directory⟩)
      | .ok (place, some .directory) => pure { files with place }
      | .ok (_, some _) => throw (.file ⟨.notDirectory, directory⟩)
      | .ok (_, none) => throw (.file ⟨.notFound, directory⟩)
  let worker := perform depthLimit
  match command, words with
  | .shell line, _ =>
    return ⟨words, env, inside,
      shellFrom worker "/bin/sh".toList [['-', 'c'], Shell.bytesOf line]⟩
  | .call _, path :: rest =>
    match executionFault inside path with
    | some fault => throw (.file ⟨fault, path⟩)
    | none =>
      let name := Shell.bytesOf path
      return ⟨words, env, inside, execute worker name name (rest.map Shell.bytesOf)⟩
  | .call _, [] => throw .noArguments

/-- Runs a command to the end of all that hold its output, or to the deadline. -/
def Ready.run (ready : Ready) (timeout : Option Binary64) : Files × Completed :=
  let deadline := timeout.bind microseconds
  let body : Act (Option (Nat × Ending)) :=
    inProcess (fun p => { p with job := p.id }) do
      spend startTime
      ready.program
  let (result, state) := body.run.run (initial ready.files ready.env deadline)
  let ended : Option (Nat × Ending) := match result with
    | .ok ended => ended
    | .error (.ends ending) => some (state.self.clock, ending)
    | .error (.replaced ending) => ending.map fun ending => (state.self.clock, ending)
    | .error _ => none
  let finish := (state.holds.map (·.2)).foldl later (ended.map (·.1))
  let inTime := finish.any fun time => deadline.all (time ≤ ·)
  let completed : Completed := match inTime, ended with
    | true, some (_, ending) =>
      ⟨ready.words, statusOf ending, Shell.textOf (printedBy none state.output), none,
        finish.getD 0⟩
    | _, _ =>
      ⟨ready.words, Outcome.stoppedStatus, Shell.textOf (printedBy deadline state.output),
        timeout.map timeoutNotice, deadline.getD 0⟩
  (state.files, completed)

/-- Starts a command and waits for it; the files change with it. -/
def launch (files : Files) (setting : Setting) (command : Command) :
    Except Refusal (Files × Completed) :=
  (prepare files setting command).map fun ready =>
    let (changed, completed) := ready.run setting.timeout
    ({ changed with place := files.place }, completed)

/-- The outcome of a linter's command, and the files after it. -/
def outcomeOf (files : Files) (setting : Setting) (command : Command) : Files × Outcome :=
  match launch files setting command with
  | .ok (files, completed) => (files, completed.outcome)
  | .error refusal => (files, .refused refusal.message)

end Gutter.Machine
