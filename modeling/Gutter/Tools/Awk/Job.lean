import Gutter.Number.Arithmetic
import Gutter.Tools.Awk.Record
import Gutter.Tools.Awk.Table
import Gutter.Tools.Awk.Token
import Gutter.Tools.Awk.Value
import Gutter.Tools.Instant
import Gutter.Tools.Running

/-! The state of a program at work: its variables and tables, the line that it works on, and what it
reads and writes. -/

namespace Gutter.Tools.Awk

open Machine
open Number (Binary64)

/-- What stands in a place of a function: a value, or one of the tables. -/
inductive Slot
  | value (v : Value)
  | table (index : Nat)

/-- What comes from a file, or from a command that has ended. -/
structure Source where
  name : List Char
  isCommand : Bool
  lines : Lines
  status : Nat

/-- What is written somewhere, the newest first. -/
structure Sink where
  name : List Char
  isPipe : Bool
  written : List (List Char) := []

/-- The name of the tool's own output. -/
def ownOutput : List Char := "/dev/stdout".toList

/-- The lines that rules work on: those of the file that is open, if there is one. -/
structure MainInput where
  next : Nat := 1
  lines : Option Lines := none
  used : Bool := false
  ended : Bool := false

/-- The program at work. `fields` are there once they are asked for, and are cut as `cutBy` says.
Functions that are being called use up `depth`, and everything that goes on uses up `steps`. -/
structure Job where
  scalars : Std.HashMap (List Char) Value := {}
  names : List (List Char × Nat) := []
  tables : Array Table := #[]
  frame : Array Slot := #[]
  record : List Char := []
  fields : Option (Array Value) := none
  cutBy : List Char := [' ']
  main : MainInput := {}
  sources : List Source := []
  sinks : List Sink := [{ name := ownOutput, isPipe := false }]
  ranges : List Nat := []
  seed : Value := .number (.zero false)
  random : Number.Random := .ofSeed 1
  depth : Nat := 1006
  steps : Nat := 3000000
  status : Nat := 0

/-- Why a program does not go on with its next statement. -/
inductive Halt
  | next
  | nextFile
  | breaks
  | continues
  | returns (v : Value)
  | exits
  | fault (complaint : List Char)
  | exhausted

abbrev Run := ExceptT Halt (StateT Job Act)

def doing {α : Type} (act : Act α) : Run α := liftM act

/-- Notes that something goes on. -/
def step : Run Unit := do
  let job ← get
  if job.steps = 0 then throw .exhausted
  set { job with steps := job.steps - 1 }

def fieldCountName : List Char := "NF".toList

def scalar (name : List Char) : Run Value := do return ((← get).scalars.get? name).getD .unset

def scalarText (name : String) : Run (List Char) := do
  let job ← get
  let value (name : List Char) : Value := (job.scalars.get? name).getD .unset
  return (value name.toList).toText ((value "CONVFMT".toList).toText [])

def putScalar (name : List Char) (v : Value) : Run Unit :=
  modify fun job => { job with scalars := job.scalars.insert name v }

/-- A value as text. -/
def textFor (v : Value) : Run (List Char) := do
  match v with
  | .number _ => return v.toText (← scalarText "CONVFMT")
  | v => return v.toText []

/-- Stops with a complaint about something that was met at work. -/
def runFault {α : Type} (text : List Char) : Run α := do
  let file ← textFor (← scalar "FILENAME".toList)
  let fnr ← textFor (← scalar "FNR".toList)
  let nr ← textFor (← scalar "NR".toList)
  throw (.fault ("run time error: ".toList ++ text ++ "\n\tFILENAME=\"".toList ++ file
    ++ "\" FNR=".toList ++ fnr ++ " NR=".toList ++ nr))

def patternFault {α : Type} (fault : PatternFault) (text : List Char) : Run α :=
  runFault ("regular expression compile failed (".toList ++ fault.text.toList ++ ")\n".toList ++ text)

/-- The expression that a text is. -/
def patternFrom (text : List Char) : Run Regular.Node := do
  match readPattern text with
  | .ok node => return node
  | .error fault => patternFault fault text

/-! ### Fields -/

/-- The pieces of a text, each of which may look like a number. -/
def cutText (separator text : List Char) : Run (List Value) := do
  match Separator.ofText separator with
  | .ok s => return (s.cut text).map Value.ofInput
  | .error fault => patternFault fault separator

/-- The fields of the line. -/
def fieldsNow : Run (Array Value) := do
  let job ← get
  match job.fields with
  | some fields => return fields
  | none =>
    let fields := (← cutText job.cutBy job.record).toArray
    set { job with fields := some fields }
    return fields

/-- Puts another line in place of the one that is there. -/
def setRecord (text : List Char) : Run Unit := do
  let separator ← scalarText "FS"
  modify fun job => { job with record := text, fields := none, cutBy := separator }

/-- Puts fields in place of those that are there, and joins them to a line. -/
def setFields (fields : Array Value) : Run Unit := do
  let between ← scalarText "OFS"
  let format ← scalarText "CONVFMT"
  let texts := fields.toList.map (·.toText format)
  modify fun job => { job with fields := some fields, record := (texts.intersperse between).flatten }

/-- The most fields that a line has. -/
def fieldLimit : Nat := 0x7fffff

def fieldValue (number : Int) : Run Value := do
  if number < 0 then runFault (s!"negative field index ${number}".toList)
  if number = 0 then return .ofInput (← get).record
  return (← fieldsNow).getD (number.toNat - 1) .empty

/-- Fields up to a number; those that are new are empty. -/
def extended (fields : Array Value) (count : Nat) : Array Value :=
  fields ++ Array.replicate (count - fields.size) Value.empty

def setField (number : Int) (v : Value) : Run Unit := do
  if number < 0 then runFault (s!"negative field index ${number}".toList)
  if number = 0 then setRecord (← textFor v)
  else if fieldLimit < number.toNat then throw .exhausted
  else
    let fields := extended (← fieldsNow) number.toNat
    setFields (fields.set! (number.toNat - 1) v)

def setFieldCount (v : Value) : Run Unit := do
  let count := v.toNumber.toInt
  if count < 0 then runFault "negative value assigned to NF".toList
  if fieldLimit < count.toNat then throw .exhausted
  let fields := extended (← fieldsNow) count.toNat
  setFields (fields.take count.toNat)

/-! ### Variables and tables -/

/-- The table of a name, which is there once it is asked for. -/
def tableNamed (name : List Char) : Run Nat := do
  let job ← get
  match job.names.lookup name with
  | some index => return index
  | none =>
    let index := job.tables.size
    set { job with names := (name, index) :: job.names, tables := job.tables.push {} }
    return index

def tableOf (v : Variable) : Run Nat := do
  match v with
  | .named name => tableNamed name
  | .inner place =>
    let job ← get
    match job.frame[place]? with
    | some (.table index) => return index
    | _ =>
      let index := job.tables.size
      set { job with
        frame := job.frame.set! place (.table index), tables := job.tables.push {} }
      return index

/-- The table that a variable is, if it is one. -/
def tableOf? (v : Variable) : Run (Option Nat) := do
  let job ← get
  return match v with
    | .named name => job.names.lookup name
    | .inner place =>
      match job.frame[place]? with
      | some (.table index) => some index
      | _ => none

/-- Does something with a table. -/
def withTable {α : Type} (index : Nat) (f : Table → α × Table) : Run α := do
  let job ← get
  let (result, table) := f (job.tables.getD index {})
  set { job with tables := job.tables.set! index table }
  return result

def changeTable (index : Nat) (f : Table → Table) : Run Unit := withTable index fun t => ((), f t)

def variableValue (v : Variable) : Run Value := do
  match v with
  | .named name => if name = fieldCountName then return .ofNat (← fieldsNow).size else scalar name
  | .inner place =>
    return match (← get).frame[place]? with
      | some (.value v) => v
      | _ => .unset

def setVariable (v : Variable) (x : Value) : Run Unit := do
  match v with
  | .named name => if name = fieldCountName then setFieldCount x else putScalar name x
  | .inner place =>
    modify fun job => { job with frame := job.frame.set! place (.value x) }

/-- The largest number that is a key by itself. -/
def keyLimit : Int := 0x7fffffff

/-- The key that a value is. -/
def keyOf (v : Value) : Run Key := do
  match v with
  | .number x =>
    let n := x.toInt
    if x.isFinite && (Binary64.ofInt n).compare? x = some .eq && n.natAbs ≤ keyLimit then
      return .number n
    else return .text (← textFor v)
  | v => return .text (v.toText [])

/-! ### Output -/

/-- Writes what was gathered for a file or for the tool's own output. -/
def flushSink (s : Sink) : Run Unit := do
  let bytes := s.written.reverse.flatten
  if !bytes.isEmpty then
    if s.name = ownOutput then doing (put bytes)
    else let _ ← doing (writeFile s.name bytes true)

/-- Writes what was gathered for all files. -/
def flushAll : Run Unit := do
  for s in (← get).sinks do
    if !s.isPipe then flushSink s
  modify fun job =>
    { job with sinks := job.sinks.map fun s => if s.isPipe then s else { s with written := [] } }

/-- The number that tells how a command ended. -/
def endingNumber (ending : Ending) : Nat :=
  match ending with
  | .code n => n
  | .signal n => 256 + n

/-- Runs a command with what was gathered for it. -/
def runSink (worker : Worker) (s : Sink) : Act Nat := do
  let input ← pipeOf false s.written.reverse.flatten
  let reading (p : Process) : Process :=
    { p with channels := (0, input) :: p.channels.filter (·.1 ≠ 0) }
  return endingNumber (← endingOf (← runShell worker "/bin/sh" reading s.name))

/-- Lets go of something that was written to. -/
def closeSink (worker : Worker) (s : Sink) : Run Nat := do
  if s.isPipe then doing (runSink worker s)
  else
    flushSink s
    return 0

/-- Lets go of everything that is written to, the last one first. -/
def closeSinks (worker : Worker) : Run Unit := do
  let sinks := (← get).sinks
  modify fun job => { job with sinks := [] }
  for s in sinks do
    let _ ← closeSink worker s

/-- Gathers bytes for a file or a command, which is opened if it is new. -/
def send (kind : Redirection) (name bytes : List Char) : Run Unit := do
  let isPipe := kind = .pipe
  if !isPipe && name = "/dev/stderr".toList then doing (write 2 bytes)
  else
    let job ← get
    match job.sinks.find? fun s => s.isPipe = isPipe && s.name = name with
    | some s =>
      let others := job.sinks.filter fun s => !(s.isPipe = isPipe && s.name = name)
      set { job with sinks := { s with written := bytes :: s.written } :: others }
    | none =>
      if isPipe then flushAll
      else
        match ← doing (writeFile name [] (kind = .append)) with
        | .ok () => pure ()
        | .error fault =>
          throw (.fault ("cannot open \"".toList ++ name ++ "\" for output (".toList
            ++ faultName fault ++ [')']))
      modify fun job => { job with sinks := ⟨name, isPipe, [bytes]⟩ :: job.sinks }

/-- Gathers bytes for the tool's own output. -/
def toOutput (bytes : List Char) : Run Unit :=
  modify fun job =>
    if job.sinks.any fun s => s.name = ownOutput && !s.isPipe then
      { job with
        sinks := job.sinks.map fun s =>
          if s.name = ownOutput && !s.isPipe then { s with written := bytes :: s.written } else s }
    else { job with sinks := job.sinks ++ [⟨ownOutput, false, [bytes]⟩] }

/-! ### Input -/

/-- A record from some lines. -/
def recordFrom (lines : Lines) : Run (Option (List Char) × Lines) := do
  let separator ← scalarText "RS"
  match ← doing (nextRecord separator lines) with
  | .ok found => return found
  | .error fault => patternFault fault separator

/-- A variable and its value in an argument. -/
def assignment? (text : List Char) : Option (List Char × List Char) :=
  match text.span isNameChar with
  | (name, '=' :: value) => if (name.head?).any isNameStart then some (name, value) else none
  | _ => none

def cannotOpen (path : List Char) (fault : Files.Fault) : List Char :=
  "cannot open \"".toList ++ path ++ "\" (".toList ++ faultName fault ++ [')']

/-- The lines of a file. -/
def linesIn (path : List Char) : Run (Except Files.Fault Lines) := doing (linesAt '\n' path)

end Gutter.Tools.Awk
