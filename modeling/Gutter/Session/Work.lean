import Gutter.Session.Query

/-! The work of a session's refreshes, step by step, and events that say what happens next. -/

namespace Gutter.Session

open Refresh (Stage Turn Failure)

def task? (s : Session) (number : Nat) : Option Task := s.tasks.find? fun t => t.number = number

def failedLine (name : String) (e : Failure) : LogLine :=
  .warn s!"Lint refresh failed for {name}: {e.message}"

/-- The claim of a refresh that is over is released. -/
def release (s : Session) (task : Task) : Session :=
  let (guard, claim) := s.guard.release task.claim
  { s with
    guard
    tasks := s.tasks.filter (·.number ≠ task.number)
    ended := s.ended ++ [{ task with claim }] }

/-- Ends a refresh; a document that only it referred to goes. -/
def retire (s : Session) (task : Task) : Session := (s.release task).collect task.document

/-- The loop lets go of a refresh that has ended. -/
def settle (s : Session) (number : Nat) : Session :=
  { s with ended := s.ended.filter (·.number ≠ number) }

/-- The run that a refresh waits for while it calls one linter after another. -/
def callOf (s : Session) (task : Task) : List Run :=
  match task.stage with
  | .calling now _ linter rest =>
    [⟨task.number, now.linters.length - rest.length - 1, linter,
      Refresh.commandOf s.settings now linter, true⟩]
  | _ => []

/-- The runs that a refresh waits for while it gathers outputs. -/
def gatherOf (s : Session) (task : Task) : List Run :=
  match task.stage with
  | .gathering now slots =>
    slots.zipIdx.map fun (slot, index) =>
      ⟨task.number, index, slot.1, Refresh.commandOf s.settings now slot.1, false⟩
  | _ => []

/-- A refresh takes a turn: an entry is published, a failure is logged, and a call begins. -/
def takeTurn (s : Session) (task : Task) (turn : Turn) : Session :=
  let s := s.say turn.log
  let task := { task with stage := turn.stage }
  match turn.stage with
  | .completed entry => (s.publish entry).retire task
  | .failed e =>
    let name := ((s.document? task.document).map nameText).getD "None"
    (s.say [failedLine name e]).retire task
  | _ =>
    let calls := s.callOf task
    { s with
      tasks := s.tasks.map fun t => if t.number = task.number then task else t
      runs := s.runs ++ calls
      commands := s.commands ++ calls.map (·.command) }

/-- A refresh starts. -/
def start (s : Session) (number : Nat) : Session :=
  match s.task? number with
  | some task =>
    match task.stage, s.document? task.document with
    | .waiting, some document =>
      let turn := Refresh.start s.settings s.base s.registry document
      let s := s.takeTurn task turn
      { s with runs := s.runs ++ s.gatherOf { task with stage := turn.stage } }
    | _, _ => s
  | none => s

/-- A run begins. -/
def launch (s : Session) (run : Run) : Session :=
  if s.runs.contains run && !run.begun then
    say
      { s with
        runs := s.runs.map fun r => if r = run then { r with begun := true } else r
        commands := s.commands ++ [run.command] }
      [run.linter.runningLine run.command]
  else s

/-- The session without a run. -/
def without (s : Session) (run : Run) : Session := { s with runs := s.runs.filter (· ≠ run) }

/-- A run ends. If the refresh that it is for still waits, it goes on. -/
def finish (s : Session) (run : Run) (outcome : Outcome) : Session :=
  if s.runs.contains run && run.begun then
    let s := (s.without run).say (outcome.log run.linter)
    match s.task? run.task with
    | none => s
    | some task =>
      s.takeTurn task (Refresh.receive s.settings run.index outcome task.stage)
  else s

/-- A refresh goes on after a pause. -/
def resume (s : Session) (number : Nat) : Session :=
  match s.task? number with
  | some task =>
    match task.stage with
    | .parsing .. => s.takeTurn task (Refresh.resume s.settings task.stage)
    | _ => s
  | none => s

/-- What can happen in a session. -/
inductive Event
  | add (document : Document) (watched : Bool)
  | edit (id : Nat) (change : Document.Change)
  | drop (id : Nat)
  | query (loop : Bool) (id : Nat) (question : Question)
  | call (id : Nat)
  | wake (index : Nat)
  | close (id : Nat)
  | clear
  | publish (entry : Entry)
  | register (linter : Linter)
  | reset
  | move (base : Path.Base)
  | start (number : Nat)
  | launch (run : Run)
  | finish (run : Run) (outcome : Outcome)
  | resume (number : Nat)
  | settle (number : Nat)

/-- The session after an event. -/
def step (s : Session) : Event → Session
  | .add document watched => s.add document watched
  | .edit id change => s.edit id change
  | .drop id => s.drop id
  | .query loop id question => s.query loop id question
  | .call id => s.call id
  | .wake index => s.wake index
  | .close id => s.forget id
  | .clear => s.clear
  | .publish entry => s.publish entry
  | .register linter => { s with registry := s.registry.register linter }
  | .reset => { s with registry := .empty }
  | .move base => { s with base }
  | .start number => s.start number
  | .launch run => s.launch run
  | .finish run outcome => s.finish run outcome
  | .resume number => s.resume number
  | .settle number => s.settle number

/-- The session after events, one after another. -/
def run (s : Session) (events : List Event) : Session := events.foldl step s

end Gutter.Session
