import Gutter.Document
import Gutter.Linter.Reading
import Gutter.Refresh.Outcome
import Gutter.Settings
import Gutter.WarningSet

/-! Refreshes, step by step: a refresh takes note of its document, runs the linters for it, parses
what they printed in batches, and ends with an entry or fails. An entry has the warnings of a
document at one revision. Between two steps other work may go on. -/

namespace Gutter

/-- The warnings of a document, with the name, path and revision that it had when they were asked
for. -/
structure Entry where
  document : Nat
  filename : Option String
  path : String
  revision : Nat
  warnings : WarningSet
deriving DecidableEq, Repr

/-- The document still has the revision of the entry. -/
def Entry.isCurrent (entry : Entry) (document : Document) : Bool :=
  entry.revision = document.revision

end Gutter

namespace Gutter.Refresh

/-- What a refresh notes when it starts. -/
structure Snapshot where
  document : Nat
  filename : Option String
  path : String
  revision : Nat
  linters : List Linter
deriving DecidableEq, Repr

/-- Why a refresh fails. -/
inductive Failure
  | path (e : Path.Fault)
  | pattern (e : Pattern.Unsound)
  | reading (e : Reading.Fault)
  | crash (message : String)
deriving DecidableEq, Repr

def Failure.message : Failure → String
  | .path e => e.message
  | .pattern e => e.message
  | .reading e => e.message
  | .crash message => message

/-- Output of a linter that is read as far as the matches that are left. -/
structure Paused where
  linter : Linter
  raw : List Char
  left : List Pattern.Match
deriving DecidableEq, Repr

/-- How far a refresh is. Either one linter runs after another, each parsed before the next, or all
run at once and are parsed when all have ended. -/
inductive Stage
  | waiting
  | calling (now : Snapshot) (set : WarningSet) (linter : Linter) (rest : List Linter)
  | gathering (now : Snapshot) (slots : List (Linter × Option (List Char)))
  | parsing (now : Snapshot) (set : WarningSet) (paused : Paused)
      (outputs : List (Linter × List Char)) (rest : List Linter)
  | completed (entry : Entry)
  | failed (e : Failure)
deriving DecidableEq, Repr

/-- What a step leads to, and what it logs. -/
structure Turn where
  stage : Stage
  log : List LogLine
deriving DecidableEq, Repr

/-- A turn after lines were logged. -/
def Turn.after (log : List LogLine) (turn : Turn) : Turn := { turn with log := log ++ turn.log }

def Snapshot.entry (now : Snapshot) (set : WarningSet) : Entry :=
  ⟨now.document, now.filename, now.path, now.revision, set⟩

def refreshedLine (now : Snapshot) (set : WarningSet) : LogLine :=
  .debug (s!"refreshed document={now.document} revision={now.revision} "
    ++ s!"linters={now.linters.length} warnings={set.count}")

/-- The command of a linter for the file of a refresh. -/
def commandOf (settings : Settings) (now : Snapshot) (linter : Linter) : Command :=
  linter.commandFor settings.placeholder now.path

/-- Calls the next linter; after the last the refresh is complete. -/
def callNext (settings : Settings) (now : Snapshot) (set : WarningSet) : List Linter → Turn
  | [] => ⟨.completed (now.entry set), [refreshedLine now set]⟩
  | linter :: rest =>
    ⟨.calling now set linter rest, [linter.runningLine (commandOf settings now linter)]⟩

/-- Reads one batch. A batch that is full is followed by a pause, any other by `next`. -/
def readBatch (settings : Settings) (now : Snapshot) (set : WarningSet) (paused : Paused)
    (outputs : List (Linter × List Char)) (rest : List Linter) (next : WarningSet → Turn) : Turn :=
  let batch := paused.left.take settings.batchSize
  let parsed := paused.linter.parseMatches paused.raw batch set
  match parsed.failure with
  | some e => ⟨.failed (.reading e), parsed.log⟩
  | none =>
    if batch.length = settings.batchSize then
      let left := paused.left.drop settings.batchSize
      ⟨.parsing now parsed.set { paused with left } outputs rest, parsed.log⟩
    else (next parsed.set).after parsed.log

/-- Reads outputs up to a pause, and then calls the linters that are left. -/
def readOutputs (settings : Settings) (now : Snapshot) (rest : List Linter) :
    List (Linter × List Char) → WarningSet → Turn
  | [], set => callNext settings now set rest
  | (linter, raw) :: outputs, set =>
    readBatch settings now set ⟨linter, raw, linter.pattern.findAll raw⟩ outputs rest
      (readOutputs settings now rest outputs)

/-- Notes what the document is now. A path that cannot be resolved ends the refresh, and so does a
name of which it cannot be told which linters are for it. -/
def snapshot (base : Path.Base) (registry : Registry) (document : Document) :
    Except Failure Snapshot :=
  match Path.ofName base document.filename with
  | .error e => .error (.path e)
  | .ok path =>
    match registry.matching? document.filename with
    | .error e => .error (.pattern e)
    | .ok linters =>
      .ok ⟨document.id, document.filename, path, document.revision, linters⟩

/-- The first step. Linters run at once if the settings say so and there are several. -/
def start (settings : Settings) (base : Path.Base) (registry : Registry) (document : Document) :
    Turn :=
  match snapshot base registry document with
  | .error e => ⟨.failed e, []⟩
  | .ok now =>
    if settings.parallel && 1 < now.linters.length then
      ⟨.gathering now (now.linters.map fun linter => (linter, none)), []⟩
    else callNext settings now .empty now.linters

/-- The outputs of slots, once each has one. -/
def gathered? (slots : List (Linter × Option (List Char))) : Option (List (Linter × List Char)) :=
  slots.mapM fun (linter, output) => output.map fun raw => (linter, raw)

/-- The slots with the output of one filled in. -/
def fill (slots : List (Linter × Option (List Char))) (index : Nat) (raw : List Char) :
    List (Linter × Option (List Char)) :=
  slots.modify index fun slot => (slot.1, some raw)

/-- The step after a run has ended. Stages that wait for no run stay as they are. -/
def receive (settings : Settings) (index : Nat) (outcome : Outcome) (stage : Stage) : Turn :=
  match stage with
  | .calling now set linter rest =>
    match outcome.output with
    | .error message => ⟨.failed (.crash message), []⟩
    | .ok raw => readOutputs settings now rest [(linter, raw)] set
  | .gathering now slots =>
    match outcome.output with
    | .error message => ⟨.failed (.crash message), []⟩
    | .ok raw =>
      let slots := fill slots index raw
      match gathered? slots with
      | none => ⟨.gathering now slots, []⟩
      | some outputs => readOutputs settings now [] outputs .empty
  | stage => ⟨stage, []⟩

/-- The step after a pause. -/
def resume (settings : Settings) (stage : Stage) : Turn :=
  match stage with
  | .parsing now set paused outputs rest =>
    readBatch settings now set paused outputs rest (readOutputs settings now rest outputs)
  | stage => ⟨stage, []⟩

/-- How many runs of slots have not ended. -/
def openSlots (slots : List (Linter × Option (List Char))) : Nat :=
  slots.countP fun slot => slot.2.isNone

/-- What is left to be done: linters to wait for, outputs to read, and matches to read of the
present one. -/
def Stage.left : Stage → Nat × Nat × Nat
  | .calling _ _ _ rest => (rest.length + 1, 0, 0)
  | .gathering _ slots => (openSlots slots, 0, 0)
  | .parsing _ _ paused outputs rest => (rest.length, outputs.length + 1, paused.left.length)
  | _ => (0, 0, 0)

end Gutter.Refresh
