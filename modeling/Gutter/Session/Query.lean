import Gutter.Hover
import Gutter.Session.State

/-! Queries and calls: the warnings that a session has for a document. A query never waits; if what
it finds is not current it schedules a refresh. A call asks for an entry that is current, waits for
the refreshes that are under way if it is not, and asks again. -/

namespace Gutter.Session

def scheduledLine (document : Document) : LogLine :=
  .debug s!"scheduled refresh document={document.id} revision={document.revision}"

/-- A document's name as it is shown. -/
def nameText (document : Document) : String := document.filename.getD "None"

def unscheduledLine (document : Document) (reason : String) : LogLine :=
  .warn s!"Could not schedule lint refresh for {nameText document}: {reason}"

/-- Schedules a refresh under a claim. Without a loop to run it the claim is given back. -/
def trigger (s : Session) (loop : Bool) (document : Document) : Session :=
  match s.guard.acquire? document.id with
  | none => s
  | some (guard, claim) =>
    if loop then
      let task : Task := ⟨s.scheduled, document.id, claim, .waiting⟩
      say { s with guard, tasks := s.tasks ++ [task], requests := s.requests ++ [document.id] }
        [scheduledLine document]
    else
      say { s with guard := (guard.release claim).1 }
        [unscheduledLine document "no running event loop"]

def isNamed (document : Document) : Bool := document.filename.getD "" ≠ ""

/-- The entry of a document is there and current. -/
def hasCurrent (s : Session) (document : Document) : Bool :=
  (s.entry? document.id).any (·.isCurrent document)

/-- What a session has for a document, and the session after the query. Documents without a name
have nothing. -/
def get (s : Session) (loop : Bool) (id : Nat) : Session × Option Entry :=
  match s.document? id with
  | none => (s, none)
  | some document =>
    if !isNamed document then (s, none)
    else
      let s := s.track id
      let s := if s.hasCurrent document || s.guard.contains id then s else s.trigger loop document
      (s, s.entry? id)

/-- All warnings of a document. -/
def allWarnings (s : Session) (loop : Bool) (id : Nat) : Session × WarningSet :=
  let (s, entry) := s.get loop id
  (s, (entry.map (·.warnings)).getD .empty)

def warningsOnLine (s : Session) (loop : Bool) (id : Nat) (line : Int) : Session × List Warning :=
  let (s, set) := s.allWarnings loop id
  (s, set.forLine line)

/-- The columns that a warning underlines in a line hold `col`. -/
def covers (text : List Char) (col : Int) (warning : Warning) : Except ColumnTooLarge Bool :=
  (wordSpan text warning.col).map fun (first, last) => first ≤ col ∧ col ≤ last

/-- The warnings that underline a place. -/
def warningsAt (s : Session) (loop : Bool) (id : Nat) (line col : Int) :
    Session × Except ColumnTooLarge (List Warning) :=
  let (s, warnings) := s.warningsOnLine loop id line
  let text := ((s.document? id).map (·.line line)).getD []
  (s, warnings.filterM (covers text col))

/-- What is asked about a document: its entry, all its warnings, those on a line, or those at a
place. -/
inductive Question
  | entry
  | all
  | onLine (line : Int)
  | atPlace (line col : Int)
deriving DecidableEq, Repr

/-- The session after a question. -/
def query (s : Session) (loop : Bool) (id : Nat) : Question → Session
  | .entry => (s.get loop id).1
  | .all => (s.allWarnings loop id).1
  | .onLine line => (s.warningsOnLine loop id line).1
  | .atPlace line col => (s.warningsAt loop id line col).1

/-- The linters that would run for a document, if that can be told. -/
def lintersFor (s : Session) (id : Nat) : Except Pattern.Unsound (List Linter) :=
  s.registry.matching? ((s.document? id).bind (·.filename))

/-! ### Calls -/

/-- How often an entry that is current is asked for: a refresh that was under way before may be for
an older revision. -/
def attempts : Nat := 3

/-- What there is for a document, current or not. -/
def known (s : Session) (id : Nat) : WarningSet := ((s.entry? id).map (·.warnings)).getD .empty

/-- A call asks for an entry that is current. Without one it waits, and after its last try it takes
what there is. -/
def tryCall (s : Session) (id : Nat) : Nat → Session × Call
  | 0 => (s, .answered (s.known id))
  | tries + 1 =>
    let (s, entry) := s.get true id
    match entry.filter fun entry => (s.document? id).any entry.isCurrent with
    | some entry => (s, .answered entry.warnings)
    | none => (s, .waiting id tries)

/-- The first step of a call. There are no warnings of a document without a name. -/
def beginCall (s : Session) (id : Nat) : Session × Call :=
  if (s.document? id).any isNamed then s.tryCall id attempts else (s, .answered .empty)

def addCall (s : Session) (call : Call) : Session := { s with calls := s.calls ++ [call] }

def setCall (s : Session) (index : Nat) (call : Call) : Session :=
  { s with calls := s.calls.set index call }

/-- A call for the warnings of a document. -/
def call (s : Session) (id : Nat) : Session :=
  let (s, call) := s.beginCall id
  s.addCall call

/-- No refresh is known to the loop. -/
def isIdle (s : Session) : Bool := s.inFlight = 0

/-- A call that waits goes on once no refresh is under way. With its answer it ends, and a document
that only it referred to goes. -/
def wake (s : Session) (index : Nat) : Session :=
  match s.calls[index]? with
  | some (.waiting id tries) =>
    if s.isIdle then
      let (s, call) := s.tryCall id tries
      (s.setCall index call).collect id
    else s
  | _ => s

/-- The answer of a call that has one. -/
def answer? (s : Session) (index : Nat) : Option WarningSet :=
  match s.calls[index]? with
  | some (.answered warnings) => some warnings
  | _ => none

end Gutter.Session
