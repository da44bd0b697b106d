import Gutter.Claim
import Gutter.Refresh.Stage

/-! Sessions: documents that are open, the entries that are kept for them, and the refreshes under
way. -/

namespace Gutter

/-- A document of a session. It is held as long as something outside refers to it. Only of a
document that is watched it is noticed when it goes. -/
structure Member where
  document : Document
  watched : Bool
  held : Bool
deriving DecidableEq, Repr

/-- A refresh that is under way, and its claim to its document. -/
structure Task where
  number : Nat
  document : Nat
  claim : Claim Nat
  stage : Refresh.Stage
deriving DecidableEq, Repr

/-- A run of a linter for a refresh: its place among the linters of the refresh, and whether it has
begun. -/
structure Run where
  task : Nat
  index : Nat
  linter : Linter
  command : Command
  begun : Bool
deriving DecidableEq, Repr

/-- A call for the current warnings of a document: it waits and has some tries left, or it has its
answer. -/
inductive Call
  | waiting (document tries : Nat)
  | answered (warnings : WarningSet)
deriving DecidableEq, Repr

/-- A session. There is at most one entry for a document, and documents that are tracked may have
one. Of the refreshes, `tasks` are those that hold their claims, and `ended` those that hold them no
longer but that the loop still knows; `requests` names the documents for which refreshes were
scheduled, `issued` the numbers of all documents there have been, and `log` and `commands` tell what
has happened so far. -/
structure Session where
  settings : Settings
  base : Path.Base
  registry : Registry
  issued : List Nat
  members : List Member
  entries : List Entry
  tracked : List Nat
  guard : Guard Nat
  tasks : List Task
  ended : List Task
  runs : List Run
  calls : List Call
  requests : List Nat
  log : List LogLine
  commands : List Command

namespace Session

/-- A session without documents. -/
def open_ (settings : Settings) (base : Path.Base) (registry : Registry) : Session where
  settings := settings
  base := base
  registry := registry
  issued := []
  members := []
  entries := []
  tracked := []
  guard := .empty
  tasks := []
  ended := []
  runs := []
  calls := []
  requests := []
  log := []
  commands := []

def say (s : Session) (lines : List LogLine) : Session := { s with log := s.log ++ lines }

/-- How many refreshes were ever scheduled. -/
def scheduled (s : Session) : Nat := s.requests.length

/-- How many refreshes the loop knows. -/
def inFlight (s : Session) : Nat := s.tasks.length + s.ended.length

/-! Documents -/

def member? (s : Session) (id : Nat) : Option Member := s.members.find? fun m => m.document.id = id

def document? (s : Session) (id : Nat) : Option Document := (s.member? id).map (·.document)

/-- Adds a document. Its number stands for it for good: one that was issued before adds nothing. -/
def add (s : Session) (document : Document) (watched : Bool) : Session :=
  if s.issued.contains document.id then s
  else
    { s with
      issued := s.issued ++ [document.id]
      members := s.members ++ [⟨document, watched, true⟩] }

/-- Changes a document. A change that is not possible changes nothing. -/
def edit (s : Session) (id : Nat) (change : Document.Change) : Session :=
  { s with members := s.members.map fun m =>
      if m.document.id = id then
        { m with document := (m.document.change? change).getD m.document }
      else m }

/-! Entries -/

def entry? (s : Session) (id : Nat) : Option Entry := s.entries.find? fun e => e.document = id

/-- Forgets the entry of a document, and tracks it no longer. -/
def forget (s : Session) (id : Nat) : Session :=
  { s with
    entries := s.entries.filter (·.document ≠ id)
    tracked := s.tracked.filter (· ≠ id) }

/-- Tracks a document. -/
def track (s : Session) (id : Nat) : Session :=
  if s.tracked.contains id then s else { s with tracked := s.tracked ++ [id] }

/-- Forgets all entries, and tracks no document. -/
def clear (s : Session) : Session := { s with entries := [], tracked := [] }

/-- Entries with one that takes the place of the entry of its document. -/
def putEntry (entry : Entry) : List Entry → List Entry
  | [] => [entry]
  | old :: rest =>
    if old.document = entry.document then entry :: rest else old :: putEntry entry rest

def discardedLine (entry : Entry) : LogLine :=
  .debug s!"discarded entry document={entry.document} reason=evicted"

/-- Keeps an entry, if its document is tracked. -/
def publish (s : Session) (entry : Entry) : Session :=
  if s.tracked.contains entry.document then { s with entries := putEntry entry s.entries }
  else s.say [discardedLine entry]

/-! Documents that go -/

/-- A call for the warnings of the document waits. -/
def Call.isFor (id : Nat) : Call → Bool
  | .waiting document _ => document = id
  | .answered _ => false

/-- A refresh of the document is under way, or a call for its warnings waits. -/
def isUsed (s : Session) (id : Nat) : Bool :=
  s.tasks.any (fun task => task.document = id) || s.calls.any (Call.isFor id)

/-- A document that nothing refers to goes, and if it was watched its entry goes too. -/
def collect (s : Session) (id : Nat) : Session :=
  match s.member? id with
  | none => s
  | some m =>
    if m.held || s.isUsed id then s
    else
      let s := { s with members := s.members.filter (·.document.id ≠ id) }
      if m.watched then s.forget id else s

/-- What referred to the document refers to it no longer. -/
def unhold (s : Session) (id : Nat) : Session :=
  { s with members := s.members.map fun m =>
      if m.document.id = id then { m with held := false } else m }

/-- A document that is no longer held goes unless it is used. -/
def drop (s : Session) (id : Nat) : Session := (s.unhold id).collect id

end Session

end Gutter
