import Gutter.Session.Work

/-! Driving the refreshes of a session as far as they get, and asking for warnings that
are current. -/

namespace Gutter.Session

/-- What a session's tools do. `atOnce` tells of a run that ends as soon as it begins. `next` looks
at the runs that have begun and tells which of them ends next and how, if any does; the state of the
tools changes with it. -/
structure Tools (σ : Type) where
  atOnce : σ → Run → Option Outcome
  next : σ → List Run → σ × Option (Run × Outcome)

/-- A run that has ended as soon as it began. -/
def ended? {σ : Type} (tools : Tools σ) (state : σ) (s : Session) : Option Event :=
  (s.runs.filter (·.begun)).findSome? fun run =>
    (tools.atOnce state run).map (Event.finish run)

/-- The events that need no tool: a refresh that has ended, one that starts, a run that begins, a
refresh that goes on. -/
def ready? (s : Session) : Option Event :=
  let starting := s.tasks.find? fun task => task.stage = .waiting
  let pausing := s.tasks.find? fun task =>
    match task.stage with
    | .parsing .. => true
    | _ => false
  match s.ended.head?, starting, s.runs.find? (!·.begun), pausing with
  | some task, _, _, _ => some (.settle task.number)
  | none, some task, _, _ => some (.start task.number)
  | none, none, some run, _ => some (.launch run)
  | none, none, none, some task => some (.resume task.number)
  | none, none, none, none => none

/-- Lets happen what can, for a number of steps at most. -/
def drain {σ : Type} (tools : Tools σ) : Nat → σ → Session → σ × Session
  | 0, state, s => (state, s)
  | steps + 1, state, s =>
    match (ended? tools state s).or s.ready? with
    | some event => drain tools steps state (s.step event)
    | none =>
      match tools.next state (s.runs.filter (·.begun)) with
      | (state, none) => (state, s)
      | (state, some (run, outcome)) => drain tools steps state (s.step (.finish run outcome))

/-- What refreshes have left of one kind, together. -/
def total (part : Nat × Nat × Nat → Nat) (tasks : List Task) : Nat :=
  tasks.foldr (fun task rest => part task.stage.left + rest) 0

/-- What refreshes have left: those that wait, and what is left of the others. -/
def load (tasks : List Task) : Nat × Nat × Nat × Nat :=
  (tasks.countP (·.stage = .waiting), total (·.1) tasks, total (·.2.1) tasks, total (·.2.2) tasks)

/-- What runs and refreshes that have ended have left: runs that have to begin and to end, and
refreshes to settle. -/
def rest (s : Session) : Nat := s.runs.countP (!·.begun) + s.runs.length + s.ended.length

/-- What is left to be done in a session. -/
def toDo (s : Session) : Nat × Nat × Nat × Nat × Nat :=
  let left := load s.tasks
  (left.1, left.2.1, left.2.2.1, left.2.2.2, s.rest)

/-- Less is left to be done. -/
def Less (later earlier : Session) : Prop :=
  Prod.Lex (· < ·) (Prod.Lex (· < ·) (Prod.Lex (· < ·) (Prod.Lex (· < ·) (· < ·))))
    later.toDo earlier.toDo

instance (later earlier : Session) : Decidable (Less later earlier) :=
  inferInstanceAs (Decidable (Prod.Lex _ _ _ _))

/-- Lets happen what can, as long as every step leaves less to be done. -/
def work {σ : Type} (tools : Tools σ) (state : σ) (s : Session) : σ × Session :=
  let after := drain tools 1 state s
  if _ : Less after.2 s then work tools after.1 after.2 else after
termination_by s.toDo
decreasing_by assumption

/-- Waits as long as a call has no answer, a number of times at most. -/
def follow {σ : Type} (wait : σ → Session → σ × Session) (index : Nat) :
    Nat → σ → Session → σ × Session
  | 0, state, s => (state, s)
  | tries + 1, state, s =>
    if (s.answer? index).isSome then (state, s)
    else
      let (state, s) := wait state s
      follow wait index tries state (s.wake index)

/-- The warnings of a document after the refreshes that they need. -/
def lint {σ : Type} (wait : σ → Session → σ × Session) (id : Nat) (state : σ) (s : Session) :
    σ × Session × WarningSet :=
  let index := s.calls.length
  let (state, s) := follow wait index attempts state (s.call id)
  (state, s, (s.answer? index).getD .empty)

end Gutter.Session
