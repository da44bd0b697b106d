import Gutter.Machine.Launch
import Gutter.Session.Drain

/-! A bench on which the linters of a session run: runs that begin together run side by side, and
the one that needs the least time ends first. -/

namespace Gutter.Machine

/-- A run under way, the time at which it ends, and how. -/
structure Busy where
  run : Run
  ends : Nat
  outcome : Outcome

structure Bench where
  files : Files
  clock : Nat
  busy : List Busy

namespace Bench

/-- Starts a run, if it was not started before. -/
def start (setting : Setting) (bench : Bench) (run : Run) : Bench :=
  if bench.busy.any (·.run = run) then bench
  else
    match launch bench.files setting run.command with
    | .ok (files, completed) =>
      { bench with
        files
        busy := bench.busy ++ [⟨run, bench.clock + completed.time, completed.outcome⟩] }
    | .error refusal =>
      { bench with busy := bench.busy ++ [⟨run, bench.clock, .refused refusal.message⟩] }

/-- The first of the runs that end first. -/
def soonest : List Busy → Option Busy
  | [] => none
  | first :: rest =>
    match soonest rest with
    | some other => some (if first.ends ≤ other.ends then first else other)
    | none => some first

/-- The bench after the next end of a run, and that run. -/
def next (setting : Setting) (bench : Bench) (runs : List Run) :
    Bench × Option (Run × Outcome) :=
  let bench := runs.foldl (start setting) bench
  match soonest bench.busy with
  | none => (bench, none)
  | some busy =>
    ({ bench with
        clock := max bench.clock busy.ends
        busy := bench.busy.filter (·.run ≠ busy.run) },
      some (busy.run, busy.outcome))

/-- The tools of a session: those of the machine. A command that does not start ends at once, and one
that has started goes on. -/
def tools (setting : Setting) : Session.Tools Bench where
  atOnce bench run :=
    if bench.busy.any (·.run = run) then none
    else
      match prepare bench.files setting run.command with
      | .ok _ => none
      | .error refusal => some (.refused refusal.message)
  next := next setting

end Bench

end Gutter.Machine
