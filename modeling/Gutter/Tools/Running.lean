import Gutter.Machine.Program
import Gutter.Shell.Words
import Gutter.Tools.Printing

/-! What tools need that run another program, and the one that lets it run for a time. -/

namespace Gutter.Tools

open Machine Shell

/-- The program that the present process cannot become, and the status for that. -/
def cannotRun (start : String) (name : List Char) (fault : Files.Fault) : Act Nat := do
  warn [start.toList, name, ": ".toList, faultName fault]
  return if fault = .notFound then 127 else 126

/-! ### Commands of a shell -/

/-- Runs a command of a shell, which goes by a name, in a process of its own. -/
def runShell (worker : Worker) (shell : String) (change : Process → Process) (command : List Char) :
    Act (Option (Nat × Ending)) :=
  inProcess change do
    spend startTime
    let _ ← executeAt worker "/bin/sh".toList shell.toList ["-c".toList, command]
    throw (.ends (.code 127))

/-- How a process ended, after its end. -/
def endingOf (ended : Option (Nat × Ending)) : Act Ending := do
  match ended with
  | none => throw .overdue
  | some (time, ending) =>
    waitUntil (some (max time (← self).clock))
    return ending

/-- What a command of a shell prints, and how it ended. -/
def shellRun (worker : Worker) (shell : String) (command : List Char) :
    Act (List Char × Ending) := do
  let index ← emptyPipe
  let reading (channels : List (Nat × Channel)) : List (Nat × Channel) :=
    (1, .pipe index) :: channels.filter (·.1 ≠ 1)
  let ended ← runShell worker shell (fun p => { p with channels := reading p.channels }) command
  let parent ← self
  updateSelf fun p => { p with channels := [(0, .pipe index)] }
  let text ← readAll 0
  updateSelf fun p => { p with channels := parent.channels }
  return (text, ← endingOf ended)

def shellOutput (worker : Worker) (command : List Char) : Act (List Char) := do
  return (← shellRun worker "sh" command).1

/-! ### For a time -/

/-- Ends what would go on without end at a time: what is held by then is let go. -/
def letGo (before : State) (time : Nat) (after : State) : State :=
  let count := after.holds.length - before.holds.length
  let new := (after.holds.take count).map fun (job, held) => (job, some (held.getD time))
  let closing (n : Nat) (pipe : Pipe) : Pipe :=
    let open_ := ((before.pipes[n]?).map fun old => old.closes.isNone).getD false
    if pipe.closes.isNone && !open_ then { pipe with closes := some time } else pipe
  { after with
    holds := new ++ after.holds.drop count
    pipes := after.pipes.mapIdx closing
    deadline := before.deadline }

/-- Runs something up to a time; `none` tells that it did not end by then. -/
def upToTime (time : Nat) (body : Act (Option (Nat × Ending))) :
    Act (Option (Nat × Ending)) := do
  let before ← get
  if before.deadline.any (· ≤ time) then return ← body
  set { before with deadline := some time }
  let ended ← body
  set (letGo before time (← get))
  return ended

def timeout (worker : Worker) : Tool :=
    withOptions ⟨"fk:ps:v", [("foreground", 'f'), ("kill-after", 'k'), ("preserve-status", 'p'),
      ("signal", 's'), ("verbose", 'v')], false⟩ 125 fun c => do
  match c.operands with
  | time :: name :: rest =>
    let signalName := (c.value? 's').getD "TERM".toList
    let bare := if "SIG".toList.isPrefixOf signalName then signalName.drop 3 else signalName
    match Signal.number? 0 bare with
    | none => misuse 125 [← quoted signalName, ": invalid signal".toList]
    | some signal =>
      for text in c.values 'k' ++ [time] do
        if (duration? text).isNone then
          return ← misuse 125 ["invalid time interval ".toList, ← quoted text]
      let limit := (duration? time).bind id
      let run : Act (Option (Nat × Ending)) := spawn worker id (name :: rest) fun fault => do
        let _ ← cannotRun "failed to run command " (← quoted name) fault
      match limit with
      | none =>
        collect (← run)
        return (← self).status
      | some 0 =>
        collect (← run)
        return (← self).status
      | some limit =>
        let stop := (← self).clock + limit
        match ← upToTime stop run with
        | some (time, ending) =>
          waitUntil (some (max time (← self).clock))
          match ending with
          | .signal n => throw (.ends (.signal n))
          | .code n => return n
        | none =>
          waitUntil (some stop)
          if c.has 'v' then
            warn ["sending signal ".toList, (Signal.name signal).toList, " to command ".toList,
              ← quoted name]
          if signal = 9 then throw (.ends (.signal 9))
          return if c.has 'p' then 128 + signal else 124
  | _ =>
    tryHelp
    return 125

/-- Puts a word in place of another text wherever that stands. -/
def replaceAll (old new : List Char) : Nat → List Char → List Char
  | 0, text => text
  | _, [] => []
  | limit + 1, c :: rest =>
    if !old.isEmpty && old.isPrefixOf (c :: rest) then
      new ++ replaceAll old new limit ((c :: rest).drop old.length)
    else c :: replaceAll old new limit rest

end Gutter.Tools
