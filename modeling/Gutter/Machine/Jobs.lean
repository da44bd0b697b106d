import Gutter.Machine.Letters

/-! Signals that are sent, and the jobs of a shell. -/

namespace Gutter.Machine

open Shell

/-! ### Signals -/

/-- The number of the process that starts the others. -/
def firstId : Nat := 1000

/-- Sends a signal on its way. -/
def deliver (signal target : Nat) : Act Unit := modify fun s =>
  { s with deliveries := s.deliveries ++ [⟨s.self.clock, target, signal⟩] }

/-- Cuts the output of a job at the present time. -/
def cutJob (job : Nat) : Act Unit := do
  let now := (← self).clock
  let cut (time : Option Nat) : Option Nat := some (min now (time.getD now))
  modify fun s =>
    { s with
      output := s.output.filter fun chunk => chunk.job ≠ job || chunk.time ≤ now
      holds := s.holds.map fun (j, time) => if j = job then (j, cut time) else (j, time) }

/-- A job runs at a time. -/
def Job.runsAt (job : Job) (time : Nat) : Bool :=
  match job.ends with
  | none => true
  | some (ends, _) => time < ends

def endJob (job signal : Nat) : Act Unit := do
  cutJob job
  let now := (← self).clock
  let ended (j : Job) : Job :=
    if j.id = job && j.runsAt now then { j with ends := some (now, .signal signal) } else j
  modify fun s => { s with jobs := s.jobs.map ended }

/-- What runs beside a shell is told nothing of interrupts. -/
def reachesJobs (signal : Nat) : Bool :=
  !Signal.isHarmless signal && signal ≠ 2 && signal ≠ 3

/-- Sends a signal to a process, and tells whether there is one. -/
def signalOne (signal id : Nat) : Act Bool := do
  let s ← get
  match s.jobs.find? (·.id = id) with
  | some job =>
    if reachesJobs signal && job.runsAt s.self.clock then endJob id signal
    let known := s.self.jobs.any fun listed => listed.processes.contains id && !listed.waited
    return known || job.runsAt s.self.clock
  | none =>
    if firstId < id && id < s.nextId then
      if signal ≠ 0 then deliver signal id
      return true
    else return false

/-- Sends a signal to all processes. -/
def signalAll (signal : Nat) : Act Unit := do
  let s ← get
  for n in List.range (s.nextId - firstId - 1) do
    let _ ← signalOne signal (firstId + 1 + n)

/-- Sends a signal to the process or, after a dash, to the group of a number. -/
def sendSignal (signal : Nat) (target : List Char) : Act Bool := do
  match target with
  | '-' :: digits =>
    if (← numberOf digits) = firstId + 1 then
      signalAll signal
      return true
    else return false
  | digits =>
    let id ← numberOf digits
    if id = 0 then
      signalAll signal
      return true
    else signalOne signal id

/-! ### Jobs -/

/-- A job of the shell that a text after a percent sign names. -/
def jobOf (text : List Char) : Act Listed := do
  let jobs := (← self).jobs
  let missing : Act Listed := fail ("No such job: ".toList ++ text)
  let current : Act Listed :=
    match jobs with
    | job :: _ => pure job
    | [] => fail "No current job".toList
  match text with
  | ['%'] => current
  | ['%', '+'] => current
  | ['%', '%'] => current
  | ['%', '-'] =>
    match jobs with
    | _ :: job :: _ => return job
    | _ => fail "No previous job".toList
  | '%' :: name =>
    if !name.isEmpty && name.all Char.isDigit then
      match jobs.find? fun job => job.number = Text.valueOfDigits 10 name with
      | some job => return job
      | none => missing
    else missing
  | _ => missing

/-- How a job ended, if it has. -/
def endingOf (listed : Listed) : Act (Option (Option (Nat × Ending))) := do
  let s ← get
  let last := listed.processes.getLast?.bind fun id => s.jobs.find? (·.id = id)
  return last.map (·.ends)

/-- Starts a job with some processes. Its number is the least that is free. -/
def addJob (processes : List Nat) : Act Unit :=
  updateSelf fun p =>
    let jobs := p.jobs.filter (!·.waited)
    let numbers := jobs.map (·.number)
    let free := ((List.range (jobs.length + 1)).map (· + 1)).find? (!numbers.contains ·)
    { p with
      jobs := ⟨free.getD 1, processes, false⟩ :: jobs
      lastJob := processes.getLast? }

def stateName (now : Nat) : Option (Nat × Ending) → String
  | none => "Running"
  | some (time, ending) =>
    if now < time then "Running"
    else
      match ending with
      | .code 0 => "Done"
      | .code n => s!"Done({n})"
      | .signal n => Signal.notice n

/-- The line for a job in the list of jobs. -/
def jobLine (withIds : Bool) (index : Nat) (listed : Listed) (state : String) : List Char :=
  let mark := if index = 0 then '+' else if index = 1 then '-' else ' '
  let ids := if withIds then s!"{listed.processes.getLastD 0} ".toList else []
  let text := s!"[{listed.number}] ".toList ++ mark :: ' ' :: ids ++ state.toList
  let others := (listed.processes.drop 1).flatMap fun _ => " | ".toList
  text ++ List.replicate (max 1 (33 - text.length)) ' ' ++ others ++ ['\n']

/-- Lists the jobs; those that have ended are listed once. -/
def listJobs (arguments : List (List Char)) : Act Nat := do
  let (given, names) ← options "lp" arguments
  let all := (← self).jobs
  let chosen ← if names.isEmpty then pure all else names.mapM jobOf
  for (listed, index) in all.zipIdx do
    if chosen.contains listed then
      let state := stateName (← self).clock ((← endingOf listed).getD none)
      if given.any (·.1 = 'p') then write 1 s!"{listed.processes.headD 0}\n".toList
      else
        write 1 (jobLine (given.any (·.1 = 'l')) index listed state)
        if state ≠ "Running" then
          updateSelf fun p => { p with jobs := p.jobs.filter (· ≠ listed) }
  return 0

/-- The first signal on its way that the shell catches by a time. -/
def caughtBy (time : Option Nat) : Act (Option Delivery) := do
  let s ← get
  return s.deliveries.find? fun d =>
    d.target = s.self.id && time.all (d.time ≤ ·)
      && (s.self.traps.lookup d.signal).any fun action => !action.isEmpty

/-- Waits for a job. A signal that is caught ends waiting. -/
def waitFor (listed : Listed) : Act (Nat × Bool) := do
  match ← endingOf listed with
  | none => return (127, false)
  | some ends =>
    match ← caughtBy (ends.map (·.1)) with
    | some delivery =>
      waitUntil (some (max delivery.time (← self).clock))
      return (128 + delivery.signal, true)
    | none =>
      let now := (← self).clock
      waitUntil (ends.map fun e => max e.1 now)
      let waited (job : Listed) : Listed :=
        if job = listed then { job with waited := true } else job
      updateSelf fun p => { p with jobs := p.jobs.map waited }
      return ((ends.map (·.2.status)).getD 0, false)

/-- Waits for jobs, and gives the status of the last. -/
def wait (arguments : List (List Char)) : Act Nat := do
  let names ← withoutOptions arguments
  let jobs := (← self).jobs
  if names.isEmpty then
    for job in jobs do
      let (status, stopped) ← waitFor job
      if stopped then return status
    return 0
  let mut last := 127
  for name in names do
    let found ← if name.head? = some '%' then pure (some (← jobOf name))
      else
        let id ← numberOf name
        pure (jobs.find? fun job => job.processes.getLast? = some id)
    match found with
    | none => last := 127
    | some job =>
      let (status, stopped) ← waitFor job
      if stopped then return status
      if let some (some (_, .signal n)) ← endingOf job then
        if !job.waited then write 2 (Signal.toldNotice n)
      last := status
  return last

def killUsage : String :=
  "Usage: kill [-s sigspec | -signum | -sigspec] [pid | job]... or\nkill -l [exitstatus]"

/-- Lists the names of signals, or tells the one of a status. -/
def listSignals (arguments : List (List Char)) : Act Nat := do
  match arguments with
  | [] =>
    write 1 (['0', '\n'] ++ (Signal.names.drop 1).flatMap fun name => name.toList ++ ['\n'])
    return 0
  | text :: _ =>
    let n ← numberOf text
    let n := if 128 < n then n - 128 else n
    if 0 < n && n < Signal.names.length then
      write 1 ((Signal.name n).toList ++ ['\n'])
      return 0
    else fail ("invalid signal number or exit status: ".toList ++ text)

/-- Sends a signal to processes. -/
def kill (arguments : List (List Char)) : Act Nat := do
  let usage : Act Nat := fail killUsage.toList
  let send (signal : Nat) (targets : List (List Char)) : Act Nat := do
    if targets.isEmpty then usage
    else
      let mut status := 0
      for target in targets do
        let there ← if target.head? = some '%' then do
            let _ ← jobOf target
            pure false
          else sendSignal signal target
        if !there then
          complain "No such process\n".toList
          status := 1
      spend 0
      return status
  match arguments with
  | [] => usage
  | ('-' :: name) :: rest =>
    match Signal.number? 1 name with
    | some signal => send signal rest
    | none =>
      let (given, targets) ← options "ls:" arguments
      let mut signal := 15
      for (letter, text) in given do
        if letter = 's' then
          match Signal.number? 1 text with
          | some n => signal := n
          | none => fail ("invalid signal number or name: ".toList ++ text)
      if given.any (·.1 = 'l') then listSignals targets else send signal targets
  | targets => send 15 targets

/-- A job can be brought to the front or sent away only under job control, which there is not. -/
def moveJob (arguments : List (List Char)) : Act Nat := do
  let names ← withoutOptions arguments
  let name := names.headD ['%']
  let _ ← jobOf name
  fail ("job ".toList ++ (if names.isEmpty then "(null)".toList else name)
    ++ " not created under job control".toList)

end Gutter.Machine
