import Gutter.Machine.Command

/-! Performing statements and programs: every kind of work is one step in terms of work of a smaller
depth. -/

namespace Gutter.Machine

open Shell

/-- Ends the shell if it was asked to end with the first failure. -/
def checkStatus (manner : Manner) : Act Unit := do
  let p ← self
  if p.status ≠ 0 && !manner.tested && p.options.contains 'e' then
    throw (.ends (.code p.status))

/-! ### Signals that are caught -/

/-- The signals that have reached the present shell. -/
def arrived : Act (List Nat) := do
  let s ← get
  if s.deliveries.isEmpty then return []
  let mine := s.deliveries.filter fun d => d.target = s.self.id && d.time ≤ s.self.clock
  let rest := s.deliveries.filter fun d => !(d.target = s.self.id && d.time ≤ s.self.clock)
  set { s with deliveries := rest }
  return (mine.map (·.signal)).eraseDups.mergeSort (· ≤ ·)

/-- Runs the actions for signals that have arrived. -/
def serveSignals (worker : Worker) : Act Unit := do
  for signal in ← arrived do
    match (← self).traps.lookup signal with
    | some action =>
      let status := (← self).status
      runText worker action .plain
      setStatus status
    | none => pure ()

/-! ### Loops -/

/-- Repeats an act, with a number that it carries along, as long as it asks for that. -/
def repeatFrom (round : Nat → Act (Bool × Nat)) : Nat → Nat → State → Except Stop Nat × State
  | 0, _, s => (.error .exhausted, s)
  | limit + 1, n, s =>
    match (round n).run.run s with
    | (.ok (true, n), s) => repeatFrom round limit n s
    | (.ok (false, n), s) => (.ok n, s)
    | (.error stop, s) => (.error stop, s)

/-- The most rounds of a loop. -/
def roundLimit : Nat := 100000000

/-- Runs the body of a loop once, and tells whether the loop goes on. -/
def roundOf (body : Act Unit) : Act Bool :=
  tryCatch (do body; return true) fun
    | .breaks (n + 2) => throw (.breaks (n + 1))
    | .breaks _ => do
      setStatus 0
      return false
    | .continues (n + 2) => throw (.continues (n + 1))
    | .continues _ => do
      setStatus 0
      return true
    | stop => throw stop

/-- Acts inside a loop, where loops can be left. -/
def inLoop (loop : Act Unit) : Act Unit := do
  let outer := (← self).loops
  let leave : Act Unit := updateSelf fun p => { p with loops := outer }
  updateSelf fun p => { p with loops := outer + 1 }
  tryCatch loop fun stop => do
    leave
    throw stop
  leave

def runLoop (worker : Worker) (while_ : Bool) (condition body : Statement) (manner : Manner) :
    Act Unit := do
  let round (last : Nat) : Act (Bool × Nat) := do
    spend 1
    let going ← tryCatch (do act worker (.statement condition .test); return some true) fun
      | .breaks (n + 2) => throw (.breaks (n + 1))
      | .breaks _ => return some false
      | .continues (n + 2) => throw (.continues (n + 1))
      | .continues _ => return none
      | stop => throw stop
    match going with
    | none => return (true, last)
    | some false => return (false, last)
    | some true =>
      if ((← self).status = 0) ≠ while_ then return (false, last)
      let goesOn ← roundOf (act worker (.statement body manner.inside))
      return (goesOn, (← self).status)
  let status ← (fun s => repeatFrom round roundLimit 0 s : Act Nat)
  setStatus status

def runEach (worker : Worker) (name : List Char) (body : Statement) (manner : Manner) :
    List (List Char) → Act Unit
  | [] => pure ()
  | value :: rest => do
    setVariable name value
    if ← roundOf (act worker (.statement body manner.inside)) then
      runEach worker name body manner rest

/-! ### Choices -/

def anyFits (worker : Worker) (text : List Char) : List Word → Act Bool
  | [] => pure false
  | word :: rest => do
    if fits (← patternOf worker word) text then return true
    anyFits worker text rest

/-- The body of the first choice that fits a text. -/
def chosen (worker : Worker) (text : List Char) : Statement → Act (Option Statement)
  | .choice patterns body next => do
    if ← anyFits worker text patterns then return some body
    chosen worker text next
  | _ => return none

/-! ### Processes side by side -/

/-- The statements that a pipe joins. -/
def stages : Statement → List Statement
  | .pipe first second => first :: stages second
  | last => [last]

def withChannel (descriptor : Nat) (channel : Channel) (channels : List (Nat × Channel)) :
    List (Nat × Channel) :=
  (descriptor, channel) :: channels.filter (·.1 ≠ descriptor)

/-- Starts the stages of a pipe, each of which reads what the one before it writes. Every stage has
a change of its own. -/
def startStages (worker : Worker) (change : Process → Process) (input : Option Channel) :
    List Statement → Act (List (Nat × Option (Nat × Ending)))
  | [] => pure []
  | stage :: rest => do
    let reading (p : Process) : Process :=
      let p := change p
      match input with
      | some channel => { p with channels := withChannel 0 channel p.channels }
      | none => p
    let run (stage : Statement) : Act Unit := act worker (.statement stage .final)
    let id := (← get).nextId
    match rest with
    | [] =>
      let ended ← inShell worker reading (run stage)
      return [(id, ended)]
    | rest =>
      let pipe := Channel.pipe (← emptyPipe)
      let writing (p : Process) : Process :=
        let p := reading p
        { p with channels := withChannel 1 pipe p.channels }
      let ended ← inShell worker writing (run stage)
      let others ← startStages worker change (some pipe) rest
      return (id, ended) :: others

/-- Waits for all stages of a pipe, and takes over the status of the last. -/
def collectStages : List (Option (Nat × Ending)) → Act Unit
  | [] => pure ()
  | ended :: rest => do
    collect ended
    collectStages rest

def runPipe (worker : Worker) (statement : Statement) : Act Unit := do
  let ended ← startStages worker id none (stages statement)
  collectStages (ended.map (·.2))

/-- Starts a statement beside the shell. -/
def runBackground (worker : Worker) (body : Statement) : Act Unit := do
  let beside (p : Process) : Process :=
    { p with
      job := p.id
      clock := p.clock + besideTime
      channels := withChannel 0 .sink p.channels
      traps := [(2, []), (3, [])] ++ p.traps.filter fun t => t.1 ≠ 2 && t.1 ≠ 3 }
  let ended ← startStages worker beside none (stages body)
  modify fun s => { s with jobs := s.jobs ++ ended.map fun (id, ends) => ⟨id, ends⟩ }
  addJob (ended.map (·.1))
  setStatus 0

/-- Runs a statement in a shell of its own. -/
def runSubshell (worker : Worker) (line : Nat) (body : Statement) (redirects : List Redirect)
    (manner : Manner) : Act Unit := do
  updateSelf fun p => { p with line }
  let openings ← openingsOf worker redirects
  let inside : Act Unit := do
    redirectForGood worker false openings (throw .faults)
    act worker (.statement body { manner with last := true })
  if ← mayBeReplaced manner then inside
  else
    collect (← inShell worker id do
      spend subshellTime
      inside)

/-! ### Statements -/

def runStatement (worker : Worker) (statement : Statement) (manner : Manner) : Act Unit := do
  let go (statement : Statement) (manner : Manner) : Act Unit :=
    act worker (.statement statement manner)
  match statement with
  | .skip => setStatus 0
  | .simple line assignments words redirects =>
    runSimple worker line assignments words redirects manner
    checkStatus manner
  | .redirected line body redirects =>
    updateSelf fun p => { p with line }
    let openings ← openingsOf worker redirects
    redirecting worker openings (pure ()) (go body manner.inside)
  | .subshell line body redirects =>
    runSubshell worker line body redirects manner
    checkStatus manner
  | .pipe .. =>
    runPipe worker statement
    checkStatus manner
  | .negated body =>
    go body .test
    setStatus (if (← self).status = 0 then 1 else 0)
  | .sequence first second =>
    go first manner.inside
    go second manner
  | .both first second =>
    go first .test
    if (← self).status = 0 then go second manner
  | .either first second =>
    go first .test
    if (← self).status ≠ 0 then go second manner
  | .background body => runBackground worker body
  | .choose condition yes no =>
    go condition .test
    if (← self).status = 0 then go yes manner else go no manner
  | .loop while_ condition body => inLoop (runLoop worker while_ condition body manner)
  | .each line name words body =>
    updateSelf fun p => { p with line }
    let values ← match words with
      | some words => fieldsOfWords worker words
      | none => do pure (← self).arguments
    setStatus 0
    inLoop (runEach worker name body manner values)
  | .select line word choices =>
    updateSelf fun p => { p with line }
    let text ← textIn worker .matched word
    match ← chosen worker text choices with
    | some .skip => setStatus 0
    | some body => go body manner
    | none => setStatus 0
  | .choice .. => setStatus 0
  | .define name body =>
    updateSelf fun p =>
      { p with functions := (name, body) :: p.functions.filter (·.1 ≠ name) }
    setStatus 0

/-- Whether the end of a program has been seen. -/
def isDone (source : Source) : Bool :=
  match source.ahead with
  | some .stop => true
  | _ => false

/-- Runs the complete commands of a program one after another. A shell that was asked not to run
anything only reads them, and one that tells what it reads tells the lines of a file. -/
def runFrom (worker : Worker) (fromFile : Bool) (manner : Manner) : Nat → Source → Act Unit
  | 0, _ => throw .exhausted
  | limit + 1, source => do
    let source := { source with aliases := (← self).aliases }
    let tell (rest : List Char) : Act Unit := do
      if fromFile && (← self).options.contains 'v' then
        write 2 (source.text.take (source.text.length - rest.length))
    match completeCommand.run source with
    | .error fault =>
      tell []
      stopAt fault
    | .ok (none, rest) => tell rest.text
    | .ok (some statement, rest) =>
      tell rest.text
      let manner := { manner with last := manner.last && isDone rest }
      act worker (.statement statement manner)
      runFrom worker fromFile manner limit rest

/-- One step of work. -/
def step (worker : Worker) (work : Work) : Act (List Piece) := do
  match work with
  | .statement statement manner =>
    if !(← self).options.contains 'n' then
      serveSignals worker
      runStatement worker statement manner
      serveSignals worker
    return []
  | .word place word => wordPieces worker place word
  | .program fromFile text manner =>
    runFrom worker fromFile manner (text.length + 2) (.of text [])
    return []
  | .execute path name arguments =>
    execute worker path name arguments
    return []

/-- Does work that nests at most `depth` deep. -/
def perform : Nat → Worker
  | 0, _ => throw .exhausted
  | depth + 1, work => step (perform depth) work

end Gutter.Machine
