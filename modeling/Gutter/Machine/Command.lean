import Gutter.Machine.Start
import Gutter.Tools.Table

/-! Commands: what the words of a command run, and how. -/

namespace Gutter.Machine

open Shell

/-! ### Tools and files -/

def shellNames : List String := ["sh", "dash"]

/-- Runs a tool as the present process. -/
def runTool (worker : Worker) (tool : String) (name : List Char) (arguments : List (List Char)) :
    Act Unit := do
  updateSelf fun p =>
    { p with
      name
      vars := given p.exported
      traps := p.traps.filter (·.2.isEmpty)
      shell := p.id }
  if shellNames.contains tool then shellFrom worker name arguments
  else
    match Tools.tool? worker tool with
    | some found =>
      setStatus (← found arguments)
      Tools.checkOutput tool
    | none => setStatus 0

/-- Executes a file in place of the present process, which ends with it. -/
def execute (worker : Worker) (path name : List Char) (arguments : List (List Char)) :
    Act Unit := do
  let body : Act Unit := do
    match (← get).files.find (textOf path) with
    | .ok (.tool tool) => runTool worker tool name arguments
    | .ok (.file bytes _) =>
      match interpreter? bytes with
      | none => runScript worker path bytes arguments
      | some (interpreter, options) =>
        match (← get).files.find (textOf interpreter) with
        | .ok (.tool tool) => runTool worker tool interpreter (options ++ path :: arguments)
        | .ok _ => act worker (.execute interpreter interpreter (options ++ path :: arguments))
        | _ => setStatus 127
    | _ => setStatus 127
  tryCatch body fun
    | .ends ending => throw (.replaced (some ending))
    | .overdue => throw (.replaced none)
    | stop => throw stop
  throw (.replaced (some (.code (← self).status)))

/-- Executes a command of the shell in place of the present process, or says why it cannot. -/
def executeOrFail (worker : Worker) (path name : List Char) (arguments : List (List Char)) :
    Act Unit := do
  updateSelf fun p => { p with vars := given p.handedOver }
  let fault ← executeAt worker path name arguments
  complain (name ++ ": ".toList ++ openFault "not found" fault)
  throw (.ends (.code (faultStatus fault)))

/-- The shell may be replaced by its last command, since no action waits for its end. -/
def mayBeReplaced (manner : Manner) : Act Bool := do
  return manner.last && (← self).traps.all (·.2.isEmpty)

/-- Runs a command that is a file. -/
def runFile (worker : Worker) (standard : Bool) (name : List Char) (arguments : List (List Char))
    (manner : Manner) : Act Unit := do
  let path ← if standard then
      match pathIn (← get).files (directories ownPath) name with
      | .ok path => pure (some path)
      | .error fault =>
        complain (name ++ ": ".toList ++ openFault "not found" fault)
        pure none
    else if name.contains '/' then pure (some name) else findCommand name
  match path with
  | none =>
    spend searchTime
    setStatus 127
  | some path =>
    if ← mayBeReplaced manner then
      spend startTime
      executeOrFail worker path name arguments
    else
      collect (← inProcess id do
        spend startTime
        executeOrFail worker path name arguments)

/-! ### Functions and commands of the shell -/

/-- How deep functions may call functions. -/
def callLimit : Nat := 1000

def callFunction (worker : Worker) (body : Statement) (arguments : List (List Char))
    (manner : Manner) : Act Unit := do
  let p ← self
  if callLimit ≤ p.calls then
    fail s!"Maximum function recursion depth ({callLimit}) reached".toList
  let restore : Act Unit := updateSelf fun q =>
    { q with arguments := p.arguments, scan := p.scan, loops := p.loops, calls := p.calls }
  updateSelf fun q => { q with arguments, scan := ⟨1, none⟩, loops := 0, calls := p.calls + 1 }
  tryCatch (act worker (.statement body manner.inside)) fun stop => do
    match stop with
    | .returns status => setStatus status
    | .replaced _ => throw stop
    | stop =>
      restore
      throw stop
  restore

/-- Acts for a command of the shell, so that complaints tell its name. -/
def withContext (context : List Char) (body : Act Unit) : Act Unit := do
  let before := (← self).context
  let leave : Act Unit := updateSelf fun p => { p with context := before }
  updateSelf fun p => { p with context := some context }
  tryCatch body fun stop => do
    match stop with
    | .replaced _ => pure ()
    | _ => leave
    throw stop
  leave

/-- Runs a program that is read from a file. -/
def runSource (worker : Worker) (arguments : List (List Char)) : Act Unit := do
  match ← withoutOptions arguments with
  | [] => setStatus 0
  | name :: _ =>
    let files := (← get).files
    let isRegular (path : List Char) : Bool := (files.isFile (textOf path)).toOption.getD false
    let path ← if name.contains '/' then pure name else do
      match ((← searchPath).map (candidate · name)).find? isRegular with
      | some path => pure path
      | none => fail (name ++ ": not found".toList)
    let text ← match ownDescriptor? path, files.read (textOf path) with
      | some own, _ => readAll own
      | none, .ok bytes => pure (charsOf bytes)
      | none, .error e => if e.fault = .isDirectory then pure [] else cannotOpen path e.fault
    let loops := (← self).loops
    let body : Act Unit := do
      setStatus 0
      runLines worker text
    tryCatch (withContext path body) fun stop => do
      match stop with
      | .returns status => setStatus status
      | stop => throw stop
    updateSelf fun p => { p with loops }

/-- Tells what a command name stands for. -/
def describeName (long : Bool) (name : List Char) : Act Nat := do
  let text := String.ofList name
  let line (text : List Char) : Act Nat := do
    write 1 (text ++ ['\n'])
    return 0
  let p ← self
  if isReserved name then
    line (if long then name ++ " is a shell keyword".toList else name)
  else if let some value := p.aliases.lookup name then
    if long then line (name ++ " is an alias for ".toList ++ value)
    else
      write 1 ("alias ".toList ++ aliasLine (name, value))
      return 0
  else if p.functions.any (·.1 = name) then
    line (if long then name ++ " is a shell function".toList else name)
  else if specialNames.contains text then
    line (if long then name ++ " is a special shell builtin".toList else name)
  else if regularNames.contains text then
    line (if long then name ++ " is a shell builtin".toList else name)
  else
    let files := (← get).files
    let found : Option (List Char) := match pathIn files (← searchPath) name with
      | .ok path => if (files.find (textOf path)).isOk then some path else none
      | .error _ => none
    match found with
    | some path =>
      let known := p.known.any (·.1 = name)
      know name path
      line (if !long then path
        else name ++ (if known then " is a tracked alias for " else " is ").toList ++ path)
    | none =>
      if long then write 1 (name ++ ": not found\n".toList)
      return 127

/-- The command of the shell that runs another one without its functions, where it only tells what
the other one is. -/
def tellCommand (arguments : List (List Char)) : Act Nat := do
  let (given, names) ← options "pvV" arguments
  match names with
  | name :: _ =>
    if given.any fun g => g.1 ≠ 'p' then
      describeName (given.any (·.1 = 'V')) name
    else return 0
  | [] => return 0

/-- Executes a command in place of the shell. -/
def exec (worker : Worker) (arguments : List (List Char)) : Act Unit := do
  match ← withoutOptions arguments with
  | [] => setStatus 0
  | name :: rest =>
    match pathIn (← get).files (← searchPath) name with
    | .ok path => executeOrFail worker path name rest
    | .error fault =>
      complain (name ++ ": ".toList ++ openFault "not found" fault)
      throw (.ends (.code (faultStatus fault)))

/-- Complains if a command of the shell could not print what it had to. -/
def checkOutput (name : List Char) : Act Unit := do
  if (← self).lost.isSome then
    updateSelf fun p => { p with lost := none }
    complain (name ++ ": I/O error".toList)
    setStatus ((← self).status ||| 1)

/-- Runs a command of the shell; `none` if the name is none. -/
def runBuiltin? (worker : Worker) (name : List Char) (arguments : List (List Char))
    (manner : Manner) : Option (Act Unit) :=
  match String.ofList name with
  | "eval" => some do
    setStatus 0
    runText worker (arguments.intersperse [' ']).flatten manner.inside
  | "." => some (runSource worker arguments)
  | "exec" => some (exec worker arguments)
  | "command" => some do setStatus (← tellCommand arguments)
  | "type" => some do
    let mut status := 0
    for name in arguments do status := max status (← describeName true name)
    setStatus status
  | text => (builtin? text).map fun builtin => do setStatus (← builtin arguments)

/-! ### Simple commands -/

/-- The words of a command while they are chosen: those that run, those before them that asked for
that, the words that are not yet expanded, and what was asked. -/
structure Chosen where
  fields : List (List Char)
  before : List (List Char) := []
  rest : List Word
  standard : Bool := false
  skipsFunctions : Bool := false

/-- Expands words until there is a field. -/
def firstFields (worker : Worker) : List Word → Act (List (List Char) × List Word)
  | [] => pure ([], [])
  | word :: rest => do
    match ← fieldsOfWord worker word with
    | [] => firstFields worker rest
    | fields => return (fields, rest)

/-- Takes the options after the command that runs another one; `none` tells that it runs none. -/
def commandOptions (worker : Worker) : Nat → Chosen → Act (Option Chosen)
  | 0, _ => pure none
  | limit + 1, c => do
    let c ← match c.fields with
      | [] => do
        let (fields, rest) ← firstFields worker c.rest
        pure { c with fields, rest }
      | _ => pure c
    match c.fields with
    | [] => return none
    | ['-', '-'] :: fields =>
      let c := { c with before := c.before ++ [['-', '-']], fields }
      if fields.isEmpty then
        let (fields, rest) ← firstFields worker c.rest
        return if fields.isEmpty then none else some { c with fields, rest }
      else return some c
    | ('-' :: letter :: letters) :: fields =>
      if (letter :: letters).all (· = 'p') then
        commandOptions worker limit
          { c with before := c.before ++ ['-' :: letter :: letters], fields, standard := true }
      else return none
    | _ => return some c

/-- Whether a name is that of a function, so that no command of the shell is meant. -/
def isFunction (c : Chosen) (name : List Char) : Act Bool := do
  return !c.skipsFunctions && (← self).functions.any (·.1 = name)

/-- Finds the command that is run in the end. -/
def chooseCommand (worker : Worker) : Nat → Chosen → Act Chosen
  | 0, c => pure c
  | limit + 1, c => do
    match c.fields with
    | name :: fields =>
      if name = "command".toList && !(← isFunction c name) then
        let inner := { c with fields, before := c.before ++ [name], skipsFunctions := true }
        match ← commandOptions worker (c.rest.length + fields.length + 2) inner with
        | some found => chooseCommand worker limit found
        | none => return c
      else return c
    | [] => return c

/-- A word that gives a variable a value has no fields. -/
def valueOrFields (worker : Worker) (word : Word) : Act (List (List Char)) := do
  match assignment? word with
  | some (name, value) => return [name ++ '=' :: (← textIn worker .value value)]
  | none => fieldsOfWord worker word

def restFields (worker : Worker) (values : Bool) : List Word → Act (List (List Char))
  | [] => pure []
  | word :: rest => do
    let first ← if values then valueOrFields worker word else fieldsOfWord worker word
    return first ++ (← restFields worker values rest)

/-- Assigns one after another, so that each sees those before it; `local_` keeps what they had. -/
def assignAll (worker : Worker) (local_ exported : Bool) :
    List (List Char × Word) → Act (List (List Char × List Char))
  | [] => pure []
  | (name, word) :: rest => do
    let value ← textIn worker .value word
    if local_ then saveVariable name
    setVariable name value
    if local_ || exported then exportVariable name
    return (name, value) :: (← assignAll worker local_ exported rest)

/-- Tells the words of a command before it runs, where the shell was asked to. -/
def trace (worker : Worker) (errors : Option Channel) (words : List (List Char)) : Act Unit := do
  if (← self).options.contains 'x' then
    let source := (← lookUpVariable "PS4".toList).getD []
    let start ← match promptWord source with
      | some word => do
        updateSelf fun p => { p with options := turn false 'x' p.options }
        let text ← textIn worker .text word
        updateSelf fun p => { p with options := turn true 'x' p.options }
        pure text
      | none => pure source
    match errors with
    | some channel => writeTo channel (start ++ (words.intersperse [' ']).flatten ++ ['\n'])
    | none => pure ()

/-- What a command without words does: it assigns and redirects. -/
def runEmpty (worker : Worker) (assignments : List (List Char × Word)) (openings : List Opening) :
    Act Unit := do
  let errors ← channel? 2
  let body : Act Unit := do
    let values ← assignAll worker false false assignments
    trace worker errors (values.map fun v => v.1 ++ '=' :: v.2)
    setStatus ((← self).substituted.getD 0)
  redirecting worker openings (pure ()) body

/-- Runs a command that has words. -/
def runChosen (worker : Worker) (c : Chosen) (name : List Char) (arguments : List (List Char))
    (assignments : List (List Char × Word)) (openings : List Opening) (manner : Manner) :
    Act Unit := do
  let errors ← channel? 2
  let function ← if c.skipsFunctions then pure none
    else do pure ((← self).functions.lookup name)
  let special := function.isNone && c.before.isEmpty && specialNames.contains (String.ofList name)
  let global := function.isNone && specialNames.contains (String.ofList name)
  let assigned (body : Act Unit) : Act Unit := do
    let values ← assignAll worker (!(special || global && c.before.isEmpty))
      (name = "exec".toList && !arguments.isEmpty) assignments
    trace worker errors (values.map (fun v => v.1 ++ '=' :: v.2) ++ c.before ++ name :: arguments)
    body
  let local_ (body : Act Unit) : Act Unit :=
    if special || (assignments.isEmpty && function.isNone) then assigned body
    else withLocals (assigned body)
  let onFault : Act Unit := if special then throw .faults else pure ()
  match function, runBuiltin? worker name arguments manner with
  | some function, _ =>
    redirecting worker openings onFault (local_ (callFunction worker function arguments manner))
  | none, some builtin =>
    let inContext : Act Unit := withContext name do
      builtin
      checkOutput name
    let body : Act Unit := if special then inContext
      else tryCatch inContext fun
        | .faults => pure ()
        | stop => throw stop
    if name = "exec".toList && arguments.isEmpty then
      redirectForGood worker true openings onFault
      local_ (pure ())
      setStatus 0
    else redirecting worker openings onFault (local_ body)
  | none, none =>
    redirecting worker openings onFault (local_ (runFile worker c.standard name arguments manner))

/-- Runs a simple command. -/
def runSimple (worker : Worker) (line : Nat) (assignments : List (List Char × Word))
    (words : List Word) (redirects : List Redirect) (manner : Manner) : Act Unit := do
  updateSelf fun p => { p with line, substituted := none }
  spend 1
  let (fields, rest) ← firstFields worker words
  let c ← chooseCommand worker words.length { fields, rest }
  match c.fields with
  | [] =>
    let openings ← openingsOf worker redirects
    runEmpty worker assignments openings
  | name :: fields =>
    let values := takesValues name && !(← isFunction c name)
    let arguments := fields ++ (← restFields worker values c.rest)
    let openings ← openingsOf worker redirects
    runChosen worker c name arguments assignments openings manner

end Gutter.Machine
