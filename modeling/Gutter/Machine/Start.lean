import Gutter.Machine.Builtin

/-! The start of a shell: what it takes over from the process that it was, what its arguments ask
for, and the programs that it then runs. -/

namespace Gutter.Machine

open Shell

def act (worker : Worker) (work : Work) : Act Unit := do let _ ← worker work

/-- Runs a text as a program in the present shell. -/
def runText (worker : Worker) (text : List Char) (manner : Manner) : Act Unit :=
  act worker (.program false text manner)

/-- Runs a program from a file in the present shell. -/
def runLines (worker : Worker) (text : List Char) : Act Unit :=
  act worker (.program true text .plain)

/-- Runs a shell to its end, with the action that was set for it. A fault ends it with status 2. -/
def toEnd (worker : Worker) (shell : Act Unit) : Act Unit := do
  let stop : Option Stop ← tryCatch (do shell; pure none) fun stop => pure (some stop)
  let finish (status : Nat) : Act Unit := do
    setStatus status
    match (← self).traps.lookup 0 with
    | some action =>
      updateSelf fun p =>
        { p with traps := p.traps.filter (·.1 ≠ 0), loops := 0, context := none }
      let leaves : Option Stop ← tryCatch (do runText worker action .plain; pure none) fun stop =>
        pure (some stop)
      match leaves with
      | some (.ends ending) => throw (.ends ending)
      | some (.replaced ending) => throw (.replaced ending)
      | some .overdue => throw .overdue
      | some .exhausted => throw .exhausted
      | _ => setStatus status
    | none => pure ()
  match stop with
  | none => finish (← self).status
  | some (.ends (.code n)) =>
    finish n
    throw (.ends (.code n))
  | some (.returns n) =>
    finish n
    throw (.ends (.code n))
  | some .faults =>
    finish 2
    throw (.ends (.code 2))
  | some stop => throw stop

/-- Runs a shell of its own as a child process. -/
def inShell (worker : Worker) (change : Process → Process) (body : Act Unit) :
    Act (Option (Nat × Ending)) :=
  inProcess change (toEnd worker body)

/-- The variables that every shell has. -/
def ownVariables (parent : Nat) (directory : List Char) : List (List Char × Variable) :=
  let plain (text : List Char) : Variable := ⟨some text, false, false⟩
  [("PPID".toList, plain (Nat.toDigits 10 parent)), ("IFS".toList, plain defaultSeparators),
    ("OPTIND".toList, plain ['1']), ("PATH".toList, plain ownPath), ("PS1".toList, plain "# ".toList),
    ("PS2".toList, plain "> ".toList), ("PS4".toList, plain "+ ".toList),
    ("PWD".toList, ⟨some directory, true, false⟩)]

/-- Variables that a shell sets whatever it is given. -/
def isOwn (name : List Char) : Bool := ["IFS", "OPTIND", "PPID", "PWD"].contains (String.ofList name)

/-- Makes the process a new shell. -/
def becomeShell (name : List Char) (arguments : List (List Char)) : Act Unit := do
  let files := (← get).files
  updateSelf fun p =>
    let exported := p.exported.filter fun v => isName v.1
    let directory := directoryFrom { files with place := p.place } (exported.lookup "PWD".toList)
    let kept := given (exported.filter fun v => !isOwn v.1)
    let missing := (ownVariables p.parent directory).filter fun v => !kept.any (·.1 = v.1)
    { p with
      name, arguments, directory
      context := none
      shell := p.id
      vars := kept ++ missing
      functions := []
      aliases := []
      traps := p.traps.filter (·.2.isEmpty)
      options := []
      jobs := []
      lastJob := none
      loops := 0
      calls := 0
      locals := none
      known := []
      scan := ⟨1, none⟩
      status := 0
      line := 0 }

/-- Runs a script with its arguments. -/
def runScript (worker : Worker) (name : List Char) (bytes : List UInt8)
    (arguments : List (List Char)) : Act Unit := do
  becomeShell name arguments
  toEnd worker (runLines worker (charsOf bytes))

/-- What the arguments of a shell ask for: switches, whether a program follows them, and the
arguments that are left. -/
structure Request where
  switched : List Char
  hasText : Bool
  rest : List (List Char)
deriving DecidableEq, Repr

/-- Takes the letters of one argument. -/
def Request.letters (on : Bool) : List Char → Request → Except SwitchFault Request
  | [], r => .ok r
  | 'c' :: more, r => Request.letters on more { r with hasText := true }
  | 'l' :: more, r => Request.letters on more r
  | 'o' :: more, r =>
    match r.rest with
    | name :: rest => do
      let switched ← turnName on name r.switched
      Request.letters on more { r with switched, rest }
    | [] => Request.letters on more r
  | letter :: more, r => do
    Request.letters on more { r with switched := ← turnLetter on letter r.switched }

/-- Takes the options before the other arguments. -/
def Request.options : Nat → Request → Except SwitchFault Request
  | 0, r => .ok r
  | limit + 1, r =>
    match r.rest with
    | ['-'] :: rest => .ok { r with rest }
    | ['-', '-'] :: rest => .ok { r with rest }
    | ('-' :: letters) :: rest => do
      Request.options limit (← Request.letters true letters { r with rest })
    | ('+' :: letters) :: rest => do
      Request.options limit (← Request.letters false letters { r with rest })
    | _ => .ok r

/-- The shell as a program. -/
def shellFrom (worker : Worker) (name : List Char) (arguments : List (List Char)) : Act Unit := do
  becomeShell name []
  let go : Act Unit := do
    match Request.options (arguments.length + 1) ⟨[], false, arguments⟩ with
    | .error fault => fail fault.message
    | .ok r =>
      let prepare (name : List Char) (arguments : List (List Char)) : Act Unit := do
        updateSelf fun p => { p with name, arguments, options := r.switched }
        giveUpControl
      let readsInput := r.switched.contains 's'
      match r.hasText, r.rest with
      | true, [] => fail "-c requires an argument".toList
      | true, text :: rest =>
        prepare (rest.headD name) (rest.drop 1)
        runText worker text (if readsInput then .plain else .final)
        if readsInput then runLines worker (← readAll 0)
      | false, file :: rest =>
        if readsInput then
          prepare name r.rest
          runLines worker (← readAll 0)
        else
          match (← get).files.read (textOf file) with
          | .error e =>
            updateSelf fun p => { p with name }
            cannotOpen file e.fault
          | .ok bytes =>
            prepare file rest
            runLines worker (charsOf bytes)
      | false, [] =>
        updateSelf fun p => { p with options := turn true 's' r.switched }
        runLines worker (← readAll 0)
  toEnd worker go

end Gutter.Machine
