import Gutter.Machine.Variables

/-! Redirections: where the descriptors of a process lead while something runs. -/

namespace Gutter.Machine

open Shell

/-- What the shell says of a file that it cannot open, create or execute. -/
def openFault (missing : String) (fault : Files.Fault) : List Char :=
  match fault with
  | .notFound => missing.toList
  | .notDirectory => missing.toList
  | fault => bytesOf fault.text

def setChannel (descriptor : Nat) (channel : Option Channel) : Act Unit :=
  updateSelf fun p =>
    let rest := p.channels.filter (·.1 ≠ descriptor)
    { p with channels := match channel with
      | some channel => (descriptor, channel) :: rest
      | none => rest }

/-- A redirection with the text of its target, or with the text that stands in the program, which is
expanded only when it is carried out. -/
structure Opening where
  descriptor : Nat
  direction : Direction
  target : List Char
  document : Word

/-- The descriptor that a path of the system stands for. -/
def ownDescriptor? (path : List Char) : Option Nat :=
  let digit? (text : String) : Option Nat :=
    match path.drop text.length with
    | [c] => if text.toList.isPrefixOf path && c.isDigit then some (c.toNat - 48) else none
    | _ => none
  match String.ofList path with
  | "/dev/stdin" => some 0
  | "/dev/stdout" => some 1
  | "/dev/stderr" => some 2
  | _ => digit? "/dev/fd/" <|> digit? "/proc/self/fd/"

def cannotCreate {α : Type} (path : List Char) (fault : Files.Fault) : Act α :=
  fail ("cannot create ".toList ++ path ++ ": ".toList ++ openFault "Directory nonexistent" fault)

def cannotOpen {α : Type} (path : List Char) (fault : Files.Fault) : Act α :=
  fail ("cannot open ".toList ++ path ++ ": ".toList ++ openFault "No such file" fault)

/-- Opens a file to write to it; `keep` keeps what it holds, and `guarded` spares files that are
there. -/
def openOutput (descriptor : Nat) (path : List Char) (keep guarded : Bool) : Act Unit := do
  match ownDescriptor? path with
  | some own =>
    match ← channel? own with
    | some channel => setChannel descriptor (some channel)
    | none => cannotCreate path .notFound
  | none =>
    let files := (← get).files
    let use (place : List (List Char)) (bytes : List UInt8) (executable : Bool) : Act Unit := do
      changeFiles fun files => files.set place (.file bytes executable)
      setChannel descriptor (some (.file place))
    match files.locate (textOf path) with
    | .error fault => cannotCreate path fault
    | .ok (_, some .directory) => cannotCreate path .isDirectory
    | .ok (_, some (.device device)) =>
      setChannel descriptor (some (if device = .full then .full else .sink))
    | .ok (place, some (.file bytes executable)) =>
      if guarded then cannotCreate path .exists
      use place (if keep then bytes else []) executable
    | .ok (_, some _) => cannotCreate path (if guarded then .exists else .notPermitted)
    | .ok (place, none) =>
      createAt place (.file [] false) 0o666
      setChannel descriptor (some (.file place))

def openInput (descriptor : Nat) (path : List Char) : Act Unit := do
  match ownDescriptor? path with
  | some own =>
    match ← channel? own with
    | some channel => setChannel descriptor (some channel)
    | none => cannotOpen path .notFound
  | none =>
    let files := (← get).files
    match files.read (textOf path) with
    | .ok bytes =>
      let channel ← match files.device? (textOf path) with
        | some .sink => pure Channel.sink
        | some _ => sourcePipe
        | none => pipeOf true (charsOf bytes)
      setChannel descriptor (some channel)
    | .error e =>
      if e.fault = .isDirectory then setChannel descriptor (some .directory)
      else cannotOpen path e.fault

/-- Opens a file that may be both read and written, and creates it if it is not there. -/
def openUpdate (descriptor : Nat) (path : List Char) : Act Unit := do
  match (← get).files.locate (textOf path) with
  | .ok (place, none) => createAt place (.file [] false) 0o666
  | .ok (_, some .directory) => cannotCreate path .isDirectory
  | .error fault => cannotCreate path fault
  | _ => pure ()
  if descriptor = 1 || descriptor = 2 then openOutput descriptor path true false
  else openInput descriptor path

/-- Carries out a redirection. What a descriptor led to is kept elsewhere if it will be put back, so that
nothing is told of errors that are sent to nowhere. -/
def Opening.apply (worker : Worker) (saves : Bool) (o : Opening) : Act Unit := do
  match o.direction with
  | .text => setChannel o.descriptor (some (← pipeOf true (← textIn worker .text o.document)))
  | .input => openInput o.descriptor o.target
  | .update => openUpdate o.descriptor o.target
  | .output =>
    openOutput o.descriptor o.target false ((← self).options.contains 'C')
  | .overwrite => openOutput o.descriptor o.target false false
  | .append => openOutput o.descriptor o.target true false
  | .duplicate =>
    if o.target = ['-'] then setChannel o.descriptor none
    else
      match ← channel? (decimal o.target) with
      | some channel => setChannel o.descriptor (some channel)
      | none =>
        if saves && o.descriptor = 2 then setChannel 2 none
        fail (o.target ++ ": Bad file descriptor".toList)

/-- The redirections with their targets. Only one digit or a dash names a descriptor. -/
def openingsOf (worker : Worker) : List Redirect → Act (List Opening)
  | [] => pure []
  | .to descriptor direction target :: rest => do
    let text ← if direction = .text then pure [] else textIn worker .matched target
    let isDescriptor := text = ['-'] || (text.length = 1 && text.all Char.isDigit)
    if direction = .duplicate && !isDescriptor then fail (bytesOf SyntaxFault.badDescriptor.message)
    return ⟨descriptor, direction, text, target⟩ :: (← openingsOf worker rest)

def applyAll (worker : Worker) (saves : Bool) : List Opening → Act Unit
  | [] => pure ()
  | opening :: rest => do
    opening.apply worker saves
    applyAll worker saves rest

/-- Whether redirections can be carried out; a fault is told. -/
def applied (worker : Worker) (saves : Bool) (openings : List Opening) : Act Bool :=
  tryCatch (do applyAll worker saves openings; return true) fun
    | .faults => return false
    | stop => throw stop

/-- Acts with redirections and takes them back, unless another program took the place of the
process. A redirection that fails is a fault of status 2. -/
def redirecting (worker : Worker) (openings : List Opening) (onFault body : Act Unit) : Act Unit := do
  if openings.isEmpty then body
  else
    let before := (← self).channels
    let restore : Act Unit := updateSelf fun p => { p with channels := before }
    if ← applied worker true openings then
      tryCatch body fun stop => do
        match stop with
        | .replaced _ => pure ()
        | _ => restore
        throw stop
      restore
    else
      restore
      setStatus 2
      onFault

/-- Carries out redirections that stay. -/
def redirectForGood (worker : Worker) (saves : Bool) (openings : List Opening) (onFault : Act Unit) : Act Unit := do
  let before := (← self).channels
  if ← applied worker saves openings then release before
  else
    updateSelf fun p => { p with channels := before }
    setStatus 2
    onFault

end Gutter.Machine
