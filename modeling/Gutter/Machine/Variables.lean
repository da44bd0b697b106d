import Gutter.Machine.Expand
import Gutter.Machine.Letters
import Gutter.Shell.Signal
import Gutter.Shell.Text

/-! Commands of the shell about its variables and its switches. -/

namespace Gutter.Machine

open Shell

/-- Lists variables in the order of their names, each after a word. -/
def listVariables (word : String) (chosen : Variable → Bool) : Act Nat := do
  let vars := ((← self).vars.filter fun v => chosen v.2).mergeSort fun a b => charLess a.1 b.1
  let start := if word.isEmpty then [] else word.toList ++ [' ']
  let line (v : List Char × Variable) : List Char :=
    start ++ v.1 ++ (v.2.value.elim [] fun value => '=' :: singleQuoted value) ++ ['\n']
  write 1 (vars.flatMap line)
  return 0

/-- Splits an argument that gives a variable a value. -/
def nameAndValue (argument : List Char) : List Char × Option (List Char) :=
  match argument.span (· ≠ '=') with
  | (name, '=' :: value) => (name, some value)
  | (name, _) => (name, none)

/-- What can be the name of a variable, or a complaint. -/
def checkName (name : List Char) : Act Unit := do
  if !isName name then
    let start := name.takeWhile (· ≠ '=')
    fail (start ++ ": bad variable name".toList)

/-- Marks variables in some way, some of which are given values, or lists those that are marked. -/
def declare (word : String) (marked : Variable → Bool) (mark : List Char → Act Unit)
    (arguments : List (List Char)) : Act Nat := do
  let (given, names) ← options "p" arguments
  if !given.isEmpty || names.isEmpty then listVariables word marked
  else
    for argument in names do
      let (name, value) := nameAndValue argument
      let known := (← self).vars.any (·.1 = argument)
      if !known then checkName name
      if let some value := value then setVariable name value
      mark name
    return 0

/-- Keeps what something has outside a function, where it is put back. -/
def save (saved : Saved) : Act Unit :=
  updateSelf fun p => { p with locals := p.locals.map (saved :: ·) }

def saveVariable (name : List Char) : Act Unit := do
  save (.variable name ((← self).vars.lookup name))

/-- Makes variables, or the switches, those of a function. -/
def makeLocal (arguments : List (List Char)) : Act Nat := do
  if (← self).locals.isNone then fail "not in a function".toList
  for argument in arguments do
    if argument = ['-'] then save (.options (← self).options)
    else
      let (name, value) := nameAndValue argument
      checkName name
      saveVariable name
      if let some value := value then setVariable name value
  return 0

/-- Puts back what was saved. -/
def putBack (saved : Saved) : Act Unit :=
  match saved with
  | .variable name (some v) => putVariable name v
  | .variable name none => dropVariable name
  | .options letters => updateSelf fun p => { p with options := letters }

/-- Acts where variables can be local, and puts them back. -/
def withLocals (act : Act Unit) : Act Unit := do
  let outer := (← self).locals
  let leave : Act Unit := do
    for saved in (← self).locals.getD [] do putBack saved
    updateSelf fun p => { p with locals := outer }
  updateSelf fun p => { p with locals := some [] }
  tryCatch act fun stop => do
    match stop with
    | .replaced _ => pure ()
    | _ => leave
    throw stop
  leave

/-- Takes variables or functions away. -/
def unsetNames (arguments : List (List Char)) : Act Nat := do
  let (given, names) ← options "vf" arguments
  let functions := (given.getLast?.map (·.1)) = some 'f'
  for name in names do
    if functions then
      updateSelf fun p => { p with functions := p.functions.filter (·.1 ≠ name) }
    else
      checkName name
      if ((← self).vars.lookup name).any (·.fixed) then fail (name ++ ": is read only".toList)
      dropVariable name
  return 0

/-! ### Switches and arguments -/

/-- Gives the shell other arguments. -/
def setArguments (arguments : List (List Char)) : Act Unit :=
  updateSelf fun p => { p with arguments, scan := ⟨1, none⟩ }

def switchTo (switched : Except SwitchFault (List Char)) : Act Unit := do
  match switched with
  | .ok letters => updateSelf fun p => { p with options := letters }
  | .error fault => fail fault.message

/-- Turns the switches that the letters of one argument stand for; `o` takes a name from those that
follow, or lists all. -/
def turnAll (on : Bool) (letters : List Char) (rest : List (List Char)) :
    Act (List (List Char)) := do
  match letters with
  | [] => return rest
  | 'o' :: more =>
    match rest with
    | name :: rest =>
      switchTo (turnName on name (← self).options)
      turnAll on more rest
    | [] =>
      write 1 (switchList (!on) (← self).options)
      turnAll on more []
  | letter :: more =>
    switchTo (turnLetter on letter (← self).options)
    turnAll on more rest

/-- Turns switches, and gives the shell the other arguments. -/
def setFrom : Nat → List (List Char) → Act Nat
  | 0, _ => pure 0
  | limit + 1, arguments => do
    let others (rest : List (List Char)) : Act Nat := do
      if !rest.isEmpty then setArguments rest
      return 0
    match arguments with
    | ['-'] :: rest =>
      updateSelf fun p => { p with options := p.options.filter fun c => c ≠ 'x' && c ≠ 'v' }
      others rest
    | ['-', '-'] :: rest =>
      setArguments rest
      return 0
    | ('-' :: letters) :: rest => setFrom limit (← turnAll true letters rest)
    | ('+' :: letters) :: rest => setFrom limit (← turnAll false letters rest)
    | rest => others rest

/-- There is no terminal, without which jobs cannot be controlled. -/
def giveUpControl : Act Unit := do
  if (← self).options.contains 'm' then
    complain "can't access tty; job control turned off".toList
    updateSelf fun p => { p with options := turn false 'm' p.options }

def setCommand (arguments : List (List Char)) : Act Nat := do
  if arguments.isEmpty then listVariables "" fun v => v.value.isSome
  else
    let status ← setFrom (arguments.length + 1) arguments
    giveUpControl
    return status

def shift (arguments : List (List Char)) : Act Nat := do
  let count ← match arguments with
    | [] => pure 1
    | text :: _ => numberOf text
  let p ← self
  if p.arguments.length < count then fail "can't shift that many".toList
  setArguments (p.arguments.drop count)
  return 0

end Gutter.Machine
