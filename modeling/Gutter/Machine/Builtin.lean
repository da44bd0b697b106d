import Gutter.Machine.Input
import Gutter.Machine.Jobs
import Gutter.Machine.Program
import Gutter.Machine.Variables
import Gutter.Shell.Format
import Gutter.Shell.Modes

/-! Commands of the shell itself, as far as they run no other command. -/

namespace Gutter.Machine

open Shell

/-- A command of the shell: its arguments, and the status that it ends with. -/
abbrev Builtin := List (List Char) → Act Nat

def echo (arguments : List (List Char)) : Act Nat := do
  write 1 (echoText arguments)
  return 0

def printText (arguments : List (List Char)) : Act Nat := do
  match ← withoutOptions arguments with
  | [] => fail "usage: printf format [arg ...]".toList
  | format :: rest =>
    let printed := printf false format rest
    let mut status := 0
    for piece in printed.pieces.reverse do
      match piece with
      | .inl fault =>
        complain fault.inShell
        status := if fault.ends then 2 else 1
      | .inr _ => pure ()
    write 1 printed.text
    return status

/-- Tests a condition; `bracket` asks for a bracket at its end. -/
def test (bracket : Bool) (words : List (List Char)) : Act Nat := do
  if bracket && words.getLast? ≠ some [']'] then fail Condition.Fault.missingBracket.message
  match Condition.holds (← get).files (if bracket then words.dropLast else words) with
  | .ok found => return if found then 0 else 1
  | .error fault => fail fault.message

/-! ### The current directory

It is the place, and the path by which the shell got there. -/

/-- The path of a place. -/
def pathOfPlace (place : List (List Char)) : List Char :=
  bytesOf (String.ofList ('/' :: Text.joinWith '/' place))

/-- Follows the parts of a path by their names alone. -/
def followNames (start : List (List Char)) (path : List Char) : List (List Char) :=
  (Text.splitOn '/' path).foldl (fun parts part =>
    if part.isEmpty || part = ['.'] then parts
    else if part = ['.', '.'] then parts.dropLast
    else parts ++ [part]) start

/-- Two slashes at the start of a path are kept. -/
def hasDoubleStart : List Char → Bool
  | '/' :: '/' :: rest => rest.head? ≠ some '/'
  | _ => false

/-- The path that a shell has after it went along another one. -/
def pathAfter (directory path : List Char) : List Char :=
  let absolute := path.head? = some '/'
  let start := if absolute then [] else (Text.splitOn '/' directory).filter (· ≠ [])
  let root := if hasDoubleStart (if absolute then path else directory) then ['/', '/'] else ['/']
  root ++ Text.joinWith '/' (followNames start path)

/-- Goes to the place of a path, if it is a directory. -/
def enter (physical : Bool) (path : List Char) : Act Bool := do
  let files := (← get).files
  let logical := pathAfter (← self).directory path
  let goal := if physical then path else logical
  match files.locate (textOf path), files.locate (textOf goal) with
  | .ok _, .ok (place, some .directory) =>
    let old := (← self).directory
    let directory := if physical then pathOfPlace place else logical
    updateSelf fun p => { p with place, directory }
    modify fun s => { s with files := { s.files with place } }
    let exporting (name value : List Char) : Act Unit := do
      setVariable name value
      exportVariable name
    exporting "OLDPWD".toList old
    exporting "PWD".toList directory
    return true
  | _, _ => return false

/-- Whether options ask for the path without links. -/
def isPhysical (given : List (Char × List Char)) : Bool := given.getLast?.map (·.1) = some 'P'

/-- The path starts from here, so that it is searched for nowhere else. -/
def startsHere : List Char → Bool
  | '/' :: _ => true
  | ['.'] => true
  | '.' :: '/' :: _ => true
  | ['.', '.'] => true
  | '.' :: '.' :: '/' :: _ => true
  | _ => false

def changeDirectory (arguments : List (List Char)) : Act Nat := do
  let (given, names) ← options "LP" arguments
  let physical := isPhysical given
  let back := names.head? = some ['-']
  let goal ← match names with
    | [] => lookUpVariable "HOME".toList
    | ['-'] :: _ => lookUpVariable "OLDPWD".toList
    | goal :: _ => pure (some goal)
  let goal := goal.getD []
  let goal := if goal.isEmpty then ['.'] else goal
  let tell : Act Nat := do
    write 1 ((← self).directory ++ ['\n'])
    return 0
  let directories ← if startsHere goal then pure [] else do
    pure (((← lookUpVariable "CDPATH".toList).map (Text.splitOn ':')).getD [])
  for directory in directories do
    if !directory.isEmpty then
      let path := directory ++ '/' :: goal
      if (← get).files.isDirectory (textOf path) then
        if ← enter physical path then return ← tell
  if ← enter physical goal then
    if back then tell else return 0
  else fail ("can't cd to ".toList ++ if names.isEmpty || back then goal else names.headD [])

def printDirectory (arguments : List (List Char)) : Act Nat := do
  let (given, _) ← options "LP" arguments
  let p ← self
  write 1 ((if isPhysical given then pathOfPlace p.place else p.directory) ++ ['\n'])
  return 0

/-- The path of the current place that the variables tell, if it leads there. -/
def directoryFrom (files : Files) (told : Option (List Char)) : List Char :=
  let actual := pathOfPlace files.place
  match told with
  | some path =>
    if path.head? = some '/' && (files.locate (textOf path)).toOption.any (·.1 = files.place) then
      path
    else actual
  | none => actual

/-! ### Ends and jumps -/

def exit (arguments : List (List Char)) : Act Nat := do
  match arguments with
  | [] => throw (.ends (.code (← self).status))
  | text :: _ => throw (.ends (.code ((← numberOf text) % 256)))

def return_ (arguments : List (List Char)) : Act Nat := do
  match arguments with
  | [] => throw (.returns (← self).status)
  | text :: _ => throw (.returns (← numberOf text))

/-- Leaves loops, or goes on with the next round of one. -/
def jump (goal : Nat → Stop) (arguments : List (List Char)) : Act Nat := do
  let levels ← match arguments with
    | [] => pure 1
    | text :: _ =>
      let n ← numberOf text
      if n = 0 then illegalNumber text
      pure n
  let loops := (← self).loops
  if loops = 0 then return 0 else throw (goal (min levels loops))

/-! ### Traps, aliases and files that are known -/

/-- Lists the actions for signals. -/
def listTraps : Act Nat := do
  let traps := (← self).traps.mergeSort fun a b => a.1 ≤ b.1
  for (signal, action) in traps do
    write 1 ("trap -- ".toList ++ singleQuoted action ++ ' ' :: (Signal.name signal).toList
      ++ ['\n'])
  return 0

/-- Sets the action for a signal, or takes it away. -/
def setTrap (signal : Nat) (action : Option (List Char)) : Act Unit :=
  updateSelf fun p =>
    let rest := p.traps.filter (·.1 ≠ signal)
    { p with traps := match action with
      | some action => (signal, action) :: rest
      | none => rest }

def trap (arguments : List (List Char)) : Act Nat := do
  let set (action : Option (List Char)) (names : List (List Char)) : Act Nat := do
    for name in names do
      match Signal.number? 0 name with
      | some signal => setTrap signal action
      | none =>
        write 2 ("trap: ".toList ++ name ++ ": bad trap\n".toList)
        return 1
    return 0
  match ← withoutOptions arguments with
  | [] => listTraps
  | [name] => set none [name]
  | ['-'] :: names => set none names
  | action :: names => set (some action) names

/-- Names in the order of a table with a number of groups. -/
def inGroups {α : Type} (count : Nat) (entries : List (List Char × α)) :
    List (List Char × α) :=
  let group (name : List Char) : Nat :=
    (name.foldl (fun n c => n + c.toNat) (16 * (name.headD ' ').toNat)) % count
  entries.mergeSort fun a b => group a.1 ≤ group b.1

def aliasLine (entry : List Char × List Char) : List Char :=
  entry.1 ++ '=' :: singleQuoted entry.2 ++ ['\n']

def setAlias (name value : List Char) : Act Unit :=
  updateSelf fun p =>
    { p with aliases :=
        if p.aliases.any (·.1 = name) then
          p.aliases.map fun entry => if entry.1 = name then (name, value) else entry
        else p.aliases ++ [(name, value)] }

def nickname (arguments : List (List Char)) : Act Nat := do
  if arguments.isEmpty then
    write 1 ((inGroups 39 (← self).aliases).flatMap aliasLine)
    return 0
  let mut status := 0
  for argument in arguments do
    let (start, rest) := (argument.take 1, argument.drop 1)
    let (more, value) := rest.span (· ≠ '=')
    let name := start ++ more
    if value.isEmpty then
      match (← self).aliases.lookup argument with
      | some value => write 1 (aliasLine (argument, value))
      | none =>
        write 2 ("alias: ".toList ++ argument ++ " not found\n".toList)
        status := 1
    else setAlias name (value.drop 1)
  return status

def unalias (arguments : List (List Char)) : Act Nat := do
  let (given, names) ← options "a" arguments
  if !given.isEmpty then
    updateSelf fun p => { p with aliases := [] }
    return 0
  let mut status := 0
  for name in names do
    if (← self).aliases.any (·.1 = name) then
      updateSelf fun p => { p with aliases := p.aliases.filter (·.1 ≠ name) }
    else
      write 2 ("unalias: ".toList ++ name ++ " not found\n".toList)
      status := 1
  return status

/-- Notes where the file of a command is. -/
def know (name path : List Char) : Act Unit :=
  updateSelf fun p => { p with known := p.known.filter (·.1 ≠ name) ++ [(name, path)] }

/-- Searches the file of a command, or complains. -/
def findCommand (name : List Char) : Act (Option (List Char)) := do
  match pathIn (← get).files (← searchPath) name with
  | .ok path =>
    if !name.contains '/' then know name path
    return some path
  | .error fault =>
    complain (name ++ ": ".toList ++ openFault "not found" fault)
    return none

def hash (arguments : List (List Char)) : Act Nat := do
  let (given, names) ← options "r" arguments
  if !given.isEmpty then
    updateSelf fun p => { p with known := [] }
    return 0
  if names.isEmpty then
    write 1 ((inGroups 31 (← self).known).flatMap fun entry => entry.2 ++ ['\n'])
    return 0
  let mut status := 0
  for name in names do
    if (← self).functions.any (·.1 = name) then pure ()
    else if (← findCommand name).isNone then status := 1
  return status

/-! ### Limits -/

def umask (arguments : List (List Char)) : Act Nat := do
  let (given, rest) ← options "S" arguments
  let mask := (← self).mask
  match rest with
  | [] =>
    let digits := Nat.toDigits 8 mask
    let text := if given.isEmpty then List.replicate (4 - digits.length) '0' ++ digits
      else Rights.clauses (511 - mask)
    write 1 (text ++ ['\n'])
    return 0
  | text :: _ =>
    if text.head?.any Char.isDigit then
      if !text.all (fun c => '0' ≤ c && c ≤ '7') then illegalNumber text
      let mask := Text.valueOfDigits 8 text % 512
      updateSelf fun p => { p with mask }
    else
      match Rights.changeAll (511 - mask) text with
      | some rights => updateSelf fun p => { p with mask := 511 - rights }
      | none => fail ("Illegal mode: ".toList ++ text)
    return 0

/-- The limits of a process: letter, name, unit and value. -/
def limits : List (Char × String × String × String) :=
  [('t', "time", "seconds", "unlimited"), ('f', "file", "blocks", "unlimited"),
    ('d', "data", "kbytes", "unlimited"), ('s', "stack", "kbytes", "8192"),
    ('c', "coredump", "blocks", "0"), ('m', "memory", "kbytes", "unlimited"),
    ('l', "locked memory", "kbytes", "8192"), ('p', "process", "", "unlimited"),
    ('n', "nofiles", "", "1048576"), ('v', "vmemory", "kbytes", "unlimited"),
    ('w', "locks", "", "unlimited"), ('r', "rtprio", "", "0")]

def ulimit (arguments : List (List Char)) : Act Nat := do
  let (given, _) ← options "HSatfdsmcmlpnvwr" arguments
  if given.any (·.1 = 'a') then
    for (_, name, part, value) in limits do
      let title := name ++ if part.isEmpty then "" else "(" ++ part ++ ")"
      let title := title.toList
      write 1 (title ++ List.replicate (20 - title.length) ' ' ++ ' ' :: value.toList ++ ['\n'])
  else
    let letter := ((given.map (·.1)).filter fun c => c ≠ 'H' && c ≠ 'S').getLastD 'f'
    let value := ((limits.find? (·.1 = letter)).map (·.2.2.2)).getD "unlimited"
    write 1 (value.toList ++ ['\n'])
  return 0

def times : Act Nat := do
  write 1 "0m0.000000s 0m0.000000s\n0m0.000000s 0m0.000000s\n".toList
  return 0

/-! ### The table -/

/-- The arguments of these commands that give a variable a value are no fields. -/
def takesValues (name : List Char) : Bool :=
  ["export", "readonly", "local", "alias"].contains (String.ofList name)

/-- The commands of the shell that do not end it when they fail. -/
def regularNames : List String :=
  ["cd", "chdir", "echo", "printf", "test", "[", "true", "false", "pwd", "read", "kill", "wait",
    "umask", "type", "command", "getopts", "alias", "unalias", "hash", "ulimit", "jobs", "fg", "bg"]

/-- A command of the shell that runs no other command. -/
def builtin? (name : String) : Option Builtin :=
  match name with
  | ":" => some fun _ => pure 0
  | "true" => some fun _ => pure 0
  | "false" => some fun _ => pure 1
  | "times" => some fun _ => times
  | "umask" => some umask
  | "ulimit" => some ulimit
  | "hash" => some hash
  | "alias" => some nickname
  | "unalias" => some unalias
  | "jobs" => some listJobs
  | "fg" => some moveJob
  | "bg" => some moveJob
  | "cd" => some changeDirectory
  | "chdir" => some changeDirectory
  | "pwd" => some printDirectory
  | "echo" => some echo
  | "printf" => some printText
  | "test" => some (test false)
  | "[" => some (test true)
  | "read" => some readVariables
  | "getopts" => some getOptions
  | "kill" => some kill
  | "wait" => some wait
  | "set" => some setCommand
  | "shift" => some shift
  | "unset" => some unsetNames
  | "export" => some (declare "export" (·.exported) exportVariable)
  | "readonly" => some (declare "readonly" (·.fixed) fixVariable)
  | "local" => some makeLocal
  | "exit" => some exit
  | "return" => some return_
  | "break" => some (jump .breaks)
  | "continue" => some (jump .continues)
  | "trap" => some trap
  | _ => none

end Gutter.Machine
