import Gutter.Machine.Redirect

/-! Programs: the files that names stand for, and how a process runs one. -/

namespace Gutter.Machine

open Shell

def directories (path : List Char) : List (List Char) := Text.splitOn ':' path

/-- The directories that are searched for commands. -/
def searchPath : Act (List (List Char)) := do
  return directories ((← lookUpVariable "PATH".toList).getD [])

def candidate (directory name : List Char) : List Char :=
  if directory.isEmpty then name else directory ++ '/' :: name

/-- Where tools are searched for by programs that are given no path. -/
def standardDirectories : List (List Char) := ["/bin".toList, "/usr/bin".toList]

/-- The path that a shell has if it is given none. -/
def ownPath : List Char := "/usr/local/sbin:/usr/local/bin:/usr/sbin:/usr/bin:/sbin:/bin".toList

/-- A file that may be executed and is no directory. -/
def isRunnable (files : Files) (path : String) : Bool :=
  match files.find path with
  | .ok (.file _ executable) => executable
  | .ok (.tool _) => true
  | _ => false

/-- The path of a command: a name with a slash is one, and any other is searched for. What is there
but cannot be run is not permitted. -/
def pathIn (files : Files) (directories : List (List Char)) (name : List Char) :
    Except Files.Fault (List Char) :=
  if name.contains '/' then .ok name
  else
    let candidates := directories.map (candidate · name)
    match candidates.find? fun path => isRunnable files (textOf path) with
    | some path => .ok path
    | none =>
      if candidates.any fun path => (files.find (textOf path)).isOk then .error .notPermitted
      else .error .notFound

/-- The interpreter that a script names in its first line, and its argument. -/
def interpreter? (bytes : List UInt8) : Option (List Char × List (List Char)) :=
  match charsOf bytes with
  | '#' :: '!' :: rest =>
    let isGap (c : Char) : Bool := c = ' ' || c = '\t'
    let line := (rest.takeWhile (· ≠ '\n')).dropWhile isGap
    let (path, after) := line.span (!isGap ·)
    let argument := ((after.dropWhile isGap).reverse.dropWhile isGap).reverse
    some (path, if argument.isEmpty then [] else [argument])
  | _ => none

/-- Why a file cannot be executed. -/
def executionFault (files : Files) (path : String) : Option Files.Fault :=
  match files.find path with
  | .error fault => some fault
  | .ok (.tool _) => none
  | .ok (.file bytes true) =>
    match interpreter? bytes with
    | none => some .notProgram
    | some (interpreter, _) =>
      match files.find (textOf interpreter) with
      | .error fault => some fault
      | .ok (.tool _) => none
      | .ok (.file _ true) => none
      | .ok _ => some .notPermitted
  | .ok _ => some .notPermitted

/-- The status of a command that cannot be executed. -/
def faultStatus (fault : Files.Fault) : Nat :=
  if [.notFound, .notDirectory, .nameTooLong, .tooManyLinks].contains fault then 127 else 126

/-- Executes a command in place of the present process, or tells why it cannot. What is no program
is a script of the shell. -/
def executeAt (worker : Worker) (path name : List Char) (arguments : List (List Char)) :
    Act Files.Fault := do
  match executionFault (← get).files (textOf path) with
  | some .notProgram =>
    let _ ← worker (.execute path name arguments)
    return .notProgram
  | some fault => return fault
  | none =>
    let _ ← worker (.execute path name arguments)
    return .notFound

/-- The path of a program that another one looks for. -/
def programPath (name : List Char) : Act (Except Files.Fault (List Char)) := do
  let directories := match ← lookUpVariable "PATH".toList with
    | some path => directories path
    | none => standardDirectories
  return pathIn (← get).files directories name

/-- Lets a program take the place of the present process, or tells why it cannot. -/
def become (worker : Worker) (words : List (List Char)) : Act Files.Fault := do
  let name := words.headD []
  if name.isEmpty then return .notFound
  match ← programPath name with
  | .error fault => return fault
  | .ok path => executeAt worker path name (words.drop 1)

/-- Runs a program as a child process; if it cannot be executed, the child complains and ends. -/
def spawn (worker : Worker) (change : Process → Process) (words : List (List Char))
    (complain : Files.Fault → Act Unit) : Act (Option (Nat × Ending)) := do
  inProcess change do
    spend startTime
    let fault ← become worker words
    complain fault
    throw (.ends (.code (faultStatus fault)))

end Gutter.Machine
