import Gutter.Text.Hex

/-! Signals by their numbers and names; and the switches of a shell, options that are on or off, with
their names and letters. -/

namespace Gutter.Shell.Signal

/-- The names of the first signals. The end of a shell has the number zero. -/
def firstNames : List String :=
  ["EXIT", "HUP", "INT", "QUIT", "ILL", "TRAP", "ABRT", "BUS", "FPE", "KILL", "USR1", "SEGV",
    "USR2", "PIPE", "ALRM", "TERM", "16", "CHLD", "CONT", "STOP", "TSTP", "TTIN", "TTOU", "URG",
    "XCPU", "XFSZ", "VTALRM", "PROF", "WINCH", "IO", "PWR", "SYS", "32", "33", "RTMIN"]

/-- The names of all signals in their order; the last ones are counted from both ends. -/
def names : List String :=
  firstNames ++ (List.range 15).map (fun n => s!"RTMIN+{n + 1}")
    ++ (List.range 14).map (fun n => s!"RTMAX-{14 - n}") ++ ["RTMAX"]

/-- The number of a signal, at least `least`, by its name or its digits. -/
def number? (least : Nat) (text : List Char) : Option Nat :=
  if !text.isEmpty && text.all Char.isDigit then
    let n := Text.valueOfDigits 10 text
    if n < names.length then some n else none
  else
    let name := String.ofList (text.map Char.toUpper)
    ((names.zipIdx.drop least).find? (·.1 = name)).map (·.2)

def name (number : Nat) : String := names.getD number ""

/-- Signals that end no process by themselves. -/
def isHarmless (number : Nat) : Bool := [0, 17, 18, 23, 28].contains number

/-- What is told of a process that a signal ended. -/
def notice : Nat → String
  | 1 => "Hangup"
  | 3 => "Quit"
  | 4 => "Illegal instruction"
  | 5 => "Trace/breakpoint trap"
  | 6 => "Aborted"
  | 7 => "Bus error"
  | 8 => "Floating point exception"
  | 9 => "Killed"
  | 10 => "User defined signal 1"
  | 11 => "Segmentation fault"
  | 12 => "User defined signal 2"
  | 14 => "Alarm clock"
  | 15 => "Terminated"
  | 16 => "Stack fault"
  | 24 => "CPU time limit exceeded"
  | 25 => "File size limit exceeded"
  | 26 => "Virtual timer expired"
  | 27 => "Profiling timer expired"
  | 29 => "I/O possible"
  | 30 => "Power failure"
  | 31 => "Bad system call"
  | _ => ""

/-- The notice with which a shell tells the end of a process; it is silent about two signals. -/
def toldNotice (number : Nat) : List Char :=
  let text := notice number
  if text.isEmpty then [] else text.toList ++ ['\n']

end Gutter.Shell.Signal

namespace Gutter.Shell

/-- A switch; one that no letter stands for has a letter that cannot be written. -/
structure Switch where
  name : String
  letter : Char
deriving DecidableEq, Repr

/-- All switches, in the order in which they are told. -/
def switches : List Switch :=
  [⟨"errexit", 'e'⟩, ⟨"noglob", 'f'⟩, ⟨"ignoreeof", 'I'⟩, ⟨"interactive", 'i'⟩, ⟨"monitor", 'm'⟩,
    ⟨"noexec", 'n'⟩, ⟨"stdin", 's'⟩, ⟨"xtrace", 'x'⟩, ⟨"verbose", 'v'⟩, ⟨"vi", 'V'⟩,
    ⟨"emacs", 'E'⟩, ⟨"noclobber", 'C'⟩, ⟨"allexport", 'a'⟩, ⟨"notify", 'b'⟩, ⟨"nounset", 'u'⟩,
    ⟨"privileged", 'p'⟩, ⟨"nolog", '\x01'⟩, ⟨"debug", '\x02'⟩]

/-- The letters of the switches that are on. -/
def lettersOn (on : List Char) : List Char :=
  (switches.map (·.letter)).reverse.filter fun letter => on.contains letter && ' ' ≤ letter

/-- Turns a switch on or off. -/
def turn (on : Bool) (letter : Char) (switched : List Char) : List Char :=
  let rest := switched.filter (· ≠ letter)
  if !on then rest
  else if letter = 'V' then letter :: rest.filter (· ≠ 'E')
  else if letter = 'E' then letter :: rest.filter (· ≠ 'V')
  else letter :: rest

/-- What is wrong with a switch. -/
inductive SwitchFault
  | letter (letter : Char)
  | name (name : List Char)
deriving DecidableEq, Repr

def SwitchFault.message : SwitchFault → List Char
  | .letter c => "Illegal option -".toList ++ [c]
  | .name text => "Illegal option -o ".toList ++ text

/-- Turns the switch of a letter. -/
def turnLetter (on : Bool) (letter : Char) (switched : List Char) :
    Except SwitchFault (List Char) :=
  if ' ' ≤ letter && switches.any (·.letter = letter) then .ok (turn on letter switched)
  else .error (.letter letter)

/-- Turns the switch of a name. -/
def turnName (on : Bool) (name : List Char) (switched : List Char) :
    Except SwitchFault (List Char) :=
  match switches.find? fun switch => switch.name.toList = name with
  | some switch => .ok (turn on switch.letter switched)
  | none => .error (.name name)

/-- A list of all switches; as commands, if `asCommands` is wanted. -/
def switchList (asCommands : Bool) (on : List Char) : List Char :=
  let line (switch : Switch) : List Char :=
    let isOn := on.contains switch.letter
    let name := switch.name.toList
    if asCommands then "set ".toList ++ (if isOn then '-' else '+') :: "o ".toList ++ name
    else
      name ++ List.replicate (16 - name.length) ' ' ++ (if isOn then "on" else "off").toList
  let title := if asCommands then [] else "Current option settings\n".toList
  title ++ switches.flatMap fun switch => line switch ++ ['\n']

end Gutter.Shell
