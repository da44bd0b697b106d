import Gutter.Text.Numeral

/-! The arguments of the program: which command is meant, and with which files and options. -/

namespace Gutter.CommandLine

/-- What is wrong with the arguments. -/
inductive UsageError
  | noArguments
  | noCommand
  | unknownCommand (name : String)
  | unknownOption (option : String)
  | missingValue (option : String)
  | needlessValue (option : String)
  | needlessArgument (argument : String)
  | noFiles
  | badWidth (text : String)
  | badFile (path : String)
  | badConfig (path : String)
deriving DecidableEq, Repr

def UsageError.message : UsageError → String
  | .noArguments => "arguments are missing"
  | .noCommand => "a command is missing"
  | .unknownCommand name => s!"there is no command {name}"
  | .unknownOption option => s!"there is no option {option}"
  | .missingValue option => s!"option {option} needs a value"
  | .needlessValue option => s!"option {option} takes no value"
  | .needlessArgument argument => s!"argument {argument} is not expected"
  | .noFiles => "files are missing"
  | .badWidth text => s!"{text} is not a width"
  | .badFile path => s!"{path} is not a file"
  | .badConfig path => s!"{path} is not a file for settings"

/-- The files and options of a command. An option that is given again counts the last time, but
every preset counts. -/
structure Options where
  files : List String := []
  config : Option String := none
  presets : List String := []
  width : Option String := none
  emoji : Bool := true
  colour : Bool := true
  debug : Bool := false
  help : Bool := false
deriving DecidableEq, Repr

inductive Command
  | check
  | linters
  | presets
deriving DecidableEq, Repr

def Command.ofName? : String → Option Command
  | "check" => some .check
  | "linters" => some .linters
  | "presets" => some .presets
  | _ => none

/-- An option: one that stands for itself, or one that takes a value. -/
inductive Kind
  | flag (set : Options → Options)
  | valued (set : Options → String → Options)

def help : String × Kind := ("--help", .flag fun o => { o with help := true })

/-- The options of both commands that take files. -/
def fileOptions : List (String × Kind) :=
  let config := Kind.valued fun o value => { o with config := some value }
  let preset := Kind.valued fun o value => { o with presets := o.presets ++ [value] }
  [("--config", config), ("-c", config), ("--preset", preset), ("-p", preset),
   ("--emoji", .flag fun o => { o with emoji := true }),
   ("--no-emoji", .flag fun o => { o with emoji := false }),
   ("--color", .flag fun o => { o with colour := true }),
   ("--no-color", .flag fun o => { o with colour := false })]

/-- The options that a command has. -/
def Command.options : Command → List (String × Kind)
  | .check =>
    help :: ("--max-width", .valued fun o value => { o with width := some value })
      :: ("--debug", .flag fun o => { o with debug := true }) :: fileOptions
  | .linters => help :: fileOptions
  | .presets => [help]

/-- Splits an argument at its first equals sign. -/
def splitValue (argument : List Char) : List Char × Option (List Char) :=
  match argument.span (· ≠ '=') with
  | (name, '=' :: value) => (name, some value)
  | (name, _) => (name, none)

/-- Reads arguments from the left. `set` waits for its value, and after two dashes all arguments are
files. -/
def readFrom (known : List (String × Kind)) :
    Option (String × (Options → String → Options)) → Bool → Options → List String →
    Except UsageError Options
  | some (name, _), _, _, [] => .error (.missingValue name)
  | some (_, set), plain, o, value :: rest => readFrom known none plain (set o value) rest
  | none, _, o, [] => .ok o
  | none, plain, o, argument :: rest =>
    let file := { o with files := o.files ++ [argument] }
    match plain, argument.toList with
    | true, _ => readFrom known none true file rest
    | false, ['-'] => readFrom known none false file rest
    | false, ['-', '-'] => readFrom known none true o rest
    | false, '-' :: '-' :: _ =>
      let (name, value) := splitValue argument.toList
      let name := String.ofList name
      match known.lookup name, value with
      | none, _ => .error (.unknownOption name)
      | some (.flag set), none => readFrom known none false (set o) rest
      | some (.flag _), some _ => .error (.needlessValue name)
      | some (.valued set), some value =>
        readFrom known none false (set o (String.ofList value)) rest
      | some (.valued set), none => readFrom known (some (name, set)) false o rest
    | false, '-' :: letter :: value =>
      let name := String.ofList ['-', letter]
      match known.lookup name, value with
      | none, _ => .error (.unknownOption name)
      | some (.flag _), _ => .error (.unknownOption name)
      | some (.valued set), [] => readFrom known (some (name, set)) false o rest
      | some (.valued set), value =>
        readFrom known none false (set o (String.ofList value)) rest
    | false, _ => readFrom known none false file rest

/-- What is told about the program on request. -/
def helpText : String := String.join <| [
    "Usage: COMMAND [OPTIONS] FILES",
    "  check    lint files and print their warnings",
    "  linters  list the linters of files",
    "  presets  list the linters that are known by name"].map (· ++ "\n")

/-- What the program is asked to do. -/
inductive Request
  | help
  | run (command : Command) (options : Options)
deriving DecidableEq, Repr

/-- Reads the arguments of a command. -/
def readCommand (command : Command) (arguments : List String) : Except UsageError Request := do
  let o ← readFrom command.options none false {} arguments
  if o.help then return .help
  match command, o.files with
  | .presets, file :: _ => throw (.needlessArgument file)
  | .presets, [] => return .run command o
  | _, [] => throw .noFiles
  | _, _ => return .run command o

/-- Reads arguments up to the name of a command; only a request for help may stand before it. -/
def readStart : Bool → List String → Except UsageError Request
  | true, [] => .ok .help
  | false, [] => .error .noCommand
  | asked, argument :: rest =>
    let named (name : String) (rest : List String) : Except UsageError Request :=
      if asked then .ok .help
      else
        match Command.ofName? name with
        | some command => readCommand command rest
        | none => .error (.unknownCommand name)
    match argument.toList with
    | ['-'] => named argument rest
    | ['-', '-'] =>
      match rest with
      | [] => if asked then .ok .help else .error .noCommand
      | name :: rest => named name rest
    | '-' :: _ =>
      if argument = help.1 then readStart true rest else .error (.unknownOption argument)
    | _ => named argument rest

/-- What arguments ask for. -/
def Request.read (arguments : List String) : Except UsageError Request :=
  if arguments.isEmpty then .error .noArguments else readStart false arguments

/-- The width that is asked for: an integer of at least one. -/
def Options.width? (o : Options) : Except UsageError (Option Nat) :=
  match o.width with
  | none => .ok none
  | some text =>
    match Text.integer? text.toList with
    | some n => if 1 ≤ n then .ok (some n.toNat) else .error (.badWidth text)
    | none => .error (.badWidth text)

end Gutter.CommandLine
