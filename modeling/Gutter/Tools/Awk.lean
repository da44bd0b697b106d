import Gutter.Tools.Awk.Reader
import Gutter.Tools.Awk.Run

/-! The tool that runs programs over lines. -/

namespace Gutter.Tools

open Machine

namespace Awk

/-- What the options ask for, and what is left of the arguments. -/
structure Options where
  separator : Option (List Char) := none
  assignments : List (List Char × List Char) := []
  texts : List (List Char) := []
  files : List (List Char) := []
  operands : List (List Char) := []

/-- Why the tool does not start: something to say, or its version or usage to print. -/
inductive Refusal
  | spoken (complaint : List Char)
  | version
  | usage

def usage (name : List Char) : List Char :=
  "Usage: ".toList ++ name ++ (" [Options] [Program] [file ...]\n\n"
    ++ "Program:\n"
    ++ "    The -f option value is the name of a file containing program text.\n"
    ++ "    If no -f option is given, a \"--\" ends option processing; the following\n"
    ++ "    parameters are the program text.\n\n"
    ++ "Options:\n"
    ++ "    -f program-file  Program  text is read from file instead of from the\n"
    ++ "                     command-line.  Multiple -f options are accepted.\n"
    ++ "    -F value         sets the field separator, FS, to value.\n"
    ++ "    -v var=value     assigns value to program variable var.\n"
    ++ "    --               unambiguous end of options.\n\n"
    ++ "    Implementation-specific options are prefixed with \"-W\".  They can be\n"
    ++ "    abbreviated:\n\n"
    ++ "    -W version       show version information and exit.\n"
    ++ "    -W dump          show assembler-like listing of program and exit.\n"
    ++ "    -W help          show this message and exit.\n"
    ++ "    -W interactive   set unbuffered output, line-buffered input.\n"
    ++ "    -W exec file     use file as program as well as last option.\n"
    ++ "    -W random=number set initial random seed.\n"
    ++ "    -W sprintf=number adjust size of sprintf buffer.\n"
    ++ "    -W posix_space   do not consider \"\\n\" a space.\n"
    ++ "    -W usage         show this message and exit.\n").toList

/-- Reads options up to the first argument that is none. -/
def readArguments (o : Options) : Nat → List (List Char) → Except Refusal Options
  | 0, operands => .ok { o with operands }
  | _, [] => .ok o
  | limit + 1, argument :: rest =>
    match argument with
    | ['-'] => .ok { o with operands := argument :: rest }
    | ['-', '-'] => .ok { o with operands := rest }
    | '-' :: '-' :: word =>
      let word := String.ofList word
      if word = "version" then .error .version
      else if word = "help" || word = "usage" then .error .usage
      else .error (.spoken ("not an option: ".toList ++ argument))
    | '-' :: letter :: value =>
      let valued (use : List Char → Except Refusal Options) :
          Except Refusal (Options × List (List Char)) := do
        if !value.isEmpty then return (← use value, rest)
        match rest with
        | value :: rest => return (← use value, rest)
        | [] => throw (.spoken ("option ".toList ++ argument ++ " lacks argument".toList))
      let next (use : List Char → Except Refusal Options) : Except Refusal Options := do
        let (o, rest) ← valued use
        readArguments o limit rest
      match letter with
      | 'F' => next fun text => .ok { o with separator := some (unescaped text) }
      | 'f' => next fun path => .ok { o with files := o.files ++ [path] }
      | 'v' => next fun text =>
        match assignment? text with
        | some (name, value) => .ok { o with assignments := o.assignments ++ [(name, value)] }
        | none => .error (.spoken ("improper assignment: -v ".toList ++ text))
      | 'W' => next fun text =>
        if "version".toList.take text.length = text then .error .version
        else if ["help", "usage"].any (·.toList.take text.length = text) then .error .usage
        else .ok o
      | _ => .error (.spoken ("not an option: ".toList ++ argument))
    | _ => .ok { o with operands := argument :: rest }

/-- The text of a program from its files. -/
def programText : List (List Char) → Act (Except (List Char) (List Char))
  | [] => return .ok []
  | path :: rest => do
    match ← bytesAt path with
    | .error fault => return .error (cannotOpen path fault)
    | .ok bytes =>
      match ← programText rest with
      | .ok others => return .ok (bytes ++ '\n' :: others)
      | .error complaint => return .error complaint

/-- Says what is wrong with a program. -/
def tell (file : Option (List Char)) (c : Complaint) : Act Unit := do
  let before := (file.map (· ++ ": ".toList)).getD []
  let line := if c.isStray then digits c.line else "line ".toList ++ digits c.line
  warn [before, line, ": ".toList, c.text]

/-- The state in which a program starts. -/
def startJob (name : List Char) (vars : List (List Char × List Char)) (o : Options) : Job :=
  let format : Value := .text "%.6g".toList
  let scalars : List (String × Value) :=
    [("NR", .ofNat 0), ("FNR", .ofNat 0), ("FS", .text (o.separator.getD [' '])),
      ("OFS", .text [' ']), ("ORS", .text ['\n']), ("RS", .text ['\n']),
      ("SUBSEP", .text ['\x1c']), ("CONVFMT", format), ("OFMT", format), ("FILENAME", .text []),
      ("RSTART", .ofNat 0), ("RLENGTH", .ofInt (-1)), ("ARGC", .ofNat (o.operands.length + 1))]
  let around := vars.foldl (fun (t : Table) (name, value) =>
    (t.get (.text name)).2.set (.text name) (.ofInput value)) {}
  let arguments := ((name :: o.operands).zipIdx).foldl (fun (t : Table) (text, i) =>
    (t.get (.number i)).2.set (.number i) (.ofInput text)) {}
  let given := o.assignments.map fun (name, value) => (name, Value.ofInput (unescaped value))
  { scalars := .ofList (scalars.map (fun (name, v) => (name.toList, v)) ++ given)
    names := [("ENVIRON".toList, 0), ("ARGV".toList, 1)]
    tables := #[around, arguments]
    cutBy := o.separator.getD [' '] }

end Awk

open Awk in
def awk (worker : Worker) : Tool := fun arguments => do
  let name := (← self).name
  match readArguments {} (arguments.length + 1) arguments with
  | .error (.spoken complaint) =>
    warn [complaint]
    return 2
  | .error .version =>
    put "mawk 1.3.4 20200120\n".toList
    return 0
  | .error .usage =>
    put (usage name)
    return 0
  | .ok o =>
    if o.files.isEmpty && o.operands.isEmpty then
      write 2 (usage name)
      return 2
    let text ← if o.files.isEmpty then pure (.ok (o.operands.headD [] ++ ['\n']))
      else programText o.files
    let o := if o.files.isEmpty then { o with operands := o.operands.drop 1 } else o
    match text with
    | .error complaint =>
      warn [complaint]
      return 2
    | .ok text =>
      match readProgram text with
      | .error complaints =>
        for c in complaints do tell o.files.head? c
        return 2
      | .ok program =>
        work ⟨worker, program⟩ (startJob name (← self).exported o)

end Gutter.Tools
