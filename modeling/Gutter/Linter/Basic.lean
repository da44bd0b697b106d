import Gutter.Pattern
import Gutter.Shell.Words
import Gutter.Validation.Field

/-! Linters: how a tool is called, which files it is for, and the pattern that finds warnings in
what it prints. A linter is made from its definition, which is checked once. -/

namespace Gutter

/-- What is written about a linter. -/
structure Definition where
  name : String
  command : String
  warningPattern : String
  filePatterns : List String
  shell : Bool
deriving DecidableEq, Repr

/-- The table that describes a definition. -/
def Definition.value (d : Definition) : Value :=
  .table [("name", .text d.name), ("command", .text d.command),
    ("warning_pattern", .text d.warningPattern),
    ("file_patterns", .list (d.filePatterns.map .text)), ("shell", .bool d.shell)]

/-- Where a warning's parts stand among the groups of a pattern. -/
structure Layout where
  line : Nat
  col : Option Nat
  message : Nat
deriving DecidableEq, Repr

/-- A command line that is passed to the shell, or the words that call a tool. -/
inductive Template
  | shell (line : List Char)
  | words (words : List (List Char))
deriving DecidableEq, Repr

/-- A linter that is ready to be used: its definition, and what was made from it. -/
structure Linter extends Definition where
  pattern : Pattern
  layout : Layout
  files : List Pattern
  template : Template
deriving DecidableEq, Repr

namespace Linter

open Validation (Checked Cause)

def model : String := "LinterSpec"

/-- The flags of warning patterns: line anchors hold at every line. -/
def warningFlags : Pattern.Flags := { multiline := true }

/-- Groups named `line` and `message`, and perhaps `col`, hold the parts of a warning; without these
names it is the first three groups. -/
def layout? (pattern : Pattern) : Option Layout :=
  match pattern.names.lookup "line".toList, pattern.names.lookup "message".toList with
  | some line, some message => some ⟨line, pattern.names.lookup "col".toList, message⟩
  | _, _ => if 3 ≤ pattern.groups then some ⟨1, some 2, 3⟩ else none

/-- The refusal of a text that is no pattern; `what` says which pattern it should be. -/
def refusePattern {α : Type} (what : String) (text : String) (input : Value) :
    Pattern.Fault → Checked α
  | .repeatTooLarge => .error .countTooLarge
  | .written problem position =>
    let fault := Pattern.Fault.written problem position
    .refuse (.rejected s!"invalid {what} {Text.quote text}: {fault.message text.toList}") input
  | fault => .refuse (.rejected (fault.message text.toList)) input

/-- A pattern that finds a line, a column and a message. -/
def checkWarningPattern (value : Value) : Checked (String × Pattern × Layout) :=
  (Validation.checkText value).andThen fun text =>
    match Pattern.compile warningFlags text.toList with
    | .error fault => refusePattern "warning pattern" text value fault
    | .ok pattern =>
      match layout? pattern with
      | some layout => .ok (text, pattern, layout)
      | none =>
        .refuse (.rejected
          s!"warning pattern {Text.quote text} must capture line, column and message") value

/-- A single text stands for a list of one. -/
def checkFilePatterns (value : Value) : Checked (List String) :=
  match value with
  | .text s => .ok [s]
  | value => Validation.checkTuple Validation.checkText value

/-- The compiled file patterns, or the fault of the first that has one. -/
def compileFiles : List String → Except (String × Pattern.Fault) (List Pattern)
  | [] => .ok []
  | text :: rest =>
    match Pattern.compile .none text.toList with
    | .error fault => .error (text, fault)
    | .ok pattern => (compileFiles rest).map (pattern :: ·)

/-- The template of a command. -/
def template? (shell : Bool) (command : String) : Except Shell.WordsError Template :=
  if shell then .ok (.shell command.toList) else (Shell.words command.toList).map .words

/-- A linter from fields that are each as they should be. -/
def assemble (input : Value) (name command : String) (warning : String × Pattern × Layout)
    (filePatterns : List String) (shell : Bool) : Checked Linter :=
  match compileFiles filePatterns with
  | .error (text, fault) => refusePattern "file pattern" text input fault
  | .ok files =>
    match template? shell command with
    | .error e =>
      .refuse (.rejected s!"cannot split command {Text.quote command}: {e.message}") input
    | .ok template =>
      .ok ⟨⟨name, command, warning.1, filePatterns, shell⟩, warning.2.1, warning.2.2, files,
        template⟩

/-- The name of a linter that has none. -/
def defaultName : String := "linter"

/-- The linter that a table describes. -/
def check (value : Value) : Checked Linter :=
  match value with
  | .table entries =>
    Checked.andThen
      ((fun name command warning files shell => assemble value name command warning files shell)
        <$> Validation.optionalField entries "name" Validation.checkText defaultName
        <*> Validation.requiredField entries "command" Validation.checkText
        <*> Validation.requiredField entries "warning_pattern" checkWarningPattern
        <*> Validation.optionalField entries "file_patterns" checkFilePatterns []
        <*> Validation.optionalField entries "shell" Validation.checkTruth false)
      id
  | _ => .refuse (.notModel model) value

def ofValue (value : Value) : Validation.Outcome Linter := (check value).outcome model

/-- Whether one of the file patterns is found in the name, if that can be told. -/
def isFor? (linter : Linter) (filename : String) : Except Pattern.Unsound Bool :=
  Pattern.anyOccurs filename.toList linter.files

/-- It can be told that one of the file patterns is found in the name. -/
def isFor (linter : Linter) (filename : String) : Bool :=
  (linter.isFor? filename).toOption.getD false

end Linter

/-! ### Commands

A linter's template with the path of a file in the place of its placeholder. -/

/-- A command that runs: a line for the shell, or a tool with its arguments. -/
inductive Command
  | shell (line : String)
  | call (words : List String)
deriving DecidableEq, Repr

namespace Command

/-- The command as it is logged. -/
def describe : Command → String
  | .shell line => Text.quote line
  | .call words => Text.quoteList words

end Command

namespace Linter

/-- The placeholder when none is chosen. -/
def defaultPlaceholder : String := "$FILENAME"

/-- The command for the file at `path`. In a line for the shell the path is quoted. -/
def commandFor (linter : Linter) (placeholder path : String) : Command :=
  match linter.template with
  | .shell line =>
    .shell (String.ofList
      (Text.replaceAll placeholder.toList (Shell.quoteWord path.toList) line))
  | .words words =>
    .call (words.map fun word =>
      String.ofList (Text.replaceAll placeholder.toList path.toList word))

end Linter

end Gutter
