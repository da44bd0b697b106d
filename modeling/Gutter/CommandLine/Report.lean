import Gutter.Console.Logger
import Gutter.Document
import Gutter.Log
import Gutter.Text.Wrap
import Gutter.WarningSet

/-! Reports of warnings: a header for every warning with the lines of its message, and a total. -/

namespace Gutter.CommandLine

open Console (Logger)

/-- What was found for a file: whether a linter is for it, if that can be told, and its
warnings. -/
structure Finding where
  filename : String
  applies : Option Bool
  warnings : WarningSet
deriving Repr

/-- The character with which control sequences start. -/
def escapeChar : Char := Char.ofNat 27

/-- The letter that ends a control sequence may follow digits, semicolons and question marks. -/
def isParameter (c : Char) : Bool := c.isDigit || c = ';' || c = '?'

/-- What follows a control sequence, if one stands here. -/
def afterSequence? (text : List Char) : Option (List Char) :=
  match text with
  | '[' :: rest =>
    match rest.dropWhile isParameter with
    | c :: rest => if c.isAlpha then some rest else none
    | [] => none
  | _ => none

/-- A text without control sequences; each step takes at least one character. -/
def withoutSequences : Nat → List Char → List Char
  | 0, text => text
  | _, [] => []
  | limit + 1, c :: rest =>
    if c = escapeChar then
      match afterSequence? rest with
      | some rest => withoutSequences limit rest
      | none => c :: withoutSequences limit rest
    else c :: withoutSequences limit rest

/-- A line as it is written to a file. -/
def writtenLine (line : String) : String :=
  let text := line.toList
  String.ofList (withoutSequences text.length text ++ ['\n'])

def writtenLines (lines : List String) : String := String.join (lines.map writtenLine)

/-- The header of a warning; a warning of no linter, or of one without a name, has no brackets. -/
def headerOf (filename : String) (warning : Warning) : String :=
  let source := match warning.linter with
    | none => ""
    | some name => if name.isEmpty then "" else s!" [{name}]"
  s!"{filename}:{warning.line}:{warning.col}:{source}"

def indent : String := "    "

/-- The lines for one warning: its header, and its message. -/
def warningLines (width : Nat) (filename : String) (warning : Warning) : List String :=
  headerOf filename warning :: (Text.wrap warning.message width).map (indent ++ ·)

/-- The lines for a file: its warnings in ascending order of their lines. -/
def Finding.lines (width : Nat) (finding : Finding) : List String :=
  if finding.applies = some true then
    finding.warnings.toList.flatMap (warningLines width finding.filename)
  else []

def Finding.count (finding : Finding) : Nat :=
  if finding.applies = some true then finding.warnings.count else 0

/-- What is written for a file. -/
def Finding.report (logger : Logger) (width : Nat) (finding : Finding) : String :=
  if finding.applies = some true then writtenLines (finding.lines width)
  else logger.status .warn s!"No linters apply to {finding.filename}"

def total (findings : List Finding) : Nat := findings.foldr (fun finding n => finding.count + n) 0

/-- What the program comes to: its status, and all that it has written. -/
structure Result where
  status : Nat
  output : String
deriving DecidableEq, Repr

/-- What is written about the files together, and the status: one if there is any warning. -/
def summary (logger : Logger) (findings : List Finding) : Result :=
  let files := findings.length
  match total findings with
  | 0 => ⟨0, logger.status .ok s!"No warnings in {files} file(s)"⟩
  | count => ⟨1, logger.status .fail s!"{count} warning(s) across {files} file(s)"⟩

/-- The report of a check. It breaks off at a file of which it cannot be told whether a linter is for
it. -/
def report (logger : Logger) (width : Nat) (findings : List Finding) : Result :=
  let told := findings.takeWhile (·.applies.isSome)
  let texts := String.join (told.map (Finding.report logger width))
  if told.length = findings.length then
    let last := summary logger findings
    { last with output := texts ++ last.output }
  else ⟨1, texts⟩

/-- What is written for a line of the log. -/
def logText (logger : Logger) (line : LogLine) : String :=
  match line.level with
  | .debug => logger.debugText line.text
  | .warn => logger.status .warn line.text

def logTexts (logger : Logger) (lines : List LogLine) : String :=
  String.join (lines.map (logText logger))

end Gutter.CommandLine
