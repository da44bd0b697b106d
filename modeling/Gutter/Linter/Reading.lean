import Gutter.Linter.Basic
import Gutter.Log
import Gutter.Text.Numeral
import Gutter.WarningSet

/-! Reading what a linter printed: each match of its pattern is a warning, or is skipped if its line
or column is no number. A parse adds the warnings to a set, in batches of matches between which
other work may go on. -/

namespace Gutter

/-- What a match comes to: a warning, or the text of a match that is skipped. -/
inductive Reading
  | found (warning : Warning)
  | skipped (text : List Char)
deriving DecidableEq, Repr

/-- Why a match cannot be read. -/
inductive Reading.Fault
  | numeral (e : Text.NumeralTooLong)
  | unsound
deriving DecidableEq, Repr

def Reading.Fault.message : Reading.Fault → String
  | .numeral e => e.message
  | .unsound => Pattern.unsoundMessage

def Reading.warning? : Reading → Option Warning
  | .found warning => some warning
  | .skipped _ => none

namespace Linter

open Text (NumeralTooLong)

/-- The text of a group that took part in a match. -/
def groupText? (raw : List Char) (found : Pattern.Match) (index : Nat) : Option (List Char) :=
  (found.group? index).map fun span => Pattern.slice raw span.1 span.2

/-- The texts that a match captured. -/
structure Captures where
  line : Option (List Char)
  col : Option (List Char)
  message : Option (List Char)
deriving DecidableEq, Repr

def captures (linter : Linter) (raw : List Char) (found : Pattern.Match) : Captures where
  line := groupText? raw found linter.layout.line
  col := linter.layout.col.bind (groupText? raw found)
  message := groupText? raw found linter.layout.message

/-- The number that a captured text writes. -/
def position? : Option (List Char) → Except NumeralTooLong (Option Nat)
  | none => .ok none
  | some text => Text.plainNumber? text

/-- The column that a captured text writes; zero if there is no such text. -/
def column? : Option (List Char) → Except NumeralTooLong (Option Nat)
  | none => .ok (some 0)
  | some text => Text.plainNumber? text

/-- A message without the carriage returns that end it. -/
def messageText (message : Option (List Char)) : String :=
  String.ofList (Text.trimEndWhere (· = '\r') (message.getD []))

/-- What a sound match comes to. -/
def soundReading (linter : Linter) (raw : List Char) (found : Pattern.Match) :
    Except NumeralTooLong Reading := do
  let parts := linter.captures raw found
  match ← position? parts.line, ← column? parts.col with
  | some line, some col =>
    return .found ⟨line, col, messageText parts.message, some linter.name⟩
  | _, _ => return .skipped (Pattern.slice raw found.start found.stop)

/-- What a match comes to. -/
def reading (linter : Linter) (raw : List Char) (found : Pattern.Match) :
    Except Reading.Fault Reading :=
  if found.isSound then (linter.soundReading raw found).mapError .numeral else .error .unsound

/-- What the matches come to, one after another, up to the first that cannot be read. -/
def readings (linter : Linter) (raw : List Char) :
    List Pattern.Match → List Reading × Option Reading.Fault
  | [] => ([], none)
  | found :: rest =>
    match linter.reading raw found with
    | .error e => ([], some e)
    | .ok reading =>
      let (later, failure) := readings linter raw rest
      (reading :: later, failure)

/-- The warnings in what a linter printed. -/
def warnings (linter : Linter) (raw : List Char) : Except Reading.Fault (List Warning) :=
  let (readings, failure) := linter.readings raw (linter.pattern.findAll raw)
  match failure with
  | some e => .error e
  | none => .ok (readings.filterMap Reading.warning?)

/-- What is logged about a match that is skipped. -/
def skippedLine (linter : Linter) (text : List Char) : String :=
  s!"skipped linter={linter.name} match={String.ofList (Text.quoteChars text)}"

end Linter

/-! ### Parsing -/

/-- What was read: the set with the warnings added to it, how many those are, and what is logged. -/
structure Parsed where
  set : WarningSet
  added : Nat
  log : List LogLine
  failure : Option Reading.Fault
deriving DecidableEq, Repr

namespace Reading

/-- What is logged about a reading. -/
def logLine? (linter : Linter) : Reading → Option LogLine
  | .found _ => none
  | .skipped text => some (.debug (linter.skippedLine text))

end Reading

namespace Linter

/-- Adds what matches come to. One that cannot be read ends it, and what was added
before stays. -/
def parseMatches (linter : Linter) (raw : List Char) (hits : List Pattern.Match)
    (set : WarningSet) : Parsed :=
  let (readings, failure) := linter.readings raw hits
  let found := readings.filterMap Reading.warning?
  ⟨set.addAll found, found.length, readings.filterMap (Reading.logLine? linter), failure⟩

/-- Adds all warnings in what a linter printed. -/
def parse (linter : Linter) (raw : List Char) (set : WarningSet) : Parsed :=
  linter.parseMatches raw (linter.pattern.findAll raw) set

/-- A batch has to hold a match at least. -/
structure EmptyBatch where
  size : Int
deriving DecidableEq, Repr

def EmptyBatch.message (_ : EmptyBatch) : String := "batch_size must be a positive integer"

/-- A number as the size of batches. -/
def batchSize? (size : Int) : Except EmptyBatch Nat :=
  if size < 1 then .error ⟨size⟩ else .ok size.toNat

/-- How many pauses a parse has that pauses after each batch of matches that were read. -/
def pauses (linter : Linter) (raw : List Char) (batchSize : Nat) : Nat :=
  (linter.readings raw (linter.pattern.findAll raw)).1.length / batchSize

end Linter

end Gutter
