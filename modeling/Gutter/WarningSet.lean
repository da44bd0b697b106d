import Gutter.Validation.Field

/-! Warnings: what a linter says about a place in a file; and warnings grouped by line. -/

namespace Gutter

/-- A message about a line and column, and the name of the linter that gave it. -/
structure Warning where
  line : Nat
  col : Nat
  message : String
  linter : Option String
deriving DecidableEq, Repr

namespace Warning

def model : String := "LintWarning"

/-- The warning that a table describes. -/
def check (value : Value) : Validation.Checked Warning :=
  match value with
  | .table entries =>
    Warning.mk <$> Validation.requiredField entries "line" Validation.checkNatural
      <*> Validation.optionalField entries "col" Validation.checkNatural 0
      <*> Validation.requiredField entries "message" Validation.checkText
      <*> Validation.optionalField entries "linter" (Validation.checkOptional Validation.checkText)
        none
  | _ => .refuse (.notModel model) value

def ofValue (value : Value) : Validation.Outcome Warning := (check value).outcome model

end Warning

/-- Warnings by line number. The lines keep the order in which they were first met, and the warnings
of a line the order in which they came. -/
structure WarningSet where
  lines : List (Int × List Warning)
deriving DecidableEq, Repr

namespace WarningSet

def empty : WarningSet := ⟨[]⟩

/-- Appends a warning to those of `line`. -/
def insertAt (line : Int) (warning : Warning) :
    List (Int × List Warning) → List (Int × List Warning)
  | [] => [(line, [warning])]
  | (key, warnings) :: rest =>
    if key = line then (key, warnings ++ [warning]) :: rest
    else (key, warnings) :: insertAt line warning rest

/-- Appends a warning to those of its line. -/
def add (set : WarningSet) (warning : Warning) : WarningSet :=
  ⟨insertAt warning.line warning set.lines⟩

def addAll (set : WarningSet) (warnings : List Warning) : WarningSet := warnings.foldl add set

/-- The set of warnings that come one after another. -/
def ofList (warnings : List Warning) : WarningSet := empty.addAll warnings

/-- The warnings of a line, if it has an entry. -/
def find? (set : WarningSet) (line : Int) : Option (List Warning) :=
  (set.lines.find? fun entry => entry.1 = line).map (·.2)

/-- The warnings of a line. -/
def forLine (set : WarningSet) (line : Int) : List Warning := (set.find? line).getD []

/-- How many lines have an entry. -/
def size (set : WarningSet) : Nat := set.lines.length

def contains (set : WarningSet) (line : Int) : Bool := (set.find? line).isSome

/-- How many warnings there are. -/
def count (set : WarningSet) : Nat := set.lines.foldr (fun entry n => entry.2.length + n) 0

/-- The line numbers in ascending order. -/
def sortedLines (set : WarningSet) : List Int := (set.lines.map (·.1)).mergeSort fun a b => a ≤ b

/-- The warnings in ascending order of their lines. -/
def toList (set : WarningSet) : List Warning := set.sortedLines.flatMap set.forLine

/-- The same lines have the same warnings. -/
def same (a b : WarningSet) : Bool :=
  a.size = b.size && a.lines.all fun entry => b.find? entry.1 = some entry.2

def describe (set : WarningSet) : String :=
  let lines := ", ".intercalate (set.sortedLines.map toString)
  s!"WarningSet(lines=[{lines}], count={set.count})"

/-- A set from lines and their warnings; of two entries for a line, the later replaces
the earlier. -/
def ofEntries (entries : List (Int × List Warning)) : WarningSet :=
  ⟨entries.foldl (fun lines (line, warnings) =>
    if lines.any fun entry => entry.1 = line then
      lines.map fun entry => if entry.1 = line then (line, warnings) else entry
    else lines ++ [(line, warnings)]) []⟩

end WarningSet

end Gutter
