import Gutter.Validation.Checked
import Gutter.Validation.NumberText

/-! Checks of single values: texts, integers, numbers, truth values and lists, each from any value
that can stand for one; and the fields of a table. -/

namespace Gutter.Validation

open Number (Binary64)

def checkText : Value → Checked String
  | .text s => .ok s
  | value => .refuse .notText value

def checkFilledText (value : Value) : Checked String :=
  (checkText value).andThen fun s => if s.isEmpty then .refuse (.textTooShort 1) value else .ok s

/-- Floating-point numbers between these bounds, both excluded, can stand for integers. -/
def wideBound : Int := 0x8000000000000000

/-- A whole number may stand for an integer. -/
def integerOfFloat (x : Binary64) : Except Cause Int :=
  if !x.isFinite then .error .notFinite
  else
    match x.toInt? with
    | none => .error .fraction
    | some n => if -wideBound < n ∧ n < wideBound then .ok n else .error .integerSize

def checkInteger (value : Value) : Checked Int :=
  match value with
  | .int n => .ok n
  | .bool b => .ok (if b then 1 else 0)
  | .float x =>
    match integerOfFloat x with
    | .ok n => .ok n
    | .error cause => .refuse cause value
  | .text s =>
    match integerText s.toList with
    | .value n => .ok n
    | .tooLong => .refuse .integerSize value
    | .none => .refuse .integerText value
  | _ => .refuse .notInteger value

/-- An integer greater than zero, as a natural number. -/
def checkPositive (value : Value) : Checked Nat :=
  (checkInteger value).andThen fun n =>
    if 0 < n then .ok n.toNat else .refuse (.notGreater 0) value

/-- An integer that is not negative, as a natural number. -/
def checkNatural (value : Value) : Checked Nat :=
  (checkInteger value).andThen fun n =>
    if 0 ≤ n then .ok n.toNat else .refuse (.notAtLeast 0) value

/-- The number nearest to an integer, unless that is infinite. -/
def floatOfInt? (n : Int) : Option Binary64 :=
  let x := Binary64.ofDecimal (n < 0) n.natAbs 0
  if x.isFinite then some x else none

def checkNumber (value : Value) : Checked Binary64 :=
  match value with
  | .float x => .ok x
  | .bool b => .ok (Binary64.ofNat (if b then 1 else 0))
  | .int n =>
    match floatOfInt? n with
    | some x => .ok x
    | none => .refuse .notNumber value
  | .text s =>
    match numberText? s.toList with
    | some x => .ok x
    | none => .refuse .numberText value
  | _ => .refuse .notNumber value

/-- A number greater than zero. -/
def checkPositiveNumber (value : Value) : Checked Binary64 :=
  (checkNumber value).andThen fun x =>
    if x.isPositive then .ok x else .refuse (.notGreater 0) value

/-- The words for a truth value, in any case. -/
def truthOfText? (text : String) : Option Bool :=
  let word := String.ofList (text.toList.map fun c => Char.ofNat (Text.lowerAsciiCode c.toNat))
  if ["0", "off", "f", "false", "n", "no"].contains word then some false
  else if ["1", "on", "t", "true", "y", "yes"].contains word then some true
  else none

def truthOfInt? (n : Int) : Option Bool :=
  if n = 0 then some false else if n = 1 then some true else none

def checkTruth (value : Value) : Checked Bool :=
  let ofOption : Option Bool → Checked Bool
    | some b => .ok b
    | none => .refuse .truthText value
  match value with
  | .bool b => .ok b
  | .text s => ofOption (truthOfText? s)
  | .int n =>
    if -wideBound ≤ n ∧ n < wideBound then ofOption (truthOfInt? n) else .refuse .notTruth value
  | .float x =>
    match integerOfFloat x with
    | .ok n => ofOption (truthOfInt? n)
    | .error _ => .refuse .notTruth value
  | _ => .refuse .notTruth value

/-- A list whose items all pass. -/
def checkList {α : Type} (check : Value → Checked α) (value : Value) : Checked (List α) :=
  match value with
  | .list items => Checked.each check 0 items
  | _ => .refuse .notList value

/-- A list of fixed content whose items all pass. -/
def checkTuple {α : Type} (check : Value → Checked α) (value : Value) : Checked (List α) :=
  match value with
  | .list items => Checked.each check 0 items
  | _ => .refuse .notTuple value

/-- Null, or a value that passes. -/
def checkOptional {α : Type} (check : Value → Checked α) (value : Value) : Checked (Option α) :=
  match value with
  | .null => .ok none
  | _ => (check value).map some

/-- The field `name` of a table, which may be left out. -/
def optionalField {α : Type} (entries : List (String × Value)) (name : String)
    (check : Value → Checked α) (otherwise : α) : Checked α :=
  match Value.find? name entries with
  | some value => (check value).under (.entry name)
  | none => .ok otherwise

/-- The field `name` of a table, which must be there. -/
def requiredField {α : Type} (entries : List (String × Value)) (name : String)
    (check : Value → Checked α) : Checked α :=
  match Value.find? name entries with
  | some value => (check value).under (.entry name)
  | none => (Checked.refuse .missing (.table entries)).under (.entry name)

/-- The result of a check of a whole `model`, or all that is wrong with it. -/
inductive Outcome (α : Type)
  | accepted (a : α)
  | invalid (e : Invalid)
  | countTooLarge

def Checked.outcome {α : Type} (model : String) : Checked α → Outcome α
  | .ok a => .accepted a
  | .error (.issues issues) => .invalid ⟨model, issues⟩
  | .error .countTooLarge => .countTooLarge

end Gutter.Validation
