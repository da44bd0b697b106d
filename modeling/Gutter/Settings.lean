import Gutter.Environment
import Gutter.Linter.Basic
import Gutter.Linter.Reading
import Gutter.Linter.Registry
import Gutter.Settings.Payload

/-! Settings: how wide hover boxes are, how linters run, and which linters there are. -/

namespace Gutter

open Number (Binary64)
open Validation (Checked Issue)

/-- The settings of a session. -/
structure Settings where
  boxWidth : Nat := 80
  batchSize : Nat := 20
  timeout : Option Binary64 := some (Binary64.ofNat 30)
  parallel : Bool := false
  placeholder : String := Linter.defaultPlaceholder
  presets : List String := []
  linters : List Linter := []
deriving DecidableEq, Repr

namespace Settings

def model : String := "AnnotatorConfig"

/-- The names of the fields, in the order in which they are checked. -/
def fieldNames : List String :=
  ["max_box_chars", "batch_size", "subprocess_timeout", "parallel_linters", "placeholder",
   "presets", "linters"]

def checkTimeout : Value → Checked (Option Binary64) :=
  Validation.checkOptional Validation.checkPositiveNumber

def checkPresets : Value → Checked (List String) := Validation.checkList Validation.checkText

def checkLinters : Value → Checked (List Linter) := Validation.checkList Linter.check

/-- What is wrong with an entry for being there at all. -/
def stray? : Value × Value → Option Issue
  | (.text name, value) =>
    if fieldNames.contains name then none else some ⟨[.entry name], .extra, value⟩
  | (key, value) => some ⟨[.ofKey key], .keyNotText, value⟩

/-- The issues about entries that are no fields, in their order. -/
def extras (payload : Payload) : Checked Unit :=
  match payload.filterMap stray? with
  | [] => .ok ()
  | issues => .error (.issues issues)

/-- The settings that a payload describes. Fields that are left out have their defaults. -/
def checkPayload (payload : Payload) : Checked Settings :=
  let entries := payload.named
  (fun width batch timeout parallel placeholder presets linters _ =>
      ⟨width, batch, timeout, parallel, placeholder, presets, linters⟩)
    <$> Validation.optionalField entries "max_box_chars" Validation.checkPositive 80
    <*> Validation.optionalField entries "batch_size" Validation.checkPositive 20
    <*> Validation.optionalField entries "subprocess_timeout" checkTimeout
      (some (Binary64.ofNat 30))
    <*> Validation.optionalField entries "parallel_linters" Validation.checkTruth false
    <*> Validation.optionalField entries "placeholder" Validation.checkFilledText
      Linter.defaultPlaceholder
    <*> Validation.optionalField entries "presets" checkPresets []
    <*> Validation.optionalField entries "linters" checkLinters []
    <*> extras payload

/-- The settings that a table describes. -/
def check (value : Value) : Checked Settings :=
  match value with
  | .table entries => checkPayload (entries.map fun (name, value) => (.text name, value))
  | _ => .refuse (.notModel model) value

def ofValue (value : Value) : Validation.Outcome Settings := (check value).outcome model

/-- The settings that a table describes once its references to variables are replaced. -/
def build (env : Environment) (payload : Value) : Validation.Outcome Settings :=
  ofValue (env.expand payload)

/-- The settings that a value describes, be it a table or a list of pairs. -/
def buildFrom (env : Environment) (value : Value) :
    Except Payload.Fault (Validation.Outcome Settings) :=
  (Payload.ofValue value).map fun payload =>
    (checkPayload (payload.map fun (key, value) => (key, env.expand value))).outcome model

/-- The table that describes the settings; the timeout stands in it as a text. -/
def value (settings : Settings) : Value :=
  .table [("max_box_chars", .int settings.boxWidth), ("batch_size", .int settings.batchSize),
    ("subprocess_timeout",
      settings.timeout.elim .null fun timeout => .text (Number.floatText timeout)),
    ("parallel_linters", .bool settings.parallel), ("placeholder", .text settings.placeholder),
    ("presets", .list (settings.presets.map .text)),
    ("linters", .list (settings.linters.map fun linter => linter.toDefinition.value))]

/-- A field is set to a value that passes the check of that field. -/
def setField (settings : Settings) (name : String) (value : Value) : Checked Settings :=
  match name with
  | "max_box_chars" =>
    (Validation.checkPositive value).map fun boxWidth => { settings with boxWidth }
  | "batch_size" =>
    (Validation.checkPositive value).map fun batchSize => { settings with batchSize }
  | "subprocess_timeout" => (checkTimeout value).map fun timeout => { settings with timeout }
  | "parallel_linters" =>
    (Validation.checkTruth value).map fun parallel => { settings with parallel }
  | "placeholder" =>
    (Validation.checkFilledText value).map fun placeholder => { settings with placeholder }
  | "presets" => (checkPresets value).map fun presets => { settings with presets }
  | "linters" => (checkLinters value).map fun linters => { settings with linters }
  | name =>
    if name.startsWith "_" then .ok settings else .refuse (.noAttribute name) value

/-- An assignment to a field. -/
def assign (settings : Settings) (name : String) (value : Value) : Validation.Outcome Settings :=
  ((settings.setField name value).under (.entry name)).outcome model

/-- The settings once an assignment was tried: one that is refused leaves them as they are. -/
def tried (settings : Settings) (name : String) (value : Value) : Settings :=
  match settings.assign name value with
  | .accepted after => after
  | _ => settings

/-- The linters that the settings ask for: the presets, then their own. -/
def registry (settings : Settings) : Except Presets.Unknown Registry :=
  (Presets.resolve settings.presets).map fun presets => ⟨presets ++ settings.linters⟩

/-- Why linters cannot be made ready to run: a preset is unknown, or batches hold no match. -/
inductive Unready
  | preset (e : Presets.Unknown)
  | batch (e : Linter.EmptyBatch)

/-- The linters that the settings ask for, once batches have a size. -/
def prepare (settings : Settings) : Except Unready Registry :=
  match settings.registry with
  | .error e => .error (.preset e)
  | .ok registry =>
    match Linter.batchSize? settings.batchSize with
    | .error e => .error (.batch e)
    | .ok _ => .ok registry

end Settings

end Gutter
