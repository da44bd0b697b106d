import Gutter.Value

/-! Payloads: what settings are made from. A table is one, and so is a list of pairs. Keys are what a
value counts as when it is looked up: numbers of the same size are one key, however they are
written. -/

namespace Gutter

/-- What a value counts as when it is looked up. -/
inductive Key
  | null
  | number (n : Int)
  | fraction (x : Number.Binary64)
  | text (s : String)
deriving DecidableEq, Repr

/-- The key of a number that is written with a point: an integer if it is one. -/
def Key.ofFloat (x : Number.Binary64) : Key :=
  match x.toInt? with
  | some n => .number n
  | none => .fraction x

/-- The key of a value; lists and tables have none. -/
def Value.key? : Value → Option Key
  | .null => some .null
  | .bool b => some (.number (if b then 1 else 0))
  | .int n => some (.number n)
  | .float x => some (.ofFloat x)
  | .text s => some (.text s)
  | _ => none

namespace Key

/-- A number as a numerator and a denominator. -/
def ratio : Key → Int × Nat
  | .number n => (n, 1)
  | .fraction x => (if x.isNegative then -(x.ratio.1 : Int) else x.ratio.1, x.ratio.2)
  | _ => (0, 1)

/-- The order of keys: of numbers by size, of texts by their characters. -/
def le : Key → Key → Bool
  | .text s, .text t => s ≤ t
  | .text _, _ => false
  | _, .text _ => true
  | a, b => a.ratio.1 * b.ratio.2 ≤ b.ratio.1 * a.ratio.2

end Key

end Gutter

namespace Gutter.Settings

/-- Entries under values of any kind. -/
abbrev Payload := List (Value × Value)

namespace Payload

/-- Why a value is no payload. -/
inductive Fault
  | notIterable (kind : String)
  | notSequence (index : Nat)
  | length (index size : Nat)
  | unhashable (kind : String)
deriving DecidableEq, Repr

def Fault.message : Fault → String
  | .notIterable kind => s!"'{kind}' object is not iterable"
  | .notSequence index => s!"cannot convert dictionary update sequence element #{index} to a sequence"
  | .length index size =>
    s!"dictionary update sequence element #{index} has length {size}; 2 is required"
  | .unhashable kind => s!"unhashable type: '{kind}'"

/-- The parts of a value that has some: the items of a list, the characters of a text, the keys of a
table. -/
def parts? : Value → Option (List Value)
  | .list items => some items
  | .text s => some (s.toList.map fun c => .text (String.ofList [c]))
  | .table entries => some (entries.map fun entry => .text entry.1)
  | _ => none

/-- Sets an entry: the key keeps its place and the way it was first written. -/
def put (payload : Payload) (key value : Value) : Payload :=
  if payload.any fun entry => entry.1.key? = key.key? then
    payload.map fun entry => if entry.1.key? = key.key? then (entry.1, value) else entry
  else payload ++ [(key, value)]

/-- Sets the entries that pairs describe, counted from `index`. -/
def putPairs (payload : Payload) : Nat → List Value → Except Fault Payload
  | _, [] => .ok payload
  | index, pair :: rest =>
    match parts? pair with
    | none => .error (.notSequence index)
    | some [key, value] =>
      if key.key?.isNone then .error (.unhashable key.kind)
      else putPairs (payload.put key value) (index + 1) rest
    | some parts => .error (.length index parts.length)

/-- The payload that a value is. -/
def ofValue : Value → Except Fault Payload
  | .table entries => .ok (entries.map fun (name, value) => (.text name, value))
  | value =>
    match parts? value with
    | some pairs => putPairs [] 0 pairs
    | none => .error (.notIterable value.kind)

/-- The entries under names. -/
def named (payload : Payload) : List (String × Value) :=
  payload.filterMap fun
    | (.text name, value) => some (name, value)
    | _ => none

end Payload

end Gutter.Settings
