import Gutter.Text.Split
import Gutter.Value

/-! Environments: variables with texts, and values in whose texts references such as `${NAME}` are
replaced. -/

namespace Gutter

/-- Variables and their texts; the first entry of a name counts. -/
structure Environment where
  vars : List (String × String)
deriving DecidableEq, Repr

namespace Environment

def empty : Environment := ⟨[]⟩

def find? (env : Environment) (name : String) : Option String := env.vars.lookup name

/-- The environment with `other` in front of it. -/
def override (env other : Environment) : Environment := ⟨other.vars ++ env.vars⟩

/-- After the opening brace of a reference: the name in it and the text after the closing brace. A
name has at least one character. -/
def reference? (text : List Char) : Option (List Char × List Char) :=
  let name := text.takeWhile (· ≠ '\x7d')
  match text.dropWhile (· ≠ '\x7d') with
  | [] => none
  | _ :: rest => if name.isEmpty then none else some (name, rest)

/-- What stands for a reference: the text of its variable, or the reference itself if there
is none. -/
def replacement (env : Environment) (name : List Char) : List Char :=
  match env.find? (String.ofList name) with
  | some text => text.toList
  | none => '$' :: '\x7b' :: name ++ ['\x7d']

/-- A text with its references replaced, from the left; what replaces them is not looked at again.
The length of the text bounds the number of steps. -/
def expandWithin (env : Environment) : Nat → List Char → List Char
  | 0, text => text
  | _ + 1, [] => []
  | steps + 1, c :: rest =>
    match c, rest with
    | '$', '\x7b' :: inner =>
      match reference? inner with
      | some (name, after) => env.replacement name ++ expandWithin env steps after
      | none => c :: expandWithin env steps rest
    | _, _ => c :: expandWithin env steps rest

def expandText (env : Environment) (text : List Char) : List Char :=
  expandWithin env text.length text

mutual

/-- A value with the references in its texts replaced. Keys of tables stay as they are. -/
def expand (env : Environment) : Value → Value
  | .text s => .text (String.ofList (env.expandText s.toList))
  | .list items => .list (expandItems env items)
  | .table entries => .table (expandEntries env entries)
  | value => value

def expandItems (env : Environment) : List Value → List Value
  | [] => []
  | item :: rest => env.expand item :: expandItems env rest

def expandEntries (env : Environment) : List (String × Value) → List (String × Value)
  | [] => []
  | (key, value) :: rest => (key, env.expand value) :: expandEntries env rest

end

end Environment

end Gutter
