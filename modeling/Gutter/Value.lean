import Gutter.Calendar
import Gutter.Number.Printed
import Gutter.Text.CharClass

/-! Values without a type of their own, as configuration files and requests hold them. -/

namespace Gutter

/-- A value of any kind. The entries of a table keep the order in which they were written. -/
inductive Value
  | null
  | bool (b : Bool)
  | int (n : Int)
  | float (x : Number.Binary64)
  | text (s : String)
  | list (items : List Value)
  | table (entries : List (String × Value))
  | date (d : Date)
  | time (t : TimeOfDay)
  | moment (m : Moment)

namespace Value

/-- The entry of a table. -/
def find? (key : String) (entries : List (String × Value)) : Option Value :=
  (entries.find? fun entry => entry.1 = key).map (·.2)

/-- The name of a value's kind. -/
def kind : Value → String
  | .null => "NoneType"
  | .bool _ => "bool"
  | .int _ => "int"
  | .float _ => "float"
  | .text _ => "str"
  | .list _ => "list"
  | .table _ => "dict"
  | .date _ => "date"
  | .time _ => "time"
  | .moment _ => "datetime"

mutual

/-- The text of a value: texts are quoted, lists stand in brackets and tables in braces. -/
def render : Value → String
  | .null => "None"
  | .bool b => if b then "True" else "False"
  | .int n => toString n
  | .float x => Number.floatText x
  | .text s => Text.quote s
  | .list items => "[" ++ renderItems items ++ "]"
  | .table entries => "\x7b" ++ renderEntries entries ++ "\x7d"
  | .date d => d.term
  | .time t => t.term
  | .moment m => m.term

def renderItems : List Value → String
  | [] => ""
  | [item] => item.render
  | item :: rest => item.render ++ ", " ++ renderItems rest

def renderEntries : List (String × Value) → String
  | [] => ""
  | [(key, value)] => Text.quote key ++ ": " ++ value.render
  | (key, value) :: rest => Text.quote key ++ ": " ++ value.render ++ ", " ++ renderEntries rest

end

end Value

end Gutter
