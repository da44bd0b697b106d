import Gutter.Regular.Node
import Gutter.Tools.Awk.Value

/-! Programs that work on lines: expressions, statements, rules and functions. -/

namespace Gutter.Tools.Awk

/-- A variable of the program, or one of the places of a function. -/
inductive Variable
  | named (name : List Char)
  | inner (place : Nat)
deriving DecidableEq, Repr

/-- What is done with two numbers. -/
inductive Arithmetic
  | add
  | sub
  | mul
  | div
  | rem
  | pow
deriving DecidableEq, Repr

/-- Which order of two values makes a comparison true. -/
inductive Comparison
  | less
  | lessOrEqual
  | equal
  | different
  | greater
  | greaterOrEqual
deriving DecidableEq, Repr

def Comparison.holds (c : Comparison) (o : Ordering) : Bool :=
  match c with
  | .less => o = .lt
  | .lessOrEqual => o ≠ .gt
  | .equal => o = .eq
  | .different => o ≠ .eq
  | .greater => o = .gt
  | .greaterOrEqual => o ≠ .lt

/-- Functions that are there without being written. -/
inductive Builtin
  | length
  | substr
  | index
  | sprintf
  | sin
  | cos
  | atan2
  | exp
  | log
  | sqrt
  | int
  | rand
  | srand
  | close
  | system
  | toupper
  | tolower
  | fflush
  | systime
  | strftime
  | mktime
deriving DecidableEq, Repr

/-- Where the lines of a command or a file come from. -/
inductive Origin
  | main
  | file
  | command
deriving DecidableEq, Repr

inductive Expr
  | constant (v : Value)
  | pattern (node : Regular.Node)
  | variable (v : Variable)
  | element (v : Variable) (index : List Expr)
  | field (number : Expr)
  | grouped (e : Expr)
  | assign (target value : Expr)
  | change (op : Arithmetic) (target value : Expr)
  | step (up before : Bool) (target : Expr)
  | choose (condition yes no : Expr)
  | both (a b : Expr)
  | one (a b : Expr)
  | not (a : Expr)
  | negative (a : Expr)
  | positive (a : Expr)
  | arithmetic (op : Arithmetic) (a b : Expr)
  | comparison (c : Comparison) (a b : Expr)
  | joined (a b : Expr)
  | found (inverted : Bool) (text pattern : Expr)
  | member (index : List Expr) (v : Variable)
  | call (name : List Char) (arguments : List Expr)
  | builtin (b : Builtin) (arguments : List Expr)
  | split (text : Expr) (v : Variable) (separator : Option Expr)
  | place (text pattern : Expr)
  | substitute (everywhere : Bool) (pattern replacement target : Expr)
  | line (origin : Origin) (source : Option Expr) (target : Option Expr)
deriving Repr

/-- Something can be assigned to it. Of what is in parentheses only fields are targets. -/
def Expr.isTarget : Expr → Bool
  | .variable _ => true
  | .element _ _ => true
  | .field _ => true
  | .grouped (.field _) => true
  | _ => false

/-- Without the parentheses around it. -/
def Expr.bare : Expr → Expr
  | .grouped e => e.bare
  | e => e

inductive Redirection
  | file
  | append
  | pipe
deriving DecidableEq, Repr

inductive Stmt
  | nothing
  | expr (e : Expr)
  | print (formatted : Bool) (arguments : List Expr) (output : Option (Redirection × Expr))
  | block (body : List Stmt)
  | choose (condition : Expr) (yes : Stmt) (no : Option Stmt)
  | while_ (condition : Expr) (body : Stmt)
  | until_ (body : Stmt) (condition : Expr)
  | for_ (start condition step : Option Expr) (body : Stmt)
  | each (target : Variable) (table : Variable) (body : Stmt)
  | break_
  | continue_
  | next
  | nextFile
  | exit (status : Option Expr)
  | return_ (value : Option Expr)
  | delete (v : Variable) (index : Option (List Expr))
deriving Repr

/-- When an action runs. -/
inductive Selector
  | always
  | when (condition : Expr)
  | range (first last : Expr)
deriving Repr

structure Rule where
  selector : Selector
  action : Stmt
deriving Repr

structure Function where
  name : List Char
  places : Nat
  body : Stmt
deriving Repr

structure Program where
  first : List Stmt := []
  rules : List Rule := []
  last : List Stmt := []
  functions : List Function := []
  tables : List (List Char × Nat) := []
deriving Repr

end Gutter.Tools.Awk
