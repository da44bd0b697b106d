import Gutter.Number.Leading
import Gutter.Shell.Text

/-! Arithmetic of the shell, on integers of 64 bits: the tokens of an expression, and its value. -/

namespace Gutter.Shell.Arithmetic

open Number (wrap)

inductive Fault
  | expecting (what : String) (source : List Char)
  | divisionByZero (source : List Char)
  | badNumber (text : List Char)
deriving DecidableEq, Repr

def Fault.message : Fault → List Char
  | .expecting what source =>
    "arithmetic expression: expecting ".toList ++ what.toList ++ ": \"".toList ++ source ++ ['"']
  | .divisionByZero source =>
    "arithmetic expression: division by zero: \"".toList ++ source ++ ['"']
  | .badNumber text => "Illegal number: ".toList ++ text

/-- The operators between two operands. -/
inductive Operation
  | or | xor | and | equal | unequal | atMost | atLeast | less | greater | left | right
  | plus | minus | times | divide | remainder
deriving DecidableEq, Repr

/-- How tight an operator is: the least number is the tightest. -/
def Operation.level : Operation → Nat
  | .times => 0
  | .divide => 0
  | .remainder => 0
  | .plus => 1
  | .minus => 1
  | .left => 2
  | .right => 2
  | .less => 3
  | .atMost => 3
  | .greater => 3
  | .atLeast => 3
  | .equal => 4
  | .unequal => 4
  | .and => 5
  | .xor => 6
  | .or => 7

/-- More than the level of any operator. -/
def lastLevel : Nat := 8

inductive Token
  | number (n : Int)
  | name (text : List Char)
  | operation (op : Operation)
  | assign (op : Option Operation)
  | symbol (text : String)
  | bad
deriving DecidableEq, Repr

/-- The tokens of more than one character, the longer ones first. -/
def longTokens : List (String × Token) :=
  [("<<=", .assign (some .left)), (">>=", .assign (some .right)), ("<<", .operation .left),
   (">>", .operation .right), ("<=", .operation .atMost), (">=", .operation .atLeast),
   ("==", .operation .equal), ("!=", .operation .unequal), ("&&", .symbol "&&"),
   ("||", .symbol "||"), ("|=", .assign (some .or)), ("&=", .assign (some .and)),
   ("^=", .assign (some .xor)), ("+=", .assign (some .plus)), ("-=", .assign (some .minus)),
   ("*=", .assign (some .times)), ("/=", .assign (some .divide)),
   ("%=", .assign (some .remainder))]

def shortToken : Char → Token
  | '=' => .assign none
  | '<' => .operation .less
  | '>' => .operation .greater
  | '|' => .operation .or
  | '&' => .operation .and
  | '^' => .operation .xor
  | '+' => .operation .plus
  | '-' => .operation .minus
  | '*' => .operation .times
  | '/' => .operation .divide
  | '%' => .operation .remainder
  | c => if ['(', ')', '?', ':', '!', '~'].contains c then .symbol c.toString else .bad

/-- The tokens of an expression; nothing is read after a character that belongs to none. -/
def tokens : Nat → List Char → List Token
  | 0, _ => []
  | _, [] => []
  | limit + 1, c :: rest =>
    if c = ' ' || c = '\t' || c = '\n' then tokens limit rest
    else if c.isDigit then
      match Number.leadingInteger? none (c :: rest) with
      | some (n, after) => .number (Number.clamp n) :: tokens limit after
      | none => [.bad]
    else if isNameStart c then
      let name := (c :: rest).takeWhile isNameChar
      .name name :: tokens limit ((c :: rest).drop name.length)
    else
      match longTokens.find? fun t => t.1.toList.isPrefixOf (c :: rest) with
      | some (text, token) => token :: tokens limit ((c :: rest).drop text.length)
      | none =>
        if shortToken c = .bad then [.bad] else shortToken c :: tokens limit rest

/-- The variables, and what is left of an expression. -/
structure State where
  rest : List Token
  vars : List Char → List Char
  assigned : List (List Char × List Char)

abbrev Eval := ReaderT (List Char) (StateT State (Except Fault))

def peek : Eval (Option Token) := do return (← get).rest.head?

def advance : Eval Unit := modify fun s => { s with rest := s.rest.drop 1 }

def expecting {α : Type} (what : String) : Eval α := do throw (.expecting what (← read))

/-- The number that a variable holds; blanks at its end do not count. -/
def numberOf (text : List Char) : Except Fault Int :=
  match Number.leadingInteger? none text with
  | none => if text.all Text.isAsciiBlank then .ok 0 else .error (.badNumber text)
  | some (n, rest) =>
    if Number.clamp n = n && rest.all Text.isAsciiBlank then .ok n else .error (.badNumber text)

def lookUp (name : List Char) : Eval Int := do
  let s ← get
  match numberOf ((s.assigned.lookup name).getD (s.vars name)) with
  | .ok n => return n
  | .error fault => throw fault

def assign (name : List Char) (n : Int) : Eval Int := do
  modify fun s => { s with assigned := (name, (toString n).toList) :: s.assigned }
  return n

def truth (b : Bool) : Int := if b then 1 else 0

def bitwise (f : Nat → Nat → Nat) (a b : Int) : Int :=
  wrap (f (Number.bitsOf a) (Number.bitsOf b))

/-- What an operator makes of two integers. -/
def apply (op : Operation) (a b : Int) : Eval Int := do
  match op with
  | .or => return bitwise (· ||| ·) a b
  | .xor => return bitwise (· ^^^ ·) a b
  | .and => return bitwise (· &&& ·) a b
  | .equal => return truth (a = b)
  | .unequal => return truth (a ≠ b)
  | .atMost => return truth (a ≤ b)
  | .atLeast => return truth (b ≤ a)
  | .less => return truth (a < b)
  | .greater => return truth (b < a)
  | .left => return wrap (a * Nat.pow 2 (b % 64).toNat)
  | .right => return a / Nat.pow 2 (b % 64).toNat
  | .plus => return wrap (a + b)
  | .minus => return wrap (a - b)
  | .times => return wrap (a * b)
  | .divide => if b = 0 then throw (.divisionByZero (← read)) else return wrap (Int.tdiv a b)
  | .remainder => if b = 0 then throw (.divisionByZero (← read)) else return wrap (Int.tmod a b)

/-- A number, a variable, or what stands in parentheses, after signs; `whole` reads an expression.
Where `idle`, nothing is looked up or computed. -/
def primary (whole : Bool → Eval Int) (idle : Bool) : Nat → Eval Int
  | 0 => expecting "primary"
  | limit + 1 => do
    let token ← peek
    advance
    match token with
    | some (.number n) => return n
    | some (.name name) => if idle then return 0 else lookUp name
    | some (.symbol "(") =>
      let n ← whole idle
      if (← peek) = some (.symbol ")") then
        advance
        return n
      else expecting "')'"
    | some (.operation .plus) => primary whole idle limit
    | some (.operation .minus) => return wrap (-(← primary whole idle limit))
    | some (.symbol "!") => return truth ((← primary whole idle limit) = 0)
    | some (.symbol "~") => return -(← primary whole idle limit) - 1
    | _ => expecting "primary"

/-- Goes on after an operand: tighter operators take the next operand first. -/
def joinFrom (operand : Eval Int) (idle : Bool) : Nat → Nat → Int → Eval Int
  | 0, _, a => pure a
  | limit + 1, level, a => do
    match ← peek with
    | some (.operation op) =>
      if level ≤ op.level then return a
      advance
      let b ← operand
      let b ← joinFrom operand idle limit op.level b
      let joined ← if idle then pure b else apply op a b
      joinFrom operand idle limit level joined
    | _ => return a

def joined (whole : Bool → Eval Int) (idle : Bool) : Eval Int := do
  let limit := (← get).rest.length + 1
  let operand := primary whole idle limit
  joinFrom operand idle limit lastLevel (← operand)

def both (whole : Bool → Eval Int) (idle : Bool) : Nat → Eval Int
  | 0 => expecting "primary"
  | limit + 1 => do
    let a ← joined whole idle
    if (← peek) ≠ some (.symbol "&&") then return a
    advance
    let b ← both whole (idle || a = 0) limit
    return truth (a ≠ 0 && b ≠ 0)

def either (whole : Bool → Eval Int) (idle : Bool) : Nat → Eval Int
  | 0 => expecting "primary"
  | limit + 1 => do
    let a ← both whole idle ((← get).rest.length + 1)
    if (← peek) ≠ some (.symbol "||") then return a
    advance
    let b ← either whole (idle || a ≠ 0) limit
    return truth (a ≠ 0 || b ≠ 0)

def conditional (whole : Bool → Eval Int) (idle : Bool) : Nat → Eval Int
  | 0 => expecting "primary"
  | limit + 1 => do
    let a ← either whole idle ((← get).rest.length + 1)
    if (← peek) ≠ some (.symbol "?") then return a
    advance
    let yes ← whole (idle || a = 0)
    if (← peek) ≠ some (.symbol ":") then expecting "':'"
    advance
    let no ← conditional whole (idle || a ≠ 0) limit
    return if a ≠ 0 then yes else no

/-- An assignment, or an expression without one. -/
def expression : Nat → Bool → Eval Int
  | 0, _ => expecting "primary"
  | depth + 1, idle => do
    let whole := expression depth
    match (← get).rest with
    | .name name :: .assign op :: rest =>
      modify fun s => { s with rest }
      let n ← whole idle
      if idle then return n
      match op with
      | none => assign name n
      | some op => do assign name (← apply op (← lookUp name) n)
    | rest => conditional whole idle (rest.length + 1)

/-- The value of an expression, and the variables it changed, the last first. -/
def evaluate (vars : List Char → List Char) (source : List Char) :
    Except Fault (Int × List (List Char × List Char)) :=
  let tokens := tokens (source.length + 1) source
  let whole : Eval Int := do
    let n ← expression (tokens.length + 1) false
    if (← get).rest.isEmpty then return n else expecting "EOF"
  (whole source ⟨tokens, vars, []⟩).map fun (n, s) => (n, s.assigned)

end Gutter.Shell.Arithmetic
