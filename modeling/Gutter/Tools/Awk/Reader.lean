import Gutter.Tools.Awk.Token

/-! The reader of programs. It complains about everything that is wrong, and goes on behind the
statement in which something was. -/

namespace Gutter.Tools.Awk


/-- What a name stands for. -/
inductive NameKind
  | variable
  | table
  | function
deriving DecidableEq, Repr

def NameKind.text : NameKind → String
  | .variable => "variable"
  | .table => "array"
  | .function => "function"

/-- To what a statement belongs. -/
inductive Within
  | outside
  | start
  | rule
  | function (name : List Char)
deriving DecidableEq, Repr

/-- A call of a function, and where it stands. -/
structure Call where
  caller : Within
  callee : List Char
  arguments : List Expr
  line : Nat

/-- Something that is wrong: it is told after the number of its line, or alone. -/
structure Complaint where
  line : Nat
  text : List Char
  isStray : Bool := false
deriving DecidableEq, Repr

/-- Where a program is being read, and what is known of it. `inner` are the places of the function
that is being read, and `direct` those which are used as tables. Parentheses that were `passed` over no
longer count. -/
structure Reading where
  rest : List Lexeme
  complaints : List Complaint := []
  kinds : List (List Char × NameKind) := []
  inner : List (List Char) := []
  within : Within := .outside
  loops : Nat := 0
  passed : Nat := 0
  calls : List Call := []
  direct : List (List Char × Nat) := []
  defined : List Function := []

/-- Why reading stops: a statement makes no sense, or nothing more is read. -/
inductive Cut
  | statement
  | all
deriving DecidableEq, Repr

abbrev Read := ExceptT Cut (StateM Reading)

def finishLexeme : Lexeme := ⟨.finish, "end of file".toList, 0, 0, 0⟩

/-- How many complaints are made at most. -/
def complaintLimit : Nat := 5

def complainAt (line : Nat) (text : List Char) : Read Unit := do
  modify fun r => { r with complaints := ⟨line, text, false⟩ :: r.complaints }
  if complaintLimit ≤ (← get).complaints.length then throw .all

/-- The token that is next. -/
def current : Read Lexeme := do go (← get).rest.length
where
  go : Nat → Read Lexeme
    | 0 => pure finishLexeme
    | limit + 1 => do
      match (← get).rest with
      | [] => return finishLexeme
      | l :: rest =>
        match l.token with
        | .noise text =>
          modify fun r => { r with rest }
          complainAt l.line text
          go limit
        | .broken text =>
          complainAt l.line text
          throw .all
        | .stray c =>
          let shown := if '!' ≤ c && c ≤ '~' then ['\'', c, '\'']
            else "0x".toList ++ Text.hexPadded 2 c.toNat
          let text := "unexpected character ".toList ++ shown
          modify fun r => { r with complaints := ⟨l.line, text, true⟩ :: r.complaints }
          throw .all
        | _ => return l

def token : Read Token := do return (← current).token

def advance : Read Unit := do
  let l ← current
  if l.token ≠ .finish then modify fun r => { r with rest := r.rest.drop 1 }

/-- Complains about the token that is next. -/
def misread {α : Type} : Read α := do
  let l ← current
  let ends := l.token = .newline || l.token = .finish || l.token = .sign ";" || l.token = .sign "\x7d"
  let text :=
    if ends && (← get).passed < l.parens then "missing ) near ".toList ++ l.shown
    else if l.token = .finish && 0 < l.braces then "missing \x7d near ".toList ++ l.shown
    else "syntax error at or near ".toList ++ l.shown
  complainAt l.line text
  throw .statement

def isNext (t : Token) : Read Bool := do return (← token) = t

def isSign (s : String) : Read Bool := isNext (.sign s)

/-- Takes a token if it is next. -/
def take (t : Token) : Read Bool := do
  if ← isNext t then
    advance
    return true
  else return false

def expect (t : Token) : Read Unit := do if !(← take t) then misread

def skipNewlines : Read Unit := do go (← get).rest.length
where
  go : Nat → Read Unit
    | 0 => pure ()
    | limit + 1 => do if ← take .newline then go limit

/-! ### Names -/

/-- Variables that are there from the start. -/
def knownVariables : List String :=
  ["NR", "FNR", "NF", "FS", "OFS", "ORS", "RS", "SUBSEP", "CONVFMT", "OFMT", "FILENAME", "RSTART",
    "RLENGTH", "ARGC"]

def knownTables : List String := ["ENVIRON", "ARGV"]

def knownKinds : List (List Char × NameKind) :=
  knownVariables.map (fun name => (name.toList, .variable))
    ++ knownTables.map fun name => (name.toList, .table)

def variableNamed (name : List Char) : Read Variable := do
  return match (← get).inner.findIdx? (· = name) with
    | some place => .inner place
    | none => .named name

/-- Notes what a name is used for; it cannot be used for two things. -/
def useAs (kind : NameKind) (v : Variable) : Read Unit := do
  match v with
  | .named name =>
    match (← get).kinds.lookup name with
    | none => modify fun r => { r with kinds := (name, kind) :: r.kinds }
    | some old =>
      if old ≠ kind then
        complainAt (← current).line
          ("illegal reference to ".toList ++ old.text.toList ++ ' ' :: name)
  | .inner place =>
    let r ← get
    match r.within with
    | .function name =>
      if kind = .table then set { r with direct := (name, place) :: r.direct }
    | _ => pure ()

/-- A name that has to stand here. -/
def nameHere : Read (List Char) := do
  match ← token with
  | .name name =>
    advance
    return name
  | _ => misread

/-- The table whose name has to stand here. -/
def tableHere : Read Variable := do
  let v ← variableNamed (← nameHere)
  useAs .table v
  return v

/-! ### Expressions -/

/-- Operands that signs join from the left. -/
def chained (operand : Read Expr) (operator? : Token → Option (Expr → Expr → Expr)) :
    Nat → Expr → Read Expr
  | 0, first => pure first
  | limit + 1, first => do
    match operator? (← token) with
    | none => return first
    | some join =>
      advance
      let second ← operand
      chained operand operator? limit (join first second)

def disjunction? : Token → Option (Expr → Expr → Expr)
  | .sign "||" => some .one
  | _ => none

def conjunction? : Token → Option (Expr → Expr → Expr)
  | .sign "&&" => some .both
  | _ => none

def finding? : Token → Option (Expr → Expr → Expr)
  | .sign "~" => some (.found false)
  | .sign "!~" => some (.found true)
  | _ => none

def comparing? : Token → Option (Expr → Expr → Expr)
  | .sign "<" => some (.comparison .less)
  | .sign "<=" => some (.comparison .lessOrEqual)
  | .sign "==" => some (.comparison .equal)
  | .sign "!=" => some (.comparison .different)
  | .sign ">" => some (.comparison .greater)
  | .sign ">=" => some (.comparison .greaterOrEqual)
  | _ => none

def adding? : Token → Option (Expr → Expr → Expr)
  | .sign "+" => some (.arithmetic .add)
  | .sign "-" => some (.arithmetic .sub)
  | _ => none

def multiplying? : Token → Option (Expr → Expr → Expr)
  | .sign "*" => some (.arithmetic .mul)
  | .sign "/" => some (.arithmetic .div)
  | .sign "%" => some (.arithmetic .rem)
  | _ => none

/-- An assignment; with an operator it changes what was there. -/
def assigning? : Token → Option (Expr → Expr → Expr)
  | .sign "=" => some .assign
  | .sign "+=" => some (.change .add)
  | .sign "-=" => some (.change .sub)
  | .sign "*=" => some (.change .mul)
  | .sign "/=" => some (.change .div)
  | .sign "%=" => some (.change .rem)
  | .sign "^=" => some (.change .pow)
  | _ => none

/-- Something that can be joined to what stands before it starts with this. -/
def Token.startsOperand : Token → Bool
  | .number _ => true
  | .text _ => true
  | .pattern _ => true
  | .name _ => true
  | .callee _ => true
  | .builtin _ => true
  | .keyword k => ["getline", "split", "match", "sub", "gsub"].contains k
  | .sign s => ["$", "(", "!", "++", "--"].contains s
  | _ => false

/-- The least and the most arguments of a function. -/
def Builtin.arity : Builtin → Nat × Nat
  | .length => (0, 1)
  | .substr => (2, 3)
  | .index => (2, 2)
  | .sprintf => (1, 255)
  | .atan2 => (2, 2)
  | .rand => (0, 0)
  | .srand => (0, 1)
  | .fflush => (0, 1)
  | .systime => (0, 0)
  | .strftime => (0, 3)
  | _ => (1, 1)

/-- The pattern that a text is, or a complaint. -/
def patternOf (text : List Char) : Read Regular.Node := do
  match readPattern text with
  | .ok node => return node
  | .error fault =>
    complainAt (← current).line
      ("regular expression compile failed (".toList ++ fault.text.toList ++ ")\n".toList ++ text)
    throw .all

/-- A text that stands where a pattern is needed is one. -/
def asPattern (e : Expr) : Read Expr := do
  match e.bare with
  | .constant (.text s) => return .pattern (← patternOf s)
  | e => return e

mutual

def expression : Nat → Read Expr
  | 0 => misread
  | limit + 1 => do
    let condition ← disjunction limit
    if ← take (.sign "?") then
      let yes ← expression limit
      expect (.sign ":")
      let no ← expression limit
      return .choose condition yes no
    else return condition

def disjunction : Nat → Read Expr
  | 0 => misread
  | limit + 1 => do
    let first ← conjunction limit
    chained (conjunction limit) disjunction? limit first

def conjunction : Nat → Read Expr
  | 0 => misread
  | limit + 1 => do
    let first ← membership limit
    chained (membership limit) conjunction? limit first

def membership : Nat → Read Expr
  | 0 => misread
  | limit + 1 => do
    let first ← finding limit
    memberships limit first

/-- Questions whether something is a key, which may be compared. -/
def memberships : Nat → Expr → Read Expr
  | 0, _ => misread
  | limit + 1, e => do
    if ← take (.keyword "in") then
      let v ← tableHere
      let asked ← chained (assignment limit) comparing? limit (.member [e] v)
      let pattern : Read Expr := do asPattern (← comparing limit)
      memberships limit (← chained pattern finding? limit asked)
    else return e

def finding : Nat → Read Expr
  | 0 => misread
  | limit + 1 => do
    let first ← comparing limit
    let pattern : Read Expr := do asPattern (← comparing limit)
    chained pattern finding? limit first

def comparing : Nat → Read Expr
  | 0 => misread
  | limit + 1 => do
    let first ← assignment limit
    chained (assignment limit) comparing? limit first

def assignment : Nat → Read Expr
  | 0 => misread
  | limit + 1 => do
    let target ← joining limit
    match assigning? (← token) with
    | some assign =>
      if target.isTarget then
        advance
        let value ← expression limit
        return assign target.bare value
      else return target
    | none => return target

def joining : Nat → Read Expr
  | 0 => misread
  | limit + 1 => do
    let first ← sum limit
    joined limit first

/-- What is joined without a sign. -/
def joined : Nat → Expr → Read Expr
  | 0, _ => misread
  | limit + 1, e => do
    if (← token).startsOperand then
      let next ← sum limit
      joined limit (.joined e next)
    else return e

def sum : Nat → Read Expr
  | 0 => misread
  | limit + 1 => do
    let first ← product limit
    chained (product limit) adding? limit first

def product : Nat → Read Expr
  | 0 => misread
  | limit + 1 => do
    let first ← signed limit
    chained (signed limit) multiplying? limit first

def signed : Nat → Read Expr
  | 0 => misread
  | limit + 1 => do
    if ← take (.sign "!") then return .not (← signed limit)
    if ← take (.sign "-") then return .negative (← signed limit)
    if ← take (.sign "+") then return .positive (← signed limit)
    let source ← power limit
    piped limit source

/-- Lines that come from a command. -/
def piped : Nat → Expr → Read Expr
  | 0, _ => misread
  | limit + 1, e => do
    if ← take (.sign "|") then
      expect (.keyword "getline")
      let target ← lineTarget limit
      piped limit (.line .command (some e) target)
    else return e

def power : Nat → Read Expr
  | 0 => misread
  | limit + 1 => do
    let base ← stepped limit
    if ← take (.sign "^") then
      let isSigned := (← isSign "!") || (← isSign "-") || (← isSign "+")
      let exponent ← if isSigned then signed limit else power limit
      return .arithmetic .pow base exponent
    else return base

def stepped : Nat → Read Expr
  | 0 => misread
  | limit + 1 => do
    let e ← operand limit
    if e.isTarget then
      if ← take (.sign "++") then return .step true false e.bare
      if ← take (.sign "--") then return .step false false e.bare
    return e

/-- Expressions between commas. -/
def expressions : Nat → Read (List Expr)
  | 0 => misread
  | limit + 1 => do
    let first ← expression limit
    if ← take (.sign ",") then return first :: (← expressions limit)
    else return [first]

/-- The arguments of a function between parentheses. -/
def argumentsHere : Nat → Read (List Expr)
  | 0 => misread
  | limit + 1 => do
    expect (.sign "(")
    if ← take (.sign ")") then return []
    let arguments ← expressions limit
    expect (.sign ")")
    return arguments

/-- A variable, a place of a table, or a field to which a line goes, if one stands here. -/
def lineTarget : Nat → Read (Option Expr)
  | 0 => misread
  | limit + 1 => do
    match ← token with
    | .name _ => return some (← operand limit)
    | .sign "$" => return some (← operand limit)
    | _ => return none

def operand : Nat → Read Expr
  | 0 => misread
  | limit + 1 => do
    match ← token with
    | .number x =>
      advance
      return .constant (.number x)
    | .text s =>
      advance
      return .constant (.text s)
    | .pattern s =>
      let node ← patternOf s
      advance
      return .pattern node
    | .name name =>
      advance
      let v ← variableNamed name
      if ← take (.sign "[") then
        useAs .table v
        let index ← expressions limit
        expect (.sign "]")
        return .element v index
      else
        /- Alone between parentheses and commas it may be a table. -/
        if !((← isSign ",") || (← isSign ")")) then useAs .variable v
        return .variable v
    | .callee name =>
      let line := (← current).line
      advance
      let arguments ← argumentsHere limit
      modify fun r => { r with calls := ⟨r.within, name, arguments, line⟩ :: r.calls }
      return .call name arguments
    | .builtin b =>
      let line := (← current).line
      advance
      if b = .length then
        if !(← take (.sign "(")) then return .builtin b []
        if ← take (.sign ")") then return .builtin b []
        let argument ← expression limit
        expect (.sign ")")
        return .builtin b [argument]
      let arguments ← argumentsHere limit
      let (least, most) := b.arity
      if arguments.length < least || most < arguments.length then
        let name := ((builtins.find? (·.2 = b)).map (·.1)).getD ""
        complainAt line ("wrong number of arguments in call to ".toList ++ name.toList)
      return .builtin b arguments
    | .keyword k => keyed limit k
    | .sign s => grouped limit s
    | _ => misread

/-- What starts with a keyword. -/
def keyed : Nat → String → Read Expr
  | 0, _ => misread
  | limit + 1, k => do
    match k with
    | "getline" =>
      advance
      let target ← lineTarget limit
      if ← take (.sign "<") then
        let source ← power limit
        return .line .file (some source) target
      else return .line .main none target
    | "split" =>
      advance
      expect (.sign "(")
      let text ← expression limit
      expect (.sign ",")
      let v ← tableHere
      if ← take (.sign ")") then return .split text v none
      expect (.sign ",")
      let separator ← expression limit
      expect (.sign ")")
      return .split text v (some separator)
    | "match" =>
      advance
      expect (.sign "(")
      let text ← expression limit
      expect (.sign ",")
      let pattern ← asPattern (← expression limit)
      expect (.sign ")")
      return .place text pattern
    | _ =>
      if k = "sub" || k = "gsub" then
        advance
        expect (.sign "(")
        let pattern ← asPattern (← expression limit)
        expect (.sign ",")
        let replacement ← expression limit
        if ← take (.sign ")") then
          return .substitute (k = "gsub") pattern replacement (.field (.constant (.ofNat 0)))
        expect (.sign ",")
        match ← lineTarget limit with
        | none => misread
        | some target =>
          expect (.sign ")")
          return .substitute (k = "gsub") pattern replacement target
      else misread

/-- What starts with a sign. -/
def grouped : Nat → String → Read Expr
  | 0, _ => misread
  | limit + 1, s => do
    match s with
    | "(" =>
      advance
      let first ← expression limit
      if ← take (.sign ",") then
        let rest ← expressions limit
        expect (.sign ")")
        expect (.keyword "in")
        let v ← tableHere
        return .member (first :: rest) v
      else
        expect (.sign ")")
        return .grouped first
    | "$" =>
      advance
      let isSigned := (← isSign "!") || (← isSign "-") || (← isSign "+")
      let number ← if isSigned then signed limit else operand limit
      if number matches .variable (.named ['N', 'F']) then
        if ← take (.sign "++") then return .field (.step true false number)
        if ← take (.sign "--") then return .field (.step false false number)
      return .field number
    | _ =>
      if s = "++" || s = "--" then
        advance
        let isTarget := match ← token with
          | .name _ => true
          | .sign s => s = "$" || s = "("
          | _ => false
        if !isTarget then misread
        let target ← operand limit
        if target.isTarget then return .step (s = "++") true target.bare else misread
      else misread

end

/-! ### Statements -/

def isSeparator (t : Token) : Bool := t = .newline || t = .sign ";"

def separator : Read Unit := do if isSeparator (← token) then advance else misread

/-- Passes over what is left of a statement that makes no sense. -/
def skipStatement : Read Unit := do go (← get).rest.length
where
  go : Nat → Read Unit
    | 0 => throw .all
    | limit + 1 => do
      match ← token with
      | .finish => throw .all
      | t =>
        let parens := (← current).parens
        advance
        if isSeparator t then modify fun r => { r with passed := parens } else go limit

/-- What stands between parentheses whose inside starts here: whether there is a comma in it or
nothing, and the token after them. -/
def parenthesized : Nat → Bool → List Lexeme → Bool × Option Token
  | _, _, [] => (false, none)
  | depth, comma, l :: rest =>
    match l.token with
    | .sign "(" => parenthesized (depth + 1) comma rest
    | .sign "[" => parenthesized (depth + 1) comma rest
    | .sign "]" => parenthesized (depth - 1) comma rest
    | .sign ")" =>
      if depth = 0 then (comma, (rest.head?).map (·.token)) else parenthesized (depth - 1) comma rest
    | .sign "," => parenthesized depth (comma || depth = 0) rest
    | _ => parenthesized depth comma rest

/-- What follows the arguments of a `print`. -/
def endsPrint (t : Token) : Bool :=
  isSeparator t || t = .sign "out>" || t = .sign "out>>" || t = .sign "out|"

/-- The arguments of a `print`; parentheses around all of them do not count. -/
def printed (limit : Nat) : Read (List Expr) := do
  let t ← token
  if endsPrint t then return []
  if t = .sign "(" then
    let after := (← get).rest.drop 1
    let isEmpty := (after.head?).any (·.token = .sign ")")
    match parenthesized 0 isEmpty after with
    | (true, some next) =>
      if next ≠ .keyword "in" then return ← argumentsHere limit
    | _ => pure ()
  expressions limit

def redirection (limit : Nat) : Read (Option (Redirection × Expr)) := do
  let kind : Option Redirection := match ← token with
    | .sign "out>" => some .file
    | .sign "out>>" => some .append
    | .sign "out|" => some .pipe
    | _ => none
  match kind with
  | none => return none
  | some kind =>
    advance
    return some (kind, ← expression limit)

/-- The head of a loop over the keys of a table, if one starts here. -/
def eachHead (rest : List Lexeme) : Option (List Char × List Char) :=
  let tokens : List Token := (rest.take 4).map (·.token)
  match tokens with
  | [.name target, .keyword "in", .name table, .sign ")"] => some (target, table)
  | _ => none

mutual

/-- A statement; if it makes no sense, reading goes on behind it. -/
def statement : Nat → Read Stmt
  | 0 => misread
  | limit + 1 =>
    tryCatch (plainStatement limit) fun cut => do
      if cut = .all then throw cut
      skipStatement
      return .nothing

/-- Statements up to the brace that closes them. -/
def statements : Nat → Read (List Stmt)
  | 0 => misread
  | limit + 1 => do
    if ← take (.sign "\x7d") then return []
    if ← isNext .finish then misread
    let first ← statement limit
    return first :: (← statements limit)

/-- The body of a loop. -/
def loopBody : Nat → Read Stmt
  | 0 => misread
  | limit + 1 => do
    modify fun r => { r with loops := r.loops + 1 }
    let body ← statement limit
    modify fun r => { r with loops := r.loops - 1 }
    return body

/-- A part of the head of a loop, up to what ends it. -/
def loopPart : Nat → Token → Read (Option Expr)
  | 0, _ => misread
  | limit + 1, last => do
    if ← take last then return none
    let e ← expression limit
    expect last
    return some e

def plainStatement : Nat → Read Stmt
  | 0 => misread
  | limit + 1 => do
    let l ← current
    match l.token with
    | .sign "\x7b" =>
      advance
      return .block (← statements limit)
    | .keyword k => keyStatement limit k l.line
    | t =>
      if isSeparator t then
        advance
        return .nothing
      let e ← expression limit
      separator
      return .expr e

/-- A statement that starts with a keyword. -/
def keyStatement : Nat → String → Nat → Read Stmt
  | 0, _, _ => misread
  | limit + 1, k, line => do
    match k with
    | "if" =>
      advance
      expect (.sign "(")
      let condition ← expression limit
      expect (.sign ")")
      skipNewlines
      let yes ← statement limit
      if ← take (.keyword "else") then
        skipNewlines
        return .choose condition yes (some (← statement limit))
      else return .choose condition yes none
    | "while" =>
      advance
      expect (.sign "(")
      let condition ← expression limit
      expect (.sign ")")
      skipNewlines
      return .while_ condition (← loopBody limit)
    | "do" =>
      advance
      skipNewlines
      let body ← loopBody limit
      expect (.keyword "while")
      expect (.sign "(")
      let condition ← expression limit
      expect (.sign ")")
      separator
      return .until_ body condition
    | "for" =>
      advance
      expect (.sign "(")
      match eachHead (← get).rest with
      | some (target, table) =>
        modify fun r => { r with rest := r.rest.drop 4 }
        let target ← variableNamed target
        let table ← variableNamed table
        useAs .variable target
        useAs .table table
        skipNewlines
        return .each target table (← loopBody limit)
      | none =>
        let start ← loopPart limit (.sign ";")
        let condition ← loopPart limit (.sign ";")
        let step ← loopPart limit (.sign ")")
        skipNewlines
        return .for_ start condition step (← loopBody limit)
    | "break" =>
      advance
      separator
      if (← get).loops = 0 then
        complainAt line "break statement outside of loop".toList
        throw .all
      return .break_
    | "continue" =>
      advance
      separator
      if (← get).loops = 0 then
        complainAt line "continue statement outside of loop".toList
        throw .all
      return .continue_
    | "next" =>
      advance
      separator
      if (← get).within ≠ .rule then complainAt line "improper use of next".toList
      return .next
    | "nextfile" =>
      advance
      separator
      if (← get).within ≠ .rule then complainAt line "improper use of nextfile".toList
      return .nextFile
    | "exit" =>
      advance
      if isSeparator (← token) then
        advance
        return .exit none
      let status ← expression limit
      separator
      return .exit (some status)
    | "return" =>
      advance
      if !((← get).within matches .function _) then
        complainAt line "return outside function body".toList
      if isSeparator (← token) then
        advance
        return .return_ none
      let value ← expression limit
      separator
      return .return_ (some value)
    | "delete" =>
      advance
      let v ← tableHere
      if ← take (.sign "[") then
        let index ← expressions limit
        expect (.sign "]")
        separator
        return .delete v (some index)
      separator
      return .delete v none
    | _ =>
      if k = "print" || k = "printf" then
        advance
        let arguments ← printed limit
        if k = "printf" && arguments.isEmpty then
          complainAt line "no arguments in call to printf".toList
        let output ← redirection limit
        separator
        return .print (k = "printf") arguments output
      else
        let e ← expression limit
        separator
        return .expr e

end

/-! ### Programs -/

def blockHere (limit : Nat) (within : Within) : Read Stmt := do
  modify fun r => { r with within, loops := 0 }
  expect (.sign "\x7b")
  let body ← statements limit
  modify fun r => { r with within := .outside }
  return .block body

/-- The places of a function between commas, up to the parenthesis that closes them. -/
def placesHere (name : List Char) : Nat → Read Unit
  | 0 => misread
  | limit + 1 => do
    match ← token with
    | .name place =>
      if (← get).inner.contains place then
        complainAt (← current).line (place ++ " is duplicated in argument list".toList)
      if place = name then
        complainAt (← current).line "function parameter cannot be the function".toList
      advance
      modify fun r => { r with inner := (r.inner ++ [place]).eraseDups }
      if ← take (.sign ",") then placesHere name limit else expect (.sign ")")
    | _ => misread

def functionHere (limit : Nat) : Read Function := do
  match ← token with
  | .callee name =>
    let line := (← current).line
    advance
    if (← get).defined.any (·.name = name) then complainAt line ("redefinition of ".toList ++ name)
    useAs .function (.named name)
    expect (.sign "(")
    modify fun r => { r with inner := [] }
    if !(← take (.sign ")")) then placesHere name limit
    skipNewlines
    let places := (← get).inner.length
    let body ← blockHere limit (.function name)
    modify fun r => { r with inner := [] }
    return ⟨name, places, body⟩
  | _ => misread

/-- What prints the line that was read. -/
def printLine : Stmt := .print false [] none

/-- The action of a rule; without one the line is printed. -/
def actionHere (limit : Nat) : Read Stmt := do
  if ← isSign "\x7b" then blockHere limit .rule
  else
    separator
    return printLine

/-- All parts of a program, one after another. -/
def programFrom : Nat → Program → Read Program
  | 0, _ => misread
  | limit + 1, p => do
    match ← token with
    | .finish => return p
    | .keyword "BEGIN" =>
      advance
      let body ← blockHere limit .start
      programFrom limit { p with first := p.first ++ [body] }
    | .keyword "END" =>
      advance
      let body ← blockHere limit .start
      programFrom limit { p with last := p.last ++ [body] }
    | .keyword "function" =>
      advance
      let f ← functionHere limit
      modify fun r => { r with defined := f :: r.defined }
      programFrom limit p
    | .sign "\x7b" =>
      let body ← blockHere limit .rule
      programFrom limit { p with rules := p.rules ++ [⟨.always, body⟩] }
    | _ =>
      let first ← expression limit
      if ← take (.sign ",") then
        let last ← expression limit
        let action ← actionHere limit
        programFrom limit { p with rules := p.rules ++ [⟨.range first last, action⟩] }
      else
        let action ← actionHere limit
        programFrom limit { p with rules := p.rules ++ [⟨.when first, action⟩] }

/-! ### Tables among the places of functions -/

/-- One more round of finding places that are tables since they are handed on as such. -/
def handedOn (calls : List Call) (tables : List (List Char × Nat)) : List (List Char × Nat) :=
  calls.foldl (fun tables call =>
    match call.caller with
    | .function caller =>
      (call.arguments.zipIdx).foldl (fun tables (argument, place) =>
        match argument with
        | .variable (.inner inner) =>
          if tables.contains (call.callee, place) && !tables.contains (caller, inner) then
            (caller, inner) :: tables
          else tables
        | _ => tables) tables
    | _ => tables) tables

def allTables (calls : List Call) : Nat → List (List Char × Nat) → List (List Char × Nat)
  | 0, tables => tables
  | limit + 1, tables =>
    let more := handedOn calls tables
    if more.length = tables.length then tables else allTables calls limit more

/-- Complains about calls that do not fit their functions. -/
def checkCalls (tables : List (List Char × Nat)) : List Call → Read Unit
  | [] => pure ()
  | call :: rest => do
    let r ← get
    match r.defined.find? (·.name = call.callee) with
    | none => pure ()
    | some f =>
      if f.places < call.arguments.length then
        complainAt call.line ("too many arguments in call to ".toList ++ call.callee)
      else
        for (argument, place) in call.arguments.zipIdx do
          if tables.contains (call.callee, place) then
            let fits := match argument with
              | .variable (.named name) => r.kinds.lookup name ≠ some .variable
              | .variable (.inner _) => true
              | _ => false
            if !fits then
              complainAt call.line
                (s!"type error in arg({place + 1}) in call to ".toList ++ call.callee
                  ++ " (actual local variable vs local array)".toList)
    checkCalls tables rest

/-- Complains about functions that are not there, the last one first. -/
def checkFunctions (calls : List Call) : Read Unit := do
  let r ← get
  let missing := calls.filter fun call => !r.defined.any (·.name = call.callee)
  if r.complaints.isEmpty then
    for name in ((missing.map (·.callee)).eraseDups).reverse do
      for _ in missing.filter (·.callee = name) do
        complainAt (← current).line ("function ".toList ++ name ++ " never defined".toList)

/-- The program that tokens make. -/
def wholeProgram (limit : Nat) : Read Program := do
  let p ← programFrom limit {}
  let r ← get
  let tables := allTables r.calls (r.calls.length * 8 + 8) r.direct.eraseDups
  checkCalls tables r.calls.reverse
  checkFunctions r.calls.reverse
  return { p with functions := r.defined, tables }

/-- A program from its text, or all that is wrong with it. -/
def readProgram (text : List Char) : Except (List Complaint) Program :=
  let lexemes := tokens text
  let (result, r) := ((wholeProgram (40 * lexemes.length + 100)).run).run
    { rest := lexemes, kinds := knownKinds }
  match result with
  | .ok p => if r.complaints.isEmpty then .ok p else .error r.complaints.reverse
  | .error _ => .error r.complaints.reverse

end Gutter.Tools.Awk
