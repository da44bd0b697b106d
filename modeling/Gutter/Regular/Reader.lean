import Gutter.Regular.Node

/-! Expressions as text. Dialects differ in which operators need a backslash, and in what they make
of operators that have nothing to work on. -/

namespace Gutter.Regular

/-- What is wrong with an expression. -/
inductive Fault
  | badExpression
  | backslash
  | back
  | bracket
  | open_
  | openCount
  | badCount
  | range
  | tooBig
  | operator
  | close
  | kindName
  | collation
  | bareKind
deriving DecidableEq, Repr

def Fault.text : Fault → String
  | .badExpression => "Invalid regular expression"
  | .backslash => "Trailing backslash"
  | .back => "Invalid back reference"
  | .bracket => "Unmatched [, [^, [:, [., or [="
  | .open_ => "Unmatched ( or \\("
  | .openCount => "Unmatched \\\x7b"
  | .badCount => "Invalid content of \\\x7b\\\x7d"
  | .range => "Invalid range end"
  | .tooBig => "Regular expression too big"
  | .operator => "Invalid preceding regular expression"
  | .close => "Unmatched ) or \\)"
  | .kindName => "Invalid character class name"
  | .collation => "Invalid collation character"
  | .bareKind => "character class syntax is [[:space:]], not [:space:]"

/-- How expressions are written. In a basic dialect groups, counts and alternatives need a backslash,
and anchors are ones only where something starts or ends; `barePlus` tells that plus and question mark
need none. In a strict dialect an operator must have something to work on. -/
structure Dialect where
  basic : Bool
  barePlus : Bool
  strict : Bool
  counts : Bool := true
  oddCounts : Bool := false
  oddClose : Bool := false
  linesApart : Bool := false
deriving DecidableEq, Repr

namespace Dialect

def basicLines : Dialect := { basic := true, barePlus := false, strict := false, linesApart := true }

def extendedLines : Dialect :=
  { basic := false, barePlus := true, strict := false, oddCounts := true, oddClose := true
    linesApart := true }

def basicStrict : Dialect := { basic := true, barePlus := false, strict := true }

def extendedStrict : Dialect := { basic := false, barePlus := true, strict := true }

/-- The older dialect of editors. -/
def editor : Dialect := { basic := true, barePlus := true, strict := false, counts := false }

end Dialect

/-- A piece of an expression. -/
inductive Token
  | char (c : Char)
  | any
  | list
  | openGroup
  | closeGroup
  | bar
  | star
  | plus
  | question
  | openCount
  | closeCount
  | back (number : Nat)
  | edge (edge : Edge)
  | ofKind (inverted : Bool) (kind : Kind)
  | backslash
  | finish
deriving DecidableEq, Repr

namespace Token

/-- What a letter after a backslash stands for in all dialects. -/
def escaped? (c : Char) : Option Token :=
  match c with
  | '<' => some (.edge .wordStart)
  | '>' => some (.edge .wordEnd)
  | 'b' => some (.edge .wordEdge)
  | 'B' => some (.edge .noWordEdge)
  | '\'' => some (.edge .textEnd)
  | 'w' => some (.ofKind false .word)
  | 'W' => some (.ofKind true .word)
  | 's' => some (.ofKind false .space)
  | 'S' => some (.ofKind true .space)
  | _ =>
    if c = Char.ofNat 96 then some (.edge .textStart)
    else if '1' ≤ c && c ≤ '9' then some (.back (c.toNat - 48))
    else none

/-- An operator that may need a backslash. -/
def grouping? (d : Dialect) (c : Char) : Option Token :=
  match c with
  | '(' => some .openGroup
  | ')' => some .closeGroup
  | '|' => some .bar
  | '\x7b' => if d.counts then some .openCount else none
  | '\x7d' => if d.counts then some .closeCount else none
  | _ => none

def repeating? (c : Char) : Option Token :=
  match c with
  | '+' => some .plus
  | '?' => some .question
  | _ => none

/-- The next token, where a dollar sign is always an anchor; `starts` tells that something may start
here. -/
def next (d : Dialect) (starts : Bool) : List Char → Token × List Char
  | [] => (.finish, [])
  | ['\\'] => (.backslash, [])
  | '\\' :: c :: rest =>
    let operator := (if d.basic then grouping? d c else none)
      <|> (if d.barePlus then none else repeating? c)
    (((operator <|> escaped? c).getD (.char c)), rest)
  | c :: rest =>
    match c with
    | '[' => (.list, rest)
    | '.' => (.any, rest)
    | '*' => (.star, rest)
    | '$' => (.edge .lineEnd, rest)
    | '^' => (if d.basic && !starts then .char c else .edge .lineStart, rest)
    | _ =>
      if c = '\n' && d.linesApart then (.bar, rest)
      else
        let operator := (if d.basic then none else grouping? d c)
          <|> (if d.barePlus then repeating? c else none)
        (operator.getD (.char c), rest)

/-- The next token. In a basic dialect a dollar sign is an anchor only before an end. -/
def read (d : Dialect) (starts : Bool) (text : List Char) : Token × List Char :=
  match next d starts text with
  | (.edge .lineEnd, rest) =>
    if d.basic && text.head? = some '$' && !([finish, bar, closeGroup].contains (next d false rest).1)
    then (.char '$', rest)
    else (.edge .lineEnd, rest)
  | token => token

end Token

/-! ### Lists in brackets -/

/-- Something in a list: a character, or a kind; `collated` is a character in brackets of its own. -/
inductive Element
  | char (c : Char)
  | named (kind : Kind)
  | same (c : Char)
  | collated (c : Char)
deriving DecidableEq, Repr

/-- The name in brackets within brackets, up to the mark that closes it. -/
def innerName (mark : Char) : Nat → List Char → List Char → Except Fault (List Char × List Char)
  | 0, _, _ => .error .bracket
  | limit + 1, name, c :: rest =>
    if c = mark && rest.head? = some ']' then .ok (name.reverse, rest.drop 1)
    else if rest.isEmpty then .error .bracket
    else innerName mark limit (c :: name) rest
  | _, _, [] => .error .bracket

/-- The most characters that such a name has. -/
def innerLimit : Nat := 32

/-- The next element; a dash must stand first, last, or behind another one. -/
def element (dashes : Bool) : List Char → Except Fault (Element × List Char)
  | '[' :: mark :: rest =>
    if mark = ':' then do
      let (name, rest) ← innerName mark innerLimit [] rest
      match Kind.named? name with
      | some kind => return (.named kind, rest)
      | none => throw .kindName
    else if mark = '=' || mark = '.' then do
      let (name, rest) ← innerName mark innerLimit [] rest
      match name with
      | [c] => return (if mark = '=' then .same c else .collated c, rest)
      | _ => throw .collation
    else return (.char '[', mark :: rest)
  | '-' :: '-' :: '-' :: rest => .ok (.char '-', rest)
  | '-' :: rest =>
    if dashes || rest.head? = some ']' then .ok (.char '-', rest)
    else .error (if rest.isEmpty then .bracket else .range)
  | c :: rest => .ok (.char c, rest)
  | [] => .error .bracket

/-- A character with which a range can start or end. -/
def Element.bound? : Element → Option Char
  | .char c => some c
  | .collated c => some c
  | _ => none

def Element.member : Element → Member
  | .char c => .range c c
  | .named kind => .named kind
  | .same c => .range c c
  | .collated c => .range c c

/-- The members of a list up to its closing bracket, which is a character if it stands first. -/
def members (first : Bool) : Nat → List Char → Except Fault (List Member × List Char)
  | 0, _ => .error .bracket
  | limit + 1, text =>
    match text with
    | [] => .error (if first then .badExpression else .bracket)
    | c :: rest =>
      if c = ']' && !first then .ok ([], rest)
      else do
        let (start, rest) ← element first text
        let single : Except Fault (List Member × List Char) := do
          if rest.isEmpty then throw .bracket
          let (others, rest) ← members false limit rest
          return (start.member :: others, rest)
        match rest with
        | '-' :: after =>
          if after.isEmpty then throw .bracket
          else if after.head? = some ']' then single
          else do
            let (last, rest) ← element true after
            match start.bound?, last.bound? with
            | some a, some b =>
              if b < a then throw .range
              let (others, rest) ← members false limit rest
              return (.range a b :: others, rest)
            | _, _ => throw .range
        | _ => single

/-- A list that looks like the name of a kind without its own brackets. -/
def isBareKind (text : List Char) : Bool :=
  let text := if text.head? = some '^' then text.drop 1 else text
  match text with
  | ':' :: rest =>
    let name := rest.takeWhile fun c => c ≠ ']' && c ≠ '[' && c ≠ '-'
    1 < name.length && name.getLast? = some ':' && (rest.drop name.length).head? = some ']'
  | _ => false

/-- The test that stands in brackets, after the opening one. -/
def bracketTest (text : List Char) : Except Fault (Test × List Char) := do
  let inverted := text.head? = some '^'
  let inside := if inverted then text.drop 1 else text
  let (found, rest) ← members true (inside.length + 1) inside
  if isBareKind text then throw .bareKind
  return (.list inverted found, rest)

/-! ### Expressions -/

/-- Where an expression is being read: the token that is next, what follows it, how many groups have
been opened, and which ones are closed. -/
structure Place where
  token : Token
  rest : List Char
  opened : Nat
  closed : List Nat

abbrev Read := StateT Place (Except Fault)

/-- Goes on to the next token; `starts` tells that something may start there. -/
def advance (d : Dialect) (starts : Bool) : Read Unit := do
  let p ← get
  let (token, rest) := Token.read d starts p.rest
  set { p with token, rest }

/-- A number in a count; one that is bad has something else in it, or nothing that ends it. -/
inductive Bound
  | missing
  | number (n : Nat)
  | bad
deriving DecidableEq, Repr

/-- What ends a number in a count. -/
inductive BoundEnd
  | comma
  | close
  | cut
deriving DecidableEq, Repr

/-- The number at the start of a text. -/
def bound (d : Dialect) (found : Bound) : List Char → Bound × BoundEnd × List Char
  | [] => (.bad, .cut, [])
  | [c] =>
    if c = ',' then (found, .comma, [])
    else if c = '\x7d' && !d.basic then (found, .close, [])
    else (.bad, .cut, [])
  | c :: next :: rest =>
    if c = ',' then (found, .comma, next :: rest)
    else if c = '\x7d' && !d.basic then (found, .close, next :: rest)
    else if c = '\\' && next = '\x7d' && d.basic then (found, .close, rest)
    else
      let digit := c.toNat - 48
      let found := if !c.isDigit then .bad else
        match found with
        | .missing => .number digit
        | .number n => .number (min 0x8000 (n * 10 + digit))
        | .bad => .bad
      bound d found (next :: rest)

/-- The most times that something can be repeated. -/
def countLimit : Nat := 0x7fff

/-- The bounds in a count; `none` if it is no count that can be read. -/
def countBounds (d : Dialect) (text : List Char) :
    Except Fault (Option ((Nat × Option Nat) × List Char)) :=
  let unreadable (finish : BoundEnd) : Except Fault (Option ((Nat × Option Nat) × List Char)) :=
    if d.oddCounts then .ok none
    else .error (if finish = .cut then .openCount else .badCount)
  let checked (least : Nat) (most : Option Nat) (finish : BoundEnd) (rest : List Char) :
      Except Fault (Option ((Nat × Option Nat) × List Char)) :=
    if most.any (· < least) || finish ≠ .close then .error .badCount
    else if countLimit < most.getD least then .error .tooBig
    else .ok (some ((least, most), rest))
  let upTo (least : Nat) (rest : List Char) :
      Except Fault (Option ((Nat × Option Nat) × List Char)) :=
    match bound d .missing rest with
    | (.bad, finish, _) => unreadable finish
    | (.missing, finish, rest) => checked least none finish rest
    | (.number most, finish, rest) => checked least (some most) finish rest
  match bound d .missing text with
  | (.bad, finish, _) => unreadable finish
  | (.missing, .comma, rest) => upTo 0 rest
  | (.missing, _, _) => .error .badCount
  | (.number least, .comma, rest) => upTo least rest
  | (.number least, finish, rest) => checked least (some least) finish rest

/-- The repetitions after something. -/
def repetitions (d : Dialect) : Nat → Node → Read Node
  | 0, node => pure node
  | limit + 1, node => do
    let again (least : Nat) (most : Option Nat) : Read Node := do
      advance d false
      let token := (← get).token
      if d.basic && d.strict && (token = .star || token = .openCount) then throw .operator
      repetitions d limit (.repeated node least most)
    match (← get).token with
    | .star => again 0 none
    | .plus => again 1 none
    | .question => again 0 (some 1)
    | .openCount =>
      match countBounds d (← get).rest with
      | .error fault => throw fault
      | .ok (some ((least, most), rest)) =>
        modify fun p => { p with rest }
        again least most
      | .ok none =>
        modify fun p => { p with token := .char '\x7b' }
        return node
    | _ => return node

mutual

/-- Alternatives up to the end, or to what closes a group. -/
def alternatives (d : Dialect) (depth : Nat) : Nat → Read Node
  | 0 => throw .tooBig
  | limit + 1 => do
    let before := (← get).closed
    let first ← branch d depth limit
    if (← get).token = .bar then
      advance d true
      let closed := (← get).closed
      modify fun p => { p with closed := before }
      let second ← alternatives d depth limit
      modify fun p => { p with closed := closed ++ p.closed }
      return .either first second
    else return first

/-- One alternative: pieces one after another. -/
def branch (d : Dialect) (depth : Nat) : Nat → Read Node
  | 0 => throw .tooBig
  | limit + 1 => do
    match (← get).token with
    | .finish => return .empty
    | .bar => return .empty
    | token =>
      if token = .closeGroup && 0 < depth then return .empty
      let first ← piece d depth limit
      let second ← branch d depth limit
      return if second = .empty then first else .join first second

/-- One piece, with its repetitions. -/
def piece (d : Dialect) (depth : Nat) : Nat → Read Node
  | 0 => throw .tooBig
  | limit + 1 => do
    let simple (node : Node) : Read Node := do
      advance d false
      repetitions d limit node
    let operator : Read Node := do
      if d.strict && !d.basic then throw .operator
      if !d.basic then
        match (← get).token with
        | .openCount =>
          match countBounds d (← get).rest with
          | .error fault => throw fault
          | .ok (some (_, rest)) =>
            modify fun p => { p with rest }
            advance d false
            piece d depth limit
          | .ok none => simple (.one (.char '\x7b'))
        | _ =>
          advance d false
          piece d depth limit
      else
        match (← get).token with
        | .star => simple (.one (.char '*'))
        | .plus => simple (.one (.char '+'))
        | .question => simple (.one (.char '?'))
        | _ => if d.strict then throw .operator else simple (.one (.char '\x7b'))
    match (← get).token with
    | .char c => simple (.one (.char c))
    | .any => simple (.one .any)
    | .ofKind inverted kind => simple (.one (.ofKind inverted kind))
    | .list =>
      match bracketTest (← get).rest with
      | .ok (test, rest) =>
        modify fun p => { p with rest }
        simple (.one test)
      | .error fault => throw fault
    | .openGroup =>
      let number := (← get).opened + 1
      modify fun p => { p with opened := number }
      advance d true
      let inside ← alternatives d (depth + 1) limit
      if (← get).token ≠ .closeGroup then throw .open_
      modify fun p => { p with closed := number :: p.closed }
      simple (.group number inside)
    | .closeGroup => if d.oddClose then simple (.one (.char ')')) else throw .close
    | .closeCount => simple (.one (.char '\x7d'))
    | .back number =>
      if (← get).closed.contains number then simple (.back number) else throw .back
    | .edge edge =>
      advance d false
      return .edge edge
    | .backslash => throw .backslash
    | .bar => return .empty
    | .finish => return .empty
    | .star => operator
    | .plus => operator
    | .question => operator
    | .openCount => operator

end

/-- The expression that a text is. -/
def read (d : Dialect) (text : List Char) : Except Fault Node := do
  let (token, rest) := Token.read d true text
  let limit := 4 * text.length + 8
  let (node, place) ← (alternatives d 0 limit).run ⟨token, rest, 0, []⟩
  match place.token with
  | .finish => return node
  | _ => throw .close

end Gutter.Regular
