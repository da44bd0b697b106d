import Gutter.Shell.Syntax

/-! Reading words: the text of a program while it is read, the quotes in it, and the parts that begin
with a dollar sign or stand in backquotes. -/

namespace Gutter.Shell

/-! ### The text of a program

The line that has been reached, the token that has been looked at, and the aliases that are known. -/

inductive Token
  | word (word : Word)
  | operator (text : String)
  | redirect (descriptor : Option Nat) (operator : String)
  | newline
  | stop

/-- An alias that has been put into the text: how much text followed it, and whether the word after
it may be an alias, too. -/
structure Replaced where
  name : List Char
  rest : Nat
  goesOn : Bool
deriving DecidableEq, Repr

/-- What is left of a program. `hidden` lines have been taken out of it and count at the next
newline, and `start` characters were left where the last token started; `word` is the last word that
was read. -/
structure Source where
  text : List Char
  line : Nat
  hidden : Nat
  start : Nat
  word : Word
  ahead : Option Token
  aliases : List (List Char × List Char)
  replaced : List Replaced

/-- A text from its first line on. -/
def Source.of (text : List Char) (aliases : List (List Char × List Char)) : Source :=
  ⟨text, 1, 0, 0, [], none, aliases, []⟩

/-- What is wrong with a text, and in which line. -/
structure LineFault where
  line : Nat
  fault : SyntaxFault
deriving DecidableEq, Repr

abbrev Read := StateT Source (Except LineFault)

def refuse {α : Type} (fault : SyntaxFault) : Read α := do throw ⟨(← get).line, fault⟩

/-- A text without the joints of lines at its start, and how many there were. -/
def joinLines : List Char → Nat → List Char × Nat
  | '\\' :: '\n' :: rest, count => joinLines rest (count + 1)
  | text, count => (text, count)

/-- The next character, which stays where it is. Lines that are joined are one. -/
def peekChar : Read (Option Char) := do
  let s ← get
  let (text, count) := joinLines s.text 0
  set { s with text, line := s.line + count }
  return text.head?

/-- Goes past the next character. -/
def skipChar : Read Unit := modify fun s =>
  match s.text with
  | '\n' :: rest => { s with text := rest, line := s.line + 1 + s.hidden, hidden := 0 }
  | text => { s with text := text.drop 1 }

/-- The next character after joints of lines. -/
def nextChar : Read (Option Char) := do
  let c ← peekChar
  if c.isSome then skipChar
  return c

/-- The next character as it stands. -/
def rawChar : Read (Option Char) := do
  let c := (← get).text.head?
  if c.isSome then skipChar
  return c

/-- Takes characters as long as they are of a kind, at most `limit` of them. -/
def takeChars (isOne : Char → Bool) : Nat → Read (List Char)
  | 0 => pure []
  | limit + 1 => do
    match ← peekChar with
    | some c =>
      if !isOne c then return []
      skipChar
      return c :: (← takeChars isOne limit)
    | none => return []

/-- More steps than reading the rest of this program can take. -/
def limit : Read Nat := do
  let s ← get
  let size (n : Nat) (name : List Char × List Char) : Nat := n + name.2.length + 1
  return s.text.length + s.aliases.foldl size 1

/-! ### Words -/

/-- Where a character of a word stands. -/
inductive Region
  | word
  | braces
  | double
  | quotedBraces
  | innerDouble
  | document
  | documentBraces
  | arithmetic
deriving DecidableEq, Repr

namespace Region

/-- What is replaced here is not split. -/
def isQuoted : Region → Bool
  | .word => false
  | .braces => false
  | _ => true

def inBraces : Region → Bool
  | .braces => true
  | .quotedBraces => true
  | .documentBraces => true
  | _ => false

/-- What is wrong with a program that ends here. -/
def fault? : Region → Option SyntaxFault
  | .word => none
  | .document => none
  | .braces => some .openBrace
  | .documentBraces => some .openBrace
  | .arithmetic => some .openArithmetic
  | _ => some .openQuote

/-- Where the word in the braces of a parameter stands; a pattern starts anew. -/
def within (region : Region) : Use → Region
  | .trimmed .. => .braces
  | _ =>
    match region with
    | .word => .braces
    | .braces => .braces
    | .document => .documentBraces
    | .documentBraces => .documentBraces
    | _ => .quotedBraces

/-- A backslash before a character quotes it. -/
def escapes (region : Region) (c : Char) : Bool :=
  !region.isQuoted || c = '\\' || c = '$' || c = Char.ofNat 96 || c = '\n'
    || (c = '"' && region ≠ .document) || (c = '}' && region.inBraces)

end Region

def backquoteChar : Char := Char.ofNat 96

/-- Blanks and operators end a word. -/
def endsWord (c : Char) : Bool :=
  [' ', '\t', '\n', ';', '&', '|', '<', '>', '(', ')'].contains c

/-- Adds characters to parts that are read, the newest first. -/
def addText (quoted : Bool) (text : List Char) : Word → Word
  | .bare before :: rest =>
    if quoted then .quoted text :: .bare before :: rest else .bare (before ++ text) :: rest
  | .quoted before :: rest =>
    if quoted then .quoted (before ++ text) :: rest else .bare text :: .quoted before :: rest
  | parts => (if quoted then .quoted text else .bare text) :: parts

/-- Parameters that are named by one character. -/
def isSpecial (c : Char) : Bool := c.isDigit || ['@', '*', '#', '?', '-', '$', '!'].contains c

/-- The text up to a character that closes it. -/
def textUntil (close : Char) : Nat → Read (List Char)
  | 0 => refuse .openQuote
  | steps + 1 => do
    match ← rawChar with
    | none => refuse .openQuote
    | some c => if c = close then return [] else return c :: (← textUntil close steps)

/-- The text up to a backquote, without the backslashes that quote in it. -/
def backquotedText (inDouble : Bool) : Nat → Read (List Char)
  | 0 => refuse .openBackquote
  | steps + 1 => do
    match ← nextChar with
    | none => refuse .openBackquote
    | some c =>
      if c = backquoteChar then return []
      else if c ≠ '\\' then return c :: (← backquotedText inDouble steps)
      else
        match ← rawChar with
        | none => refuse .openBackquote
        | some d =>
          let rest ← backquotedText inDouble steps
          if d = '\\' || d = backquoteChar || d = '$' || (inDouble && d = '"') then
            return d :: rest
          else return '\\' :: d :: rest

/-- Reads a text of its own from a line on, and goes back to where it stands. -/
def readAside {α : Type} (line : Nat) (text : List Char) (read : Read α) : Read α := do
  let s ← get
  set { Source.of text s.aliases with line }
  let a ← read
  set s
  return a

/-- The use that stands after a parameter's name in braces. -/
def readUse : Read Use := do
  match ← nextChar with
  | some ':' =>
    match ← peekChar with
    | some c =>
      if ['-', '=', '?', '+'].contains c then
        skipChar
        return .missing true c
      else if c = '}' then
        skipChar
        return .value
      else return .bad
    | none => return .bad
  | some '%' =>
    if (← peekChar) = some '%' then
      skipChar
      return .trimmed true true
    else return .trimmed true false
  | some '#' =>
    if (← peekChar) = some '#' then
      skipChar
      return .trimmed false true
    else return .trimmed false false
  | some c => if ['-', '=', '?', '+'].contains c then return .missing false c else return .bad
  | none => return .bad

/-- The name of a parameter: a name, digits, or one character; there may be none. -/
def readName (inBraces : Bool) : Read (List Char) := do
  match ← peekChar with
  | none => return []
  | some c =>
    if isNameStart c then takeChars isNameChar (← limit)
    else if c.isDigit && inBraces then takeChars Char.isDigit (← limit)
    else if isSpecial c then
      skipChar
      return [c]
    else return []

/-- What starts with a number sign in braces. -/
inductive Numbered
  | length
  | wrong
  | count
deriving DecidableEq, Repr

/-- A length is asked for where a name follows the sign, or one character and the closing brace; the
character must name a parameter. Elsewhere the sign itself is a parameter. -/
def Numbered.of (text : List Char) : Numbered :=
  match text with
  | '#' :: c :: rest =>
    if isNameChar c then .length
    else if c ≠ '}' && rest.head? = some '}' then if isSpecial c then .length else .wrong
    else .count
  | _ => .count

/-- Reads what words are made of; `inner` reads a program up to its closing parenthesis, and
`program` one up to the end of its text. -/
structure WordReader where
  inner : Read Statement
  program : Read Statement

namespace WordReader

variable (r : WordReader)

mutual

/-- Parts up to the end of their region, after those that have been read, the newest first. In
arithmetic `level` parentheses are open. -/
def parts (region : Region) : Nat → Nat → Word → Read Word
  | 0, _, read => pure read.reverse
  | steps + 1, level, read => do
    let again := parts region steps
    let keep (c : Char) : Read Word := do
      skipChar
      again level (addText region.isQuoted [c] read)
    match ← peekChar with
    | none =>
      match region.fault? with
      | some fault => refuse fault
      | none => return read.reverse
    | some c =>
      if region = .word && endsWord c then return read.reverse
      else if c = '\\' then
        skipChar
        match ← rawChar with
        | none => again level (addText true ['\\'] read)
        | some d =>
          let text := if region.escapes d then [d] else ['\\', d]
          again level (addText true text read)
      else if c = '$' then
        skipChar
        again level ((← dollar region steps).foldl (fun read part => part :: read) read)
      else if c = backquoteChar then
        skipChar
        let inDouble := region.isQuoted && region ≠ .document
        let text ← backquotedText inDouble (← limit)
        again level (.command region.isQuoted (← readAside 1 text r.program) :: read)
      else if c = '}' && region.inBraces then
        skipChar
        return read.reverse
      else if c = '"' then
        match region with
        | .word => again level (← doubled .double steps read)
        | .braces => again level (← doubled .double steps read)
        | .quotedBraces => again level (← doubled .innerDouble steps read)
        | .documentBraces => again level (← doubled .innerDouble steps read)
        | .document => keep c
        | .arithmetic => keep c
        | _ =>
          skipChar
          return read.reverse
      else if c = '\'' && !region.isQuoted then
        skipChar
        let text ← textUntil '\'' (← limit)
        again level (addText true text read)
      else if region = .arithmetic && c = '(' then
        skipChar
        again (level + 1) (addText true [c] read)
      else if region = .arithmetic && c = ')' then
        skipChar
        if 0 < level then again (level - 1) (addText true [c] read)
        else if (← peekChar) = some ')' then
          skipChar
          return read.reverse
        else again level (addText true [c] read)
      else keep c

/-- Parts in double quotes, after those that have been read. All arguments alone in quotes may be no
field. -/
def doubled (region : Region) : Nat → Word → Read Word
  | 0, read => pure read
  | steps + 1, read => do
    skipChar
    let inside ← parts region steps 0 []
    match inside with
    | [.parameter true ['@'] .value []] => return inside ++ read
    | _ => return inside.reverse ++ addText true [] read

/-- The part that a dollar sign starts; alone it stands for itself. -/
def dollar (region : Region) : Nat → Read Word
  | 0 => pure []
  | steps + 1 => do
    let quoted := region.isQuoted
    match ← peekChar with
    | some '(' =>
      skipChar
      if (← peekChar) = some '(' then
        skipChar
        return [.arithmetic quoted (← parts .arithmetic steps 0 [])]
      else return [.command quoted (← r.inner)]
    | some '{' =>
      skipChar
      let _ ← peekChar
      match Numbered.of (← get).text with
      | .wrong =>
        skipChar
        skipChar
        return [.parameter quoted [] .bad (← parts (region.within .bad) steps 0 [])]
      | .length =>
        skipChar
        let name ← readName true
        let use := if (← peekChar) = some '}' then Use.length else .bad
        let operand ← parts (region.within use) steps 0 []
        return [.parameter quoted name use operand]
      | .count =>
        let name ← readName true
        if name.isEmpty then
          return [.parameter quoted [] .bad (← parts (region.within .bad) steps 0 [])]
        else if (← peekChar) = some '}' then
          skipChar
          return [.parameter quoted name .value []]
        else
          let use ← readUse
          return [.parameter quoted name use (← parts (region.within use) steps 0 [])]
    | _ =>
      match ← readName false with
      | [] => return [if quoted then .quoted ['$'] else .bare ['$']]
      | name => return [.parameter quoted name .value []]

end

/-- The word that starts here. -/
def word : Read Word := do r.parts .word (2 * (← limit)) 0 []

/-- The parts of a text that stands in the program from a line on, as in double quotes. -/
def document (line : Nat) (text : List Char) : Read Word :=
  readAside line text do r.parts .document (2 * (← limit)) 0 []

end WordReader

/-- The last line of a text in the program: dollar signs and backquotes stand for themselves in it,
and it tells whether it was quoted. -/
def readMark : Nat → Read (List Char × Bool)
  | 0 => pure ([], false)
  | steps + 1 => do
    match ← peekChar with
    | none => return ([], false)
    | some c =>
      if endsWord c then return ([], false)
      skipChar
      if c = '\\' then
        let d ← rawChar
        let (rest, _) ← readMark steps
        return (d.toList ++ rest, true)
      else if c = '\'' || c = '"' then
        let text ← textUntil c (← limit)
        let (rest, _) ← readMark steps
        return (text ++ rest, true)
      else
        let (rest, quoted) ← readMark steps
        return (c :: rest, quoted)

end Gutter.Shell
