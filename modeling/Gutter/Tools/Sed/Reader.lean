import Gutter.Tools.Sed.Script

/-! Scripts of the stream editor as text. -/

namespace Gutter.Tools.Sed

/-! ### Escapes -/

/-- Where escapes stand. -/
inductive EscapePlace
  | expression
  | replacement
  | text
deriving DecidableEq, Repr

/-- The letter escapes. -/
def letterEscape? (c : Char) : Option Char :=
  match c with
  | 'a' => some '\x07'
  | 'f' => some '\x0c'
  | 'n' => some '\n'
  | 'r' => some '\x0d'
  | 't' => some '\t'
  | 'v' => some '\x0b'
  | _ => none

/-- The base of a number escape, and how many digits it has at most. -/
def numberEscape? (c : Char) : Option (Nat × Nat) :=
  match c with
  | 'd' => some (10, 3)
  | 'o' => some (8, 3)
  | 'x' => some (16, 2)
  | _ => none

def isDigitIn (base : Nat) (c : Char) : Bool :=
  if base = 16 then Text.isHexDigit c else c.isDigit && c.toNat - 48 < base

/-- A character that an escape stands for; in what replaces something it means nothing else. -/
def plainIn (place : EscapePlace) (c : Char) : List Char :=
  if place = .replacement && (c = '&' || c = '\\') then ['\\', c] else [c]

/-- Puts the characters in place of escapes that stand for one, and leaves the others. -/
def resolveEscapes (place : EscapePlace) : Nat → List Char → List Char
  | 0, text => text
  | _, [] => []
  | _, ['\\'] => ['\\']
  | limit + 1, '\\' :: c :: rest =>
    match letterEscape? c with
    | some d =>
      if c = 'n' && place = .replacement then '\\' :: '\n' :: resolveEscapes place limit rest
      else d :: resolveEscapes place limit rest
    | none =>
      match numberEscape? c with
      | some (base, most) =>
        let digits := (rest.take most).takeWhile (isDigitIn base)
        if digits.isEmpty then
          (if place = .expression then ['\\', c] else [c]) ++ resolveEscapes place limit rest
        else
          plainIn place (Char.ofNat (Text.valueOfDigits base digits % 256))
            ++ resolveEscapes place limit (rest.drop digits.length)
      | none =>
        if c = 'c' then
          match rest with
          | [] => if place = .expression then ['\\'] else ['\\', '\\']
          | d :: rest =>
            let rest := if d = '\\' then rest.drop 1 else rest
            plainIn place (Char.ofNat (d.toUpper.toNat ^^^ 0x40)) ++ resolveEscapes place limit rest
        else '\\' :: c :: resolveEscapes place limit rest
  | limit + 1, c :: rest => c :: resolveEscapes place limit rest

def withoutEscapes (place : EscapePlace) (text : List Char) : List Char :=
  resolveEscapes place (text.length + 1) text

/-- Drops the backslashes that are left. -/
def withoutBackslashes : List Char → List Char
  | '\\' :: c :: rest => c :: withoutBackslashes rest
  | c :: rest => c :: withoutBackslashes rest
  | [] => []

/-- The text of a command that prints it. -/
def plainText (raw : List Char) : List Char := withoutBackslashes (withoutEscapes .text raw)

/-! ### What is read -/

/-- Where a piece of a script comes from: an argument with its number, or a file. -/
inductive Origin
  | argument (number : Nat)
  | file (name : List Char)
deriving DecidableEq, Repr

/-- How scripts are to be read. -/
structure Choices where
  extended : Bool
  wide : Bool
  sandbox : Bool

/-- A script that is being read: the piece that is next, where it comes from, how many characters and
lines of it have been read; the commands, labels and files so far, the blocks that are open, and a
text that goes on in the next piece. -/
structure Reading where
  rest : List Char
  origin : Origin
  position : Nat := 0
  line : Nat := 1
  started : Bool := false
  commands : Array Command := #[]
  labels : List (List Char × Nat) := []
  outputs : List (List Char) := []
  blocks : List (Nat × Origin × Nat) := []
  pending : Option (List Char) := none
  quiet : Bool := false

abbrev Read := StateT Reading (Except (Problem × Origin × Nat × Nat))

def refuse {α : Type} (problem : Problem) : Read α := do
  let r ← get
  throw (problem, r.origin, r.position, r.line)

/-- The next character. -/
def char? : Read (Option Char) := do
  let r ← get
  match r.rest with
  | [] => return none
  | c :: rest =>
    set { r with rest, position := r.position + 1, line := if c = '\n' then r.line + 1 else r.line }
    return some c

/-- Puts a character back. -/
def putBack (c : Option Char) : Read Unit :=
  modify fun r =>
    match c with
    | none => r
    | some c =>
      { r with rest := c :: r.rest, position := r.position - 1
               line := if c = '\n' then r.line - 1 else r.line }

def isGap (c : Char) : Bool := c = ' ' || c = '\t'

/-- Skips characters. -/
def skip (drops : Char → Bool) : Read Unit := do
  let skipped := (← get).rest.takeWhile drops
  modify fun r =>
    { r with rest := r.rest.drop skipped.length, position := r.position + skipped.length
             line := r.line + skipped.count '\n' }

/-- The next character that is no gap. -/
def solid? : Read (Option Char) := do
  skip isGap
  char?

/-- The characters that come while a test holds. -/
def taken (keeps : Char → Bool) : Read (List Char) := do
  let text := (← get).rest.takeWhile keeps
  skip keeps
  return text

/-- A number whose first digit has been read; without one it is zero. -/
def number (first : Option Char) : Read Nat := do
  match first with
  | some c =>
    if c.isDigit then return Text.valueOfDigits 10 (c :: (← taken Char.isDigit))
    else
      putBack (some c)
      return 0
  | none => return 0

/-- What may stand after a command: its end. -/
def endOfCommand : Read Unit := do
  match ← solid? with
  | none => pure ()
  | some c =>
    if c = '\x7d' || c = '#' then putBack (some c)
    else if c = '\n' || c = ';' then pure ()
    else refuse .extra

/-! ### Texts between marks -/

/-- The length of a list in brackets, after the opening one, without the closing one. -/
def listLength (text : List Char) : Nat :=
  let start := if text.head? = some '^' then 1 else 0
  let start := if (text.drop start).head? = some ']' then start + 1 else start
  go (text.length + 1) start (text.drop start)
where
  go : Nat → Nat → List Char → Nat
    | 0, n, _ => n
    | _, n, [] => n
    | limit + 1, n, c :: rest =>
      if c = ']' then n
      else
        match c, rest with
        | '[', mark :: inner =>
          if [':', '.', '='].contains mark then
            let name := inner.takeWhile (· ≠ mark)
            if (inner.drop name.length).take 2 = [mark, ']'] then
              go limit (n + name.length + 4) (inner.drop (name.length + 2))
            else go limit (n + 1) rest
          else go limit (n + 1) rest
        | _, _ => go limit (n + 1) rest

/-- What is read of a text between marks: up to the mark that ends it, or not. -/
structure Between where
  text : List Char
  read : Nat
  ended : Bool

/-- A text up to a mark; `inList` characters belong to a list in brackets, where the mark is none. -/
def between (mark : Char) (inExpression : Bool) : Nat → Nat → Nat → List Char → List Char → Between
  | 0, _, read, text, _ => ⟨text.reverse, read, false⟩
  | _, _, read, text, [] => ⟨text.reverse, read, false⟩
  | limit + 1, inList, read, text, c :: rest =>
    if c = '\n' then ⟨text.reverse, read, false⟩
    else if 0 < inList then
      if c = '\\' && rest.head? = some 'n' && 1 < inList then
        between mark inExpression limit (inList - 2) (read + 2) ('\n' :: text) (rest.drop 1)
      else between mark inExpression limit (inList - 1) (read + 1) (c :: text) rest
    else if c = mark then ⟨text.reverse, read + 1, true⟩
    else if c = '\\' then
      match rest with
      | [] => ⟨text.reverse, read + 1, false⟩
      | d :: rest =>
        let text := if d = mark then
            if !inExpression && d = '&' then d :: '\\' :: text else d :: text
          else if d = 'n' && inExpression then '\n' :: text
          else if d = '\n' then (if inExpression then d :: text else d :: '\\' :: text)
          else d :: '\\' :: text
        between mark inExpression limit 0 (read + 2) text rest
    else if c = '[' && inExpression then
      between mark inExpression limit (listLength rest) (read + 1) (c :: text) rest
    else between mark inExpression limit 0 (read + 1) (c :: text) rest

/-- Reads a text up to a mark. -/
def markedText (mark : Char) (inExpression : Bool) (problem : Problem) : Read (List Char) := do
  let r ← get
  let b := between mark inExpression (r.rest.length + 1) 0 0 [] r.rest
  let read := r.rest.take b.read
  set { r with rest := r.rest.drop b.read, position := r.position + b.read
               line := r.line + read.count '\n' }
  if b.ended then return b.text else refuse problem

/-- An expression, which is the last one if it is empty; it has to have some groups. -/
def sought (choices : Choices) (folds ofLines : Bool) (groups : Nat) (raw : List Char) :
    Read (Option Sought) := do
  if raw.isEmpty then
    if folds || ofLines then refuse .modifiers
    return none
  let chars := Regular.signs choices.wide (withoutEscapes .expression raw)
  let dialect : Regular.Dialect := if choices.extended then .extendedStrict else .basicStrict
  match Regular.read dialect chars with
  | .error fault => refuse (.expression fault)
  | .ok node =>
    if node.groups < groups then refuse (.reference groups)
    return some ⟨node, folds, ofLines⟩

/-! ### Addresses -/

/-- Letters after an expression. -/
def expressionLetters : Nat → Bool → Bool → Read (Bool × Bool)
  | 0, folds, ofLines => pure (folds, ofLines)
  | limit + 1, folds, ofLines => do
    match ← solid? with
    | some 'I' => expressionLetters limit true ofLines
    | some 'M' => expressionLetters limit folds true
    | c =>
      putBack c
      return (folds, ofLines)

def address? (choices : Choices) (c : Option Char) : Read (Option Address) := do
  match c with
  | none => return none
  | some c =>
    if c = '/' || c = '\\' then
      let mark ← if c = '\\' then char? else pure (some c)
      match mark with
      | none => refuse .unterminatedAddress
      | some mark =>
        let raw ← markedText mark true .unterminatedAddress
        let (folds, ofLines) ← expressionLetters ((← get).rest.length + 1) false false
        return some (.found (← sought choices folds ofLines 0 raw))
    else if c.isDigit then
      let first ← number (some c)
      match ← solid? with
      | some '~' =>
        let step ← number (← solid?)
        return some (if step = 0 then .line first else .every first step)
      | c =>
        putBack c
        return some (.line first)
    else if c = '+' then return some (.plus (← number (← solid?)))
    else if c = '~' then return some (.multiple (← number (← solid?)))
    else if c = '$' then return some .last
    else return none

/-! ### Parts of commands -/

/-- A label; it ends at a gap, a semicolon or a closing brace. -/
def label : Read (List Char) := do
  skip isGap
  taken fun c => !(Regular.Kind.space.holds false c) && c ≠ ';' && c ≠ '\x7d'

/-- The name of a file: all that is left of the line. -/
def fileName : Read (List Char) := do
  skip isGap
  let name ← taken (· ≠ '\n')
  let _ ← char?
  if name.isEmpty then refuse .missingFile
  return name

/-- The raw text of a command up to a newline that no backslash stands before; whether it goes on
beyond this piece of the script. -/
def rawText : Nat → List Char → Read (List Char × Bool)
  | 0, raw => pure (raw.reverse, false)
  | limit + 1, raw => do
    match ← char? with
    | none => return (('\n' :: raw).reverse, false)
    | some '\n' => return (('\n' :: raw).reverse, false)
    | some '\\' =>
      match ← char? with
      | none => return (('\n' :: raw).reverse, true)
      | some c => rawText limit (c :: '\\' :: raw)
    | some c => rawText limit (c :: raw)

/-- The text of a command that prints it, after its letter; whether it goes on. -/
def textOfCommand : Read (List Char × Bool) := do
  let limit := (← get).rest.length + 1
  match ← solid? with
  | none => refuse .expectedText
  | some '\\' =>
    match ← char? with
    | none => return ([], true)
    | some '\n' => rawText limit []
    | some c => rawText limit [c]
  | c =>
    putBack c
    rawText limit []

/-- What replaces something, up to the place that is read: the text since the last piece, newest
first, how letters are changed now, and how the first one is. -/
structure Replacing where
  text : List Char := []
  case : Case := .asIs
  first : Option Case := none

/-- The piece that ends at the place that is read. -/
def Replacing.segment (r : Replacing) (group : Option Nat) : Segment :=
  ⟨r.text.reverse, group, r.case, r.first⟩

/-- The pieces of what replaces something. Every backslash ends a piece. -/
def segments : Replacing → List Char → List Segment
  | r, [] => [r.segment none]
  | r, ['\\'] => [{ r.segment none with text := (('\\' :: r.text).reverse) }]
  | r, '&' :: rest => r.segment (some 0) :: segments { case := r.case } rest
  | r, '\\' :: c :: rest =>
    if c.isDigit then r.segment (some (c.toNat - 48)) :: segments { case := r.case } rest
    else
      match c with
      | 'L' => r.segment none :: segments { case := .lower } rest
      | 'U' => r.segment none :: segments { case := .upper } rest
      | 'E' => r.segment none :: segments { case := .asIs } rest
      | 'l' => r.segment none :: segments { case := r.case, first := some .lower } rest
      | 'u' => r.segment none :: segments { case := r.case, first := some .upper } rest
      | _ =>
        { r.segment none with text := (c :: r.text).reverse } :: segments { case := r.case } rest
  | r, c :: rest => segments { r with text := c :: r.text } rest

/-- Letters and numbers after a substitution. -/
structure Flags where
  folds : Bool := false
  ofLines : Bool := false
  everywhere : Bool := false
  prints : Bool := false
  printsRun : Bool := false
  executes : Bool := false
  number : Option Nat := none
  output : Option (List Char) := none

def substitutionFlags (choices : Choices) : Nat → Flags → Read Flags
  | 0, f => pure f
  | limit + 1, f => do
    match ← solid? with
    | none => return f
    | some c =>
      match c with
      | 'i' => substitutionFlags choices limit { f with folds := true }
      | 'I' => substitutionFlags choices limit { f with folds := true }
      | 'm' => substitutionFlags choices limit { f with ofLines := true }
      | 'M' => substitutionFlags choices limit { f with ofLines := true }
      | 'e' =>
        if choices.sandbox then refuse .sandbox
        substitutionFlags choices limit { f with executes := true }
      | 'p' =>
        if f.prints || f.printsRun then refuse (.twice 'p')
        substitutionFlags choices limit
          (if f.executes then { f with printsRun := true } else { f with prints := true })
      | 'g' =>
        if f.everywhere then refuse (.twice 'g')
        substitutionFlags choices limit { f with everywhere := true }
      | 'w' =>
        if choices.sandbox then refuse .sandbox
        return { f with output := some (← fileName) }
      | '\n' => return f
      | ';' => return f
      | _ =>
        if c = '\x7d' || c = '#' then
          putBack (some c)
          return f
        else if c.isDigit then
          if f.number.isSome then refuse .severalNumbers
          let n ← number (some c)
          if n = 0 then refuse .zeroNumber
          substitutionFlags choices limit { f with number := some n }
        else refuse .unknownOption

/-- The last group that pieces ask for. -/
def lastGroup (pieces : List Segment) : Nat := pieces.foldl (fun n s => max n (s.group.getD 0)) 0

def substitution (choices : Choices) : Read Action := do
  match ← char? with
  | none => refuse .unterminatedSubstitution
  | some mark =>
    let raw ← markedText mark true .unterminatedSubstitution
    let new ← markedText mark false .unterminatedSubstitution
    let pieces := segments {} (withoutEscapes .replacement new)
    let f ← substitutionFlags choices ((← get).rest.length + 1) {}
    let sought ← sought choices f.folds f.ofLines (lastGroup pieces) raw
    modify fun r => { r with outputs := f.output.toList ++ r.outputs }
    return .substitute { sought, segments := pieces, from_ := f.number.getD 1, everywhere := f.everywhere
                         prints := f.prints, executes := f.executes, printsRun := f.printsRun
                         output := f.output }

def translation (choices : Choices) : Read Action := do
  match ← char? with
  | none => refuse .unterminatedTranslation
  | some mark =>
    let old ← markedText mark false .unterminatedTranslation
    let new ← markedText mark false .unterminatedTranslation
    let chars (raw : List Char) : List Char := Regular.signs choices.wide (plainText raw)
    let (old, new) := (chars old, chars new)
    if old.length ≠ new.length then refuse .differentLengths
    endOfCommand
    return .translate (old.zip new)

/-! ### Commands -/

/-- The number of an old enough version. -/
def isKnownVersion (text : List Char) : Bool :=
  let parts := (Text.splitOn '.' text).map fun part =>
    Text.valueOfDigits 10 (part.takeWhile Char.isDigit)
  match parts with
  | [] => true
  | major :: rest => major < 4 || (major = 4 && rest.headD 0 ≤ 9)

/-- Keeps a command, and goes on with it. -/
def keep (first second : Option Address) (inverted : Bool) (action : Action) : Read Unit :=
  modify fun r => { r with commands := r.commands.push ⟨first, second, inverted, action⟩ }

/-- The action of a text as it is read so far. -/
def textAction (letter : Char) (text : List Char) : Action :=
  match letter with
  | 'a' => .append text
  | 'i' => .insert text
  | 'c' => .change text
  | _ => .execute text

/-- Gives the last command its text, which may still go on. -/
def withText (raw : List Char) (goesOn : Bool) : Read Unit :=
  modify fun r =>
    let text := plainText raw
    let action (old : Action) : Action :=
      match old with
      | .append _ => .append text
      | .insert _ => .insert text
      | .change _ => .change text
      | .execute _ => .execute text
      | other => other
    { r with
      commands := r.commands.modify (r.commands.size - 1) fun c => { c with action := action c.action }
      pending := if goesOn then some raw else none }

/-- The actions that are one letter. -/
def letterAction? (c : Char) : Option Action :=
  match c with
  | '=' => some .lineNumber
  | 'd' => some .delete
  | 'D' => some .deleteFirst
  | 'F' => some .fileName
  | 'g' => some .get
  | 'G' => some .getMore
  | 'h' => some .hold
  | 'H' => some .holdMore
  | 'n' => some .next
  | 'N' => some .nextMore
  | 'p' => some .print
  | 'P' => some .printFirst
  | 'z' => some .clear
  | 'x' => some .exchange
  | _ => none

/-- A number that may stand after a letter. -/
def optionalNumber : Read (Option Nat) := do
  match ← solid? with
  | some c =>
    if c.isDigit then return some (← number (some c))
    else
      putBack (some c)
      return none
  | none => return none

/-- A command after its addresses. -/
def command (choices : Choices) (first second : Option Address) (inverted : Bool) (c : Char) :
    Read Unit := do
  let keep := keep first second inverted
  match c with
  | '#' =>
    if first.isSome then refuse .comment
    let r ← get
    let text ← taken (· ≠ '\n')
    if text.head? = some 'n' && r.position = 1 && !r.started then modify fun r => { r with quiet := true }
  | 'v' =>
    let text ← label
    if !isKnownVersion text then refuse .newer
    endOfCommand
  | '\x7b' =>
    let index := (← get).commands.size
    keep (.block 0)
    modify fun r => { r with blocks := (index, r.origin, r.line) :: r.blocks }
  | '\x7d' =>
    match (← get).blocks with
    | [] => refuse .closeBrace
    | (index, _) :: blocks =>
      if first.isSome then refuse .closeAddress
      endOfCommand
      modify fun r =>
        let stop := r.commands.size
        { r with blocks, commands := r.commands.modify index fun c => { c with action := .block stop } }
  | 'e' =>
    if choices.sandbox then refuse .sandbox
    match ← solid? with
    | none => keep (.execute [])
    | some '\n' => keep (.execute [])
    | c =>
      putBack c
      let (raw, goesOn) ← textOfCommand
      keep (.execute [])
      withText raw goesOn
  | ':' =>
    if first.isSome then refuse .labelAddress
    let name ← label
    if name.isEmpty then refuse .noLabel
    modify fun r => { r with labels := (name, r.commands.size) :: r.labels }
  | 'b' => keep (.jump (← label))
  | 't' => keep (.jumpIfDone (← label))
  | 'T' => keep (.jumpUnlessDone (← label))
  | 'l' =>
    keep (.list (← optionalNumber))
    endOfCommand
  | 'r' => do
    if choices.sandbox then refuse .sandbox
    keep (.readFile (← fileName))
  | 'R' =>
    if choices.sandbox then refuse .sandbox
    keep (.readLine (← fileName))
  | 's' => keep (← substitution choices)
  | 'y' => keep (← translation choices)
  | _ =>
    if c = 'a' || c = 'i' || c = 'c' then
      let (raw, goesOn) ← textOfCommand
      keep (textAction c [])
      withText raw goesOn
    else if c = 'q' || c = 'Q' then
      if second.isSome then refuse .oneAddress
      let status := (← optionalNumber).getD 0
      keep (if c = 'q' then .quit status else .leave status)
      endOfCommand
    else if c = 'w' || c = 'W' then
      if choices.sandbox then refuse .sandbox
      let name ← fileName
      modify fun r => { r with outputs := name :: r.outputs }
      keep (if c = 'w' then .write name else .writeFirst name)
    else
      match letterAction? c with
      | some action =>
        keep action
        endOfCommand
      | none => refuse (.unknownCommand c)

/-- An address that needs no other before it. -/
def Address.standsFirst : Address → Bool
  | .plus _ => false
  | .multiple _ => false
  | _ => true

/-- One command with its addresses. -/
def addressed (choices : Choices) (c : Char) : Read Unit := do
  let first ← address? choices (some c)
  if first.any (!·.standsFirst) then refuse .firstAddress
  let mut next : Option Char := some c
  let mut second : Option Address := none
  if first.isSome then
    next ← solid?
    if next = some ',' then
      second ← address? choices (← solid?)
      if second.isNone then refuse .comma
      next ← solid?
    let fromStart := second.any fun a => a matches .found _
    if first = some (.line 0) && !fromStart then refuse .lineZero
  let inverted := next = some '!'
  if inverted then
    next ← solid?
    if next = some '!' then refuse .bangs
  match next with
  | none => refuse .missingCommand
  | some c => command choices first second inverted c

/-- All commands of one piece of a script. -/
def commands (choices : Choices) : Nat → Read Unit
  | 0 => pure ()
  | limit + 1 => do
    skip fun c => c = ';' || Regular.Kind.space.holds false c
    match ← char? with
    | none => pure ()
    | some c =>
      addressed choices c
      modify fun r => { r with started := true }
      commands choices limit

/-- One piece of a script; a text of the piece before may go on in it. -/
def piece (choices : Choices) (text : List Char) (origin : Origin) : Read Unit := do
  modify fun r => { r with rest := text, origin, position := 0, line := 1 }
  match (← get).pending with
  | some raw =>
    let (more, goesOn) ← rawText (text.length + 1) []
    withText (raw ++ more) goesOn
  | none => pure ()
  commands choices (text.length + 1)
  modify fun r => { r with started := true }

/-- The labels that commands jump to. -/
def Action.label? : Action → Option (List Char)
  | .jump label => some label
  | .jumpIfDone label => some label
  | .jumpUnlessDone label => some label
  | _ => none

/-- What a script can be refused for: a problem at a position or a line, or a label that is missing. -/
inductive Refusal
  | problem (problem : Problem) (origin : Origin) (position line : Nat)
  | noLabel (label : List Char)
deriving DecidableEq, Repr

/-- Reads a script from its pieces. -/
def readScript (choices : Choices) (pieces : List (List Char × Origin)) :
    Except Refusal Script := do
  let all : Read Unit := do
    for (text, origin) in pieces do piece choices text origin
    if let (_, origin, line) :: _ := (← get).blocks then throw (.openBrace, origin, 0, line)
  match all.run { rest := [], origin := .argument 1 } with
  | .error (problem, origin, position, line) =>
    throw (.problem problem origin position line)
  | .ok (_, r) =>
    let asked := r.commands.toList.filterMap fun c => c.action.label?
    match asked.find? fun label => !label.isEmpty && (r.labels.lookup label).isNone with
    | some label => throw (.noLabel label)
    | none => return ⟨r.commands, r.labels, r.outputs.reverse, r.quiet⟩

end Gutter.Tools.Sed
