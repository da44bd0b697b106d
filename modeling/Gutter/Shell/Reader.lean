import Gutter.Shell.WordReader
import Gutter.Text.Hex
import Gutter.Text.Split

/-! The reader of shell programs: it takes one complete command at a time, so that the commands
before a fault still run. -/

namespace Gutter.Shell

/-- The words that have a meaning where a command is expected. -/
def reserved : List String :=
  ["!", "if", "then", "else", "elif", "fi", "while", "until", "do", "done", "for", "in", "case",
    "esac", "\x7b", "\x7d"]

def isReserved (text : List Char) : Bool := reserved.contains (String.ofList text)

/-- The commands of the shell that end it when they fail; no function has their names. -/
def specialNames : List String :=
  [":", ".", "break", "continue", "eval", "exec", "exit", "export", "local", "readonly", "return",
    "set", "shift", "times", "trap", "unset"]

/-- The reserved word that a token is. -/
def Token.reserved? : Token → Option String
  | .word w =>
    (bareText? w).bind fun text => if isReserved text then some (String.ofList text) else none
  | _ => none

/-- How a fault calls a token. Reserved words count where a command is expected. -/
def Token.describe (atCommand : Bool) (token : Token) : String :=
  match token, token.reserved? with
  | .word _, some text => if atCommand then "\"" ++ text ++ "\"" else "word"
  | .word _, none => "word"
  | .operator text, _ => "\"" ++ text ++ "\""
  | .redirect .., _ => "redirection"
  | .newline, _ => "newline"
  | .stop, _ => "end of file"

def Token.isNewline : Token → Bool
  | .newline => true
  | _ => false

def Token.isStop : Token → Bool
  | .stop => true
  | _ => false

def Token.isOperator (text : String) : Token → Bool
  | .operator other => text = other
  | _ => false

def decimal (digits : List Char) : Nat := Text.valueOfDigits 10 digits

/-- Blanks, joined lines and comments. -/
def skipBlanks : Nat → Read Unit
  | 0 => pure ()
  | steps + 1 => do
    match ← peekChar with
    | some '#' =>
      modify fun s => { s with text := s.text.dropWhile (· ≠ '\n') }
    | some c =>
      if c = ' ' || c = '\t' then
        skipChar
        skipBlanks steps
    | none => pure ()

/-- The redirection after its first character. -/
def redirectOperator (first : Char) : Read String := do
  let more (texts : List String) : Read String := do
    let _ ← peekChar
    let text := (← get).text
    let found := texts.find? fun more => more.toList.isPrefixOf text
    modify fun s => { s with text := text.drop (found.getD "").length }
    return found.getD ""
  if first = '<' then return "<" ++ (← more ["<-", "<", "&", ">"])
  else return ">" ++ (← more [">", "&", "|"])

/-- The next token. -/
def lex (r : WordReader) : Read Token := do
  skipBlanks (← limit)
  modify fun s => { s with start := s.text.length }
  match ← peekChar with
  | none => return .stop
  | some c =>
    let twice : Read Token := do
      skipChar
      if (← peekChar) = some c then
        skipChar
        return .operator (String.ofList [c, c])
      else return .operator c.toString
    if c = '\n' then
      skipChar
      return .newline
    else if c = '&' || c = '|' || c = ';' then twice
    else if c = '(' || c = ')' then
      skipChar
      return .operator c.toString
    else if c = '<' || c = '>' then
      skipChar
      return .redirect none (← redirectOperator c)
    else
      let word ← r.word
      modify fun s => { s with word }
      let digit? := (bareText? word).bind fun text =>
        if text.length = 1 && text.all Char.isDigit then some (decimal text) else none
      match digit?, (← get).text.head? with
      | some n, some d =>
        if d = '<' || d = '>' then
          skipChar
          return .redirect (some n) (← redirectOperator d)
        else return .word word
      | _, _ => return .word word

/-- Without tabs at its start. -/
def dropTabs (line : List Char) : List Char := line.dropWhile (· = '\t')

/-- A line that is joined to the next: it ends in an odd number of backslashes. -/
def isJoined (line : List Char) : Bool :=
  (line.reverse.takeWhile (· = '\\')).length % 2 = 1

/-- Takes the lines of a text that stands in the program, up to its last line: the text, how many
lines it took, and those that follow. A line that is joined to the one before ends nothing. -/
def takeDocument (tabs joins : Bool) (last : List Char) (joined : Bool) :
    List (List Char) → List Char × Nat × List (List Char)
  | [] => ([], 0, [])
  | line :: rest =>
    let line := if tabs then dropTabs line else line
    if line = last && !joined then ([], 1, rest)
    else if rest.isEmpty then (line, 1, [])
    else
      let (text, count, rest) := takeDocument tabs joins last (joins && isJoined line) rest
      (line ++ '\n' :: text, count + 1, rest)

/-- What of a text stands before the end of its first line; a newline in quotes does not end it. -/
def lineEnd (quote : Option Char) : List Char → List Char × List Char
  | [] => ([], [])
  | c :: rest =>
    if c = '\n' && quote.isNone then ([], c :: rest)
    else
      let quote := match quote with
        | some q => if c = q then none else some q
        | none => if c = '\'' || c = '"' then some c else none
      let (line, rest) := lineEnd quote rest
      (c :: line, rest)

/-- A word that gives a variable a value. -/
def assignment? (word : Word) : Option (List Char × Word) :=
  match word with
  | .bare text :: rest =>
    match text.span (· ≠ '=') with
    | (name, '=' :: value) =>
      if isName name then some (name, if value.isEmpty then rest else .bare value :: rest)
      else none
    | _ => none
  | _ => none

/-- Reads commands; `command` reads one that is nested less deeply. -/
structure Grammar extends WordReader where
  command : Read Statement

namespace Grammar

variable (g : Grammar)

/-- The next token, which stays where it is. -/
def peek : Read Token := do
  match (← get).ahead with
  | some token => return token
  | none =>
    let token ← lex g.toWordReader
    modify fun s => { s with ahead := some token }
    return token

/-- Goes past the next token. -/
def advance : Read Unit := do
  let _ ← g.peek
  modify fun s => { s with ahead := none }

def takeOperator (text : String) : Read Bool := do
  let found := (← g.peek).isOperator text
  if found then g.advance
  return found

def skipNewlines : Nat → Read Unit
  | 0 => pure ()
  | steps + 1 => do
    if (← g.peek).isNewline then
      g.advance
      skipNewlines steps

def unexpected {α : Type} (atCommand : Bool) (expecting : Option String) : Read α := do
  refuse (.unexpected ((← g.peek).describe atCommand) expecting)

def expectOperator (atCommand : Bool) (text : String) : Read Unit := do
  if !(← g.takeOperator text) then g.unexpected atCommand (some ("\"" ++ text ++ "\""))

/-- The name of an alias that a word may be; none has the name of a reserved word. -/
def aliasName? (word : Word) : Option (List Char) :=
  (bareText? word).filter (!isReserved ·)

/-- An alias counts where a command is expected, and after one whose text ends in a blank. -/
def replaceAlias : Nat → Read Unit
  | 0 => pure ()
  | steps + 1 => do
    match ← g.peek with
    | .word word =>
      let s ← get
      let inUse := s.replaced.filter (·.rest < s.start)
      match (aliasName? word).bind fun name => (s.aliases.lookup name).map (name, ·) with
      | some (name, value) =>
        if !inUse.any (·.name = name) then
          let goesOn := value.getLast?.any fun c => c = ' ' || c = '\t'
          set { s with
            text := value ++ s.text
            ahead := none
            replaced := ⟨name, s.text.length, goesOn⟩ :: inUse }
          replaceAlias steps
      | none => pure ()
    | _ => pure ()

/-- Replaces aliases where a command is expected, and looks at what stands there. -/
def peekCommand : Read Token := do
  let _ ← g.peek
  g.replaceAlias (← limit)
  g.peek

def expectWord (text : String) : Read Unit := do
  if (← g.peekCommand).reserved? = some text then g.advance
  else g.unexpected true (some ("\"" ++ text ++ "\""))

/-- The redirection after its operator. A text that stands in the program is cut out of it. -/
def redirect (descriptor : Option Nat) (operator : String) : Read Redirect := do
  let descriptor := descriptor.getD (if operator.startsWith ">" then 1 else 0)
  if operator = "<<" || operator = "<<-" then
    skipBlanks (← limit)
    match ← peekChar with
    | some c => if endsWord c then g.unexpected false none
    | none => g.unexpected false none
    let (last, quoted) ← readMark (← limit)
    let s ← get
    let (here, after) := lineEnd none s.text
    let lines := Text.splitOn '\n' (after.drop 1)
    let (text, count, rest) := takeDocument (operator = "<<-") (!quoted) last false lines
    let rest := if after.isEmpty then [] else '\n' :: Text.joinWith '\n' rest
    set { s with text := here ++ rest, hidden := s.hidden + count }
    let first := s.line + s.hidden + here.count '\n' + 1
    let target ← if quoted then pure [.quoted text] else g.document first text
    return .to descriptor .text target
  else
    match ← g.peek with
    | .word target =>
      g.advance
      let direction := match operator with
        | "<" => Direction.input
        | "<>" => .update
        | ">" => .output
        | ">|" => .overwrite
        | ">>" => .append
        | _ => .duplicate
      return .to descriptor direction target
    | _ => g.unexpected false none

/-- The redirections that stand here. -/
def redirects : Nat → Read (List Redirect)
  | 0 => pure []
  | steps + 1 => do
    match ← g.peek with
    | .redirect descriptor operator =>
      g.advance
      let first ← g.redirect descriptor operator
      return first :: (← redirects steps)
    | _ => return []

/-- What a command without a reserved word is made of. -/
structure Simple where
  assignments : List (List Char × Word)
  words : List Word
  redirects : List Redirect

/-- The words and redirections of a command. -/
def simpleFrom : Nat → Simple → Read Simple
  | 0, command => pure command
  | steps + 1, command => do
    let s ← get
    if s.ahead.isNone then skipBlanks (← limit)
    let left := (← get).text.length
    let goesOn := s.replaced.any fun r => r.goesOn && r.rest < s.text.length && left ≤ r.rest
    match ← if command.words.isEmpty || goesOn then g.peekCommand else g.peek with
    | .word word =>
      g.advance
      match command.words.isEmpty, assignment? word with
      | true, some assignment =>
        simpleFrom steps { command with assignments := command.assignments ++ [assignment] }
      | _, _ => simpleFrom steps { command with words := command.words ++ [word] }
    | .redirect descriptor operator =>
      g.advance
      let redirect ← g.redirect descriptor operator
      simpleFrom steps { command with redirects := command.redirects ++ [redirect] }
    | _ => return command

/-- The words of a loop. -/
def wordsHere : Nat → Read (List Word)
  | 0 => pure []
  | steps + 1 => do
    match ← g.peek with
    | .word word =>
      g.advance
      return word :: (← wordsHere steps)
    | _ => return []

/-- The patterns of a choice. Whatever stands in the place of one counts as the last word that was
read; what follows it shows that something is wrong. -/
def patternsHere : Nat → Read (List Word)
  | 0 => pure []
  | steps + 1 => do
    let token ← g.peek
    let last := (← get).word
    g.advance
    let pattern := match token with
      | .word word => word
      | _ => last
    if ← g.takeOperator "|" then return pattern :: (← patternsHere steps) else return [pattern]

/-- What ends a list of commands. -/
def endsList (token : Token) : Bool :=
  match token with
  | .stop => true
  | .operator text => text = ")" || text = ";;"
  | token => (token.reserved?.map
      ["then", "else", "elif", "fi", "do", "done", "esac", closingBrace].contains).getD false

def pipeFrom : Nat → Statement → Read Statement
  | 0, first => pure first
  | steps + 1, first => do
    if ← g.takeOperator "|" then
      g.skipNewlines (steps + 1)
      return .pipe first (← pipeFrom steps (← g.command))
    else return first

def pipeline : Read Statement := do
  if (← g.peekCommand).reserved? = some "!" then
    g.advance
    return .negated (← g.pipeFrom (← limit) (← g.command))
  else g.pipeFrom (← limit) (← g.command)

def chainFrom : Nat → Statement → Read Statement
  | 0, first => pure first
  | steps + 1, first => do
    if ← g.takeOperator "&&" then
      g.skipNewlines (steps + 1)
      chainFrom steps (.both first (← g.pipeline))
    else if ← g.takeOperator "||" then
      g.skipNewlines (steps + 1)
      chainFrom steps (.either first (← g.pipeline))
    else return first

def chain : Read Statement := do g.chainFrom (← limit) (← g.pipeline)

/-- A list of commands in a compound command, or on one line. -/
def listFrom (onLine : Bool) : Nat → Read Statement
  | 0 => pure .skip
  | steps + 1 => do
    let first ← g.chain
    let more (statement : Statement) : Read Statement := do
      if !onLine then g.skipNewlines (steps + 1)
      let token ← g.peekCommand
      if endsList token || token.isNewline then return statement
      return .sequence statement (← listFrom onLine steps)
    if ← g.takeOperator ";" then more first
    else if ← g.takeOperator "&" then more (.background first)
    else if (← g.peek).isNewline && !onLine then more first
    else return first

/-- A list of at least one command; at the end of the program nothing is missing here yet. -/
def list : Read Statement := do
  g.skipNewlines (← limit)
  if (← g.peek).isStop then return .skip
  g.listFrom false (← limit)

/-- A list that may have no command. -/
def listOrNone : Read Statement := do
  g.skipNewlines (← limit)
  if endsList (← g.peekCommand) then return .skip
  g.listFrom false (← limit)

def choicesFrom : Nat → Read Statement
  | 0 => pure .skip
  | steps + 1 => do
    g.skipNewlines (steps + 1)
    if (← g.peek).reserved? = some "esac" then
      g.advance
      return .skip
    let _ ← g.takeOperator "("
    let patterns ← g.patternsHere (steps + 1)
    g.expectOperator false ")"
    let body ← g.listOrNone
    if ← g.takeOperator ";;" then return .choice patterns body (← choicesFrom steps)
    else if (← g.peek).reserved? = some "esac" then
      g.advance
      return .choice patterns body .skip
    else g.unexpected true (some "\";;\"")

/-- What follows the condition of an `if`. -/
def branches : Nat → Read Statement
  | 0 => pure .skip
  | steps + 1 => do
    let condition ← g.list
    g.expectWord "then"
    let yes ← g.list
    match (← g.peekCommand).reserved? with
    | some "elif" =>
      g.advance
      return .choose condition yes (← branches steps)
    | some "else" =>
      g.advance
      let no ← g.list
      g.expectWord "fi"
      return .choose condition yes no
    | _ =>
      g.expectWord "fi"
      return .choose condition yes .skip

def loopBody : Read Statement := do
  g.expectWord "do"
  let body ← g.list
  g.expectWord "done"
  return body

def forLoop (line : Nat) : Read Statement := do
  match ← g.peek with
  | .word word =>
    match bareText? word with
    | some name =>
      if !isName name then refuse .badLoopVariable
      g.advance
      g.skipNewlines (← limit)
      let words ← if (← g.peek).reserved? = some "in" then do
          g.advance
          let words ← g.wordsHere (← limit)
          if !(← g.takeOperator ";") then
            if (← g.peek).isNewline then g.advance else g.unexpected false none
          pure (some words)
        else do
          let _ ← g.takeOperator ";"
          pure none
      g.skipNewlines (← limit)
      return .each line name words (← g.loopBody)
    | none => refuse .badLoopVariable
  | _ => refuse .badLoopVariable

/-- A command that starts with a reserved word. -/
def compound (line : Nat) (word : String) : Read Statement := do
  match word with
  | "if" =>
    g.advance
    g.branches (← limit)
  | "while" =>
    g.advance
    return .loop true (← g.list) (← g.loopBody)
  | "until" =>
    g.advance
    return .loop false (← g.list) (← g.loopBody)
  | "for" =>
    g.advance
    g.forLoop line
  | "case" =>
    g.advance
    match ← g.peek with
    | .word word =>
      g.advance
      g.skipNewlines (← limit)
      if (← g.peek).reserved? = some "in" then g.advance
      else g.unexpected true (some "\"in\"")
      return .select line word (← g.choicesFrom (← limit))
    | _ => g.unexpected false (some "word")
  | "\x7b" =>
    g.advance
    let body ← g.list
    g.expectWord closingBrace
    return body
  | _ => g.unexpected true none

/-- A command with other words, or the definition of a function. -/
def simpleOrFunction (line : Nat) : Read Statement := do
  let simple ← g.simpleFrom (← limit) ⟨[], [], []⟩
  match simple, (← g.peek).isOperator "(" with
  | ⟨[], [name], []⟩, true =>
    g.advance
    g.expectOperator false ")"
    match bareText? name with
    | some name =>
      if !isName name || specialNames.contains (String.ofList name) then refuse .badFunctionName
      g.skipNewlines (← limit)
      return .define name (← g.command)
    | none => refuse .badFunctionName
  | ⟨assignments, words, redirects⟩, _ =>
    if assignments.isEmpty && words.isEmpty && redirects.isEmpty then g.unexpected true none
    return .simple line assignments words redirects

def commandHere : Read Statement := do
  let token ← g.peekCommand
  let line := (← get).line
  match token.reserved? with
  | some word =>
    if word = "in" then g.simpleOrFunction line
    else
      let body ← g.compound line word
      match ← g.redirects (← limit) with
      | [] => return body
      | redirects => return .redirected line body redirects
  | none =>
    match token with
    | .word _ => g.simpleOrFunction line
    | .redirect .. => g.simpleOrFunction line
    | .operator "(" =>
      g.advance
      let body ← g.list
      g.expectOperator true ")"
      return .subshell line body (← g.redirects (← limit))
    | _ => g.unexpected true none

end Grammar

/-- Commands that nest at most `depth` deep. -/
def grammarTo : Nat → Grammar
  | 0 =>
    let none : Read Statement := refuse (.unexpected "word" none)
    ⟨⟨none, none⟩, none⟩
  | depth + 1 =>
    let g := grammarTo depth
    let program : Read Statement := do g.listOrNone
    let inner : Read Statement := do
      let body ← g.listOrNone
      g.expectOperator true ")"
      return body
    ⟨⟨inner, program⟩, Grammar.commandHere g⟩

def depthLimit : Nat := 1000

/-- The next complete command, up to the end of its line; `none` at the end of the program. -/
def completeCommand : Read (Option Statement) := do
  let g := grammarTo depthLimit
  g.skipNewlines (← limit)
  if (← g.peek).isStop then return none
  let statement ← g.listFrom true (← limit)
  let token ← g.peek
  if token.isNewline then
    g.advance
    return some statement
  else if token.isStop then return some statement
  else g.unexpected true none

/-- A text as a word between quotes, if it can be one. -/
def promptWord (text : List Char) : Option Word :=
  match ((grammarTo depthLimit).document 1 text).run (.of text []) with
  | .ok (word, _) => some word
  | .error _ => none

end Gutter.Shell
