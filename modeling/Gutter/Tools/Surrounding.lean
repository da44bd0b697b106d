import Gutter.Tools.Running

/-! Tools that run a program in other surroundings: with other variables, in another place, or with
signals that mean nothing. -/

namespace Gutter.Tools

open Machine Shell

/-! ### Words in one argument -/

namespace Splitting

/-- What is wrong with a text that is split into words. -/
inductive Fault
  | open_
  | backslash
  | sequence (c : Char)
  | stopInQuotes
  | variable (text : List Char)
deriving DecidableEq, Repr

/-- The name of a variable in braces, and what follows it. -/
def braced? (text : List Char) : Option (List Char × List Char) :=
  match text with
  | '\x7b' :: rest =>
    let name := rest.takeWhile fun c => c.isAlphanum || c = '_'
    match name, rest.drop name.length with
    | c :: _, '\x7d' :: after => if c.isDigit then none else some (name, after)
    | _, _ => none
  | _ => none

/-- Splits a text into words. `held` is the present word, the newest character first, and `quote` the
quote that is open. -/
def words (value : List Char → Option (List Char)) : Nat → Option Char → Option (List Char) →
    List Char → Except Fault (List (List Char))
  | 0, _, _, _ => .ok []
  | _, quote, held, [] =>
    if quote.isSome then .error .open_ else .ok (held.map List.reverse).toList
  | limit + 1, quote, held, c :: rest =>
    let add (c : Char) (rest : List Char) : Except Fault (List (List Char)) :=
      words value limit quote (some (c :: held.getD [])) rest
    let stop (rest : List Char) : Except Fault (List (List Char)) := do
      return (held.map List.reverse).toList ++ (← words value limit none none rest)
    if c = '\'' && quote ≠ some '"' then
      words value limit (if quote.isSome then none else some c) (some (held.getD [])) rest
    else if c = '"' && quote ≠ some '\'' then
      words value limit (if quote.isSome then none else some c) (some (held.getD [])) rest
    else if (c = ' ' || ('\t' ≤ c && c ≤ '\r')) && quote.isNone then stop rest
    else if c = '#' && held.isNone && quote.isNone then .ok []
    else if c = '\\' then
      match rest with
      | [] => .error .backslash
      | next :: after =>
        if quote = some '\'' && next ≠ '\\' && next ≠ '\'' then add c rest
        else
          match next with
          | '_' => if quote.isSome then add ' ' after else stop after
          | 'c' =>
            if quote.isSome then .error .stopInQuotes else .ok (held.map List.reverse).toList
          | 'f' => add '\x0c' after
          | 'n' => add '\n' after
          | 'r' => add '\r' after
          | 't' => add '\t' after
          | 'v' => add '\x0b' after
          | _ =>
            if ['"', '#', '$', '\'', '\\'].contains next then add next after
            else .error (.sequence next)
    else if c = '$' && quote ≠ some '\'' then
      match braced? rest with
      | none => .error (.variable (c :: rest))
      | some (name, after) =>
        match value name with
        | none => words value limit quote held after
        | some text => words value limit quote (some (text.reverse ++ held.getD [])) after
    else add c rest

def Fault.tell (fault : Fault) : Act Unit := do
  match fault with
  | .open_ => warn ["no terminating quote in -S string".toList]
  | .backslash => warn ["invalid backslash at end of string in -S".toList]
  | .sequence c => warn ["invalid sequence '\\".toList, [c], "' in -S".toList]
  | .stopInQuotes => warn ["'\\c' must not appear in double-quoted -S string".toList]
  | .variable text =>
    warn ["only $\x7bVARNAME\x7d expansion is supported, error at: ".toList, text]

/-- An argument that is split: what stands before it in its group of letters, its text, and the
arguments after it. -/
def split? (arguments : List (List Char)) : Option (List Char × List Char × List (List Char)) :=
  match arguments with
  | ('-' :: '-' :: word) :: rest =>
    let name := word.takeWhile (· ≠ '=')
    if !name.isEmpty && name.isPrefixOf "split-string".toList then
      match word.drop name.length, rest with
      | _ :: text, rest => some ([], text, rest)
      | [], text :: rest => some ([], text, rest)
      | [], [] => none
    else none
  | ('-' :: letters) :: rest =>
    let before := letters.takeWhile fun c => !(['S', 'u', 'C'].contains c)
    match letters.drop before.length, rest with
    | ['S'], text :: rest => some (before, text, rest)
    | 'S' :: text, rest => if text.isEmpty then none else some (before, text, rest)
    | _, _ => none
  | _ => none

/-- Splits what has to be split among the options; otherwise the tool ends with a status. `tells`
asks for an account of it. -/
def expand (value : List Char → Option (List Char)) : Nat → Bool → List (List Char) →
    Act (Except Nat (List (List Char)))
  | 0, _, arguments => return .ok arguments
  | limit + 1, tells, arguments => do
    match split? arguments with
    | some (before, text, rest) =>
      let tells := tells || before.contains 'v'
      match words value (text.length + 1) none none text with
      | .error fault =>
        fault.tell
        return .error 125
      | .ok parts =>
        if tells then
          write 2 ("split -S:  ".toList ++ (← quoted text) ++ ['\n'])
          for (part, n) in parts.zipIdx do
            let start := if n = 0 then " into:    " else "     &    "
            write 2 (start.toList ++ (← quoted part) ++ ['\n'])
        let group := if before.isEmpty then [] else ['-' :: before]
        match ← expand value limit tells (parts ++ rest) with
        | .ok all => return .ok (group ++ all)
        | .error status => return .error status
    | none =>
      match arguments with
      | ('-' :: letter :: letters) :: rest =>
        if letter = '-' && letters.isEmpty then return .ok arguments
        let takesNext := letters.isEmpty && (letter = 'u' || letter = 'C')
        let own := if takesNext then arguments.take 2 else arguments.take 1
        let others := if takesNext then rest.drop 1 else rest
        let isShort := letter ≠ '-'
        let tells := tells || (isShort && (letter :: letters).contains 'v')
        match ← expand value limit tells others with
        | .ok all => return .ok (own ++ all)
        | .error status => return .error status
      | _ => return .ok arguments

end Splitting

/-! ### Other surroundings -/

def printAll (finish : Char) : Act Nat := do
  for (name, value) in (← self).exported do put (name ++ '=' :: value ++ [finish])
  return 0

/-- Sets variables, perhaps telling it, and gives the words after them. -/
def setAll (tells : Bool) : List (List Char) → Act (List (List Char))
  | [] => pure []
  | word :: rest => do
    match word.span (· ≠ '=') with
    | (name, '=' :: value) =>
      if tells then write 2 ("setenv:   ".toList ++ word ++ ['\n'])
      putVariable name ⟨some value, true, false⟩
      setAll tells rest
    | _ => return word :: rest

/-- Goes to a directory. -/
def goTo (path : List Char) : Act (Option Files.Fault) := do
  match (← get).files.locate (textOf path) with
  | .ok (place, some .directory) =>
    updateSelf fun p => { p with place }
    changeFiles fun files => { files with place }
    return none
  | .ok (_, some _) => return some .notDirectory
  | .ok (_, none) => return some .notFound
  | .error fault => return some fault

/-- The numbers of the signals in a list, or of all; a wrong name is given back. -/
def signalsOf (text : List Char) : Except (List Char) (List Nat) :=
  if text.isEmpty then .ok ((List.range 32).drop 1)
  else (Text.splitOn ',' text).mapM fun name =>
    let bare := if "SIG".toList.isPrefixOf name then name.drop 3 else name
    match Signal.number? 1 bare with
    | some n => .ok n
    | none => .error name

def envOptions : Options :=
  ⟨"iu:0C:S:vα::β::γ::δ", [("ignore-environment", 'i'), ("unset", 'u'), ("null", '0'), ("chdir", 'C'),
    ("split-string", 'S'), ("debug", 'v'), ("ignore-signal", 'α'), ("default-signal", 'β'),
    ("block-signal", 'γ'), ("list-signal-handling", 'δ')], false⟩

/-- Lets signals mean nothing, or tells which they are. -/
def handleSignals (c : Choice) : Act (Option Nat) := do
  for g in c.given.filter fun g => ['α', 'β', 'γ'].contains g.letter do
    match signalsOf g.value with
    | .error name => return some (← misuse 125 [← quoted name, ": invalid signal".toList])
    | .ok numbers =>
      let others (p : Process) : List (Nat × List Char) :=
        p.traps.filter fun trap => !numbers.contains trap.1
      if g.letter = 'α' then
        updateSelf fun p => { p with traps := numbers.map (·, []) ++ others p }
      else if g.letter = 'β' then updateSelf fun p => { p with traps := others p }
  if c.has 'δ' then
    for (number, text) in (← self).traps.mergeSort fun a b => a.1 ≤ b.1 do
      if text.isEmpty && number ≠ 0 then
        let name := (Signal.name number).toList
        write 2 (name ++ List.replicate (10 - name.length) ' ' ++ " (".toList
          ++ aligned 2 (digits number) ++ "): IGNORE\n".toList)
  return none

def envWith (worker : Worker) (c : Choice) : Act Nat := do
  let wide ← isWide
  let finish := if c.has '0' then '\x00' else '\n'
  let tells := c.has 'v'
  let account (text : List Char) : Act Unit := do
    if tells then write 2 (text ++ ['\n'])
  let (clears, words) := match c.operands with
    | ['-'] :: rest => (true, rest)
    | words => (c.has 'i', words)
  if clears then
    account "cleaning environ".toList
    updateSelf fun p => { p with vars := [] }
  else
    for name in c.values 'u' do
      account ("unset:    ".toList ++ name)
      if name.isEmpty || name.contains '=' then
        warn ["cannot unset ".toList, ← quoted name, ": Invalid argument".toList]
        return 125
      dropVariable name
  match ← setAll tells words with
  | [] =>
    if c.has 'C' then misuse 125 ["must specify command with --chdir (-C)".toList]
    else printAll finish
  | words =>
    if finish = '\x00' then return ← misuse 125 ["cannot specify --null (-0) with command".toList]
    if let some status ← handleSignals c then return status
    if let some path := c.value? 'C' then
      account ("chdir:    ".toList ++ (← named path))
      if let some fault ← goTo path then
        warn ["cannot change directory to ".toList, ← named path, ": ".toList, faultName fault]
        return 125
    account ("executing: ".toList ++ words.headD [])
    for (word, n) in words.zipIdx do
      account ("   arg[".toList ++ digits n ++ "]= ".toList ++ inQuotes wide word)
    let fault ← become worker words
    cannotRun "" (inQuotes wide (words.headD [])) fault

def env (worker : Worker) : Tool := fun arguments => do
  let exported := (← self).exported
  match ← Splitting.expand (fun name => exported.lookup name) (arguments.length + 100) false arguments with
  | .error status => return status
  | .ok arguments => withOptions envOptions 125 (envWith worker) arguments

def nohup (worker : Worker) : Tool := withOptions ⟨"", [], false⟩ 125 fun c => do
  if c.operands.isEmpty then missingOperand 125
  else
    updateSelf fun p => { p with traps := (1, []) :: p.traps }
    let name := c.operands.headD []
    let fault ← become worker c.operands
    cannotRun "failed to run command " (← named name) fault

/-- Digits after a dash are an adjustment. -/
def withAdjustment (arguments : List (List Char)) : List (List Char) :=
  match arguments with
  | ('-' :: text) :: rest =>
    let digits := (Number.leadingSign text).2
    if !digits.isEmpty && digits.all Char.isDigit && text.head?.any (fun c => c = '-' || c.isDigit) then
      ['-', 'n'] :: text :: rest
    else arguments
  | _ => arguments

def niceBy (worker : Worker) : Tool :=
    withOptions ⟨"n:", [("adjustment", 'n')], false⟩ 125 fun c => do
  let adjustment ← match c.value? 'n' with
    | some text =>
      match Number.leadingInteger? (some 10) text with
      | some (n, []) => pure n
      | _ =>
        warn ["invalid adjustment ".toList, ← quoted text]
        return 125
    | none => pure (10 : Int)
  if c.operands.isEmpty then
    if c.has 'n' then misuse 125 ["a command must be given with an adjustment".toList]
    else
      let n := (← self).niceness
      putLine ((if n < 0 then ['-'] else []) ++ digits n.natAbs)
      return 0
  else
    updateSelf fun p => { p with niceness := max (-20) (min 19 (p.niceness + adjustment)) }
    let fault ← become worker c.operands
    cannotRun "" (← quoted (c.operands.headD [])) fault

def nice (worker : Worker) : Tool := fun arguments => niceBy worker (withAdjustment arguments)

/-- Runs a program whose output is collected in another way, which nobody can see. -/
def stdbuf (worker : Worker) : Tool :=
    withOptions ⟨"i:o:e:", [("input", 'i'), ("output", 'o'), ("error", 'e')], false⟩ 125 fun c => do
  for g in c.given do
    if g.value = ['L'] && g.letter = 'i' then
      return ← misuse 125 ["line buffering stdin is meaningless".toList]
    let digits := g.value.takeWhile Char.isDigit
    let letters := g.value.drop digits.length
    let isSize := !digits.isEmpty && (letters.length ≤ 2) && letters.all Char.isAlpha
    if g.value ≠ ['L'] && !isSize then
      warn ["invalid mode ".toList, ← quoted g.value]
      return 125
  if c.operands.isEmpty then return ← missingOperand 125
  if c.given.isEmpty then return ← misuse 125 ["you must specify a buffering mode option".toList]
  let fault ← become worker c.operands
  cannotRun "failed to run command " (← quoted (c.operands.headD [])) fault

/-- Runs a program in a session of its own. -/
def setsid (worker : Worker) : Tool :=
    withOptions ⟨"cfw", [("ctty", 'c'), ("fork", 'f'), ("wait", 'w')], false⟩ 1 fun c => do
  match c.operands with
  | [] => misuse 1 ["no command specified".toList]
  | name :: _ =>
    let fault ← become worker c.operands
    cannotRun "failed to execute " name fault

end Gutter.Tools
