import Gutter.Tools.Running

/-! The tool that gathers words which come in, and runs a program with some of them at a time. -/

namespace Gutter.Tools

open Machine Shell

namespace Gathering

/-! ### Words -/

/-- A word, and whether its line ends with it. -/
structure Word where
  text : List Char
  ends : Bool
deriving DecidableEq, Repr

inductive WordFault
  | single
  | double
deriving DecidableEq, Repr

/-- Where the reading of a line stands. -/
inductive Mode
  | between
  | inWord
  | quoted (mark : Char)
  | escaped
deriving DecidableEq, Repr

def isSpace (c : Char) : Bool := c = ' ' || ('\t' ≤ c && c ≤ '\r')

def isBlank (c : Char) : Bool := c = ' ' || c = '\t'

/-- The words of a text with quotes and backslashes; with `whole` blanks separate nothing but lines
do. A blank before the end of a line lets it go on. `held` is the present word, the newest character
first, if there is one. -/
def wordsIn (whole : Bool) : Mode → Option (List Char) → Char → List Char →
    List Word × Option WordFault
  | mode, held, _, [] =>
    match mode, held with
    | .quoted mark, _ => ([], some (if mark = '"' then .double else .single))
    | _, some word => ([⟨word.reverse, true⟩], none)
    | _, none => ([], none)
  | mode, held, before, c :: rest =>
    let add (mode : Mode) (c : Char) : List Word × Option WordFault :=
      wordsIn whole mode (some (c :: held.getD [])) c rest
    let stop (ends : Bool) : List Word × Option WordFault :=
      let (words, fault) := wordsIn whole .between none c rest
      match held with
      | some word => (⟨word.reverse, ends⟩ :: words, fault)
      | none => (words, fault)
    match mode with
    | .quoted mark =>
      if c = '\n' then ([], some (if mark = '"' then .double else .single))
      else if c = mark then wordsIn whole .inWord (some (held.getD [])) c rest
      else add mode c
    | .escaped => add .inWord c
    | _ =>
      if mode = .between && isSpace c then wordsIn whole .between none c rest
      else if c = '\n' then stop (!isBlank before)
      else if !whole && isBlank c then stop false
      else if c = '\\' then wordsIn whole .escaped held c rest
      else if c = '\'' || c = '"' then wordsIn whole (.quoted c) held c rest
      else add .inWord c

/-- Words that a mark separates. -/
def wordsBetween (mark : Char) (text : List Char) : List Word :=
  (linesBy mark text).1.map fun word => ⟨word, true⟩

/-! ### Options -/

/-- How words are gathered: how many of them or of lines make a command, what stands for a line in
it, how long it may be, and whether it must not be shortened for that. -/
structure Manner where
  perRun : Option Nat := none
  perLine : Option Nat := none
  replaced : Option (List Char) := none
  mark : Option Char := none
  last : Option (List Char) := none
  room : Nat := 131072
  exact : Bool := false
  traces : Bool := false
  asks : Bool := false
  always : Bool := true
  file : Option (List Char) := none

/-- The number that an option needs; otherwise the tool ends with a status. -/
def numberFor (letter : Char) (least : Nat) (most : Option Nat) (text : List Char) :
    Act (Except Nat Nat) := do
  let value (what : String) : List (List Char) :=
    ["value ".toList, text, " for -".toList, [letter], " option should be ".toList, what.toList]
  match Number.leadingInteger? (some 10) text with
  | some (n, []) =>
    if n < least then
      warn (value s!">= {least}")
      if letter = 's' then return .ok least
      tryHelp
      return .error 1
    match most with
    | some most =>
      if (most : Int) < n then
        warn (value s!"<= {most}")
        return .ok most
      return .ok n.toNat
    | none => return .ok n.toNat
  | _ =>
    warn ["invalid number \"".toList, text, "\" for -".toList, [letter], " option".toList]
    tryHelp
    return .error 1

/-- Says that an option takes the place of another one. -/
def exclude (isThere : Bool) (old new : String) : Act Unit := do
  if isThere then
    warn [s!"warning: options {old} and {new} are mutually exclusive, ".toList,
      s!"ignoring previous {old} value".toList]

/-- The mark between words that a text writes. -/
def markOf (text : List Char) : Act (Except Nat Char) := do
  match text with
  | [c] => return .ok c
  | '\\' :: c :: rest =>
    match if c = 'e' then none else controlEscape? c, rest with
    | some char, [] => return .ok char
    | _, _ =>
      let (base, digits) := if c = 'x' then (16, rest) else (8, c :: rest)
      let fits := digits.all fun d => if base = 16 then Text.isHexDigit d else isOctalDigit d
      if !digits.isEmpty && fits then
        let n := if base = 16 then Text.hexValue digits else Text.valueOfDigits 8 digits
        if n < 256 then return .ok (Char.ofNat n)
      warn ["Invalid escape sequence ".toList, text, " in input delimiter specification.".toList]
      return .error 1
  | _ =>
    warn ["Invalid input delimiter specification ".toList, text, ": the delimiter must be either ".toList,
      "a single character or an escape sequence starting with \\.".toList]
    return .error 1

/-- The most that can be asked for as the length of a command. -/
def mostRoom : Nat := 2092974

/-- The manner after one more option. -/
def take (m : Manner) (g : Given) : Act (Except Nat Manner) := do
  let counted (least : Nat) (most : Option Nat) (f : Nat → Manner) : Act (Except Nat Manner) := do
    return (← numberFor g.letter least most g.value).map f
  let byLines (name : String) (f : Nat → Manner) : Act (Except Nat Manner) := do
    exclude m.perRun.isSome "--max-args" name
    exclude m.replaced.isSome "--replace" name
    if g.letter = 'l' && g.value.isEmpty then return .ok (f 1) else counted 1 none f
  let replacing (text : List Char) : Act (Except Nat Manner) := do
    let name := "--replace/-I/-i"
    exclude m.perRun.isSome "--max-args" name
    exclude m.perLine.isSome "--max-lines" name
    return .ok { m with replaced := some text, perRun := none, perLine := none }
  match g.letter with
  | '0' => return .ok { m with mark := some '\x00' }
  | 'd' => return (← markOf g.value).map fun mark => { m with mark := some mark }
  | 'E' => return .ok { m with last := if g.value.isEmpty then none else some g.value }
  | 'e' => return .ok { m with last := if g.value.isEmpty then none else some g.value }
  | 'I' => replacing g.value
  | 'i' => replacing (if g.value.isEmpty then ['\x7b', '\x7d'] else g.value)
  | 'L' => byLines "-L" fun n => { m with perLine := some n, perRun := none, replaced := none }
  | 'l' =>
    byLines "--max-lines/-l" fun n =>
      { m with perLine := some n, perRun := none, replaced := none, exact := true }
  | 'n' =>
    match ← numberFor 'n' 1 none g.value with
    | .error status => return .error status
    | .ok n =>
      if n = 1 && m.replaced.isSome then return .ok m
      let name := "--max-args/-n"
      exclude m.perLine.isSome "--max-lines" name
      exclude m.replaced.isSome "--replace" name
      return .ok { m with perRun := some n, perLine := none, replaced := none }
  | 's' => counted 1 (some mostRoom) fun n => { m with room := n }
  | 'P' => counted 0 none fun _ => m
  | 'p' => return .ok { m with asks := true, traces := true }
  | 't' => return .ok { m with traces := true }
  | 'r' => return .ok { m with always := false }
  | 'x' => return .ok { m with exact := true }
  | 'a' => return .ok { m with file := some g.value }
  | _ => return .ok m

def options : Options :=
  ⟨"0a:d:E:e::I:i::L:l::n:opP:rs:tx", [("null", '0'), ("arg-file", 'a'), ("delimiter", 'd'),
    ("replace", 'i'), ("max-lines", 'l'), ("max-args", 'n'), ("no-run-if-empty", 'r'),
    ("verbose", 't'), ("interactive", 'p'), ("open-tty", 'o'), ("exit", 'x'), ("max-procs", 'P'),
    ("max-chars", 's'), ("eof", 'e')], false⟩

/-! ### Commands -/

/-- A command that is gathered: its words after the first ones, the newest first, their size, how many
lines they are from, the command that was started last and has not been looked at, the status so far,
whether a command has run, and whether more are run. -/
structure Progress where
  words : List (List Char) := []
  size : Nat
  lines : Nat := 0
  started : Option (List (List Char)) := none
  status : Nat := 0
  ran : Bool := false
  goesOn : Bool := true

/-- A status beyond those of programs tells that there was none to run. -/
def unfit : Nat := 1000

/-- What has become of a program: the status so far, and whether more are run. -/
def afterRun (name : List Char) (ended : Option (Nat × Ending)) (status : Nat) : Act (Nat × Bool) := do
  match ended with
  | none => throw .overdue
  | some (time, ending) =>
    waitUntil (some (max time (← self).clock))
    match ending with
    | .code 0 => return (status, true)
    | .code 255 =>
      warn [name, ": exited with status 255; aborting".toList]
      return (124, false)
    | .code n => return if unfit < n then (n - unfit, false) else (123, true)
    | .signal n =>
      warn [name, s!": terminated by signal {n}".toList]
      return (125, false)

/-- The size of words in a command. -/
def sizeIn (words : List (List Char)) : Nat := words.foldl (fun n word => n + word.length + 1) 0

/-- Runs a command. -/
def runWords (worker : Worker) (m : Manner) (words : List (List Char)) (status : Nat) :
    Act (Nat × Bool) := do
  let name := words.headD []
  let beside (p : Process) : Process :=
    if m.file.isSome then p else { p with channels := (0, .sink) :: p.channels.filter (·.1 ≠ 0) }
  let ended ← spawn worker beside words fun fault => do
    warn [name, ": ".toList, faultName fault]
    throw (.ends (.code (unfit + if fault = .notFound then 127 else 126)))
  afterRun name ended status

abbrev Gathers := StateT Progress Act

/-- Waits for the command that was started last. -/
def finish (worker : Worker) (m : Manner) : Gathers Unit := do
  let p ← get
  if let some words := p.started then
    let (status, goesOn) ← runWords worker m words p.status
    modify fun p => { p with started := none, status, goesOn := p.goesOn && goesOn }

/-- Stops with a complaint, which comes before what the command that was started last prints. -/
def stop (worker : Worker) (m : Manner) (text : String) : Gathers Unit := do
  warn [text.toList]
  finish worker m
  modify fun p => { p with status := 1, goesOn := false }

/-- Starts a command after the one before it. -/
def startWords (worker : Worker) (m : Manner) (words : List (List Char)) : Gathers Unit := do
  finish worker m
  if (← get).goesOn then
    if m.traces then
      let wide ← isWide
      let shown := words.map fun word => shellName wide false word
      write 2 ((shown.intersperse [' ']).flatten ++ if m.asks then [] else ['\n'])
    if m.asks then
      stop worker m "failed to open /dev/tty for reading: No such device or address"
    else modify fun p => { p with started := some words, ran := true }

/-- Starts the gathered command. -/
def run (worker : Worker) (m : Manner) (command : List (List Char)) : Gathers Unit := do
  let words := (← get).words
  modify fun p => { p with words := [], size := sizeIn command }
  startWords worker m (command ++ words.reverse)

/-- Starts what was gathered before something was found to be wrong. -/
def runBefore (worker : Worker) (m : Manner) (command : List (List Char)) : Gathers Unit := do
  if !(← get).words.isEmpty && !m.exact then run worker m command

/-- Makes room for a word, or stops. -/
def makeRoom (worker : Worker) (m : Manner) (command : List (List Char)) (size : Nat) :
    Gathers Unit := do
  if m.mark.isNone && m.room < sizeIn command + size then
    runBefore worker m command
    if (← get).goesOn then stop worker m "argument line too long"
  else if m.room < (← get).size + size then
    if (← get).words.isEmpty then
      stop worker m "cannot fit single argument within argument list size limit"
    else if m.exact && (m.perRun.isSome || m.perLine.isSome) then
      stop worker m "argument list too long"
    else run worker m command

/-- Adds one word. -/
def add (worker : Worker) (m : Manner) (command : List (List Char)) (word : Word) : Gathers Unit := do
  makeRoom worker m command (word.text.length + 1)
  if (← get).goesOn then
    modify fun p => { p with words := word.text :: p.words, size := p.size + word.text.length + 1 }
    if m.perRun.any (· ≤ (← get).words.length) then run worker m command
    if word.ends then
      modify fun p => { p with lines := p.lines + 1 }
      if m.perLine.any (· ≤ (← get).lines) then
        if (← get).goesOn then run worker m command
        modify fun p => { p with lines := 0 }

/-- Starts a command in which a line stands for some text. -/
def replaceIn (worker : Worker) (m : Manner) (command : List (List Char)) (old : List Char)
    (word : Word) : Gathers Unit := do
  let filled := command.take 1 ++ (command.drop 1).map fun part =>
    replaceAll old word.text (part.length + 1) part
  if m.room < sizeIn filled then stop worker m "argument list too long"
  else startWords worker m filled

/-- Gathers words, and tells what is wrong with what comes after them. -/
def gather (worker : Worker) (m : Manner) (command : List (List Char)) (words : List Word)
    (fault : Option WordFault) : Gathers Unit := do
  for word in words do
    if (← get).goesOn then
      match m.replaced with
      | none => add worker m command word
      | some old => replaceIn worker m command old word
  if (← get).goesOn then
    match fault with
    | some fault =>
      if m.replaced.isNone then runBefore worker m command
      if (← get).goesOn then
        let kind := if fault = .single then "single" else "double"
        stop worker m (s!"unmatched {kind} quote; by default quotes are special to xargs unless "
          ++ "you use the -0 option")
    | none =>
      let p ← get
      if m.replaced.isNone && (!p.words.isEmpty || (m.always && !p.ran)) then run worker m command
  finish worker m

/-- The tool with its options read. -/
def gatherWith (worker : Worker) (c : Choice) : Act Nat := do
  let mut m : Manner := {}
  for g in c.given do
    match ← take m g with
    | .ok more => m := more
    | .error status => return status
  if m.last.isSome && m.mark.isSome then
    warn ["warning: the -E option has no effect if -0 or -d is used.".toList, ['\n']]
  let command := if c.operands.isEmpty then ["echo".toList] else c.operands
  let input ← match m.file with
    | some path =>
      match ← bytesAt path with
      | .ok bytes => pure bytes
      | .error fault =>
        warn ["Cannot open input file ".toList, ← quoted path, ": ".toList, faultName fault]
        return 1
    | none => pure ((← inputOf ['-']).getD [])
  if m.room < sizeIn command && m.replaced.isNone then
    warn ["cannot fit single argument within argument list size limit".toList]
    return 1
  let (words, fault) : List Word × Option WordFault := match m.mark with
    | some mark => (wordsBetween mark input, none)
    | none => wordsIn m.replaced.isSome .between none '\n' input
  let (words, fault) := match m.last with
    | some last =>
      if m.mark.isSome then (words, fault)
      else
        let kept := words.takeWhile fun (word : Word) => word.text ≠ last
        (kept, if kept.length < words.length then none else fault)
    | none => (words, fault)
  if m.mark.isNone && words.any fun (word : Word) => word.text.contains '\x00' then
    warn ["WARNING: a NUL character occurred in the input.  It cannot be passed through in the ".toList,
      "argument list.  Did you mean to use the --null option?".toList]
  let words := words.map fun (word : Word) =>
    { word with text := word.text.takeWhile (· ≠ '\x00') }
  let (_, progress) ← (gather worker m command words fault).run { size := sizeIn command }
  return progress.status

end Gathering

def xargs (worker : Worker) : Tool := withOptions Gathering.options 1 (Gathering.gatherWith worker)

end Gutter.Tools
