import Gutter.Tools.Awk.Job

/-! Programs at work: what expressions are worth, and what statements do. -/

namespace Gutter.Tools.Awk

open Machine
open Number (Binary64)

/-- What a program needs from around it. -/
structure Setting where
  worker : Worker
  program : Program

/-! ### The lines that rules work on -/

def counted (name : String) : Run Unit := do
  let old ← scalar name.toList
  putScalar name.toList (.number (old.toNumber.add (.ofNat 1)))

def isDirectoryText : List Char := "read error (Is a directory)".toList

def openMain (path : List Char) (name : List Char) : Run Unit := do
  putScalar "FILENAME".toList (.text name)
  match ← linesIn path with
  | .ok lines =>
    putScalar "FNR".toList (.ofNat 0)
    modify fun job => { job with main := { job.main with lines := some lines, used := true } }
  | .error .isDirectory => throw (.fault isDirectoryText)
  | .error fault => throw (.fault (cannotOpen path fault))

/-- Opens the next file among the arguments; without any, what comes in is read. -/
def openNextMain : Nat → Run Bool
  | 0 => pure false
  | limit + 1 => do
    let main := (← get).main
    let count := (← scalar "ARGC".toList).toNumber.toInt
    if count ≤ main.next then
      if main.used then return false
      openMain ['-'] ['-']
      return true
    modify fun job => { job with main := { main with next := main.next + 1 } }
    let index ← tableNamed "ARGV".toList
    let key : Key := .number main.next
    let there ← withTable index (·.has key)
    let text ← if there then textFor (← withTable index (·.get key)) else pure []
    if text.isEmpty then openNextMain limit
    else
      match assignment? text with
      | some (name, value) =>
        setVariable (.named name) (.ofInput (unescaped value))
        openNextMain limit
      | none =>
        openMain text text
        return true

/-- The next line that rules work on. -/
def nextMain : Nat → Run (Option (List Char))
  | 0 => pure none
  | limit + 1 => do
    let main := (← get).main
    if main.ended then return none
    match main.lines with
    | some lines =>
      let (record, lines) ← recordFrom lines
      match record with
      | some text =>
        modify fun job => { job with main := { job.main with lines := some lines } }
        counted "NR"
        counted "FNR"
        return some text
      | none =>
        modify fun job => { job with main := { job.main with lines := none } }
        nextMain limit
    | none =>
      let limits := (← scalar "ARGC".toList).toNumber.toInt.toNat + 2
      if ← openNextMain limits then nextMain limit
      else
        modify fun job => { job with main := { job.main with ended := true } }
        return none

/-- The most files of which lines are read one after another. -/
def fileLimit : Nat := 100000

/-! ### Other lines -/

/-- What is read of a file or a command, which is opened if it is new; `none` tells that it cannot
be opened. -/
def sourceOf (s : Setting) (isCommand : Bool) (name : List Char) : Run (Option Source) := do
  let job ← get
  match job.sources.find? fun source => source.isCommand = isCommand && source.name = name with
  | some source => return some source
  | none =>
    if isCommand then
      flushAll
      let (text, ending) ← doing (shellRun s.worker "/bin/sh" name)
      return some ⟨name, true, .ofBytes '\n' text, endingNumber ending⟩
    else
      match ← linesIn name with
      | .ok lines => return some ⟨name, false, lines, 0⟩
      | .error .isDirectory => throw (.fault isDirectoryText)
      | .error _ => return none

/-- The next line of a file or a command; `none` tells that there is no file. -/
def sourceLine (s : Setting) (isCommand : Bool) (name : List Char) :
    Run (Option (Option (List Char))) := do
  match ← sourceOf s isCommand name with
  | none => return none
  | some source =>
    let (record, lines) ← recordFrom source.lines
    modify fun job =>
      let others := job.sources.filter fun s => !(s.isCommand = isCommand && s.name = name)
      { job with sources := { source with lines } :: others }
    return some record

/-- Closes what has a name; the number tells how it ended, and is negative if nothing has it. -/
def closeNamed (s : Setting) (name : List Char) : Run Int := do
  let job ← get
  let sinks := job.sinks.filter (·.name = name)
  let sources := job.sources.filter (·.name = name)
  set { job with
    sinks := job.sinks.filter (·.name ≠ name), sources := job.sources.filter (·.name ≠ name) }
  let mut result : Int := -1
  for source in sources do result := source.status
  for sink in sinks do result := (← closeSink s.worker sink)
  return result

/-! ### Functions that are there -/

def arithmetic (op : Arithmetic) (x y : Binary64) : Binary64 :=
  match op with
  | .add => x.add y
  | .sub => x.sub y
  | .mul => x.mul y
  | .div => x.div y
  | .rem => x.rem y
  | .pow => x.pow y

/-- The nearest whole number; a half goes to the even neighbour. -/
def nearest (x : Binary64) : Int :=
  match x with
  | .finite negative .. =>
    let (num, den) := x.ratio
    let n : Int := Number.roundQuotient num den
    if negative then -n else n
  | x => boundedInt (-0x7fffffff) 0x7fffffff x

/-- The part of a text from a place on, which is counted from one, and of a length. -/
def part (text : List Char) (start : Binary64) (length : Option Binary64) : List Char :=
  let size : Int := text.length
  let first := nearest start
  let last := match length with
    | none => size + 1
    | some length => min (size + 1) (nearest (start.add length))
  let from_ := max 1 first
  if last ≤ from_ then [] else (text.drop (from_ - 1).toNat).take (last - from_).toNat

/-- Where a part stands in a text, counted from one. -/
def placeOf (part : List Char) : Nat → List Char → Nat
  | _, [] => 0
  | place, c :: rest =>
    if part.isPrefixOf (c :: rest) then place else placeOf part (place + 1) rest

/-- Seconds of a time that is written as six numbers; minus one if it is not. -/
def secondsOf (text : List Char) : Int :=
  let words := (Text.splitOn ' ' text).filter (!·.isEmpty)
  match words.mapM fun word => (Number.leadingInteger? (some 10) word).map (·.1) with
  | some (year :: month :: day :: hour :: minute :: second :: _) =>
    (daysOfDate year month.toNat 1 + day - 1) * 86400 + hour * 3600 + minute * 60 + second
  | _ => -1

def secondsNow : Run Int := do
  return (← doing present).seconds

/-- What a function makes of its values. -/
def applied (s : Setting) (b : Builtin) (values : List Value) : Run Value := do
  let first := values.headD .unset
  let second := (values.drop 1).headD .unset
  let x := first.toNumber
  match b with
  | .length => return .ofNat (← textFor first).length
  | .substr =>
    let text ← textFor first
    return .text (part text second.toNumber ((values[2]?).map (·.toNumber)))
  | .index =>
    let text ← textFor first
    let part ← textFor second
    return .ofNat (if part.isEmpty then 1 else placeOf part 1 text)
  | .sprintf =>
    let format ← textFor first
    let (text, fault) :=
      printValues (← scalarText "CONVFMT") (format.length + 1) 1 format (values.drop 1)
    match fault with
    | none => return .text text
    | some fault =>
      runFault (fault.text ++ "sprintf(\"".toList ++ format ++ "\")".toList)
  | .sin => return .number x.sin
  | .cos => return .number x.cos
  | .atan2 => return .number (x.atan2 second.toNumber)
  | .exp => return .number x.exp
  | .log => return .number x.log
  | .sqrt => return .number x.sqrt
  | .int => return .number x.trunc
  | .rand =>
    let (n, random) := (← get).random.next
    modify fun job => { job with random }
    return .number ((Binary64.ofNat n).div (.ofNat 0x7fffffff))
  | .srand =>
    let seed ← if values.isEmpty then do pure (Value.ofInt (← secondsNow)) else pure first
    let old := (← get).seed
    let n := (boundedInt (-topInteger) topInteger seed.toNumber % 0x100000000).toNat
    modify fun job => { job with seed, random := .ofSeed n }
    return old
  | .close => return .ofInt (← closeNamed s (← textFor first))
  | .system =>
    flushAll
    let command ← textFor first
    let ending ← doing do endingOf (← runShell s.worker "sh" id command)
    return .ofNat (endingNumber ending)
  | .toupper => return .text ((← textFor first).map Char.toUpper)
  | .tolower => return .text ((← textFor first).map Char.toLower)
  | .fflush =>
    flushAll
    if values.isEmpty then return .ofNat 0
    let name ← textFor first
    return .ofInt (if (← get).sinks.any (·.name = name) then 0 else -1)
  | .systime => return .ofInt (← secondsNow)
  | .strftime =>
    let format ← if values.isEmpty then pure "%c".toList else textFor first
    let seconds ← if values.length < 2 then secondsNow else pure second.toNumber.toInt
    let zone ← doing zone
    return .text ((Instant.clock zone ⟨seconds, 0⟩).format format)
  | .mktime => return .ofInt (secondsOf (← textFor first))

/-! ### Expressions and statements -/

/-- Something that has a value and gets another one. -/
inductive Address
  | variable (v : Variable)
  | element (table : Nat) (key : Key)
  | field (number : Int)

def valueAt (a : Address) : Run Value := do
  match a with
  | .variable v => variableValue v
  | .element table key => withTable table (·.get key)
  | .field number => fieldValue number

def putAt (a : Address) (x : Value) : Run Unit := do
  match a with
  | .variable v => setVariable v x
  | .element table key => changeTable table (·.set key x)
  | .field number => setField number x

/-- The variable that an argument is. -/
def Expr.variable? : Expr → Option Variable
  | .variable v => some v
  | _ => none

/-- The body of a loop; whether the loop goes on after it. -/
def inLoop (body : Run Unit) : Run Bool := do
  step
  tryCatch (do body; return true) fun halt =>
    match halt with
    | .breaks => return false
    | .continues => return true
    | halt => throw halt

/-- What a program prints, where it is to go. -/
def output (where_ : Option (Redirection × List Char)) (bytes : List Char) : Run Unit :=
  match where_ with
  | none => toOutput bytes
  | some (kind, name) => send kind name bytes

/-- Prints values, or what a format makes of them. -/
def print (formatted : Bool) (values : List Value) (where_ : Option (Redirection × List Char)) :
    Run Unit := do
  if formatted then
    let format ← textFor (values.headD .unset)
    let (text, fault) :=
      printValues (← scalarText "CONVFMT") (format.length + 1) 1 format (values.drop 1)
    output where_ text
    match fault with
    | none => pure ()
    | some fault => runFault (fault.text ++ "printf(\"".toList ++ format ++ "\")".toList)
  else
    let finish ← scalarText "ORS"
    if values.isEmpty then output where_ ((← get).record ++ finish)
    else
      let format ← scalarText "OFMT"
      let between ← scalarText "OFS"
      let texts := values.map (·.toText format)
      output where_ ((texts.intersperse between).flatten ++ finish)

mutual

def eval (s : Setting) : Nat → Expr → Run Value
  | 0, _ => throw .exhausted
  | limit + 1, e => do
    match e with
    | .constant v => return v
    | .pattern node => return .ofBool (onText node (← get).record).isThere
    | .variable v => variableValue v
    | .element v index =>
      let key ← evalKey s limit index
      withTable (← tableOf v) (·.get key)
    | .field number => fieldValue (← evalNumber s limit number).toInt
    | .grouped e => eval s limit e
    | .assign target value =>
      let a ← addressOf s limit target
      let x ← eval s limit value
      putAt a x
      return x
    | .change op target value =>
      let a ← addressOf s limit target
      let y ← evalNumber s limit value
      let x := Value.number (arithmetic op (← valueAt a).toNumber y)
      putAt a x
      return x
    | .step up before target =>
      let a ← addressOf s limit target
      let old := (← valueAt a).toNumber
      let new := if up then old.add (.ofNat 1) else old.sub (.ofNat 1)
      putAt a (.number new)
      return .number (if before then new else old)
    | .choose condition yes no =>
      if ← isTrue s limit condition then eval s limit yes else eval s limit no
    | .both a b =>
      if ← isTrue s limit a then return .ofBool (← isTrue s limit b) else return .ofBool false
    | .one a b =>
      if ← isTrue s limit a then return .ofBool true else return .ofBool (← isTrue s limit b)
    | .not a => return .ofBool !(← isTrue s limit a)
    | .negative a => return .number (← evalNumber s limit a).neg
    | .positive a => return .number (← evalNumber s limit a)
    | .arithmetic op a b =>
      let x ← evalNumber s limit a
      let y ← evalNumber s limit b
      return .number (arithmetic op x y)
    | .comparison c a b =>
      let x ← eval s limit a
      let y ← eval s limit b
      return .ofBool (c.holds (x.compare (← scalarText "CONVFMT") y))
    | .joined a b =>
      let x ← evalText s limit a
      let y ← evalText s limit b
      return .text (x ++ y)
    | .found inverted text pattern =>
      let text ← evalText s limit text
      let node ← patternAt s limit pattern
      return .ofBool ((onText node text).isThere != inverted)
    | .member index v =>
      let key ← evalKey s limit index
      let table ← tableOf v
      return .ofBool (← withTable table (·.has key))
    | .call name arguments => call s limit name arguments
    | .builtin b arguments => evalBuiltin s limit b arguments
    | .split text v separator =>
      let text ← evalText s limit text
      let table ← tableOf v
      let pieces ← match separator with
        | none => cutText (← scalarText "FS") text
        | some e =>
          match e.bare with
          | .pattern .empty => pure ((Separator.characters.cut text).map Value.ofInput)
          | .pattern node =>
            pure (((Separator.pattern node).cut text).map Value.ofInput)
          | e => cutText (← evalText s limit e) text
      changeTable table fun _ => .ofList pieces
      return .ofNat pieces.length
    | .place text pattern =>
      let text ← evalText s limit text
      let node ← patternAt s limit pattern
      let (start, length) : Nat × Int := match (onText node text).from? 0 with
        | some found => (found.start + 1, (found.stop - found.start : Nat))
        | none => (0, -1)
      putScalar "RSTART".toList (.ofNat start)
      putScalar "RLENGTH".toList (.ofInt length)
      return .ofNat start
    | .substitute everywhere pattern replacement target =>
      let node ← patternAt s limit pattern
      let new ← evalText s limit replacement
      let a ← addressOf s limit target
      let text ← textFor (← valueAt a)
      let (made, count) := replaced node text new everywhere
      if 0 < count then putAt a (.text made)
      return .ofNat count
    | .line origin source target => evalLine s limit origin source target

def evalNumber (s : Setting) : Nat → Expr → Run Binary64
  | 0, _ => throw .exhausted
  | limit + 1, e => do return (← eval s limit e).toNumber

def evalText (s : Setting) : Nat → Expr → Run (List Char)
  | 0, _ => throw .exhausted
  | limit + 1, e => do textFor (← eval s limit e)

def isTrue (s : Setting) : Nat → Expr → Run Bool
  | 0, _ => throw .exhausted
  | limit + 1, e => do return (← eval s limit e).isTrue

def evalAll (s : Setting) : Nat → List Expr → Run (List Value)
  | 0, _ => throw .exhausted
  | _, [] => return []
  | limit + 1, e :: rest => do
    let x ← eval s limit e
    return x :: (← evalAll s limit rest)

/-- The key of one value, or of several that are joined. -/
def evalKey (s : Setting) : Nat → List Expr → Run Key
  | 0, _ => throw .exhausted
  | limit + 1, index => do
    match ← evalAll s limit index with
    | [v] => keyOf v
    | values =>
      let texts ← values.mapM textFor
      return .text (texts.intersperse (← scalarText "SUBSEP")).flatten

/-- The expression that is looked for. -/
def patternAt (s : Setting) : Nat → Expr → Run Regular.Node
  | 0, _ => throw .exhausted
  | limit + 1, e => do
    match e.bare with
    | .pattern node => return node
    | e => patternFrom (← evalText s limit e)

def addressOf (s : Setting) : Nat → Expr → Run Address
  | 0, _ => throw .exhausted
  | limit + 1, e => do
    match e.bare with
    | .variable v => return .variable v
    | .element v index =>
      let key ← evalKey s limit index
      let table ← tableOf v
      let _ ← withTable table (·.get key)
      return .element table key
    | .field number => return .field (← evalNumber s limit number).toInt
    | _ => throw .exhausted

def evalBuiltin (s : Setting) : Nat → Builtin → List Expr → Run Value
  | 0, _, _ => throw .exhausted
  | limit + 1, b, arguments => do
    match b, arguments with
    | .length, [] => return .ofNat (← get).record.length
    | .length, [e] =>
      let table ← match e.bare with
        | .variable v => tableOf? v
        | _ => pure none
      match table with
      | some index => return .ofNat (← withTable index fun t => (t.size, t))
      | none => applied s b [← eval s limit e]
    | _, _ => applied s b (← evalAll s limit arguments)

/-- Reads a line; one tells that there was one, zero that there was none, and minus one that there is
nothing to read. -/
def evalLine (s : Setting) : Nat → Origin → Option Expr → Option Expr → Run Value
  | 0, _, _, _ => throw .exhausted
  | limit + 1, origin, source, target => do
    let name ← match source with
      | some e => evalText s limit e
      | none => pure []
    let a ← match target with
      | some e => do pure (some (← addressOf s limit e))
      | none => pure none
    let read ← match origin with
      | .main => do pure (some (← nextMain fileLimit))
      | .file => sourceLine s false name
      | .command => sourceLine s true name
    match read with
    | none => return .ofInt (-1)
    | some none => return .ofNat 0
    | some (some text) =>
      match a with
      | some a => putAt a (.ofInput text)
      | none => setRecord text
      return .ofNat 1

/-- What a function is given: tables themselves, and the values of all else. -/
def evalSlots (s : Setting) : Nat → List Char → Nat → List Expr → Run (List Slot)
  | 0, _, _, _ => throw .exhausted
  | _, _, _, [] => return []
  | limit + 1, name, place, e :: rest => do
    let table ← match e.variable? with
      | some v =>
        if s.program.tables.contains (name, place) then do pure (some (← tableOf v)) else tableOf? v
      | none => pure none
    let slot ← match table with
      | some index => pure (Slot.table index)
      | none => do pure (Slot.value (← eval s limit e))
    return slot :: (← evalSlots s limit name (place + 1) rest)

def call (s : Setting) : Nat → List Char → List Expr → Run Value
  | 0, _, _ => throw .exhausted
  | limit + 1, name, arguments => do
    step
    match s.program.functions.find? (·.name = name) with
    | none => return .unset
    | some f =>
      let slots ← evalSlots s limit name 0 arguments
      let rest := List.replicate (f.places - slots.length) (Slot.value .unset)
      let job ← get
      let needed := max 1 f.places
      if job.depth < needed then
        throw (.fault "program limit exceeded: eval stack size=1024".toList)
      set { job with frame := (slots ++ rest).toArray, depth := job.depth - needed }
      let result ← tryCatch (do exec s limit f.body; return .unset) fun halt =>
        match halt with
        | .returns v => return v
        | halt => throw halt
      modify fun after => { after with frame := job.frame, depth := job.depth }
      return result

def exec (s : Setting) : Nat → Stmt → Run Unit
  | 0, _ => throw .exhausted
  | limit + 1, stmt => do
    match stmt with
    | .nothing => pure ()
    | .expr e => let _ ← eval s limit e
    | .print formatted arguments out =>
      let values ← evalAll s limit arguments
      let where_ ← match out with
        | none => pure none
        | some (kind, e) => do pure (some (kind, ← evalText s limit e))
      print formatted values where_
    | .block body => execAll s limit body
    | .choose condition yes no =>
      if ← isTrue s limit condition then exec s limit yes
      else
        match no with
        | some no => exec s limit no
        | none => pure ()
    | .while_ condition body => execWhile s limit condition body
    | .until_ body condition =>
      if ← inLoop (exec s limit body) then execWhile s limit condition body
    | .for_ start condition after body =>
      match start with
      | some e => let _ ← eval s limit e
      | none => pure ()
      execFor s limit condition after body
    | .each target table body =>
      let index ← tableOf table
      let keys ← withTable index (·.ordered)
      execEach s limit target keys body
    | .break_ => throw .breaks
    | .continue_ => throw .continues
    | .next => throw .next
    | .nextFile => throw .nextFile
    | .exit status =>
      match status with
      | some e =>
        let n := (← evalNumber s limit e).toInt
        modify fun job => { job with status := (n % 256).toNat }
      | none => pure ()
      throw .exits
    | .return_ value =>
      match value with
      | some e => throw (.returns (← eval s limit e))
      | none => throw (.returns .unset)
    | .delete v index =>
      match index with
      | none =>
        let table ← tableOf v
        changeTable table fun _ => {}
      | some index =>
        let key ← evalKey s limit index
        let table ← tableOf v
        changeTable table (·.delete key)

def execAll (s : Setting) : Nat → List Stmt → Run Unit
  | 0, _ => throw .exhausted
  | _, [] => pure ()
  | limit + 1, stmt :: rest => do
    exec s limit stmt
    execAll s limit rest

def execWhile (s : Setting) : Nat → Expr → Stmt → Run Unit
  | 0, _, _ => throw .exhausted
  | limit + 1, condition, body => do
    if ← isTrue s limit condition then
      if ← inLoop (exec s limit body) then execWhile s limit condition body

def execFor (s : Setting) : Nat → Option Expr → Option Expr → Stmt → Run Unit
  | 0, _, _, _ => throw .exhausted
  | limit + 1, condition, after, body => do
    let holds ← match condition with
      | some e => isTrue s limit e
      | none => pure true
    if holds then
      if ← inLoop (exec s limit body) then
        match after with
        | some e => let _ ← eval s limit e
        | none => pure ()
        execFor s limit condition after body

def execEach (s : Setting) : Nat → Variable → List (List Char) → Stmt → Run Unit
  | 0, _, _, _ => throw .exhausted
  | _, _, [], _ => pure ()
  | limit + 1, target, key :: rest, body => do
    setVariable target (.text key)
    if ← inLoop (exec s limit body) then execEach s limit target rest body

end

/-- How deep expressions and statements are nested at most, with all rounds of their loops. -/
def nestingLimit : Nat := 100000000

/-! ### Rules -/

/-- A rule applies to the present line. -/
def selects (s : Setting) (number : Nat) (selector : Selector) : Run Bool := do
  match selector with
  | .always => return true
  | .when condition => isTrue s nestingLimit condition
  | .range first last =>
    let open_ := (← get).ranges.contains number
    if !open_ then
      if !(← isTrue s nestingLimit first) then return false
    let ends ← isTrue s nestingLimit last
    modify fun job =>
      let others := job.ranges.filter (· ≠ number)
      { job with ranges := if ends then others else number :: others }
    return true

def runRules (s : Setting) : List (Rule × Nat) → Run Unit
  | [] => pure ()
  | (rule, number) :: rest => do
    if ← selects s number rule.selector then exec s nestingLimit rule.action
    runRules s rest

/-- Applies the rules to all lines. -/
def runLines (s : Setting) : Nat → Run Unit
  | 0 => throw .exhausted
  | limit + 1 => do
    match ← nextMain fileLimit with
    | none => pure ()
    | some text =>
      step
      setRecord text
      tryCatch (runRules s s.program.rules.zipIdx) fun halt =>
        match halt with
        | .next => pure ()
        | .nextFile => modify fun job => { job with main := { job.main with lines := none } }
        | halt => throw halt
      runLines s limit

def untilExit (body : Run Unit) : Run Bool :=
  tryCatch (do body; return true) fun halt =>
    match halt with
    | .exits => return false
    | halt => throw halt

/-- Runs all of a program; its end runs even if it was left before. -/
def runProgram (s : Setting) : Run Unit := do
  let goesOn ← untilExit (execAll s nestingLimit s.program.first)
  if goesOn && !(s.program.rules.isEmpty && s.program.last.isEmpty) then
    let _ ← untilExit (runLines s nestingLimit)
  let _ ← untilExit (execAll s nestingLimit s.program.last)

/-- Runs a program, and then lets go of all that it writes to. -/
def work (s : Setting) (job : Job) : Act Nat := do
  let (result, job) ← ((runProgram s).run).run job
  let status ← match result with
    | .ok () => pure job.status
    | .error (.fault complaint) => do
      warn [complaint]
      pure 2
    | .error .exhausted => do
      updateSelf fun p => { p with starved := true }
      pure 2
    | .error _ => pure job.status
  let _ ← ((closeSinks s.worker).run).run job
  return status

end Gutter.Tools.Awk
