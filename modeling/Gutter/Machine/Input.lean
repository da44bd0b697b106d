import Gutter.Machine.Variables

/-! Commands of the shell that take input apart: lines that are read, and options of a script. -/

namespace Gutter.Machine

open Shell

/-! ### Lines -/

/-- A character of a line that was read; one after a backslash separates nothing. The number tells
how many backslashes were before it. -/
structure LineChar where
  char : Char
  escaped : Bool
  region : Nat
deriving DecidableEq, Repr

/-- The characters of a text up to the end of its line, with the backslashes taken away, and whether
the line goes on after the text. -/
def lineChars (raw : Bool) : Nat → List Char → List LineChar × Bool
  | _, [] => ([], false)
  | region, c :: rest =>
    if c = '\n' then ([], false)
    else if c = '\x00' then lineChars raw region rest
    else if c = '\\' && !raw then
      match rest with
      | '\n' :: rest =>
        let (chars, _) := lineChars raw (region + 1) rest
        (chars, rest.isEmpty)
      | d :: rest =>
        let (chars, more) := lineChars raw (region + 1) rest
        (⟨d, true, region⟩ :: chars, more)
      | [] => ([], false)
    else
      let (chars, more) := lineChars raw region rest
      (⟨c, false, region⟩ :: chars, more)

/-- Whether a text that was read ends within an escaped newline. -/
def goesOn (text : List Char) : Bool :=
  match text.reverse with
  | '\n' :: before => (before.takeWhile (· = '\\')).length % 2 = 1
  | _ => false

/-- Fields while a line is divided: how many variables are left, the field that is being read with
the part after the last mark, whether a blank separator was just passed, and the fields before it,
the newest first. `cut` is the length of the field without the separators at its end. -/
structure Dividing where
  left : Nat
  field : List Char
  cut : Option Nat
  afterBlank : Bool
  region : Nat
  done : List (List Char)

/-- Divides a line at separators. The last field takes what is left, without a separator at its end
if there is only one, and without blanks. -/
def divideStep (ifs : List Char) (d : Dividing) (c : LineChar) : Dividing :=
  let d := if c.region = d.region then d else { d with afterBlank := false, region := c.region }
  let separates := !c.escaped && ifs.contains c.char
  let blank := separates && defaultSeparators.contains c.char
  let add (d : Dividing) : Dividing := { d with field := c.char :: d.field }
  if c.escaped then
    add { d with cut := if d.left = 0 then none else d.cut, afterBlank := false }
  else if d.left = 0 then
    if blank then add { d with cut := d.cut <|> some d.field.length }
    else add { d with
      cut := if separates && d.afterBlank then d.cut else none
      afterBlank := false }
  else if d.afterBlank && separates then
    if blank then d else { d with afterBlank := false }
  else if separates then
    if d.field.isEmpty && blank then d
    else if d.left = 1 then
      add { d with left := 0, cut := some d.field.length, afterBlank := blank }
    else
      { d with
        left := d.left - 1
        field := []
        afterBlank := blank
        done := d.field.reverse :: d.done }
  else add { d with afterBlank := false }

/-- The fields of a line for a number of variables. -/
def divide (ifs : List Char) (count : Nat) (line : List LineChar) : List (List Char) :=
  let d := line.foldl (divideStep ifs) ⟨count, [], none, false, 0, []⟩
  let last := d.field.reverse.take (d.cut.getD d.field.length)
  d.done.reverse ++ if last.isEmpty then [] else [last]

/-- A line that goes on after each newline with a backslash before it; whether it was ended. -/
def readJoined (raw : Bool) : Nat → List Char → Act (List Char × Bool)
  | 0, read => return (read, true)
  | limit + 1, read => do
    match ← readLine 0 with
    | none => return (read, false)
    | some line =>
      if line.getLast? ≠ some '\n' then return (read ++ line, false)
      else if !raw && goesOn line then readJoined raw limit (read ++ line)
      else return (read ++ line, true)

/-- Reads a line into variables. -/
def readVariables (arguments : List (List Char)) : Act Nat := do
  let (given, names) ← options "p:r" arguments
  let raw := given.any (·.1 = 'r')
  if names.isEmpty then fail "arg count".toList
  let (text, ended) ← readJoined raw ((← pieces 0) * 1000 + 100000) []
  let fields := divide (← separators) names.length (lineChars raw 0 text).1
  for (name, index) in names.zipIdx do
    checkName name
    setVariable name (fields.getD index [])
  return if ended then 0 else 1

/-! ### Options of a script -/

/-- What a letter is among those that a script knows; the value tells whether it needs one. -/
def scriptLetter? (letter : Char) : List Char → Option Bool
  | c :: rest =>
    if c = letter then some (rest.head? = some ':')
    else scriptLetter? letter (if rest.head? = some ':' then rest.drop 1 else rest)
  | [] => none
termination_by known => known.length
decreasing_by all_goals simp_wf; split <;> simp_all <;> omega

/-- Takes the next option from the arguments of a script: the letter, the value, and what was
said. -/
def nextOption (known name : List Char) (arguments : List (List Char)) : Act Nat := do
  let scan := (← self).scan
  let start := if arguments.length + 1 < scan.next then ⟨1, none⟩ else scan
  let quiet := known.head? = some ':'
  let current := arguments.getD (start.next - 2) []
  let inside := match start.taken with
    | some taken => if 1 < start.next && taken < current.length then current.drop taken else []
    | none => []
  let finish (letter : Char) (next : Nat) (taken : Option Nat) (status : Nat) : Act Nat := do
    setVariable "OPTIND".toList (Nat.toDigits 10 next)
    setVariable name [letter]
    updateSelf fun p => { p with scan := ⟨next, taken⟩ }
    return status
  let take (text : List Char) (next : Nat) : Act Nat := do
    match text with
    | [] => finish '?' next none 1
    | letter :: rest =>
      let whole := arguments.getD (next - 2) []
      let taken := some (whole.length - rest.length)
      match scriptLetter? letter known with
      | none =>
        if quiet then setVariable "OPTARG".toList [letter]
        else
          write 2 ("Illegal option -".toList ++ [letter, '\n'])
          dropVariable "OPTARG".toList
        finish '?' next taken 0
      | some false =>
        setVariable "OPTARG".toList []
        finish letter next taken 0
      | some true =>
        if !rest.isEmpty then
          setVariable "OPTARG".toList rest
          finish letter next none 0
        else
          match arguments[next - 1]? with
          | some value =>
            setVariable "OPTARG".toList value
            finish letter (next + 1) none 0
          | none =>
            if quiet then
              setVariable "OPTARG".toList [letter]
              finish ':' next taken 0
            else
              write 2 ("No arg for -".toList ++ letter :: " option\n".toList)
              dropVariable "OPTARG".toList
              finish '?' next taken 0
  if !inside.isEmpty then take inside start.next
  else
    match arguments[start.next - 1]? with
    | some ('-' :: '-' :: []) => finish '?' (start.next + 1) none 1
    | some ('-' :: c :: letters) => take (c :: letters) (start.next + 1)
    | _ => finish '?' start.next none 1

/-- Reads the options of a script, one at a time. -/
def getOptions (arguments : List (List Char)) : Act Nat := do
  match ← withoutOptions arguments with
  | [known, name] =>
    checkName name
    nextOption known name (← self).arguments
  | known :: name :: rest =>
    checkName name
    nextOption known name rest
  | _ => fail "Usage: getopts optstring var [arg...]".toList

end Gutter.Machine
