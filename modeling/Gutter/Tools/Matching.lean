import Gutter.Tools.Sorting

/-! Tools that compare lines: repeated lines, the lines that two files share, and lines with a field
in common. -/

namespace Gutter.Tools

open Machine Shell

/-! ### Repeated lines -/

/-- Lines that are equal and follow each other. -/
def runsOf (same : List Char → List Char → Bool) : List (List Char) → List (List (List Char))
  | [] => []
  | line :: rest =>
    match runsOf same rest with
    | (next :: more) :: runs =>
      if same line next then (line :: next :: more) :: runs else [line] :: (next :: more) :: runs
    | runs => [line] :: runs

/-- The part of a line by which it is compared. -/
def comparedPart (fields chars : Nat) (width : Option Nat) (folds : Bool) (line : List Char) :
    List Char :=
  let rest := (afterFields none fields line).drop chars
  let rest := width.elim rest rest.take
  if folds then rest.map Char.toUpper else rest

def uniqOptions : Options :=
  { letters := "cdDf:is:uw:zα::β::"
    words := [("count", 'c'), ("repeated", 'd'), ("all-repeated", 'α'), ("group", 'β'),
      ("skip-fields", 'f'), ("ignore-case", 'i'), ("skip-chars", 's'), ("unique", 'u'),
      ("check-chars", 'w'), ("zero-terminated", 'z')] }

/-- Where an empty line stands by groups of lines: before or after each, or between two. -/
inductive Gaps
  | none
  | before
  | after
  | between
  | around
deriving DecidableEq, Repr

/-- Which lines of a run are printed, and how. -/
structure Printing where
  counts : Bool
  single : Bool
  repeated : Bool
  later : Bool
  gaps : Gaps

/-- What is printed of runs of equal lines. -/
def Printing.texts (p : Printing) (mark : Char) (runs : List (List (List Char))) :
    List (List Char) :=
  let line (count : Nat) (text : List Char) : List Char :=
    (if p.counts then aligned 7 (digits count) ++ [' '] else []) ++ text ++ [mark]
  let text (run : List (List Char)) : List Char :=
    let last := if run.length = 1 then p.single else p.repeated
    if p.later then
      (run.dropLast.map (line 1)).flatten ++ if last then line 1 (run.getLastD []) else []
    else if last then line run.length (run.headD []) else []
  let shown := if p.later then runs.filter fun run => p.single || 1 < run.length else runs
  shown.zipIdx.map fun (run, n) =>
    let before := match p.gaps with
      | .before => true
      | .around => true
      | .between => n ≠ 0
      | _ => false
    (if before then [mark] else []) ++ text run

/-- Groups of lines, each with all of them. -/
def groupTexts (mark : Char) (gaps : Gaps) (runs : List (List (List Char))) : List (List Char) :=
  let groups := runs.zipIdx.map fun (run, n) =>
    let gap := match gaps with
      | .before => true
      | .around => true
      | .after => n ≠ 0
      | .between => n ≠ 0
      | .none => false
    (if gap then [mark] else []) ++ run.flatMap (· ++ [mark])
  groups ++ if !runs.isEmpty && (gaps = .after || gaps = .around) then [[mark]] else []

def groupWords : List (String × Gaps) :=
  [("prepend", .before), ("append", .after), ("separate", .between), ("both", .around)]

def repeatedWords : List (String × Gaps) :=
  [("none", .none), ("prepend", .before), ("separate", .between)]

/-- A size that an option has, or a complaint. -/
def sizeOption (c : Choice) (letter : Char) (what : String) : Act (Except Nat (Option Nat)) := do
  match c.value? letter with
  | none => return .ok none
  | some text =>
    if !text.isEmpty && text.all Char.isDigit then
      return .ok (some (Text.valueOfDigits 10 text))
    else
      warn [text, ": invalid number of ".toList, what.toList]
      return .error 1

/-- The value of a word that an option may have; otherwise the tool ends with a status. -/
def gapsOption (c : Choice) (letter : Char) (name : String) (usual : Gaps)
    (words : List (String × Gaps)) : Act (Except Nat (Option Gaps)) := do
  match c.value? letter with
  | none => return .ok none
  | some [] => return .ok (some usual)
  | some word =>
    match chosenIn? words word with
    | some gaps => return .ok (some gaps)
    | none => return .error (← notAmong 1 word name words)

/-- Digits after a dash are a number of fields. -/
def withoutDigitOptions (arguments : List (List Char)) : List (List Char) :=
  arguments.map fun a =>
    match a with
    | '-' :: d :: rest => if (d :: rest).all Char.isDigit then '-' :: 'f' :: d :: rest else a
    | _ => a

def uniqLines : Tool := withOptions uniqOptions 1 fun c => do
  let repeated ← match ← gapsOption c 'α' "--all-repeated" .none repeatedWords with
    | .ok gaps => pure gaps
    | .error status => return status
  let group ← match ← gapsOption c 'β' "--group" .between groupWords with
    | .ok gaps => pure gaps
    | .error status => return status
  let fields ← match ← sizeOption c 'f' "fields to skip" with
    | .ok n => pure (n.getD 0)
    | .error status => return status
  let chars ← match ← sizeOption c 's' "bytes to skip" with
    | .ok n => pure (n.getD 0)
    | .error status => return status
  let width ← match ← sizeOption c 'w' "bytes to compare" with
    | .ok n => pure n
    | .error status => return status
  match c.operands with
  | _ :: _ :: extra :: _ => extraOperand 1 extra
  | operands =>
    let later := c.has 'D' || repeated.isSome
    if group.isSome && (later || ['c', 'd', 'u'].any c.has) then
      return ← misuse 1 ["--group is mutually exclusive with -c/-d/-D/-u".toList]
    if later && c.has 'c' then
      return ← misuse 1
        ["printing all duplicated lines and repeat counts is meaningless".toList]
    match ← inputOf (operands.headD ['-']) with
    | none => return 1
    | some bytes =>
      let mark := if c.has 'z' then '\x00' else '\n'
      let part := comparedPart fields chars width (c.has 'i')
      let runs := runsOf (fun a b => part a = part b) (linesBy mark bytes).1
      let printing : Printing :=
        { counts := c.has 'c', single := !c.has 'd' && !later, repeated := !c.has 'u', later
          gaps := repeated.getD .none }
      let texts := match group with
        | some gaps => groupTexts mark gaps runs
        | none => printing.texts mark runs
      let text := texts.flatten
      match operands.drop 1 with
      | path :: _ =>
        match ← writeFile path text false with
        | .ok () => return 0
        | .error fault =>
          warn [← nameOf path, ": ".toList, faultName fault]
          return 1
      | [] =>
        put text
        return 0

def uniq : Tool := fun arguments => uniqLines (withoutDigitOptions arguments)

/-! ### Lines of two files -/

/-- What comparing two files line by line finds: a line for a column, or a file that is not in
order. -/
inductive Compared
  | line (column : Nat) (text : List Char)
  | disorder (file : Nat)

/-- A file that is compared: the line before the present one, and the lines from that on. -/
structure Column where
  before : Option (List Char)
  lines : List (List Char)

/-- Goes to the next line, and tells whether lines are out of order: the next one, or at the end the
last two. -/
def Column.advance (column : Column) : Column × Bool :=
  let isWrong (a b : List Char) : Bool := compareTexts a b = .gt
  match column.lines with
  | [] => (column, false)
  | line :: rest =>
    (⟨some line, rest⟩,
      match rest, column.before with
      | next :: _, _ => isWrong line next
      | [], some before => isWrong before line
      | [], none => false)

/-- Compares two files. Order counts from the first line that is in one of them alone, or from the
start if that is asked for, and is complained of once for each file. -/
def compareLines : Nat → Bool → List Nat → Column → Column → List Compared
  | 0, _, _, _, _ => []
  | limit + 1, counts, told, a, b =>
    let next : Option (Ordering × List Char) := match a.lines, b.lines with
      | [], [] => none
      | x :: _, [] => some (Ordering.lt, x)
      | [], y :: _ => some (.gt, y)
      | x :: _, y :: _ =>
        let order := compareTexts x y
        some (order, if order = .gt then y else x)
    match next with
    | none => []
    | some (order, text) =>
      let counts := counts || order ≠ .eq
      let column := match order with
        | .lt => 1
        | .gt => 2
        | .eq => 3
      let (a, wrongA) := if order = .gt then (a, false) else a.advance
      let (b, wrongB) := if order = .lt then (b, false) else b.advance
      let wrong := (if wrongA && counts then [1] else []) ++ if wrongB && counts then [2] else []
      let wrong := wrong.filter (!told.contains ·)
      .line column text :: wrong.map .disorder
        ++ compareLines limit counts (wrong ++ told) a b

def commOptions : Options :=
  { letters := "123zO:NTK"
    words := [("output-delimiter", 'O'), ("check-order", 'K'), ("nocheck-order", 'N'),
      ("total", 'T'), ("zero-terminated", 'z')] }

/-- Two operands, and no others. -/
def withTwo (status : Nat) (operands : List (List Char)) (act : List Char → List Char → Act Nat) :
    Act Nat := do
  match operands with
  | [] => missingOperand status
  | [a] => misuse status ["missing operand after ".toList, ← quoted a]
  | [a, b] => act a b
  | _ :: _ :: extra :: _ => extraOperand status extra

def comm : Tool := withOptions commOptions 1 fun c => do
  withTwo 1 c.operands fun first second => do
    match ← inputOf first with
    | none => return 1
    | some a =>
      match ← inputOf second with
      | none => return 1
      | some b =>
        let mark := if c.has 'z' then '\x00' else '\n'
        let (a, b) := ((linesBy mark a).1, (linesBy mark b).1)
        let check := c.last? ['K', 'N']
        let found := compareLines (a.length + b.length + 1) (check = some 'K') [] ⟨none, a⟩ ⟨none, b⟩
        let d := (c.value? 'O').getD ['\t']
        let shows (n : Nat) : Bool := !c.has (Char.ofNat (48 + n))
        let mut counts := [0, 0, 0]
        let mut unsorted := false
        for compared in found do
          match compared with
          | .line n line =>
            counts := counts.modify (n - 1) (· + 1)
            if shows n then
              let before := ([1, 2, 3].filter fun k => k < n && shows k).flatMap fun _ => d
              put (before ++ line ++ [mark])
          | .disorder n =>
            if check ≠ some 'N' then
              warn ["file ".toList, digits n, " is not in sorted order".toList]
              if check = some 'K' then return 1
              unsorted := true
        if c.has 'T' then
          put (counts.flatMap (fun n => digits n ++ d) ++ "total".toList ++ [mark])
        if !unsorted then return 0
        warn ["input is not in sorted order".toList]
        return 1

/-! ### Lines with a field in common -/

/-- Fields that blanks separate; those before the first do not count. -/
def blankFields (line : List Char) : List (List Char) :=
  let rec go : Nat → List Char → List (List Char)
    | 0, _ => []
    | limit + 1, text =>
      let field := text.takeWhile (!isGap ·)
      let rest := text.drop field.length
      if rest.isEmpty then [field] else field :: go limit (rest.dropWhile isGap)
  match line.dropWhile isGap with
  | [] => []
  | text => go (text.length + 1) text

/-- A row of a file: the field it is joined by, and all fields. -/
structure JoinRow where
  key : List Char
  fields : List (List Char)

/-- What stands in a column of the result: the key, or a field of one file. -/
inductive JoinColumn
  | key
  | field (file number : Nat)
deriving DecidableEq, Repr

/-- How files are joined. The fields are the ones by which they are, counted from zero; `counts` are
how many fields each row has in a result whose form depends on the first rows. -/
structure JoinManner where
  field : Nat × Nat
  separator : Option Char
  mark : Char
  filler : List Char
  columns : List JoinColumn
  follows : Bool
  counts : Option (Nat × Nat) := none
  folds : Bool
  alone : Bool × Bool
  pairs : Bool
  check : Option Char
  header : Bool

/-- A file that is joined: its name, the lines that are left, how many were read, the last of them,
and whether its order was complained of. -/
structure JoinSource where
  name : List Char
  lines : List (List Char)
  number : Nat := 0
  last : Option JoinRow := none
  told : Bool := false

/-- Two files, and whether a row of one of them was alone. -/
structure Joining where
  first : JoinSource
  second : JoinSource
  unpaired : Bool := false

abbrev Joins := StateT Joining Act

namespace JoinManner

def fieldOf (m : JoinManner) (isFirst : Bool) : Nat := if isFirst then m.field.1 else m.field.2

def row (m : JoinManner) (isFirst : Bool) (line : List Char) : JoinRow :=
  let fields := match m.separator with
    | some '\n' => [line]
    | some d => if line.isEmpty then [] else Text.splitOn d line
    | none => blankFields line
  ⟨fields.getD (m.fieldOf isFirst) [], fields⟩

def order (m : JoinManner) (a b : JoinRow) : Ordering :=
  if m.folds then compareTexts (a.key.map Char.toUpper) (b.key.map Char.toUpper)
  else compareTexts a.key b.key

/-- Reads the next row of a file, and complains of its order once. -/
def next (m : JoinManner) (isFirst : Bool) : Joins (Option JoinRow) := do
  let j ← get
  let source := if isFirst then j.first else j.second
  let keep (s : JoinSource) : Joins Unit :=
    modify fun j => if isFirst then { j with first := s } else { j with second := s }
  match source.lines with
  | [] => return none
  | line :: rest =>
    let row := m.row isFirst line
    let isWrong := source.last.any fun last => m.order last row = .gt
    let checks := m.check = some 'K' || (m.check ≠ some 'N' && j.unpaired)
    let number := source.number + 1
    let tells := isWrong && checks && !source.told
    keep { source with lines := rest, number, last := some row, told := source.told || tells }
    if tells then
      warn [source.name, ':' :: digits number, ": is not sorted: ".toList, line]
      if m.check = some 'K' then throw (.ends (.code 1))
    return some row

/-- Reads rows as long as they belong to one; the first that does not is given, too. -/
def nextLike (m : JoinManner) (isFirst : Bool) (row : JoinRow) : Nat → List JoinRow →
    Joins (List JoinRow × Option JoinRow)
  | 0, taken => return (taken.reverse, none)
  | limit + 1, taken => do
    match ← m.next isFirst with
    | none => return (taken.reverse, none)
    | some other =>
      if m.order other row = .eq then m.nextLike isFirst row limit (other :: taken)
      else return (taken.reverse, some other)

/-- The line for two rows, or for one. -/
def line (m : JoinManner) (a b : Option JoinRow) : List Char :=
  let shown (text : List Char) : List Char := if text.isEmpty then m.filler else text
  let key := shown (((a <|> b).map (·.key)).getD [])
  let others (isFirst : Bool) (row : Option JoinRow) : List (List Char) :=
    let fields := (row.map (·.fields)).getD []
    let count := match m.counts with
      | some (first, second) => if isFirst then first else second
      | none => fields.length
    ((List.range count).filter (· ≠ m.fieldOf isFirst)).map fun n => shown (fields.getD n [])
  let texts := if m.columns.isEmpty then key :: others true a ++ others false b
    else m.columns.map fun
      | .key => key
      | .field file number =>
        shown ((((if file = 1 then a else b).map (·.fields)).getD []).getD number [])
  (texts.intersperse [m.separator.getD ' ']).flatten ++ [m.mark]

def printFor (m : JoinManner) (a b : Option JoinRow) : Joins Unit := put (m.line a b)

def noteUnpaired : Joins Unit := modify fun j => { j with unpaired := true }

/-- Prints the rows that are left of a file, or looks at their order. -/
def rest (m : JoinManner) (isFirst : Bool) : Nat → Option JoinRow → Joins Unit
  | 0, _ => pure ()
  | _, none => pure ()
  | limit + 1, some row => do
    let alone := if isFirst then m.alone.1 else m.alone.2
    if alone then if isFirst then m.printFor (some row) none else m.printFor none (some row)
    let next ← m.next isFirst
    let j ← get
    let told := if isFirst then j.first.told else j.second.told
    if told && !alone then return
    m.rest isFirst limit next

/-- Joins rows from the present ones on. -/
def run (m : JoinManner) : Nat → Option JoinRow → Option JoinRow → Joins Unit
  | 0, _, _ => pure ()
  | limit + 1, some a, some b => do
    match m.order a b with
    | .lt =>
      if m.alone.1 then m.printFor (some a) none
      let next ← m.next true
      noteUnpaired
      m.run limit next (some b)
    | .gt =>
      if m.alone.2 then m.printFor none (some b)
      let next ← m.next false
      noteUnpaired
      m.run limit (some a) next
    | .eq =>
      let j ← get
      let (as, nextA) ← m.nextLike true b (j.first.lines.length + 1) []
      let (bs, nextB) ← m.nextLike false a (j.second.lines.length + 1) []
      if m.pairs then
        for a in a :: as do
          for b in b :: bs do m.printFor (some a) (some b)
      m.run limit nextA nextB
  | _, a, b => do
    let j ← get
    let checks := m.check ≠ some 'N' && !(j.first.told && j.second.told)
    if (m.alone.1 || checks) && a.isSome then
      if b.isSome then noteUnpaired
      m.rest true (j.first.lines.length + 2) a
    if (m.alone.2 || checks) && b.isSome then
      if a.isSome then noteUnpaired
      m.rest false (j.second.lines.length + 2) b

/-- Joins two files; the status. -/
def runAll (m : JoinManner) : Joins Nat := do
  let a ← m.next true
  let b ← m.next false
  let count (row : Option JoinRow) : Nat := (row.map (·.fields.length)).getD 0
  let m := if m.follows then { m with counts := some (count a, count b) } else m
  let j ← get
  let limit := j.first.lines.length + j.second.lines.length + 4
  if m.header && (a.isSome || b.isSome) then
    m.printFor a b
    modify fun j => { j with
      first := { j.first with last := none }, second := { j.second with last := none } }
    let a ← m.next true
    let b ← m.next false
    m.run limit a b
  else m.run limit a b
  let j ← get
  if !j.first.told && !j.second.told then return 0
  warn ["input is not in sorted order".toList]
  return 1

end JoinManner

/-- What is wrong with the options of joins. -/
inductive JoinFault
  | number (text : List Char)
  | file (text : List Char)
  | field (text : List Char)

/-- The number of a field or of a file, at most `most` if that is said. -/
def joinNumber (most : Option Nat) (text : List Char) : Except JoinFault Nat :=
  let n := Text.valueOfDigits 10 text
  if text.isEmpty || !text.all Char.isDigit || n = 0 || most.any (· < n) then .error (.number text)
  else .ok n

def joinColumn (text : List Char) : Except JoinFault JoinColumn := do
  let file (n : Nat) (rest : List Char) : Except JoinFault JoinColumn :=
    match rest with
    | '.' :: number => do return .field n ((← joinNumber none number) - 1)
    | _ => .error (.field text)
  match text with
  | ['0'] => return .key
  | '0' :: _ => throw (.field text)
  | '1' :: rest => file 1 rest
  | '2' :: rest => file 2 rest
  | _ => throw (.file text)

/-- The columns that a text asks for. -/
def joinColumns (text : List Char) : Except JoinFault (List JoinColumn) :=
  (Text.splitOn ',' (text.map fun c => if c = ' ' || c = '\t' then ',' else c)).mapM joinColumn

def JoinFault.tell (fault : JoinFault) : Act Nat := do
  let (what, text) := match fault with
    | .number text => ("invalid field number: ", text)
    | .file text => ("invalid file number in field spec: ", text)
    | .field text => ("invalid field specifier: ", text)
  warn [what.toList, ← quoted text]
  return 1

def joinOptions : Options :=
  { letters := "a:e:i1:2:j:o:t:v:zKNH"
    words := [("check-order", 'K'), ("header", 'H'), ("ignore-case", 'i'), ("nocheck-order", 'N'),
      ("zero-terminated", 'z')] }

/-- The field by which a file is joined: all options for it have to agree. -/
def joinField (c : Choice) (letters : List Char) : Act (Except Nat Nat) := do
  let mut found : Option Nat := none
  for g in c.given.filter fun g => letters.contains g.letter do
    match joinNumber none g.value with
    | .error fault => return .error (← fault.tell)
    | .ok n =>
      match found with
      | some m =>
        if m ≠ n then
          warn ["incompatible join fields ".toList, digits (m - 1), [',', ' '], digits (n - 1)]
          return .error 1
      | none => found := some n
  return .ok (found.getD 1 - 1)

/-- How options ask for files to be joined, or the status with which the tool ends. -/
def joinManner (c : Choice) : Act (Except Nat JoinManner) := do
  for g in c.given.filter fun g => g.letter = 'a' || g.letter = 'v' do
    if let .error fault := joinNumber (some 2) g.value then return .error (← fault.tell)
  let first ← match ← joinField c ['1', 'j'] with
    | .ok n => pure n
    | .error status => return .error status
  let second ← match ← joinField c ['2', 'j'] with
    | .ok n => pure n
    | .error status => return .error status
  let follows := (c.values 'o').contains "auto".toList
  let mut columns : List JoinColumn := []
  for text in (c.values 'o').filter (· ≠ "auto".toList) do
    match joinColumns text with
    | .ok more => columns := columns ++ more
    | .error fault => return .error (← fault.tell)
  if 1 < (c.values 'e').eraseDups.length then
    warn ["conflicting empty-field replacement strings".toList]
    return .error 1
  for text in c.values 't' do
    if 1 < text.length && text ≠ ['\\', '0'] then
      warn ["multi-character tab ".toList, ← quoted text]
      return .error 1
  if 1 < (c.values 't').eraseDups.length then
    warn ["incompatible tabs".toList]
    return .error 1
  let separator := (c.value? 't').map fun text =>
    if text = ['\\', '0'] then '\x00' else text.headD '\n'
  let alone := c.values 'a' ++ c.values 'v'
  return .ok {
    field := (first, second), separator, columns, follows
    mark := if c.has 'z' then '\x00' else '\n'
    filler := (c.value? 'e').getD []
    folds := c.has 'i'
    alone := (alone.contains ['1'], alone.contains ['2'])
    pairs := !c.has 'v'
    check := c.last? ['K', 'N']
    header := c.has 'H' }

def join : Tool := withOptions joinOptions 1 fun c => do
  match ← joinManner c with
  | .error status => return status
  | .ok m =>
    match c.operands with
    | _ :: _ :: extra :: _ => misuse 1 ["extra operand ".toList, ← named extra]
    | operands => withTwo 1 operands fun first second => do
      if first = ['-'] && second = ['-'] then
        refuse ["both files cannot be standard input".toList] .notFound
        return 1
      match ← inputOf first with
      | none => return 1
      | some a =>
        match ← inputOf second with
        | none => return 1
        | some b =>
          let source (name bytes : List Char) : JoinSource :=
            { name, lines := (linesBy m.mark bytes).1 }
          let (status, _) ← m.runAll.run ⟨source first a, source second b, false⟩
          return status

end Gutter.Tools
