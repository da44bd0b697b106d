import Gutter.Tools.Options

/-! Tools that print what they read: whole files, their ends, their lines in another order or with
numbers. -/

namespace Gutter.Tools

open Machine Shell

/-! ### Whole files -/

/-- How bytes are shown. -/
structure Showing where
  numbers : Bool
  blanksToo : Bool
  ends : Bool
  tabs : Bool
  hidden : Bool
  squeezes : Bool

/-- What has been shown: the number of the last line, whether a line has started, and how many blank
lines stand before it. -/
structure Shown where
  number : Nat
  inLine : Bool
  blanks : Nat

/-- A byte so that it can be seen. -/
def visible (c : Char) : List Char :=
  let n := c.toNat
  let low (n : Nat) : List Char :=
    if n < 32 then ['^', Char.ofNat (n + 64)] else if n = 127 then ['^', '?'] else [Char.ofNat n]
  if n < 128 then low n else 'M' :: '-' :: low (n - 128)

def Showing.char (s : Showing) (c : Char) : List Char :=
  if c = '\t' then if s.tabs then ['^', 'I'] else [c]
  else if s.hidden then visible c
  else [c]

/-- Shows one line with the mark that ends it. -/
def Showing.line (s : Showing) (shown : Shown) (line : List Char) : Shown × List Char :=
  let blank := line = ['\n'] && !shown.inLine
  let ended := line.getLast? = some '\n'
  if s.squeezes && blank && 0 < shown.blanks then (shown, [])
  else
    let counts := s.numbers && !shown.inLine && (s.blanksToo || !blank)
    let number := if counts then shown.number + 1 else shown.number
    let body := if ended then line.dropLast else line
    let text := body.flatMap s.char
    let text := if s.ends && !s.hidden && ended && body.getLast? = some '\r' then
        text.dropLast ++ ['^', 'M'] else text
    (⟨number, !ended, if blank then shown.blanks + 1 else 0⟩,
      (if counts then aligned 6 (digits number) ++ ['\t'] else []) ++ text
        ++ (if ended then (if s.ends then ['$'] else []) ++ ['\n'] else []))

def Showing.lines (s : Showing) : Shown → List (List Char) → Shown × List (List Char)
  | shown, [] => (shown, [])
  | shown, line :: rest =>
    let (shown, text) := s.line shown line
    let (shown, texts) := s.lines shown rest
    (shown, text :: texts)

def catOptions : Options :=
  { letters := "AbeEnstTuv"
    words := [("show-all", 'A'), ("number-nonblank", 'b'), ("show-ends", 'E'), ("number", 'n'),
      ("squeeze-blank", 's'), ("show-tabs", 'T'), ("show-nonprinting", 'v')] }

def cat : Tool := withOptions catOptions 1 fun c => do
  let any (letters : List Char) : Bool := letters.any c.has
  let s : Showing :=
    { numbers := any ['n', 'b'], blanksToo := !c.has 'b', ends := any ['A', 'e', 'E']
      tabs := any ['A', 't', 'T'], hidden := any ['A', 'e', 't', 'v'], squeezes := c.has 's' }
  let plain := c.given.all (·.letter = 'u')
  let mut shown : Shown := ⟨0, false, 0⟩
  let mut status := 0
  for path in (if c.operands.isEmpty then [['-']] else c.operands) do
    if plain && isInput path && (← inputFault?).isNone then eachChunk 0 put
    else
      match ← inputOf path with
      | none => status := 1
      | some bytes =>
        if plain then put bytes
        else
          let (next, texts) := s.lines shown (fullLines bytes)
          shown := next
          put texts.flatten
  return status

/-- The characters of a text, each with its bytes. -/
def charsIn (wide : Bool) (text : List Char) : List (List Char) :=
  if !wide then text.map fun c => [c] else go (text.length + 1) text
where
  go : Nat → List Char → List (List Char)
    | 0, _ => []
    | _, [] => []
    | limit + 1, byte :: rest =>
      let bytes := (byte :: rest).take (charSize byte)
      let bytes := if (charOf? bytes).isSome then bytes else [byte]
      bytes :: go limit ((byte :: rest).drop bytes.length)

/-! ### Ends of files -/

/-- The factor that letters after a number stand for. -/
def factor? (letters : List Char) : Option Nat :=
  let power (n : Nat) : Option Nat :=
    match letters.drop 1 with
    | [] => some (Nat.pow 1024 n)
    | ['i', 'B'] => some (Nat.pow 1024 n)
    | ['B'] => some (Nat.pow 1000 n)
    | _ => none
  match letters with
  | [] => some 1
  | ['b'] => some 512
  | 'k' :: _ => power 1
  | 'K' :: _ => power 1
  | 'M' :: _ => power 2
  | 'm' :: _ => power 2
  | 'G' :: _ => power 3
  | 'T' :: _ => power 4
  | _ => none

/-- A number with a factor. -/
def amount? (text : List Char) : Option Nat :=
  let digits := text.takeWhile Char.isDigit
  if digits.isEmpty then none
  else (factor? (text.drop digits.length)).map (Text.valueOfDigits 10 digits * ·)

/-- How much of a file is printed: so many lines or bytes, from its start or its end; `others` are
left out instead. -/
structure Amount where
  count : Nat
  inBytes : Bool
  others : Bool

/-- Items at the start, or all but those at the end. -/
def Amount.first {α : Type} (a : Amount) (items : List α) : List α :=
  items.take (if a.others then items.length - a.count else a.count)

/-- Items at the end, or those from a number on. -/
def Amount.last {α : Type} (a : Amount) (items : List α) : List α :=
  items.drop (if a.others then a.count - 1 else items.length - a.count)

/-- The older way to write how much of a start is printed: digits and letters after a dash. A letter
that means nothing is given back. -/
def olderStart (arguments : List (List Char)) : Except Char (List (List Char)) :=
  match arguments with
  | ('-' :: d :: text) :: rest =>
    if !d.isDigit then .ok arguments
    else
      let digits := (d :: text).takeWhile Char.isDigit
      let letters := (d :: text).drop digits.length
      match letters.find? fun c => !(['c', 'b', 'k', 'm', 'l', 'q', 'v', 'z'].contains c) with
      | some wrong => .error wrong
      | none =>
        let kind := (letters.reverse.find? ['c', 'b', 'k', 'm', 'l'].contains).getD 'l'
        let count := digits ++ if ['b', 'k', 'm'].contains kind then [kind] else []
        let others := letters.filter ['q', 'v', 'z'].contains
        let rest := if others.isEmpty then rest else ('-' :: others) :: rest
        .ok (['-', if kind = 'l' then 'n' else 'c'] :: count :: rest)
  | _ => .ok arguments

/-- The older way to write how much of an end is printed: a sign, digits, and letters for bytes,
blocks or lines and for waiting; at most one file may follow. -/
def olderEnd (arguments : List (List Char)) : List (List Char) :=
  let fits := match arguments with
    | [_] => true
    | [_, other] => other.head? ≠ some '-' || other.length < 2
    | [_, ['-', '-'], _] => true
    | _ => false
  match arguments with
  | (sign :: text) :: rest =>
    let digits := text.takeWhile Char.isDigit
    let letters := text.drop digits.length
    let kind := letters.head?.filter ['b', 'c', 'l'].contains
    let waits := if kind.isSome then letters.drop 1 else letters
    let alone := sign = '-' && (text.isEmpty || text = ['c'])
    if !fits || (sign ≠ '+' && sign ≠ '-') || alone || (waits ≠ [] && waits ≠ ['f']) then arguments
    else
      let count := if digits.isEmpty then if kind = some 'b' then "5120".toList else "10".toList
        else digits ++ if kind = some 'b' then ['b'] else []
      let option := if kind = some 'b' || kind = some 'c' then ['-', 'c'] else ['-', 'n']
      let follows := if waits = ['f'] then [['-', 'f']] else []
      option :: (if sign = '+' then '+' :: count else count) :: follows ++ rest
  | _ => arguments

def partOptions : Options :=
  { letters := "c:n:qvzfFs:0123456789α::β:γ"
    words := [("bytes", 'c'), ("lines", 'n'), ("quiet", 'q'), ("silent", 'q'), ("verbose", 'v'),
      ("zero-terminated", 'z'), ("follow", 'α'), ("pid", 'β'), ("sleep-interval", 's'),
      ("max-unchanged-stats", 'β'), ("retry", 'γ')] }

/-- What stands at a path that a part of a file is taken from. -/
def headingOf (path : List Char) : List Char :=
  if isInput path then "standard input".toList else path

/-- Takes lines that come in. -/
def takeLines : Nat → Lines → List (List Char) → Act (List (List Char) × Lines)
  | 0, lines, taken => return (taken.reverse, lines)
  | count + 1, lines, taken => do
    match ← lines.next with
    | (none, lines) => return (taken.reverse, lines)
    | (some line, lines) => takeLines count lines (line :: taken)

/-- Prints the first lines or bytes that come in, and reads no more than it must. -/
def headOfInput (mark : Char) (amount : Amount) : Act Unit := do
  if amount.inBytes then
    let (taken, left) ← takeBytes (← pieces 0) amount.count []
    put taken.flatten
    giveBack 0 left
  else
    let (taken, lines) ← takeLines amount.count (.ofInput mark) []
    put taken.flatten
    giveBack 0 lines.left

/-- The largest number that a tool counts to. -/
def countLimit : Nat := 18446744073709551615

/-- Prints a part of every file; the files have headings if there are several. -/
def partsOfFiles (sign : Char) (part : Amount → {α : Type} → List α → List α) : Tool :=
  withOptions partOptions 1 fun c => do
    if let some g := c.given.find? fun g => g.letter.isDigit then
      if sign = '-' then
        return ← misuse 1 ["invalid trailing option -- ".toList, [g.letter]]
      warn ["option used in invalid context -- ".toList, [g.letter]]
      return 1
    let inBytes := c.last? ['c', 'n'] = some 'c'
    let text := (c.value? (if inBytes then 'c' else 'n')).getD ['1', '0']
    let (others, number) := match text with
      | s :: number => if s = sign then (true, number) else
          (false, if s = '-' || s = '+' then number else text)
      | [] => (false, [])
    match amount? number with
    | none =>
      let what := if inBytes then "bytes: " else "lines: "
      warn ["invalid number of ".toList, what.toList, ← quoted number]
      return 1
    | some count =>
      if countLimit < count then
        let what := if inBytes then "bytes: " else "lines: "
        warn ["invalid number of ".toList, what.toList, ← quoted number,
          ": Value too large for defined data type".toList]
        return 1
      let amount : Amount := ⟨count, inBytes, others⟩
      let files := if c.operands.isEmpty then [['-']] else c.operands
      let headed := c.last? ['q', 'v'] = some 'v'
        || (c.last? ['q', 'v'] ≠ some 'q' && 1 < files.length)
      let mark := if c.has 'z' then '\x00' else '\n'
      let mut status := 0
      let mut first := true
      for path in files do
        let heading : Act Unit := do
          if headed then
            put ((if first then [] else ['\n']) ++ "==> ".toList ++ headingOf path
              ++ " <==\n".toList)
        if sign = '-' && !others then
          let incoming := isInput path && (← inputFault?).isNone
          if incoming || (← isEndless path) then
            heading
            first := false
            if incoming then headOfInput mark amount else fromSource (headOfInput mark amount)
            continue
        match ← bytesAt path with
        | .ok bytes =>
          heading
          first := false
          let printed := if inBytes then part amount bytes
            else (part amount (fullLinesBy mark bytes)).flatten
          put printed
          if isInput path && sign = '-' then giveBack 0 (bytes.drop printed.length)
        | .error fault =>
          status := 1
          if fault = .isDirectory then
            heading
            first := false
            warn ["error reading ".toList, ← named (headingOf path), ": ".toList, faultName fault]
          else
            warn ["cannot open ".toList, ← named path, " for reading: ".toList, faultName fault]
      if ['f', 'F', 'α'].any c.has then throw .overdue
      return status

def head : Tool := fun arguments => do
  match olderStart arguments with
  | .ok arguments => partsOfFiles '-' (fun a {_} items => a.first items) arguments
  | .error letter => misuse 1 ["invalid trailing option -- ".toList, [letter]]

def tail : Tool := fun arguments =>
  partsOfFiles '+' (fun a {_} items => a.last items) (olderEnd arguments)

/-! ### Counts -/

/-- The words of a text: what blanks separate. -/
def countWords (text : List Char) : Nat :=
  let step (state : Bool × Nat) (c : Char) : Bool × Nat :=
    let blank := c = ' ' || ('\t' ≤ c && c ≤ '\r')
    (!blank, if !blank && !state.1 then state.2 + 1 else state.2)
  (text.foldl step (false, 0)).2

/-- The columns of a line, where a tab goes on to a multiple of eight. -/
def columnsOf (wide : Bool) (line : List Char) : Nat :=
  (charsIn wide line).foldl (fun n bytes =>
    match bytes with
    | ['\t'] => (n / 8 + 1) * 8
    | [c] => if c.toNat < 32 || 127 ≤ c.toNat then n else n + 1
    | _ => n + 1) 0

def wcOptions : Options :=
  { letters := "clLmwα:"
    words := [("bytes", 'c'), ("chars", 'm'), ("files0-from", 'α'), ("lines", 'l'),
      ("words", 'w'), ("max-line-length", 'L')] }

/-- The files that are named in a file, each name with a zero after it; otherwise the tool ends with
a status. -/
def countedFiles (operands : List (List Char)) (path : List Char) :
    Act (Except Nat (List (List Char))) := do
  match operands with
  | operand :: _ =>
    warn ["extra operand ".toList, ← named operand]
    say "file operands cannot be combined with --files0-from\n"
    tryHelp
    return .error 1
  | [] =>
    match ← bytesAt path with
    | .ok bytes => return .ok (linesBy '\x00' bytes).1
    | .error fault =>
      warn ["cannot open ".toList, ← named path, " for reading: ".toList, faultName fault]
      return .error 1

def wc : Tool := withOptions wcOptions 1 fun c => do
  let wide ← isWide
  let asked := ['l', 'w', 'm', 'c', 'L'].filter c.has
  let asked := if asked.isEmpty then ['l', 'w', 'c'] else asked
  let count (bytes : List Char) (kind : Char) : Nat :=
    match kind with
    | 'l' => bytes.count '\n'
    | 'w' => countWords bytes
    | 'm' => (charsIn wide bytes).length
    | 'c' => bytes.length
    | _ => ((linesOf bytes).map (columnsOf wide)).foldl max 0
  let told ← match c.value? 'α' with
    | none => pure none
    | some path =>
      match ← countedFiles c.operands path with
      | .ok names => pure (some names)
      | .error status => return status
  let files := told.getD (if c.operands.isEmpty then [['-']] else c.operands)
  let known := (← get).files
  let inputSize ← sizeOfInput
  let sizes := files.map fun path =>
    if isInput path then inputSize
    else if Condition.isRegular ((known.find (textOf path)).toOption.getD .directory) then
      some (Condition.sizeOf known (textOf path))
    else if (known.find (textOf path)).isOk then none
    else some 0
  let total := sizes.foldl (fun n size => n + size.getD 0) 0
  let streams := (c.value? 'α').any isInput
  let width := if streams || (files.length = 1 && asked.length = 1) then 1
    else max (digits total).length (if sizes.any Option.isNone then 7 else 1)
  let line (numbers : List Nat) (name : List Char) : Act Unit := do
    let shown := numbers.map fun n => aligned width (digits n)
    putLine ((shown.intersperse [' ']).flatten ++ name)
  let mut status := 0
  let mut totals := asked.map fun _ => 0
  for path in files do
    let name := if c.operands.isEmpty && told.isNone then [] else ' ' :: path
    match ← bytesAt path with
    | .error fault =>
      status := 1
      warn [← nameOf path, ": ".toList, faultName fault]
      if fault = .isDirectory then line (asked.map fun _ => 0) name
    | .ok bytes =>
      let counts := asked.map (count bytes)
      totals := (asked.zip (totals.zip counts)).map fun (kind, a, b) =>
        if kind = 'L' then max a b else a + b
      line counts name
  if 1 < files.length then line totals " total".toList
  return status

end Gutter.Tools
