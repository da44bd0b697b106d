import Gutter.Tools.Reading

/-! Sorting lines: the keys in a line, the orders in which keys are compared, and sorted lines. -/

namespace Gutter.Tools

open Machine Shell

/-! ### Orders -/

/-- The order of texts by their bytes. -/
def compareTexts : List Char → List Char → Ordering
  | [], [] => .eq
  | [], _ => .lt
  | _, [] => .gt
  | a :: s, b :: t => if a = b then compareTexts s t else if a < b then .lt else .gt

def isGap (c : Char) : Bool := c = ' ' || c = '\t' || c = '\n'

/-- A decimal number at the start of a text: its sign, the digits before the point without zeros in
front, those after it without zeros at the end, and what follows. -/
structure PlainNumber where
  negative : Bool
  whole : List Char
  part : List Char
  rest : List Char

def plainNumber (text : List Char) : PlainNumber :=
  let text := text.dropWhile isGap
  let (negative, text) := match text with
    | '-' :: rest => (true, rest)
    | text => (false, text)
  let whole := text.takeWhile Char.isDigit
  let rest := text.drop whole.length
  let part := match rest with
    | '.' :: digits => digits.takeWhile Char.isDigit
    | _ => []
  let rest := if rest.head? = some '.' then rest.drop (part.length + 1) else rest
  let whole := whole.dropWhile (· = '0')
  let part := (part.reverse.dropWhile (· = '0')).reverse
  ⟨negative && !(whole.isEmpty && part.isEmpty), whole, part, rest⟩

/-- The order of two sizes without a sign. -/
def compareSizes (a b : PlainNumber) : Ordering :=
  ((compare a.whole.length b.whole.length).then (compareTexts a.whole b.whole)).then
    (compareTexts a.part b.part)

def PlainNumber.isZero (n : PlainNumber) : Bool := n.whole.isEmpty && n.part.isEmpty

def compareSigned (a b : PlainNumber) (sizes : Ordering) : Ordering :=
  match a.negative, b.negative with
  | true, false => .lt
  | false, true => .gt
  | true, true => sizes.swap
  | false, false => sizes

def compareNumbers (a b : List Char) : Ordering :=
  let a := plainNumber a
  let b := plainNumber b
  compareSigned a b (compareSizes a b)

/-- The rank of a letter after a number that counts in thousands. -/
def suffixRank (n : PlainNumber) : Nat :=
  if n.isZero then 0
  else
    match n.rest.head? with
    | some c =>
      let letters := ['K', 'M', 'G', 'T', 'P', 'E', 'Z', 'Y', 'R', 'Q']
      let c := if c = 'k' then 'K' else c
      match letters.findIdx? (· = c) with
      | some index => index + 1
      | none => 0
    | none => 0

def compareHuman (a b : List Char) : Ordering :=
  let a := plainNumber a
  let b := plainNumber b
  compareSigned a b ((compare (suffixRank a) (suffixRank b)).then (compareSizes a b))

/-- The number of a month by its first three letters. -/
def monthOf (text : List Char) : Nat :=
  let name := ((text.dropWhile isGap).take 3).map Char.toUpper
  let months := ["JAN", "FEB", "MAR", "APR", "MAY", "JUN", "JUL", "AUG", "SEP", "OCT", "NOV", "DEC"]
  match months.findIdx? (·.toList = name) with
  | some index => index + 1
  | none => 0

/-- The order of numbers that may have exponents; what is no number comes first. -/
def compareGeneral (a b : List Char) : Ordering :=
  let value (text : List Char) : Option (Int × Nat) :=
    (Number.leadingFloat? text).map fun (x, _) =>
      let (num, den) := x.ratio
      match x with
      | .nan => (-(Nat.pow 10 400 : Nat), 1)
      | .infinity negative => (if negative then -(Nat.pow 10 350 : Nat) else Nat.pow 10 350, 1)
      | .finite negative .. => (if negative then -num else num, den)
  match value a, value b with
  | none, none => .eq
  | none, some _ => .lt
  | some _, none => .gt
  | some (n, d), some (m, e) => compare (n * e) (m * d)

/-- The rank of a character in a version: a tilde comes before the end, then letters. -/
def versionRank (c : Char) : Int :=
  if c.isDigit then 0 else if c.isAlpha then c.toNat else if c = '~' then -2 else c.toNat + 256

/-- The order of the parts of two versions that are no digits. -/
def compareVersionText : List Char → List Char → Ordering
  | [], [] => .eq
  | [], d :: _ => compare (-1) (versionRank d)
  | c :: _, [] => compare (versionRank c) (-1)
  | c :: s, d :: t => (compare (versionRank c) (versionRank d)).then (compareVersionText s t)

/-- The order of two versions: parts of digits count as numbers. -/
def compareVersions : Nat → List Char → List Char → Ordering
  | 0, _, _ => .eq
  | limit + 1, a, b =>
    if a.isEmpty && b.isEmpty then .eq
    else
      let text (v : List Char) : List Char := v.takeWhile (!·.isDigit)
      let (s, t) := (text a, text b)
      let order := if s.isEmpty && t.isEmpty then Ordering.eq
        else
          let pad (part v : List Char) : List Char :=
            if part.length < v.length then part ++ ['0'] else part
          compareVersionText (pad s a) (pad t b)
      let (a, b) := (a.drop s.length, b.drop t.length)
      let number (v : List Char) : List Char := v.takeWhile Char.isDigit
      let (m, n) := (number a, number b)
      let order := order.then (compare (Text.valueOfDigits 10 m) (Text.valueOfDigits 10 n))
      order.then (compareVersions limit (a.drop m.length) (b.drop n.length))

/-- A name without its endings: a dot and letters, at most so many times. -/
def withoutEndings : Nat → List Char → List Char
  | 0, name => name
  | limit + 1, name =>
    let ending := name.reverse.takeWhile (· ≠ '.')
    let start := name.take (name.length - ending.length - 1)
    let first := ending.getLast?
    if ending.length < name.length && !start.isEmpty
        && first.any (fun c => c.isAlpha || c = '~')
        && ending.all (fun c => c.isAlphanum || c = '~') then withoutEndings limit start
    else name

def compareFileVersions (a b : List Char) : Ordering :=
  let limit := a.length + b.length + 1
  let (s, t) := (withoutEndings limit a, withoutEndings limit b)
  let (s, t) := if s = t then (a, b) else (s, t)
  (compareVersions limit s t).then (if s = a && t = b then .eq else compareVersions limit a b)

/-! ### Keys -/

/-- How keys are compared, by the letters of options. -/
structure KeyOrder where
  letters : List Char
deriving DecidableEq, Repr

def KeyOrder.has (o : KeyOrder) (letter : Char) : Bool := o.letters.contains letter

/-- The characters that count in a text. -/
def KeyOrder.counted (o : KeyOrder) (text : List Char) : List Char :=
  let text := if o.has 'd' then text.filter fun c => c.isAlphanum || isGap c
    else if o.has 'i' then text.filter fun c => 32 ≤ c.toNat && c.toNat ≠ 127 else text
  if o.has 'f' then text.map Char.toUpper else text

def KeyOrder.compare (o : KeyOrder) (a b : List Char) : Ordering :=
  let order := if o.has 'n' then compareNumbers a b
    else if o.has 'g' then compareGeneral a b
    else if o.has 'h' then compareHuman a b
    else if o.has 'M' then Ord.compare (monthOf a) (monthOf b)
    else if o.has 'V' then compareFileVersions a b
    else compareTexts (o.counted a) (o.counted b)
  if o.has 'r' then order.swap else order

/-- A place in a line: a field, and a character in it. -/
structure KeyPlace where
  field : Nat
  char : Nat
  skipsGaps : Bool
deriving DecidableEq, Repr

/-- A key: from a place up to another or to the end of the line. -/
structure SortKey where
  first : KeyPlace
  last : Option KeyPlace
  order : KeyOrder
deriving DecidableEq, Repr

/-- What follows some fields of a line. -/
def afterFields (separator : Option Char) : Nat → List Char → List Char
  | 0, line => line
  | count + 1, line =>
    match separator with
    | some d => afterFields separator count ((line.dropWhile (· ≠ d)).drop 1)
    | none => afterFields separator count ((line.dropWhile isGap).dropWhile (!isGap ·))

/-- How many characters stand before the end of a number of fields. -/
def fieldsEnd (separator : Option Char) (count : Nat) (more : Bool) (line : List Char) : Nat :=
  match separator, count with
  | none, _ => line.length - (afterFields none count line).length
  | some _, 0 => 0
  | some d, count + 1 =>
    let rest := afterFields separator count line
    let before := line.length - rest.length
    let field := rest.takeWhile (· ≠ d)
    before + field.length + if more && field.length < rest.length then 1 else 0

/-- The text of a key in a line. -/
def SortKey.text (separator : Option Char) (key : SortKey) (line : List Char) : List Char :=
  let rest := afterFields separator (key.first.field - 1) line
  let rest := if key.first.skipsGaps then rest.dropWhile isGap else rest
  let rest := rest.drop (key.first.char - 1)
  let start := line.length - rest.length
  match key.last with
  | none => rest
  | some last =>
    let stop := if last.char = 0 then fieldsEnd separator last.field false line
      else
        let before := fieldsEnd separator (last.field - 1) true line
        let after := line.drop before
        let after := if last.skipsGaps then after.dropWhile isGap else after
        min line.length (line.length - after.length + last.char)
    rest.take (stop - start)

/-- A place as it is written, the options after it, and what follows. -/
def keyPlace (text : List Char) : KeyPlace × List Char × List Char :=
  let field := text.takeWhile Char.isDigit
  let rest := text.drop field.length
  let (char, rest) := match rest with
    | '.' :: rest =>
      let digits := rest.takeWhile Char.isDigit
      (some (Text.valueOfDigits 10 digits), rest.drop digits.length)
    | rest => (none, rest)
  let letters := rest.takeWhile ['b', 'd', 'f', 'g', 'h', 'i', 'M', 'n', 'R', 'r', 'V'].contains
  (⟨Text.valueOfDigits 10 field, char.getD 0, letters.contains 'b'⟩, letters,
    rest.drop letters.length)

/-- What is wrong with a key. -/
inductive KeyFault
  | noStart
  | noStop (text : List Char)
  | zeroField
  | zeroChar
  | stray (text : List Char)

/-- A key as it is written. -/
def sortKey (text : List Char) : Except KeyFault SortKey :=
  let (first, letters, rest) := keyPlace text
  if !(text.head?.any Char.isDigit) then .error .noStart
  else if first.field = 0 then .error .zeroField
  else if first.char = 0 && (text.dropWhile Char.isDigit).head? = some '.' then .error .zeroChar
  else
    match rest with
    | [] => .ok ⟨first, none, ⟨letters.filter (· ≠ 'b')⟩⟩
    | ',' :: rest =>
      if !(rest.head?.any Char.isDigit) then .error (.noStop rest)
      else
        let (last, more, after) := keyPlace rest
        if last.field = 0 then .error .zeroField
        else if !after.isEmpty then .error (.stray after)
        else .ok ⟨first, some last, ⟨(letters ++ more).filter (· ≠ 'b')⟩⟩
    | rest => .error (.stray rest)

/-! ### Sorting -/

/-- How lines are sorted. -/
structure Sorting where
  separator : Option Char
  keys : List SortKey
  whole : KeyOrder
  stable : Bool

/-- The order of two lines by their keys. -/
def Sorting.byKeys (s : Sorting) (a b : List Char) : Ordering :=
  if s.keys.isEmpty then s.whole.compare a b
  else s.keys.foldl (fun order key =>
    order.then (key.order.compare (key.text s.separator a) (key.text s.separator b))) .eq

/-- The order of two lines; those with equal keys are compared as wholes. -/
def Sorting.compare (s : Sorting) (a b : List Char) : Ordering :=
  let order := s.byKeys a b
  if s.stable then order
  else
    let last := compareTexts a b
    order.then (if s.whole.has 'r' then last.swap else last)

def Sorting.sort (s : Sorting) (lines : List (List Char)) : List (List Char) :=
  lines.mergeSort fun a b => s.compare a b ≠ .gt

/-- Lines without those that follow an equal one. -/
def withoutRepeats (same : List Char → List Char → Bool) : List (List Char) → List (List Char)
  | a :: b :: rest =>
    if same a b then withoutRepeats same (a :: rest) else a :: withoutRepeats same (b :: rest)
  | lines => lines

/-- The first line that is not in order, and its number. -/
def disorder? (inOrder : List Char → List Char → Bool) : Nat → List (List Char) →
    Option (Nat × List Char)
  | n, a :: b :: rest =>
    if inOrder a b then disorder? inOrder (n + 1) (b :: rest) else some (n + 1, b)
  | _, _ => none

def sortOptions : Options :=
  { letters := "bcCdfghik:mMno:rRsS:t:T:uVyzα:β::γ:δ:"
    words := [("ignore-leading-blanks", 'b'), ("batch-size", 'δ'), ("check", 'β'),
      ("dictionary-order", 'd'), ("field-separator", 't'), ("files0-from", 'γ'),
      ("general-numeric-sort", 'g'), ("human-numeric-sort", 'h'), ("ignore-case", 'f'),
      ("ignore-nonprinting", 'i'), ("key", 'k'), ("merge", 'm'), ("month-sort", 'M'),
      ("numeric-sort", 'n'), ("output", 'o'), ("parallel", 'δ'), ("random-sort", 'R'),
      ("reverse", 'r'), ("sort", 'α'), ("stable", 's'), ("buffer-size", 'S'),
      ("temporary-directory", 'T'), ("unique", 'u'), ("version-sort", 'V'),
      ("zero-terminated", 'z')] }

/-- The orders and the ways to check by their words. -/
def orderWords : List (String × Char) :=
  [("general-numeric", 'g'), ("human-numeric", 'h'), ("month", 'M'), ("numeric", 'n'),
    ("random", 'R'), ("version", 'V')]

def checkWords : List (String × Char) :=
  [("quiet", 'C'), ("silent", 'C'), ("diagnose-first", 'c')]

/-- The options with the letters that their words stand for; otherwise the tool ends with a
status. -/
def withSortLetters (c : Choice) : Act (Except Nat Choice) := do
  let mut given : List Given := []
  for g in c.given do
    match g.letter with
    | 'α' =>
      match chosenIn? orderWords g.value with
      | some letter => given := given ++ [⟨letter, []⟩]
      | none => return .error (← notAmong 2 g.value "--sort" orderWords)
    | 'β' =>
      match if g.value.isEmpty then some 'c' else chosenIn? checkWords g.value with
      | some letter => given := given ++ [⟨letter, []⟩]
      | none => return .error (← notAmong 2 g.value "--check" checkWords)
    | _ => given := given ++ [g]
  return .ok { c with given }

/-- The letters of an order of which only one may be there, if there are several. -/
def clash? (letters : List Char) : Option (List Char) :=
  let kinds := ['g', 'h', 'M', 'n'].countP letters.contains
  let others := ['V', 'R', 'd', 'i'].any letters.contains
  if 1 < kinds + others.toNat then
    some (['d', 'f', 'g', 'h', 'i', 'M', 'n', 'R', 'V'].filter letters.contains)
  else none

/-- Says what is wrong with a key. -/
def complainOfKey (key : List Char) (fault : KeyFault) : Act Nat := do
  match fault with
  | .noStart =>
    warn ["invalid number at field start: invalid count at start of ".toList, ← quoted key]
  | .noStop text =>
    warn ["invalid number after ',': invalid count at start of ".toList, ← quoted text]
  | .zeroField => warn ["field number is zero: invalid field specification ".toList, ← quoted key]
  | .zeroChar =>
    warn ["character offset is zero: invalid field specification ".toList, ← quoted key]
  | .stray _ =>
    warn ["stray character in field spec: invalid field specification ".toList, ← quoted key]
  return 2

/-- The bytes of a file to be sorted. -/
def sortInput (path : List Char) : Act (Option (List Char)) := do
  match ← bytesAt path with
  | .ok bytes => return some bytes
  | .error fault =>
    let what := if fault = .isDirectory then "read failed: " else "cannot read: "
    warn [what.toList, ← nameOf path, ": ".toList, faultName fault]
    return none

def sortBy (c : Choice) : Act Nat := do
  let letters := ['d', 'f', 'g', 'h', 'i', 'M', 'n', 'R', 'r', 'V'].filter c.has
  let whole : KeyOrder := ⟨letters⟩
  let separator := match c.value? 't' with
    | some ['\\', '0'] => some '\x00'
    | some text => text.head?
    | none => none
  if (c.value? 't').any fun text => 1 < text.length && text ≠ ['\\', '0'] then
    warn ["multi-character tab ".toList, ← quoted ((c.value? 't').getD [])]
    return 2
  let mut keys : List SortKey := []
  for text in c.values 'k' do
    match sortKey text with
    | .error fault => return ← complainOfKey text fault
    | .ok key =>
      let own := !key.order.letters.isEmpty || key.first.skipsGaps
        || key.last.any (·.skipsGaps)
      let key := if own then key
        else { key with
          order := whole
          first := { key.first with skipsGaps := c.has 'b' }
          last := key.last.map fun last => { last with skipsGaps := c.has 'b' } }
      keys := keys ++ [key]
  let orders := if keys.isEmpty then [letters] else keys.map (·.order.letters)
  if let some letters := orders.findSome? clash? then
    warn ["options '-".toList, letters, "' are incompatible".toList]
    return 2
  if keys.isEmpty && c.has 'b' then keys := [⟨⟨1, 0, true⟩, none, whole⟩]
  let s : Sorting := ⟨separator, keys, whole, c.has 's' || c.has 'u'⟩
  let mark := if c.has 'z' then '\x00' else '\n'
  let mut parts : List (List (List Char)) := []
  for path in (if c.operands.isEmpty then [['-']] else c.operands) do
    match ← sortInput path with
    | none => return 2
    | some bytes => parts := (linesBy mark bytes).1 :: parts
  let lines := parts.reverse.flatten
  if c.has 'c' || c.has 'C' then
    let inOrder (a b : List Char) : Bool :=
      if c.has 'u' then s.byKeys a b = .lt else s.compare a b ≠ .gt
    match disorder? inOrder 1 lines with
    | none => return 0
    | some (n, line) =>
      if c.has 'c' then
        let path := c.operands.headD ['-']
        warn [path, ':' :: digits n, ": disorder: ".toList, line]
      return 1
  let sorted := if c.has 'm' then
      parts.reverse.foldl (fun merged part => merged.merge part fun a b => s.compare a b ≠ .gt) []
    else s.sort lines
  let sorted := if c.has 'u' then withoutRepeats (fun a b => s.byKeys a b = .eq) sorted else sorted
  let text := sorted.flatMap (· ++ [mark])
  match c.value? 'o' with
  | none =>
    put text
    return 0
  | some path =>
    match ← writeFile path text false with
    | .ok () => return 0
    | .error fault =>
      warn ["open failed: ".toList, ← nameOf path, ": ".toList, faultName fault]
      return 2

def sort : Tool := withOptions sortOptions 2 fun c => do
  match ← withSortLetters c with
  | .error status => return status
  | .ok c => sortBy c

end Gutter.Tools
