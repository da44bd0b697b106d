import Gutter.Number.Printed
import Gutter.Tools.Digest
import Gutter.Tools.Reading

/-! Bytes in columns of numbers or names, and the texts that stand among bytes. -/

namespace Gutter.Tools

open Machine Shell

namespace Dump

/-! ### Columns -/

/-- What a column shows of its bytes. -/
inductive Kind
  | character
  | named
  | octal
  | decimal
  | unsigned
  | hexadecimal
  | floating
deriving DecidableEq, Repr

/-- A column: what it shows, of how many bytes, and whether the characters follow. -/
structure Column where
  kind : Kind
  size : Nat
  withText : Bool
deriving DecidableEq, Repr

/-- The width of what is shown. -/
def Column.width (c : Column) : Nat :=
  let bits := c.size * 8
  match c.kind with
  | .character => 3
  | .named => 3
  | .octal => (bits + 2) / 3
  | .hexadecimal => c.size * 2
  | .unsigned => (Nat.toDigits 10 (Nat.pow 2 bits - 1)).length
  | .decimal => (Nat.toDigits 10 (Nat.pow 2 (bits - 1))).length + 1
  | .floating => if c.size = 4 then 15 else 24

def controlNames : List String :=
  ["nul", "soh", "stx", "etx", "eot", "enq", "ack", "bel", "bs", "ht", "nl", "vt", "ff", "cr", "so",
    "si", "dle", "dc1", "dc2", "dc3", "dc4", "nak", "syn", "etb", "can", "em", "sub", "esc", "fs",
    "gs", "rs", "us", "sp"]

def padLeft (fill : Char) (width : Nat) (text : List Char) : List Char :=
  List.replicate (width - text.length) fill ++ text

/-- A number of 32 or 64 bits as a floating-point number. -/
def floatOf (size n : Nat) : Number.Binary64 :=
  let (bits, bias) := if size = 4 then (23, 150) else (52, 1075)
  let mantissa := n % Nat.pow 2 bits
  let top := if size = 4 then 256 else 2048
  let exponent := n / Nat.pow 2 bits % top
  let negative := Nat.pow 2 (size * 8 - 1) ≤ n
  if exponent = top - 1 then if mantissa = 0 then .infinity negative else .nan
  else if exponent = 0 then .finite negative mantissa (1 - bias)
  else .finite negative (mantissa + Nat.pow 2 bits) (exponent - bias)

/-- Whether so many digits of a number are nearer to it than to any other number with its exponent. -/
def readsBack (x : Number.Binary64) (count : Nat) : Bool :=
  match x with
  | .finite _ mantissa exponent =>
    let (num, den) := x.ratio
    let (kept, power) := Number.digitsAndExponent num den (count - 1)
    let (keptNum, keptDen) := Number.scaleTen kept 1 (count - 1 - power)
    let gap := (keptNum * den : Int) - num * keptDen
    let (unitNum, unitDen) := (Number.Binary64.finite false 1 exponent).ratio
    let room := unitNum * keptDen * den
    let twice := 2 * gap.natAbs * unitDen
    twice < room || (twice = room && mantissa % 2 = 0)
  | _ => true

/-- The fewest digits that read back, from a least number on. -/
def digitsNeeded (x : Number.Binary64) (least most : Nat) : Nat :=
  ((List.range most).find? fun n => least ≤ n && readsBack x n).getD most

/-- What is shown of a number. -/
def Column.show (c : Column) (n : Nat) : List Char :=
  let bits := c.size * 8
  match c.kind with
  | .character =>
    match n with
    | 0 => ['\\', '0']
    | 7 => ['\\', 'a']
    | 8 => ['\\', 'b']
    | 9 => ['\\', 't']
    | 10 => ['\\', 'n']
    | 11 => ['\\', 'v']
    | 12 => ['\\', 'f']
    | 13 => ['\\', 'r']
    | n => if 32 ≤ n && n < 127 then [Char.ofNat n] else padLeft '0' 3 (Nat.toDigits 8 n)
  | .named =>
    let n := n % 128
    if n = 127 then "del".toList
    else if n ≤ 32 then (controlNames.getD n "").toList else [Char.ofNat n]
  | .octal => padLeft '0' c.width (Nat.toDigits 8 n)
  | .hexadecimal => padLeft '0' c.width (Nat.toDigits 16 n)
  | .unsigned => digits n
  | .decimal =>
    if Nat.pow 2 (bits - 1) ≤ n then '-' :: digits (Nat.pow 2 bits - n) else digits n
  | .floating =>
    let x := floatOf c.size n
    let isSmall : Bool := match x with
      | .finite _ mantissa _ => mantissa < Nat.pow 2 (if c.size = 4 then 23 else 52)
      | _ => false
    let (least, most) := if c.size = 4 then (6, 9) else (15, 17)
    let count := digitsNeeded x (if isSmall then 1 else least) most
    (if Nat.pow 2 (bits - 1) ≤ n then ['-'] else [])
      ++ Number.Form.text .general (some count) false x

/-! ### Types -/

/-- What is wrong with the text of a type. -/
inductive TypeFault
  | letter (letter : Char)
  | size (size : Nat) (floating : Bool)
  | number
deriving DecidableEq, Repr

/-- What the letter of a type shows, and how many bytes of it if nothing else is said. -/
def kinds : List (Char × Kind × Nat) :=
  [('a', .named, 1), ('c', .character, 1), ('d', .decimal, 4), ('f', .floating, 8), ('o', .octal, 4),
    ('u', .unsigned, 4), ('x', .hexadecimal, 4)]

/-- The number of bytes after the letter of a type, as a letter or in digits. -/
def sizeAfter (kind : Kind) (usual : Nat) (text : List Char) :
    Except TypeFault (Nat × List Char) :=
  let named := if kind = .floating then [('F', 4), ('D', 8)] else
    [('C', 1), ('S', 2), ('I', 4), ('L', 8)]
  let sizes := if kind = .floating then [4, 8] else [1, 2, 4, 8]
  let digits := text.takeWhile Char.isDigit
  let size := Text.valueOfDigits 10 digits
  if kind = .named || kind = .character then .ok (usual, text)
  else match text.head?.bind (fun c => named.lookup c) with
    | some size => .ok (size, text.drop 1)
    | none =>
      if digits.isEmpty then .ok (usual, text)
      else if Nat.pow 2 64 ≤ size then .error .number
      else if sizes.contains size then .ok (size, text.drop digits.length)
      else .error (.size size (kind = .floating))

/-- The columns that a type asks for. -/
def columns : Nat → List Char → Except TypeFault (List Column)
  | 0, _ => .ok []
  | _, [] => .ok []
  | limit + 1, letter :: rest =>
    match kinds.lookup letter with
    | none => .error (.letter letter)
    | some (kind, usual) => do
      let (size, after) ← sizeAfter kind usual rest
      let withText := after.head? = some 'z'
      let others ← columns limit (if withText then after.drop 1 else after)
      return ⟨kind, size, withText⟩ :: others

/-- Old letters for columns. -/
def lettered : List (Char × Column) :=
  [('a', ⟨.named, 1, false⟩), ('b', ⟨.octal, 1, false⟩), ('c', ⟨.character, 1, false⟩),
    ('d', ⟨.unsigned, 2, false⟩), ('f', ⟨.floating, 4, false⟩), ('i', ⟨.decimal, 4, false⟩),
    ('l', ⟨.decimal, 8, false⟩), ('o', ⟨.octal, 2, false⟩), ('s', ⟨.decimal, 2, false⟩),
    ('x', ⟨.hexadecimal, 2, false⟩), ('B', ⟨.octal, 2, false⟩), ('D', ⟨.unsigned, 4, false⟩),
    ('e', ⟨.floating, 8, false⟩), ('F', ⟨.floating, 8, false⟩), ('h', ⟨.hexadecimal, 2, false⟩),
    ('H', ⟨.hexadecimal, 4, false⟩), ('I', ⟨.decimal, 8, false⟩), ('L', ⟨.decimal, 8, false⟩),
    ('O', ⟨.octal, 4, false⟩), ('X', ⟨.hexadecimal, 4, false⟩)]

/-! ### Lines -/

/-- How lines are written: the signs of addresses, the columns, the bytes in a line, whether the
first byte of a number is its highest, and whether repeated lines are written. -/
structure Layout where
  radix : Char
  columns : List Column
  perLine : Nat
  highFirst : Bool
  all : Bool

namespace Layout

variable (l : Layout)

/-- The address of a line, or of the end. -/
def address (n : Nat) : List Char :=
  match l.radix with
  | 'n' => []
  | 'd' => padLeft '0' 7 (Nat.toDigits 10 n)
  | 'x' => padLeft '0' 6 (Nat.toDigits 16 n)
  | _ => padLeft '0' 7 (Nat.toDigits 8 n)

/-- The number of numbers in a full line of a column. -/
def fields (c : Column) : Nat := l.perLine / c.size

/-- The room of a full line: what the widest column needs. -/
def room : Nat := l.columns.foldl (fun n c => max n ((c.width + 1) * l.fields c)) 0

/-- The blanks to the left of the last `left` numbers of a full line beyond their widths. They are
shared out evenly. -/
def blanks (c : Column) (left : Nat) : Nat :=
  (l.room - c.width * l.fields c) * left / l.fields c

/-- The number that bytes stand for; bytes that are missing at the end are zero. -/
def number (c : Column) (bytes : List Nat) : Nat :=
  let bytes := bytes ++ List.replicate (c.size - bytes.length) 0
  if l.highFirst then Digest.ofBig bytes else Digest.ofLittle bytes

/-- A line of a column. -/
def line (c : Column) (bytes : List Nat) : List Char :=
  let pieces := Digest.inChunks c.size bytes
  let fields := l.fields c
  let text := pieces.zipIdx.flatMap fun (piece, n) =>
    let blanks := l.blanks c (fields - n) - l.blanks c (fields - n - 1)
    padLeft ' ' (blanks + c.width) (c.show (l.number c piece))
  if !c.withText then text
  else
    let missing := (l.perLine - bytes.length) / c.size
    let blanks := missing * c.width + l.blanks c missing
    let char (n : Nat) : Char := if 32 ≤ n && n < 127 then Char.ofNat n else '.'
    text ++ List.replicate blanks ' ' ++ "  >".toList ++ bytes.map char ++ ['<']

/-- All lines from an address on. A full line that repeats the one before it is left out, and a star
stands for such lines. -/
def lines : Nat → List (List Nat) → Option (List Nat) → Bool → List (List Char)
  | _, [], _, _ => []
  | start, piece :: rest, last, starred =>
    if !l.all && some piece = last && piece.length = l.perLine then
      (if starred then [] else [['*']]) ++ lines (start + l.perLine) rest last true
    else
      let blank := List.replicate (l.address 0).length ' '
      let shown := l.columns.zipIdx.map fun (c, n) =>
        (if n = 0 then l.address start else blank) ++ l.line c piece
      shown ++ lines (start + l.perLine) rest (some piece) false

/-- The texts of at least so many characters that a zero byte ends, with their addresses. -/
def texts (least : Nat) : Nat → List Char → List Char → List (List Char)
  | _, [], _ => []
  | start, c :: rest, run =>
    if ' ' ≤ c && c < '\x7f' then texts least (start + 1) rest (c :: run)
    else
      let others := texts least (start + 1) rest []
      let address := l.address (start - run.length)
      let lead := if address.isEmpty then [] else address ++ [' ']
      if c = '\x00' && least ≤ run.length then (lead ++ run.reverse) :: others else others

end Layout

/-! ### Numbers -/

/-- What is wrong with the value of an option. -/
inductive ValueFault
  | invalid
  | suffix
  | large
deriving DecidableEq, Repr

/-- The words around the option and its value. -/
def ValueFault.message (fault : ValueFault) (letter : Char) (value : List Char) : List Char :=
  let named := ['-', letter] ++ " argument '".toList ++ value ++ ['\'']
  match fault with
  | .invalid => "invalid ".toList ++ named
  | .suffix => "invalid suffix in ".toList ++ named
  | .large => named ++ " too large".toList

/-- Whether a character is a digit of a number to a base of at most 16. -/
def isDigitOf (base : Nat) (c : Char) : Bool := Text.isHexDigit c && Text.hexDigitValue c < base

/-- A number in octal after a zero, in hexadecimal after a zero and an x, or in decimal, with a
factor. -/
def whole (text : List Char) : Except ValueFault Nat :=
  let (radix, body) : Nat × List Char := match text with
    | '0' :: 'x' :: rest => (16, rest)
    | '0' :: 'X' :: rest => (16, rest)
    | '0' :: rest => (8, '0' :: rest)
    | _ => (10, text)
  let digits := body.takeWhile (isDigitOf radix)
  if digits.isEmpty then .error .invalid
  else match factor? (body.drop digits.length) with
    | none => .error .suffix
    | some factor =>
      let n := Text.valueOfDigits radix digits * factor
      if Nat.pow 2 64 ≤ n then .error .large else .ok n

/-- A number of bytes in a line, in decimal. -/
def plain (text : List Char) : Except ValueFault Nat :=
  let digits := text.takeWhile Char.isDigit
  let n := Text.valueOfDigits 10 digits
  if digits.isEmpty then .error .invalid
  else if digits.length < text.length then .error .suffix
  else if Nat.pow 2 64 ≤ n then .error .large
  else .ok n

/-- The value of an option read by a rule; a fault ends the run. -/
def reading (c : Choice) (letter : Char) (rule : List Char → Except ValueFault Nat) :
    Act (Except Unit (Option Nat)) := do
  match c.value? letter with
  | none => return .ok none
  | some value =>
    match rule value with
    | .ok n => return .ok (some n)
    | .error fault =>
      warn [fault.message letter value]
      return .error ()

/-- The columns that the options ask for. -/
def asked : List Given → Except (TypeFault × List Char) (List Column)
  | [] => .ok []
  | given :: rest =>
    let here : Except (TypeFault × List Char) (List Column) :=
      if given.letter = 't' then
        match columns given.value.length given.value with
        | .ok found => .ok found
        | .error fault => .error (fault, given.value)
      else .ok (lettered.lookup given.letter).toList
    match here with
    | .ok found => (asked rest).map (found ++ ·)
    | .error fault => .error fault

/-- Says what is wrong with a type. -/
def refuseType (fault : TypeFault) (text : List Char) : Act Nat := do
  let shown ← quoted text
  match fault with
  | .letter letter =>
    warn ["invalid character '".toList, [letter], "' in type string ".toList, shown]
  | .number => warn ["invalid type string ".toList, shown]
  | .size size floating =>
    let kind := if floating then "floating point" else "integral"
    warn ["invalid type string ".toList, shown, ";\nthis system doesn't provide a ".toList,
      digits size, "-byte ".toList, kind.toList, " type".toList]
  return 1

/-- The place that an operand after a plus sign names: in octal, or in decimal before a point, and
maybe in blocks. -/
def place? (text : List Char) : Option Nat :=
  let body := if text.head? = some '+' then text.drop 1 else text
  let decimal := body.contains '.'
  let (radix, body) : Nat × List Char := match body with
    | '0' :: 'x' :: rest => (if decimal then 10 else 16, rest)
    | _ => (if decimal then 10 else 8, body)
  let digits := body.takeWhile (isDigitOf radix)
  let n := Text.valueOfDigits radix digits
  if digits.isEmpty then none
  else match body.drop digits.length with
    | [] => some n
    | ['b'] => some (n * 512)
    | ['B'] => some (n * 1024)
    | _ => none

/-- Operands without a last one that names a place, and the place. -/
def placed (operands : List (List Char)) : Option Nat × List (List Char) :=
  let isPlus (text : List Char) : Bool := text.head? = some '+'
  match operands with
  | [text] =>
    match if isPlus text then place? text else none with
    | some n => (some n, [])
    | none => (none, operands)
  | [path, text] =>
    match if isPlus text || text.head?.any Char.isDigit then place? text else none with
    | some n => (some n, [path])
    | none => (none, operands)
  | _ => (none, operands)

end Dump

open Dump in
def od : Tool :=
    withOptions ⟨"A:aBbcDdeFfHhIij:LlN:OoS:st:vw::Xxβ::ε:", [("address-radix", 'A'), ("format", 't'),
      ("skip-bytes", 'j'), ("read-bytes", 'N'), ("output-duplicates", 'v'), ("width", 'w'),
      ("strings", 'β'), ("endian", 'ε')], true⟩ 1
    fun c => do
  let radix := ((c.value? 'A').getD ['o']).headD 'o'
  if !(['d', 'o', 'x', 'n'].contains radix) then
    warn ["invalid output address radix '".toList, [radix],
      "'; it must be one character from [doxn]".toList]
    return 1
  let .ok skip ← reading c 'j' whole | return 1
  let .ok limit ← reading c 'N' whole | return 1
  let .ok least ← reading c 'S' whole | return 1
  let columns ← match asked c.given with
    | .ok found => pure (if found.isEmpty then [⟨.octal, 2, false⟩] else found)
    | .error (fault, text) => return ← refuseType fault text
  let orders := [("little", false), ("big", true)]
  let order := c.value? 'ε'
  let highFirst ← match order.map (chosenIn? orders ·) with
    | some none => return ← notAmong 1 (order.getD []) "--endian" orders
    | some (some highFirst) => pure highFirst
    | none => pure false
  let asked ← match c.value? 'w' with
    | some [] => pure (some 32)
    | _ =>
      let .ok found ← reading c 'w' plain | return 1
      pure found
  let least := match least, c.value? 'β' with
    | some n, _ => some n
    | none, some text => some ((whole text).toOption.getD 3)
    | none, none => none
  let modern := ['A', 'j', 'N', 'S', 'β', 't', 'v', 'w', 'ε'].any c.has
  let (place, operands) := if modern then (none, c.operands) else placed c.operands
  let skip := (place.orElse fun _ => skip).getD 0
  let (bytes, status) ← joinedInputs (limit.map (skip + ·)) operands
  if status ≠ 0 && bytes.isEmpty then return status
  if bytes.length < skip then
    warn ["cannot skip past end of combined input".toList]
    return 1
  let bytes := bytes.drop skip
  let bytes := match limit with
    | some count => bytes.take count
    | none => bytes
  let unit := columns.foldl (fun n column => max n column.size) 1
  let perLine := asked.getD 16
  if perLine = 0 || perLine % unit ≠ 0 then
    warn ["warning: invalid width ".toList, digits perLine, "; using ".toList, digits unit,
      " instead".toList]
  let layout : Dump.Layout :=
    { radix, columns, highFirst, all := c.has 'v',
      perLine := if perLine = 0 || perLine % unit ≠ 0 then unit else perLine }
  match least with
  | some least => for text in layout.texts least skip bytes [] do putLine text
  | none =>
    let pieces := Digest.inChunks layout.perLine (numbersOf bytes)
    for text in layout.lines skip pieces none false do putLine text
    if radix ≠ 'n' then putLine (layout.address (skip + bytes.length))
  return status

end Gutter.Tools
