import Gutter.Text.Hex
import Gutter.Validation.NumberText
import Gutter.Value

/-! Values as JSON texts: how they are written, and the values that such texts write. -/

namespace Gutter.Json

/-! ### Writing -/

/-- A number of 16 bits as an escape. -/
def unicodeEscape (n : Nat) : List Char := '\\' :: 'u' :: Text.hexPadded 4 n

/-- A character as escapes of its UTF-16 units. -/
def escapedUnits (n : Nat) : List Char :=
  if n < 0x10000 then unicodeEscape n
  else unicodeEscape (0xd800 + (n - 0x10000) / 0x400)
    ++ unicodeEscape (0xdc00 + (n - 0x10000) % 0x400)

/-- A character of a string. With `ascii`, characters beyond ASCII are escaped too. -/
def writeChar (ascii : Bool) (c : Char) : List Char :=
  if c = '"' then ['\\', '"']
  else if c = '\\' then ['\\', '\\']
  else if c = '\n' then ['\\', 'n']
  else if c = '\r' then ['\\', 'r']
  else if c = '\t' then ['\\', 't']
  else if c.toNat = 8 then ['\\', 'b']
  else if c.toNat = 12 then ['\\', 'f']
  else if c.toNat < 32 || (ascii && 127 < c.toNat) then escapedUnits c.toNat
  else [c]

def writeString (ascii : Bool) (s : String) : String :=
  String.ofList ('"' :: s.toList.flatMap (writeChar ascii) ++ ['"'])

mutual

/-- The text of a value; dates and times are strings. -/
def write (ascii : Bool) : Value → String
  | .null => "null"
  | .bool b => if b then "true" else "false"
  | .int n => toString n
  | .float x => Number.floatText x
  | .text s => writeString ascii s
  | .list items => "[" ++ ", ".intercalate (writeItems ascii items) ++ "]"
  | .table entries => "\x7b" ++ ", ".intercalate (writeEntries ascii entries) ++ "\x7d"
  | .date d => writeString ascii d.text
  | .time t => writeString ascii t.text
  | .moment m => writeString ascii m.text

def writeItems (ascii : Bool) : List Value → List String
  | [] => []
  | item :: rest => write ascii item :: writeItems ascii rest

def writeEntries (ascii : Bool) : List (String × Value) → List String
  | [] => []
  | (key, value) :: rest =>
    (writeString ascii key ++ ": " ++ write ascii value) :: writeEntries ascii rest

end

/-! ### Reading -/

/-- The characters that a letter after a backslash stands for. -/
def escaped (c : Char) : Char :=
  match c with
  | 'n' => '\n'
  | 't' => '\t'
  | 'r' => '\r'
  | 'b' => Char.ofNat 8
  | 'f' => Char.ofNat 12
  | c => c

/-- A pair of units stands for one character. -/
def isPair (high low : Nat) : Bool :=
  0xd800 ≤ high && high ≤ 0xdbff && 0xdc00 ≤ low && low ≤ 0xdfff

def pairChar (high low : Nat) : Char :=
  Char.ofNat (0x10000 + (high - 0xd800) * 0x400 + (low - 0xdc00))

/-- The four digits of an escape, after its `u`, and the text after them. -/
def unit (text : List Char) : Nat × List Char := (Text.hexValue (text.take 4), text.drop 4)

/-- The characters of an escape, after its backslash, and the text after it. -/
def readEscape (text : List Char) : Option (Char × List Char) :=
  match text with
  | [] => none
  | 'u' :: rest =>
    let (high, rest) := unit rest
    match rest with
    | '\\' :: 'u' :: more =>
      let (low, after) := unit more
      if isPair high low then some (pairChar high low, after) else some (Char.ofNat high, rest)
    | rest => some (Char.ofNat high, rest)
  | c :: rest => some (escaped c, rest)

/-- The characters of a string after its opening quote, in reverse in front of `done`. -/
def readString : Nat → List Char → List Char → Option (String × List Char)
  | 0, _, _ => none
  | _ + 1, _, [] => none
  | steps + 1, done, c :: rest =>
    if c = '"' then some (String.ofList done.reverse, rest)
    else if c = '\\' then
      match readEscape rest with
      | none => none
      | some (c, rest) => readString steps (c :: done) rest
    else readString steps (c :: done) rest

def isBlank (c : Char) : Bool := c = ' ' || c = '\n' || c = '\t' || c = '\r'

def skipBlank (text : List Char) : List Char := text.dropWhile isBlank

/-- A number: a float if it has a point or an exponent, and an integer otherwise. -/
def numberValue (text : List Char) : Value :=
  if text.any fun c => c = '.' || c = 'e' || c = 'E' then
    .float ((Validation.plainNumberText? text).getD .nan)
  else .int ((Validation.signedDigits? text).getD 0)

def isNumberPart (c : Char) : Bool := Text.isAsciiDigit c || "+-.eE".toList.contains c

mutual

/-- A value at the start of a text. -/
def readValue : Nat → List Char → Option (Value × List Char)
  | 0, _ => none
  | steps + 1, text =>
    match skipBlank text with
    | '"' :: rest => (readString steps [] rest).map fun (s, rest) => (.text s, rest)
    | '[' :: rest =>
      match skipBlank rest with
      | ']' :: rest => some (.list [], rest)
      | rest => readItems steps [] rest
    | '\x7b' :: rest =>
      match skipBlank rest with
      | '\x7d' :: rest => some (.table [], rest)
      | rest => readEntries steps [] rest
    | 't' :: 'r' :: 'u' :: 'e' :: rest => some (.bool true, rest)
    | 'f' :: 'a' :: 'l' :: 's' :: 'e' :: rest => some (.bool false, rest)
    | 'n' :: 'u' :: 'l' :: 'l' :: rest => some (.null, rest)
    | 'N' :: 'a' :: 'N' :: rest => some (.float .nan, rest)
    | text =>
      match text.takeWhile isNumberPart with
      | [] => none
      | digits => some (numberValue digits, text.dropWhile isNumberPart)

/-- The items of a list, in reverse in front of `done`. -/
def readItems : Nat → List Value → List Char → Option (Value × List Char)
  | 0, _, _ => none
  | steps + 1, done, text => do
    let (item, rest) ← readValue steps text
    match skipBlank rest with
    | ',' :: rest => readItems steps (item :: done) rest
    | ']' :: rest => return (.list (item :: done).reverse, rest)
    | _ => none

/-- The entries of a table, in reverse in front of `done`. -/
def readEntries : Nat → List (String × Value) → List Char → Option (Value × List Char)
  | 0, _, _ => none
  | steps + 1, done, text =>
    match skipBlank text with
    | '"' :: rest => do
      let (key, rest) ← readString steps [] rest
      match skipBlank rest with
      | ':' :: rest => do
        let (value, rest) ← readValue steps rest
        match skipBlank rest with
        | ',' :: rest => readEntries steps ((key, value) :: done) rest
        | '\x7d' :: rest => return (.table ((key, value) :: done).reverse, rest)
        | _ => none
      | _ => none
    | _ => none

end

/-- The value that a text writes. The length of the text bounds the number of steps. -/
def read (text : String) : Option Value :=
  (readValue (2 * text.length + 2) text.toList).map (·.1)

end Gutter.Json
