import Gutter.Text.Hex
import Gutter.Text.Utf8

/-! Texts of the shell: bytes as characters, names, values in single quotes, and what a backslash and
the characters after it stand for. -/

namespace Gutter.Shell

/-! ### Bytes as characters

The shell sees every byte of a text as a character of its own. -/

/-- Bytes as characters, one for each. -/
def charsOf (bytes : List UInt8) : List Char := bytes.map fun b => Char.ofNat b.toNat

def bytesOf (text : String) : List Char := charsOf (Text.Utf8.encode text.toList)

def toBytes (text : List Char) : List UInt8 := text.map fun c => c.toNat.toUInt8

/-- The text that bytes encode. -/
def textOf (bytes : List Char) : String := String.ofList (Text.Utf8.decodeLossy (toBytes bytes))

/-! ### Names of variables and functions -/

def isNameStart (c : Char) : Bool := c.isAlpha || c = '_'

def isNameChar (c : Char) : Bool := c.isAlphanum || c = '_'

def isName (text : List Char) : Bool := text.head?.any isNameStart && text.all isNameChar

/-! ### Values in single quotes, as the shell lists them -/

/-- The parts of a text with and without single quotes, in turn. -/
def quoteRuns : List Char → List (List Char)
  | [] => []
  | c :: rest =>
    match quoteRuns rest with
    | (d :: run) :: runs =>
      if (c = '\'') = (d = '\'') then (c :: d :: run) :: runs else [c] :: (d :: run) :: runs
    | runs => [c] :: runs

/-- A text in single quotes; the single quotes in it are in double quotes. -/
def singleQuoted (text : List Char) : List Char :=
  let start := if text.head? = some '\'' || text.isEmpty then ['\'', '\''] else []
  start ++ (quoteRuns text).flatMap fun run =>
    if run.head? = some '\'' then '"' :: run ++ ['"'] else '\'' :: run ++ ['\'']

/-! ### Escapes of printed texts -/

def isOctalDigit (c : Char) : Bool := '0' ≤ c && c ≤ '7'

def octalDigits (count : Nat) (text : List Char) : List Char :=
  (text.take count).takeWhile isOctalDigit

/-- The byte with an octal number, as a character. -/
def octalByte (digits : List Char) : Char := Char.ofNat (Text.valueOfDigits 8 digits % 256)

def controlEscape? : Char → Option Char
  | 'a' => some '\x07'
  | 'b' => some '\x08'
  | 'e' => some '\x1b'
  | 'f' => some '\x0c'
  | 'n' => some '\n'
  | 'r' => some '\r'
  | 't' => some '\t'
  | 'v' => some '\x0b'
  | '\\' => some '\\'
  | _ => none

/-- What stands after a backslash. -/
inductive Escape
  | chars (chars : List Char) (size : Nat)
  | ends
  | missingDigits
deriving DecidableEq, Repr

/-- Escapes with hexadecimal numbers: how many digits they take at most. -/
def hexadecimalEscape? : Char → Option Nat
  | 'x' => some 2
  | 'u' => some 4
  | 'U' => some 8
  | _ => none

/-- The escape at the start of a text. An unknown one is a backslash and takes nothing; `wide` ones
have hexadecimal numbers, quotes, and the sign that printing ends. -/
def escape (wide : Bool) (rest : List Char) : Escape :=
  match octalDigits 3 rest, rest with
  | [], c :: after =>
    match controlEscape? c, hexadecimalEscape? c with
    | some c, _ => .chars [c] 1
    | none, some count =>
      let digits := (after.take count).takeWhile Text.isHexDigit
      let n := Text.hexValue digits
      if !wide then .chars ['\\'] 0
      else if digits.isEmpty || (c ≠ 'x' && digits.length < count) then .missingDigits
      else if c = 'x' then .chars [Char.ofNat n] (digits.length + 1)
      else .chars (bytesOf (Char.ofNat n).toString) (digits.length + 1)
    | none, none =>
      if wide && c = '"' then .chars [c] 1
      else if wide && c = 'c' then .ends
      else .chars ['\\'] 0
  | [], [] => .chars ['\\'] 0
  | digits, _ => .chars [octalByte digits] digits.length

/-- A text with its escapes replaced, where octal numbers may start with a zero that does not count.
The escape that is given back ended the text before its end. -/
def unescapeFrom (wide : Bool) : Nat → List Char → List Char × Option Escape
  | _, [] => ([], none)
  | skip + 1, _ :: rest => unescapeFrom wide skip rest
  | 0, c :: rest =>
    if c ≠ '\\' then
      let (text, stop) := unescapeFrom wide 0 rest
      (c :: text, stop)
    else
      match rest with
      | 'c' :: _ => ([], some .ends)
      | '0' :: after =>
        let digits := octalDigits 3 after
        let (text, stop) := unescapeFrom wide (digits.length + 1) rest
        (octalByte digits :: text, stop)
      | _ =>
        match escape wide rest with
        | .chars chars size =>
          let (text, stop) := unescapeFrom wide size rest
          (chars ++ text, stop)
        | other => ([], some other)

def unescape (text : List Char) : List Char := (unescapeFrom false 0 text).1

end Gutter.Shell
