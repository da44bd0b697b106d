import Gutter.Text.CaseTable
import Gutter.Text.ClassTable
import Gutter.Text.NameTable

/-! The classes of characters that texts, patterns and numbers are made of. Each class is written
out for ASCII and read from a table above it. In quoted texts every character that cannot be shown
is escaped. -/

namespace Gutter.Text

/-- White space: ASCII blanks, the four separators U+001C to U+001F, and the Unicode spaces. -/
def isBlank (c : Char) : Bool :=
  let n := c.toNat
  if n < 128 then n = 32 || (9 ≤ n && n ≤ 13) || (28 ≤ n && n ≤ 31)
  else n = 0x85 || n = 0xa0 || n = 0x1680 || (0x2000 ≤ n && n ≤ 0x200a) || n = 0x2028
    || n = 0x2029 || n = 0x202f || n = 0x205f || n = 0x3000

/-- White space of ASCII without the separators. -/
def isAsciiBlank (c : Char) : Bool :=
  let n := c.toNat
  n = 32 || (9 ≤ n && n ≤ 13)

/-- The zeros of the decimal numerals beyond ASCII; nine digits follow each. -/
def decimalZeros : List Nat :=
  [0x660, 0x6f0, 0x7c0, 0x966, 0x9e6, 0xa66, 0xae6, 0xb66, 0xbe6, 0xc66, 0xce6, 0xd66, 0xde6,
   0xe50, 0xed0, 0xf20, 0x1040, 0x1090, 0x17e0, 0x1810, 0x1946, 0x19d0, 0x1a80, 0x1a90, 0x1b50,
   0x1bb0, 0x1c40, 0x1c50, 0xa620, 0xa8d0, 0xa900, 0xa9d0, 0xa9f0, 0xaa50, 0xabf0, 0xff10,
   0x104a0, 0x10d30, 0x11066, 0x110f0, 0x11136, 0x111d0, 0x112f0, 0x11450, 0x114d0, 0x11650,
   0x116c0, 0x11730, 0x118e0, 0x11950, 0x11c50, 0x11d50, 0x11da0, 0x16a60, 0x16ac0, 0x16b50,
   0x1d7ce, 0x1d7d8, 0x1d7e2, 0x1d7ec, 0x1d7f6, 0x1e140, 0x1e2f0, 0x1e950, 0x1fbf0]

/-- The value of a decimal digit of any numeral system. -/
def decimalValue? (c : Char) : Option Nat :=
  let n := c.toNat
  if n < 128 then
    if 48 ≤ n ∧ n ≤ 57 then some (n - 48) else none
  else
    (decimalZeros.find? fun start => start ≤ n && n ≤ start + 9).map (n - ·)

def isDecimal (c : Char) : Bool := (decimalValue? c).isSome

def isAsciiDigit (c : Char) : Bool := '0' ≤ c && c ≤ '9'

def isAsciiLetter (c : Char) : Bool := ('a' ≤ c && c ≤ 'z') || ('A' ≤ c && c ≤ 'Z')

/-- A letter, digit or numeral. -/
def isAlphanumeric (c : Char) : Bool :=
  if c.toNat < 128 then isAsciiLetter c || isAsciiDigit c
  else alphanumericTable.contains c.toNat

def isAlphabetic (c : Char) : Bool :=
  if c.toNat < 128 then isAsciiLetter c else alphabeticTable.contains c.toNat

/-- A character of a word: alphanumeric or an underscore. -/
def isWordChar (c : Char) : Bool := c = '_' || isAlphanumeric c

def isAsciiWordChar (c : Char) : Bool := c = '_' || isAsciiLetter c || isAsciiDigit c

def isNameStart (c : Char) : Bool :=
  if c.toNat < 128 then c = '_' || isAsciiLetter c else nameStartTable.contains c.toNat

def isNameContinue (c : Char) : Bool :=
  if c.toNat < 128 then isAsciiWordChar c else nameContinueTable.contains c.toNat

/-- An identifier: a start character and any continuing ones. -/
def isName : List Char → Bool
  | [] => false
  | c :: rest => isNameStart c && rest.all isNameContinue

/-- Shown as it is in a quoted text. -/
def isPrintable (c : Char) : Bool :=
  let n := c.toNat
  if n < 128 then 32 ≤ n && n ≤ 126 else printableTable.contains n

/-- The code point of the lowercase of a code point. -/
def lowerCode (n : Nat) : Nat :=
  if n < 128 then
    if 65 ≤ n ∧ n ≤ 90 then n + 32 else n
  else (lowercaseRuns.map? n).getD n

/-- The code point of the uppercase of a code point. -/
def upperCode (n : Nat) : Nat :=
  if n < 128 then
    if 97 ≤ n ∧ n ≤ 122 then n - 32 else n
  else (uppercaseRuns.map? n).getD n

def lowerAsciiCode (n : Nat) : Nat := if 65 ≤ n ∧ n ≤ 90 then n + 32 else n

/-- Some code point from `first` to `last` has another lowercase or uppercase. -/
def anyCased (first last : Nat) : Bool :=
  (first ≤ 90 && 65 ≤ last) || (first ≤ 122 && 97 ≤ last) || casedTable.meets first last

/-- Every code point whose lowercase is `n`. -/
def lowerSources (n : Nat) : List Nat :=
  let own := if lowerCode n = n then [n] else []
  let ascii := if 97 ≤ n ∧ n ≤ 122 then [n - 32] else []
  own ++ ascii ++ lowercaseRuns.sources n

/-- The other lowercase letters that share the uppercase of `n`. -/
def variantsOf (n : Nat) : List Nat :=
  ((caseVariants.find? fun entry => entry.1 = n).map (·.2)).getD []

/-! ### Quoted texts -/

/-- A character inside quotes of the kind `mark`. -/
def escapeChar (mark : Char) (c : Char) : List Char :=
  if c = mark ∨ c = '\\' then ['\\', c]
  else if c = '\n' then ['\\', 'n']
  else if c = '\r' then ['\\', 'r']
  else if c = '\t' then ['\\', 't']
  else if isPrintable c then [c]
  else if c.toNat < 0x100 then '\\' :: 'x' :: hexPadded 2 c.toNat
  else if c.toNat < 0x10000 then '\\' :: 'u' :: hexPadded 4 c.toNat
  else '\\' :: 'U' :: hexPadded 8 c.toNat

/-- Single quotes, unless the text has some and no double quote. -/
def quoteMark (text : List Char) : Char :=
  if text.contains '\'' && !text.contains '"' then '"' else '\''

def quoteChars (text : List Char) : List Char :=
  let mark := quoteMark text
  mark :: text.flatMap (escapeChar mark) ++ [mark]

def quote (text : String) : String := String.ofList (quoteChars text.toList)

/-- Quoted texts in brackets, with a comma and a blank between them. -/
def quoteList (texts : List String) : String :=
  "[" ++ ", ".intercalate (texts.map quote) ++ "]"

end Gutter.Text
