import Gutter.Pattern.Source
import Gutter.Text.CharName
import Gutter.Text.Hex

/-! Escapes: what a backslash and the characters after it mean, inside character sets
and outside. -/

namespace Gutter.Pattern

/-- The code point of an escape that stands for a control character or a backslash. -/
def controlCode? : Char → Option Nat
  | 'a' => some 7
  | 'b' => some 8
  | 'f' => some 12
  | 'n' => some 10
  | 'r' => some 13
  | 't' => some 9
  | 'v' => some 11
  | '\\' => some 92
  | _ => none

def category? : Char → Option Member
  | 'd' => some (.category false .digit)
  | 'D' => some (.category true .digit)
  | 's' => some (.category false .space)
  | 'S' => some (.category true .space)
  | 'w' => some (.category false .word)
  | 'W' => some (.category true .word)
  | _ => none

def anchor? : Char → Option Anchor
  | 'A' => some .textStart
  | 'Z' => some .textEnd
  | 'b' => some .boundary
  | 'B' => some .noBoundary
  | _ => none

/-- How many hexadecimal digits an escape takes. -/
def hexWidth? : Char → Option Nat
  | 'x' => some 2
  | 'u' => some 4
  | 'U' => some 8
  | _ => none

def isOctal (c : Char) : Bool := '0' ≤ c && c ≤ '7'

namespace Read

/-- Reads the digits of a hexadecimal escape. -/
def hexEscape (c : Char) (width : Nat) : Read Nat := do
  let digits ← takeWhile Text.isHexDigit width
  let written := '\\' :: c :: digits
  if digits.length < width then failBack (.incompleteEscape written) written.length
  let code := Text.hexValue digits
  if 0x10ffff < code then failBack (.badEscape written) written.length
  return code

/-- Reads a character name in braces. -/
def nameEscape : Read Nat := do
  if !(← accept '{') then failBack (.missing "\x7b") 0
  let charName ← name '}' "character name"
  match Text.namedCode? charName with
  | some code => return code
  | none => failBack (.undefinedCharacter charName) (charName.length + 4)

/-- A letter or digit that has no meaning after a backslash is refused, any other character stands
for itself. -/
def plainEscape (c : Char) : Read Nat := do
  if Text.isAsciiLetter c || Text.isAsciiDigit c then failBack (.badEscape ['\\', c]) 2
  return c.toNat

/-- The number that octal digits write after a backslash. -/
def octalCode (digits : List Char) : Read Nat := do
  let code := Text.valueOfDigits 8 digits
  if 0o377 < code then failBack (.octalTooLarge ('\\' :: digits)) (digits.length + 1)
  return code

/-- An escape inside a character set. -/
def setEscape (c : Char) : Read Member := do
  match controlCode? c, category? c, hexWidth? c with
  | some code, _, _ => return .code code
  | _, some member, _ => return member
  | _, _, some width => return .code (← hexEscape c width)
  | none, none, none =>
    if c = 'N' then return .code (← nameEscape)
    else if isOctal c then return .code (← octalCode (c :: (← takeWhile isOctal 2)))
    else return .code (← plainEscape c)

/-- A reference to a group by its number. -/
def numberedGroup (digits : List Char) : Read Item := do
  let index := Text.valueOfDigits 10 digits
  if index < (← groupCount) then
    if !(← isClosed index) then failBack .openGroup (digits.length + 1)
    checkLookBehind index
    return .again index
  else failBack (.noGroup index) digits.length

/-- A digit other than zero after a backslash: three octal digits are a code point, and any other
one or two digits a group. -/
def digitEscape (c : Char) : Read Item := do
  match ← takeWhile Text.isAsciiDigit 1 with
  | [d] =>
    if isOctal c && isOctal d then
      match ← takeWhile isOctal 1 with
      | [e] => return .code false (← octalCode [c, d, e])
      | _ => numberedGroup [c, d]
    else numberedGroup [c, d]
  | _ => numberedGroup [c]

/-- An escape outside a character set. -/
def itemEscape (c : Char) : Read Item := do
  match anchor? c, category? c, controlCode? c, hexWidth? c with
  | some point, _, _, _ => return .anchor point
  | _, some member, _, _ => return .set false [member]
  | _, _, some code, _ => return .code false code
  | _, _, _, some width => return .code false (← hexEscape c width)
  | none, none, none, none =>
    if c = 'N' then return .code false (← nameEscape)
    else if c = '0' then return .code false (← octalCode (c :: (← takeWhile isOctal 2)))
    else if Text.isAsciiDigit c then digitEscape c
    else return .code false (← plainEscape c)

end Read

end Gutter.Pattern
