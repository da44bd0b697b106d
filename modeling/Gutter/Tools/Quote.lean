import Gutter.Shell.Text
import Gutter.Text.CharClass
import Gutter.Text.Hex

/-! Names in messages: between the quotes of a locale, or so that a shell reads them back. -/

namespace Gutter.Tools

open Shell

/-- A piece of a name: a character with its bytes, or a byte that cannot be shown. -/
inductive Mark
  | shown (bytes : List Char)
  | hidden (byte : Char)
deriving DecidableEq, Repr

/-- How many bytes a character has that starts with this byte. -/
def charSize (byte : Char) : Nat :=
  let n := byte.toNat
  if n < 0xC2 then 1 else if n < 0xE0 then 2 else if n < 0xF0 then 3 else if n < 0xF5 then 4 else 1

/-- The character that bytes encode, if they encode one. -/
def charOf? (bytes : List Char) : Option Char :=
  match Text.Utf8.decode (toBytes bytes) with
  | .ok [c] => some c
  | _ => none

/-- The pieces of a name; beyond ASCII only characters of a locale that has them are shown. -/
def marksFrom (wide : Bool) : Nat → List Char → List Mark
  | 0, _ => []
  | _, [] => []
  | limit + 1, byte :: rest =>
    let bytes := (byte :: rest).take (charSize byte)
    match if wide || byte.toNat < 128 then charOf? bytes else none with
    | some c =>
      if Text.isPrintable c then
        .shown bytes :: marksFrom wide limit ((byte :: rest).drop bytes.length)
      else
        bytes.map .hidden ++ marksFrom wide limit ((byte :: rest).drop bytes.length)
    | none => .hidden byte :: marksFrom wide limit rest

def marks (wide : Bool) (name : List Char) : List Mark := marksFrom wide (name.length + 1) name

/-- A byte as an escape. -/
def escapeOf (byte : Char) : List Char :=
  match byte.toNat with
  | 7 => ['\\', 'a']
  | 8 => ['\\', 'b']
  | 9 => ['\\', 't']
  | 10 => ['\\', 'n']
  | 11 => ['\\', 'v']
  | 12 => ['\\', 'f']
  | 13 => ['\\', 'r']
  | n => ['\\', Text.hexDigit (n / 64), Text.hexDigit (n / 8 % 8), Text.hexDigit (n % 8)]

/-- Between the quotes of a locale. -/
def inQuotes (wide : Bool) (name : List Char) : List Char :=
  let inside := (marks wide name).flatMap fun
    | .shown bytes =>
      if bytes = ['\\'] then ['\\', '\\']
      else if bytes = ['\''] && !wide then ['\\', '\''] else bytes
    | .hidden byte => escapeOf byte
  if wide then bytesOf "‘" ++ inside ++ bytesOf "’" else '\'' :: inside ++ ['\'']

/-- Characters that mean something to a shell wherever they stand. -/
def isShellMark (c : Char) : Bool :=
  ['!', '"', '$', '&', '(', ')', '*', ';', '<', '=', '>', '[', '^', '?', '\\', '|',
    Char.ofNat 96].contains c

/-- Quotes are needed; a colon counts where one follows the name. -/
def needsQuotes (wide colon : Bool) (name : List Char) : Bool :=
  name.isEmpty || name = ['\x7b'] || name = ['\x7d']
    || name.head?.any (fun c => c = '#' || c = '~')
    || name.any (fun c => isShellMark c || c = '\'' || c = ' ' || (colon && c = ':'))
    || (marks wide name).any fun
      | .hidden _ => true
      | .shown _ => false

/-- The rest of a quoted name; `escaped` tells that escapes stand before it. -/
def quotedFrom (escaped : Bool) : List Mark → List Char
  | [] => ['\'']
  | .shown bytes :: rest =>
    let bytes := if bytes = ['\''] then ['\'', '\\', '\'', '\''] else bytes
    (if escaped then ['\'', '\''] else []) ++ bytes ++ quotedFrom false rest
  | .hidden byte :: rest =>
    (if escaped then [] else ['\'', '$', '\'']) ++ escapeOf byte ++ quotedFrom true rest

/-- A name in the quotes of a shell. -/
def shellQuoted (wide : Bool) (name : List Char) : List Char :=
  let marks := marks wide name
  let plain := marks.all fun
    | .hidden _ => false
    | .shown bytes => !bytes.any isShellMark
  if name.contains '\'' && plain then '"' :: name ++ ['"'] else '\'' :: quotedFrom false marks

/-- A name as it is, or in quotes if it needs them. -/
def shellName (wide colon : Bool) (name : List Char) : List Char :=
  if needsQuotes wide colon name then shellQuoted wide name else name

end Gutter.Tools
