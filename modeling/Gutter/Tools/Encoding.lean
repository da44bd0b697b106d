import Gutter.Tools.Digest

/-! Bytes as text in letters of 64 or 32 kinds. -/

namespace Gutter.Tools

open Machine Shell

namespace Encoding

/-- An alphabet, the bits of each letter, and how many letters make a group. -/
structure Alphabet where
  letters : List Char
  bits : Nat
  group : Nat

def letters64 : List Char :=
  "ABCDEFGHIJKLMNOPQRSTUVWXYZabcdefghijklmnopqrstuvwxyz0123456789+/".toList

def alphabet64 : Alphabet := ⟨letters64, 6, 4⟩

def alphabet32 : Alphabet := ⟨"ABCDEFGHIJKLMNOPQRSTUVWXYZ234567".toList, 5, 8⟩

namespace Alphabet

variable (a : Alphabet)

def groupBytes : Nat := a.group * a.bits / 8

/-- The letters of at most one group of bytes. -/
def encodeGroup (bytes : List Nat) : List Char :=
  let count := (bytes.length * 8 + a.bits - 1) / a.bits
  let whole := Digest.ofBig (bytes ++ List.replicate (a.groupBytes - bytes.length) 0)
  let letter (n : Nat) : Char :=
    a.letters.getD (whole / Nat.pow 2 (a.bits * (a.group - 1 - n)) % Nat.pow 2 a.bits) '='
  (List.range count).map letter ++ List.replicate (a.group - count) '='

def encode (bytes : List Nat) : List Char :=
  (Digest.inChunks a.groupBytes bytes).flatMap a.encodeGroup

/-- The bytes of a group of letters; `none` if it is no group. -/
def decodeGroup (group : List Char) : Option (List Nat) :=
  let letters := group.takeWhile (· ≠ '=')
  let values := letters.map fun c => a.letters.idxOf c
  let count := letters.length * a.bits / 8
  let needed := (count * 8 + a.bits - 1) / a.bits
  if group.length ≠ a.group || !(group.drop letters.length).all (· = '=') then none
  else if letters.isEmpty || values.any (a.letters.length ≤ ·) || needed ≠ letters.length then none
  else
    let whole := values.foldl (fun n v => n * Nat.pow 2 a.bits + v) 0
    let whole := whole * Nat.pow 2 (a.bits * (a.group - letters.length))
    some ((Digest.bigBytes a.groupBytes whole).take count)

/-- The bytes of groups of letters, and whether all of them are groups. What stands before a letter
that is none counts. -/
def decode (text : List Char) : List Nat × Bool :=
  go (Digest.inChunks a.group text)
where
  go : List (List Char) → List Nat × Bool
    | [] => ([], true)
    | group :: rest =>
      match a.decodeGroup group with
      | some bytes =>
        let (others, good) := go rest
        (bytes ++ others, good)
      | none =>
        let letters := group.takeWhile a.letters.contains
        let count := letters.length * a.bits / 8
        let padded := letters ++ List.replicate (a.group - letters.length) 'A'
        (((a.decodeGroup padded).getD []).take count, false)

end Alphabet

/-- Lines of a width; without a width, one line that is not ended. -/
def wrapped (width : Nat) (text : List Char) : List Char :=
  if width = 0 then text
  else (Digest.inChunks width text).flatMap (· ++ ['\n'])

end Encoding

open Encoding in
/-- A tool that writes bytes in an alphabet, and reads them back. -/
def encodingTool (a : Alphabet) : Tool :=
    withOptions ⟨"diw:", [("decode", 'd'), ("ignore-garbage", 'i'), ("wrap", 'w')], true⟩ 1 fun c => do
  let width := (c.value? 'w').getD "76".toList
  if !width.all Char.isDigit || width.isEmpty then
    warn ["invalid wrap size: ".toList, ← quoted width]
    return 1
  match c.operands with
  | _ :: other :: _ => extraOperand 1 other
  | operands =>
    match ← inputOf (operands.headD ['-']) with
    | none => return 1
    | some bytes =>
      if c.has 'd' then
        let isLetter (b : Char) : Bool := a.letters.contains b || b = '='
        let text := bytes.filter fun b => b ≠ '\n' && (!c.has 'i' || isLetter b)
        let (found, good) := a.decode text
        put (found.map Char.ofNat)
        if good then return 0
        warn ["invalid input".toList]
        return 1
      else
        put (wrapped (Text.valueOfDigits 10 width) (a.encode (numbersOf bytes)))
        return 0

def base64 : Tool := encodingTool Encoding.alphabet64

def base32 : Tool := encodingTool Encoding.alphabet32

end Gutter.Tools
