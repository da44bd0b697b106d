import Gutter.Text.Hex

/-! UTF-8: texts as bytes, the first fault in a sequence of bytes, and decoding that refuses faults
or puts a replacement character for each. -/

namespace Gutter.Text.Utf8

/-- What is wrong with bytes that do not encode a text. -/
inductive Fault
  | startByte
  | continuationByte
  | endOfData
deriving DecidableEq, Repr

def Fault.message : Fault → String
  | .startByte => "invalid start byte"
  | .continuationByte => "invalid continuation byte"
  | .endOfData => "unexpected end of data"

/-- The bytes from `first` to below `last` are at fault; `byte` is the first of them. -/
structure DecodeError where
  fault : Fault
  byte : UInt8
  first : Nat
  last : Nat

def DecodeError.message (e : DecodeError) : String :=
  if e.last = e.first + 1 then
    let byte := String.ofList (hexPadded 2 e.byte.toNat)
    s!"'utf-8' codec can't decode byte 0x{byte} in position {e.first}: {e.fault.message}"
  else
    s!"'utf-8' codec can't decode bytes in position {e.first}-{e.last - 1}: {e.fault.message}"

/-- The first step of a decoder: a character of some bytes, or a fault that takes some bytes. -/
inductive Step
  | char (c : Char) (size : Nat)
  | fault (kind : Fault) (size : Nat)

def isContinuation (b : UInt8) : Bool := 0x80 ≤ b && b < 0xc0

/-- The second byte is in the range that the first byte allows. -/
def secondFits (b0 b1 : UInt8) : Bool :=
  isContinuation b1
    && !(b0 = 0xe0 && b1 < 0xa0) && !(b0 = 0xed && 0xa0 ≤ b1)
    && !(b0 = 0xf0 && b1 < 0x90) && !(b0 = 0xf4 && 0x90 ≤ b1)

def payload (b : UInt8) : Nat := b.toNat % 0x40

/-- Reads one character; the bytes after a fault are read again. -/
def step (b0 : UInt8) (rest : List UInt8) : Step :=
  if b0 < 0x80 then .char (Char.ofNat b0.toNat) 1
  else if b0 < 0xc2 || 0xf5 ≤ b0 then .fault .startByte 1
  else if b0 < 0xe0 then
    match rest with
    | [] => .fault .endOfData 1
    | b1 :: _ =>
      if isContinuation b1 then .char (Char.ofNat (b0.toNat % 0x20 * 0x40 + payload b1)) 2
      else .fault .continuationByte 1
  else if b0 < 0xf0 then
    match rest with
    | [] => .fault .endOfData 1
    | [b1] => if secondFits b0 b1 then .fault .endOfData 2 else .fault .continuationByte 1
    | b1 :: b2 :: _ =>
      if !secondFits b0 b1 then .fault .continuationByte 1
      else if !isContinuation b2 then .fault .continuationByte 2
      else .char (Char.ofNat ((b0.toNat % 0x10 * 0x40 + payload b1) * 0x40 + payload b2)) 3
  else
    match rest with
    | [] => .fault .endOfData 1
    | [b1] => if secondFits b0 b1 then .fault .endOfData 2 else .fault .continuationByte 1
    | [b1, b2] =>
      if !secondFits b0 b1 then .fault .continuationByte 1
      else if !isContinuation b2 then .fault .continuationByte 2
      else .fault .endOfData 3
    | b1 :: b2 :: b3 :: _ =>
      if !secondFits b0 b1 then .fault .continuationByte 1
      else if !isContinuation b2 then .fault .continuationByte 2
      else if !isContinuation b3 then .fault .continuationByte 3
      else .char (Char.ofNat
        (((b0.toNat % 8 * 0x40 + payload b1) * 0x40 + payload b2) * 0x40 + payload b3)) 4

/-- Decodes bytes from `position` on; `skip` of them belong to what was read before. -/
def decodeFrom : Nat → Nat → List UInt8 → Except DecodeError (List Char)
  | _, _, [] => .ok []
  | position, skip + 1, _ :: rest => decodeFrom (position + 1) skip rest
  | position, 0, b :: rest =>
    match step b rest with
    | .char c size => (decodeFrom (position + 1) (size - 1) rest).map (c :: ·)
    | .fault kind size => .error ⟨kind, b, position, position + size⟩

/-- The text that the bytes encode. -/
def decode (bytes : List UInt8) : Except DecodeError (List Char) := decodeFrom 0 0 bytes

/-- The text that the bytes encode, with U+FFFD for every fault. -/
def decodeLossyFrom : Nat → List UInt8 → List Char
  | _, [] => []
  | skip + 1, _ :: rest => decodeLossyFrom skip rest
  | 0, b :: rest =>
    match step b rest with
    | .char c size => c :: decodeLossyFrom (size - 1) rest
    | .fault _ size => Char.ofNat 0xfffd :: decodeLossyFrom (size - 1) rest

def decodeLossy (bytes : List UInt8) : List Char := decodeLossyFrom 0 bytes

/-- The bytes of one character. -/
def encodeChar (c : Char) : List UInt8 :=
  let n := c.toNat
  if n < 0x80 then [n.toUInt8]
  else if n < 0x800 then [(0xc0 + n / 0x40).toUInt8, (0x80 + n % 0x40).toUInt8]
  else if n < 0x10000 then
    [(0xe0 + n / 0x1000).toUInt8, (0x80 + n / 0x40 % 0x40).toUInt8, (0x80 + n % 0x40).toUInt8]
  else
    [(0xf0 + n / 0x40000).toUInt8, (0x80 + n / 0x1000 % 0x40).toUInt8,
     (0x80 + n / 0x40 % 0x40).toUInt8, (0x80 + n % 0x40).toUInt8]

def encode (text : List Char) : List UInt8 := text.flatMap encodeChar

end Gutter.Text.Utf8
