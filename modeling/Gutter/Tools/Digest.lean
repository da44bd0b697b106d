import Gutter.Tools.Options

/-! Digests of files: checksums by division, by sums, and by rounds over words. -/

namespace Gutter.Tools

open Machine Shell

namespace Digest

/-- Words of a number of bits. -/
structure Width where
  bits : Nat

def Width.size (w : Width) : Nat := Nat.pow 2 w.bits

def Width.add (w : Width) (a b : Nat) : Nat := (a + b) % w.size

def Width.rotate (w : Width) (n a : Nat) : Nat :=
  (a * Nat.pow 2 n) % w.size + a / Nat.pow 2 (w.bits - n)

/-- Turned to the right. -/
def Width.turn (w : Width) (n a : Nat) : Nat := w.rotate (w.bits - n) a

def Width.not (w : Width) (a : Nat) : Nat := w.size - 1 - a

def ofBig (bytes : List Nat) : Nat := bytes.foldl (fun n b => n * 256 + b) 0

def ofLittle (bytes : List Nat) : Nat := bytes.foldr (fun b n => n * 256 + b) 0

/-- The bytes of a number, the lowest first. -/
def littleBytes : Nat → Nat → List Nat
  | 0, _ => []
  | count + 1, n => n % 256 :: littleBytes count (n / 256)

def bigBytes (count n : Nat) : List Nat := (littleBytes count n).reverse

/-- Pieces of a size, the last of which may be shorter. -/
def chunks {α : Type} (size : Nat) : Nat → List α → List (List α)
  | 0, _ => []
  | _, [] => []
  | limit + 1, items => items.take size :: chunks size limit (items.drop size)

def inChunks {α : Type} (size : Nat) (items : List α) : List (List α) :=
  chunks size (items.length + 1) items

/-- A message with a mark after it and its length in bits at the end of the last block. -/
def padded (block lengthBytes : Nat) (little : Bool) (bytes : List Nat) : List Nat :=
  let used := (bytes.length + 1 + lengthBytes) % block
  let length := if little then littleBytes lengthBytes (bytes.length * 8)
    else bigBytes lengthBytes (bytes.length * 8)
  bytes ++ 128 :: List.replicate ((block - used) % block) 0 ++ length

/-- The greatest integer whose power is not above a number. -/
def rootBelow (power n : Nat) : Nat → Nat → Nat
  | 0, low => low
  | bit + 1, low =>
    let next := low + Nat.pow 2 bit
    rootBelow power n bit (if Nat.pow next power ≤ n then next else low)

def isPrime (n : Nat) : Bool := 2 ≤ n && (List.range n).all fun d => d < 2 || n % d ≠ 0

def firstPrimes (count : Nat) : List Nat := ((List.range 420).filter isPrime).take count

/-- The first bits of the part after the point of a root. -/
def rootBits (power bits n : Nat) : Nat :=
  rootBelow power (n * Nat.pow 2 (power * bits)) (bits + 6) 0 % Nat.pow 2 bits

/-! ### Rounds over sixteen words -/

/-- What distinguishes the digests of one family. -/
structure Family where
  width : Width
  rounds : Nat
  first : List Nat
  second : List Nat
  low : List Nat
  high : List Nat

def family32 : Family := ⟨⟨32⟩, 64, [2, 13, 22], [6, 11, 25], [7, 18, 3], [17, 19, 10]⟩

def family64 : Family := ⟨⟨64⟩, 80, [28, 34, 39], [14, 18, 41], [1, 8, 7], [19, 61, 6]⟩

namespace Family

variable (f : Family)

def turned (turns : List Nat) (a : Nat) : Nat :=
  turns.foldl (fun n turn => n ^^^ f.width.turn turn a) 0

/-- Two turns and a shift. -/
def mixed (turns : List Nat) (a : Nat) : Nat :=
  f.turned (turns.take 2) a ^^^ (a / Nat.pow 2 (turns.getLastD 0))

/-- The words of all rounds, the newest first, from the first sixteen. -/
def schedule : Nat → List Nat → List Nat
  | 0, words => words
  | count + 1, words =>
    let at_ (n : Nat) : Nat := words.getD (n - 1) 0
    let next := (f.mixed f.high (at_ 2) + at_ 7 + f.mixed f.low (at_ 15) + at_ 16) % f.width.size
    schedule count (next :: words)

def constants : List Nat := (firstPrimes f.rounds).map (rootBits 3 f.width.bits)

def round (state : List Nat) (constant word : Nat) : List Nat :=
  match state with
  | [a, b, c, d, e, g, h, i] =>
    let choice := (e &&& g) ^^^ (f.width.not e &&& h)
    let major := (a &&& b) ^^^ (a &&& c) ^^^ (b &&& c)
    let one := (i + f.turned f.second e + choice + constant + word) % f.width.size
    let two := f.turned f.first a + major
    [f.width.add one two, a, b, c, f.width.add d one, e, g, h]
  | state => state

def block (constants state words : List Nat) : List Nat :=
  let all := (f.schedule (f.rounds - 16) words.reverse).reverse
  let mixed := (constants.zip all).foldl (fun state (k, w) => f.round state k w) state
  List.zipWith f.width.add state mixed

def digest (start : List Nat) (count : Nat) (bytes : List Nat) : List Nat :=
  let wordBytes := f.width.bits / 8
  let blocks := inChunks (wordBytes * 16) (padded (wordBytes * 16) (wordBytes * 2) false bytes)
  let constants := f.constants
  let final := blocks.foldl
    (fun state piece => f.block constants state ((inChunks wordBytes piece).map ofBig)) start
  (final.flatMap (bigBytes wordBytes)).take count

end Family

def sha256 : List Nat → List Nat :=
  family32.digest ((firstPrimes 8).map (rootBits 2 32)) 32

def sha224 : List Nat → List Nat :=
  family32.digest (((firstPrimes 16).drop 8).map fun p => rootBits 2 64 p % Nat.pow 2 32) 28

def sha512 : List Nat → List Nat :=
  family64.digest ((firstPrimes 8).map (rootBits 2 64)) 64

def sha384 : List Nat → List Nat :=
  family64.digest (((firstPrimes 16).drop 8).map (rootBits 2 64)) 48

/-! ### Older digests -/

def w32 : Width := ⟨32⟩

def oldSchedule : Nat → List Nat → List Nat
  | 0, words => words
  | count + 1, words =>
    let at_ (n : Nat) : Nat := words.getD (n - 1) 0
    oldSchedule count (w32.rotate 1 (at_ 3 ^^^ at_ 8 ^^^ at_ 14 ^^^ at_ 16) :: words)

def oldRound (state : List Nat) (n word : Nat) : List Nat :=
  match state with
  | [a, b, c, d, e] =>
    let (mix, constant) :=
      if n < 20 then ((b &&& c) ||| (w32.not b &&& d), 0x5A827999)
      else if n < 40 then (b ^^^ c ^^^ d, 0x6ED9EBA1)
      else if n < 60 then ((b &&& c) ||| (b &&& d) ||| (c &&& d), 0x8F1BBCDC)
      else (b ^^^ c ^^^ d, 0xCA62C1D6)
    [(w32.rotate 5 a + mix + e + constant + word) % w32.size, a, w32.rotate 30 b, c, d]
  | state => state

def sha1 (bytes : List Nat) : List Nat :=
  let start := [0x67452301, 0xEFCDAB89, 0x98BADCFE, 0x10325476, 0xC3D2E1F0]
  let block (state words : List Nat) : List Nat :=
    let all := (oldSchedule 64 words.reverse).reverse
    let mixed := all.zipIdx.foldl (fun state (w, n) => oldRound state n w) state
    List.zipWith w32.add state mixed
  let blocks := inChunks 64 (padded 64 8 false bytes)
  let final := blocks.foldl (fun state piece => block state ((inChunks 4 piece).map ofBig)) start
  final.flatMap (bigBytes 4)

/-- The turns of each kind of round. -/
def md5Turns : List (List Nat) := [[7, 12, 17, 22], [5, 9, 14, 20], [4, 11, 16, 23], [6, 10, 15, 21]]

/-- The sines of the first integers, as words. -/
def md5Constants : List Nat :=
  [0xd76aa478, 0xe8c7b756, 0x242070db, 0xc1bdceee, 0xf57c0faf, 0x4787c62a, 0xa8304613, 0xfd469501,
    0x698098d8, 0x8b44f7af, 0xffff5bb1, 0x895cd7be, 0x6b901122, 0xfd987193, 0xa679438e, 0x49b40821,
    0xf61e2562, 0xc040b340, 0x265e5a51, 0xe9b6c7aa, 0xd62f105d, 0x02441453, 0xd8a1e681, 0xe7d3fbc8,
    0x21e1cde6, 0xc33707d6, 0xf4d50d87, 0x455a14ed, 0xa9e3e905, 0xfcefa3f8, 0x676f02d9, 0x8d2a4c8a,
    0xfffa3942, 0x8771f681, 0x6d9d6122, 0xfde5380c, 0xa4beea44, 0x4bdecfa9, 0xf6bb4b60, 0xbebfbc70,
    0x289b7ec6, 0xeaa127fa, 0xd4ef3085, 0x04881d05, 0xd9d4d039, 0xe6db99e5, 0x1fa27cf8, 0xc4ac5665,
    0xf4292244, 0x432aff97, 0xab9423a7, 0xfc93a039, 0x655b59c3, 0x8f0ccc92, 0xffeff47d, 0x85845dd1,
    0x6fa87e4f, 0xfe2ce6e0, 0xa3014314, 0x4e0811a1, 0xf7537e82, 0xbd3af235, 0x2ad7d2bb, 0xeb86d391]

def md5Round (words : List Nat) (state : List Nat) (n constant : Nat) : List Nat :=
  match state with
  | [a, b, c, d] =>
    let (mix, index) := match n / 16 with
      | 0 => ((b &&& c) ||| (w32.not b &&& d), n)
      | 1 => ((d &&& b) ||| (w32.not d &&& c), 5 * n + 1)
      | 2 => (b ^^^ c ^^^ d, 3 * n + 5)
      | _ => (c ^^^ (b ||| w32.not d), 7 * n)
    let turn := ((md5Turns.getD (n / 16) []).getD (n % 4) 0)
    let sum := (a + mix + constant + words.getD (index % 16) 0) % w32.size
    [d, w32.add b (w32.rotate turn sum), b, c]
  | state => state

def md5 (bytes : List Nat) : List Nat :=
  let start := [0x67452301, 0xEFCDAB89, 0x98BADCFE, 0x10325476]
  let block (state words : List Nat) : List Nat :=
    let mixed := md5Constants.zipIdx.foldl (fun state (k, n) => md5Round words state n k) state
    List.zipWith w32.add state mixed
  let blocks := inChunks 64 (padded 64 8 true bytes)
  let final := blocks.foldl (fun state piece => block state ((inChunks 4 piece).map ofLittle)) start
  final.flatMap (littleBytes 4)

/-! ### Checksums -/

/-- One step of the division of a message by a polynomial of 32 bits. -/
def divideByte (rest byte : Nat) : Nat :=
  let start := rest ^^^ (byte * Nat.pow 2 24)
  (List.range 8).foldl (fun n _ =>
    let doubled := n * 2 % w32.size
    if Nat.pow 2 31 ≤ n then doubled ^^^ 0x04C11DB7 else doubled) start

/-- The rest of a message, with its length after it. -/
def crc (bytes : List Nat) : Nat :=
  let rec lengthBytes : Nat → Nat → List Nat
    | 0, _ => []
    | limit + 1, n => if n = 0 then [] else n % 256 :: lengthBytes limit (n / 256)
  w32.not ((bytes ++ lengthBytes 16 bytes.length).foldl divideByte 0)

/-- The sum of bytes, where the sum is turned before each. -/
def turnedSum (bytes : List Nat) : Nat :=
  bytes.foldl (fun sum b => ((sum / 2 + sum % 2 * 32768) + b) % 65536) 0

/-- The sum of bytes in two steps. -/
def foldedSum (bytes : List Nat) : Nat :=
  let s := bytes.foldl (· + ·) 0
  let r := s % 65536 + s % w32.size / 65536
  r % 65536 + r / 65536

end Digest

def numbersOf (bytes : List Char) : List Nat := bytes.map Char.toNat

def hexOf (bytes : List Nat) : List Char :=
  bytes.flatMap fun b => [Text.hexDigit (b / 16), Text.hexDigit (b % 16)]

/-- A line of a list of digests. -/
def digestLine (title : String) (c : Choice) (path digest : List Char) : List Char :=
  if c.has 'T' then title.toList ++ " (".toList ++ path ++ ") = ".toList ++ digest
  else digest ++ [' ', if c.has 'b' then '*' else ' '] ++ path

/-- Checks the lines of a list of digests. -/
def checkDigests (size : Nat) (digest : List Nat → List Nat) (c : Choice) : Act Nat := do
  let mut status := 0
  for list in (if c.operands.isEmpty then [['-']] else c.operands) do
    match ← inputOf list with
    | none => status := 1
    | some text =>
      let mut (read, bad, unread, wrongLines) := (0, 0, 0, 0)
      for line in linesOf text do
        let hex := line.takeWhile Text.isHexDigit
        let path := line.drop (hex.length + 2)
        if hex.length ≠ size * 2 || path.isEmpty then wrongLines := wrongLines + 1
        else
          read := read + 1
          match ← bytesAt path with
          | .error fault =>
            warn [← nameOf path, ": ".toList, faultName fault]
            if !c.has 's' then putLine (path ++ ": FAILED open or read".toList)
            unread := unread + 1
          | .ok bytes =>
            if hexOf (digest (numbersOf bytes)) = hex.map Char.toLower then
              if !c.has 's' && !c.has 'q' then putLine (path ++ ": OK".toList)
            else
              bad := bad + 1
              if !c.has 's' then putLine (path ++ ": FAILED".toList)
      if read = 0 then
        status := 1
        warn [← nameOf list, ": no properly formatted checksum lines found".toList]
      else if !c.has 's' then
        if 0 < wrongLines then
          warn [s!"WARNING: {wrongLines} ".toList, (if wrongLines = 1 then "line is" else "lines are").toList,
            " improperly formatted".toList]
        if 0 < unread then
          warn [s!"WARNING: {unread} listed ".toList, (if unread = 1 then "file" else "files").toList,
            " could not be read".toList]
        if 0 < bad then
          warn [s!"WARNING: {bad} computed ".toList, (if bad = 1 then "checksum" else "checksums").toList,
            " did NOT match".toList]
      if 0 < bad || 0 < unread then status := 1
  return status

/-- A tool that prints the digests of files. -/
def digestTool (title : String) (size : Nat) (digest : List Nat → List Nat) : Tool :=
    withOptions ⟨"bctwz", [("binary", 'b'), ("check", 'c'), ("text", 't'), ("tag", 'T'),
      ("status", 's'), ("quiet", 'q'), ("zero", 'z'), ("warn", 'w')], true⟩ 1 fun c => do
  if c.has 'c' then checkDigests size digest c
  else
    overInputs c.operands fun path bytes => do
      let line := digestLine title c path (hexOf (digest (numbersOf bytes)))
      put (line ++ if c.has 'z' then ['\x00'] else ['\n'])

def cksum : Tool := withOptions { letters := "" } 1 fun c => do
  overInputs c.operands fun path bytes => do
    let numbers := numbersOf bytes
    let name := if c.operands.isEmpty then [] else ' ' :: path
    putLine (digits (Digest.crc numbers) ++ ' ' :: digits bytes.length ++ name)

def sum : Tool := withOptions ⟨"rs", [("sysv", 's')], true⟩ 1 fun c => do
  overInputs c.operands fun path bytes => do
    let numbers := numbersOf bytes
    let name := if c.operands.isEmpty then [] else ' ' :: path
    if c.last? ['r', 's'] = some 's' then
      putLine (digits (Digest.foldedSum numbers) ++ ' ' :: digits ((bytes.length + 511) / 512) ++ name)
    else
      let checksum := digits (Digest.turnedSum numbers)
      putLine (List.replicate (5 - checksum.length) '0' ++ checksum ++ ' '
        :: aligned 5 (digits ((bytes.length + 1023) / 1024)) ++ name)

/-- The tools that print digests. -/
def digestTools : List (String × Tool) :=
  [("md5sum", digestTool "MD5" 16 Digest.md5), ("sha1sum", digestTool "SHA1" 20 Digest.sha1),
    ("sha224sum", digestTool "SHA224" 28 Digest.sha224),
    ("sha256sum", digestTool "SHA256" 32 Digest.sha256),
    ("sha384sum", digestTool "SHA384" 48 Digest.sha384),
    ("sha512sum", digestTool "SHA512" 64 Digest.sha512), ("cksum", cksum), ("sum", sum)]

end Gutter.Tools
