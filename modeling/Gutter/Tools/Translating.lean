import Gutter.Shell.Glob
import Gutter.Tools.Options

/-! The tool that replaces, deletes and squeezes single bytes. -/

namespace Gutter.Tools

open Machine Shell

namespace Translating

/-- A part of a set of bytes as it is written. A repetition without a count fills up. -/
inductive Part
  | byte (c : Char)
  | range (first last : Char)
  | klass (name : List Char)
  | equal (c : Char)
  | times (c : Char) (count : Nat)
deriving DecidableEq, Repr

/-- What is wrong with sets. -/
inductive Fault
  | reversed (first last : List Char)
  | badClass (name : List Char)
  | badCount (text : List Char)
  | longEqual (text : List Char)
  | fillInFirst
  | twoFills
  | equalInSecond
  | otherClasses
  | misaligned
  | emptySecond
deriving DecidableEq, Repr

/-- The byte after a backslash, and how many characters were taken; it may be an octal number. -/
def escaped : List Char → Char × Nat
  | [] => ('\\', 0)
  | c :: rest =>
    let isOctal (c : Char) : Bool := '0' ≤ c && c ≤ '7'
    if isOctal c then
      let digits := ((c :: rest).take 3).takeWhile isOctal
      let digits := if 255 < Text.valueOfDigits 8 digits then digits.take 2 else digits
      (Char.ofNat (Text.valueOfDigits 8 digits), digits.length)
    else
      let named := [('a', '\x07'), ('b', '\x08'), ('f', '\x0c'), ('n', '\n'), ('r', '\r'),
        ('t', '\t'), ('v', '\x0b')]
      ((named.lookup c).getD c, 1)

/-- Bytes of a text with escapes; an escaped byte has no meaning of its own. -/
def unescaped : Nat → List Char → List Glyph
  | 0, _ => []
  | _, [] => []
  | limit + 1, '\\' :: rest =>
    let (c, size) := escaped rest
    ⟨c, true⟩ :: unescaped limit (rest.drop size)
  | limit + 1, c :: rest => ⟨c, false⟩ :: unescaped limit rest

/-- The text up to a mark and a bracket, if they come. -/
def upTo (mark : Char) : List Glyph → Option (List Char × List Glyph)
  | a :: b :: rest =>
    if isMark mark a && isMark ']' b then some ([], rest)
    else (upTo mark (b :: rest)).map fun (text, rest) => (a.char :: text, rest)
  | _ => none

def classNames : List String :=
  ["alnum", "alpha", "blank", "cntrl", "digit", "graph", "lower", "print", "punct", "space", "upper",
    "xdigit"]

/-- The count of a repetition, octal if it starts with a zero. -/
def count? (text : List Char) : Option Nat :=
  match text with
  | [] => some 0
  | '0' :: rest => if rest.all fun c => '0' ≤ c && c ≤ '7' then some (Text.valueOfDigits 8 rest) else none
  | text => if text.all Char.isDigit then some (Text.valueOfDigits 10 text) else none

/-- A part in brackets, if there is one. -/
def bracketed (text : List Glyph) : Except Fault (Option (Part × List Glyph)) :=
  match text with
  | a :: rest =>
    let repetition : Except Fault (Option (Part × List Glyph)) :=
      match rest with
      | star :: after =>
        if isMark '*' star then
          let inside := after.takeWhile (!isMark ']' ·)
          let text := inside.map (·.char)
          match after.drop inside.length with
          | _ :: rest =>
            match count? text with
            | some n => .ok (some (.times a.char n, rest))
            | none => if text.all Char.isDigit then .ok none else .error (.badCount text)
          | [] => .ok none
        else .ok none
      | [] => .ok none
    if isMark ':' a then
      match upTo ':' rest with
      | some (name, rest) =>
        if classNames.contains (String.ofList name) then .ok (some (.klass name, rest))
        else .error (.badClass name)
      | none => repetition
    else if isMark '=' a then
      match upTo '=' rest with
      | some ([c], rest) => .ok (some (.equal c, rest))
      | some (text, _) => .error (.longEqual text)
      | none => repetition
    else repetition
  | [] => .ok none

/-- The parts of a set. -/
def parts : Nat → List Glyph → Except Fault (List Part)
  | 0, _ => .ok []
  | _, [] => .ok []
  | limit + 1, g :: rest => do
    let found ← if isMark '[' g then bracketed rest else .ok none
    match found, rest with
    | some (part, rest), _ => return part :: (← parts limit rest)
    | none, dash :: last :: after =>
      if isMark '-' dash then
        if last.char < g.char then throw (.reversed [g.char] [last.char])
        return .range g.char last.char :: (← parts limit after)
      else return .byte g.char :: (← parts limit rest)
    | none, rest => return .byte g.char :: (← parts limit rest)

def setOf (text : List Char) : Except Fault (List Part) :=
  let glyphs := unescaped (text.length + 1) text
  parts (glyphs.length + 1) glyphs

def allBytes : List Char := (List.range 256).map Char.ofNat

def bytesFrom (first last : Char) : List Char :=
  (List.range (last.toNat + 1 - first.toNat)).map fun n => Char.ofNat (first.toNat + n)

/-- The bytes of a part. -/
def Part.bytes : Part → List Char
  | .byte c => [c]
  | .range first last => bytesFrom first last
  | .klass name => allBytes.filter fun c => SetItem.has c (.klass name)
  | .equal c => [c]
  | .times c n => List.replicate n c

def bytesOfParts (set : List Part) : List Char := set.flatMap Part.bytes

def isFill : Part → Bool
  | .times _ 0 => true
  | _ => false

/-- A set whose repetition without a count fills it up to a size. -/
def filled (size : Nat) (set : List Part) : List Part :=
  let known := (bytesOfParts set).length
  set.map fun
    | .times c 0 => .times c (size - known)
    | part => part

/-- The cases that letters can be changed to. -/
def isCase : Part → Bool
  | .klass name => name = "upper".toList || name = "lower".toList
  | _ => false

/-- Where a set has classes of letters: how many bytes come before each. -/
def casePlaces : Nat → List Part → List Nat
  | _, [] => []
  | place, part :: rest =>
    (if isCase part then [place] else []) ++ casePlaces (place + part.bytes.length) rest

/-- The bytes that others are replaced by. -/
def replacements (complement : Bool) (first second : List Part) (from_ : List Char) :
    Except Fault (List Char) := do
  let wrong (part : Part) : Bool :=
    match part with
    | .klass _ => !isCase part
    | _ => false
  if second.any fun
    | .equal _ => true
    | _ => false then throw .equalInSecond
  if 1 < (second.filter isFill).length then throw .twoFills
  if second.any wrong then throw .otherClasses
  let second := filled from_.length second
  if !complement && (casePlaces 0 second).any (!(casePlaces 0 first).contains ·) then
    throw .misaligned
  if complement && second.any isCase then throw .misaligned
  return bytesOfParts second

/-- Takes repetitions of some bytes down to one. -/
def squeeze (set : List Char) : Option Char → List Char → List Char
  | _, [] => []
  | last, c :: rest =>
    if some c = last && set.contains c then squeeze set last rest
    else c :: squeeze set (some c) rest

def Fault.tell (fault : Fault) : Act (List (List Char)) := do
  match fault with
  | .reversed first last =>
    return ["range-endpoints of '".toList, first, ['-'], last,
      "' are in reverse collating sequence order".toList]
  | .badClass name => return ["invalid character class ".toList, ← quoted name]
  | .badCount text =>
    return ["invalid repeat count ".toList, ← quoted text, " in [c*n] construct".toList]
  | .longEqual text =>
    if text.isEmpty then return ["missing equivalence class character '[==]'".toList]
    else return [text, ": equivalence class operand must be a single character".toList]
  | .fillInFirst => return ["the [c*] repeat construct may not appear in string1".toList]
  | .twoFills => return ["only one [c*] repeat construct may appear in string2".toList]
  | .equalInSecond => return ["[=c=] expressions may not appear in string2 when translating".toList]
  | .otherClasses =>
    return ["when translating, the only character classes that may appear in\nstring2 are ".toList,
      "'upper' and 'lower'".toList]
  | .misaligned => return ["misaligned [:upper:] and/or [:lower:] construct".toList]
  | .emptySecond => return ["when not truncating set1, string2 must be non-empty".toList]

/-- What is done with the bytes that come in. -/
def change (deletes squeezes complement truncates : Bool) (first : List Part)
    (second : Option (List Part)) : Except Fault (List Char → List Char) := do
  if first.any isFill then throw .fillInFirst
  let plain := bytesOfParts first
  let from_ := if complement then allBytes.filter (!plain.contains ·) else plain
  match deletes, second with
  | true, none => return fun bytes => bytes.filter (!from_.contains ·)
  | true, some second =>
    let set := bytesOfParts second
    return fun bytes => squeeze set none (bytes.filter (!from_.contains ·))
  | false, none => return squeeze from_ none
  | false, some second =>
    let targets ← replacements complement first second from_
    if targets.isEmpty && !from_.isEmpty && !truncates then throw .emptySecond
    let targets := if truncates then targets
      else targets ++ List.replicate (from_.length - targets.length) (targets.getLastD ' ')
    let pairs := (from_.zip targets).reverse
    let table := allBytes.map fun c => (pairs.lookup c).getD c
    let table := table.toArray
    let translated (bytes : List Char) : List Char := bytes.map fun c => table.getD c.toNat c
    return fun bytes => if squeezes then squeeze targets none (translated bytes) else translated bytes

end Translating

open Translating in
def tr : Tool :=
    withOptions ⟨"cCdst", [("complement", 'c'), ("delete", 'd'), ("squeeze-repeats", 's'),
      ("truncate-set1", 't')], false⟩ 1 fun c => do
  let (deletes, squeezes) := (c.has 'd', c.has 's')
  let least := if deletes = squeezes then 2 else 1
  let most := if deletes && !squeezes then 1 else 2
  match c.operands with
  | [] => missingOperand 1
  | operands =>
    if operands.length < least then
      warn ["missing operand after ".toList, ← quoted (operands.getLastD [])]
      say (if deletes then "Two strings must be given when both deleting and squeezing repeats.\n"
        else "Two strings must be given when translating.\n")
      tryHelp
      return 1
    else if most < operands.length then
      warn ["extra operand ".toList, ← quoted (operands.getD most [])]
      if operands.length = 2 then
        say "Only one string may be given when deleting without squeezing repeats.\n"
      tryHelp
      return 1
    else
      for operand in operands do
        if (operand.reverse.takeWhile (· = '\\')).length % 2 = 1 then
          warn ["warning: an unescaped backslash at end of string is not portable".toList]
      let read : Except Fault (List Char → List Char) := do
        let first ← setOf (operands.headD [])
        let second ← match operands[1]? with
          | some text => (setOf text).map some
          | none => pure none
        change deletes squeezes (c.has 'c' || c.has 'C') (c.has 't') first second
      match read with
      | .error fault =>
        warn (← fault.tell)
        return 1
      | .ok f =>
        match ← inputOf ['-'] with
        | some bytes =>
          put (f bytes)
          return 0
        | none => return 1

end Gutter.Tools
