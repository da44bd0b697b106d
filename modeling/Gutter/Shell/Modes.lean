import Gutter.Text.Hex
import Gutter.Text.Split

/-! Rights to a file: three digits, each of which has a bit for reading, writing and executing; and
changes of them: twelve bits, three for the owner, the group and others each, and three
before them. -/

namespace Gutter.Shell.Rights

/-- The rights that letters stand for. -/
def ofLetters (letters : List Char) : Option Nat :=
  letters.foldl (fun sum c => sum.bind fun n =>
    match c with
    | 'r' => some (n ||| 4)
    | 'w' => some (n ||| 2)
    | 'x' => some (n ||| 1)
    | 'X' => some (n ||| 1)
    | 's' => some n
    | 't' => some n
    | _ => none) (some 0)

/-- Changes rights by signs with letters after each, for those whom a number stands for. -/
def changeBy (whole : Nat) : Nat → Nat → List Char → Option Nat
  | 0, _, _ => none
  | _, rights, [] => some rights
  | limit + 1, rights, sign :: rest =>
    let letters := rest.takeWhile fun c => c ≠ '+' && c ≠ '-' && c ≠ '='
    (ofLetters letters).bind fun n =>
      let after := rest.drop letters.length
      match sign with
      | '+' => changeBy whole limit (rights ||| (whole * n)) after
      | '-' => changeBy whole limit (rights &&& (511 - whole * n)) after
      | '=' => changeBy whole limit ((rights &&& (511 - whole * 7)) ||| (whole * n)) after
      | _ => none

/-- Changes rights by one clause: whom it names, and signs with letters. -/
def change (rights : Nat) (clause : List Char) : Option Nat :=
  let (who, rest) := clause.span ['u', 'g', 'o', 'a'].contains
  let has (c : Char) : Bool := who.isEmpty || who.contains 'a' || who.contains c
  let whole := (if has 'u' then 64 else 0) + (if has 'g' then 8 else 0) + (if has 'o' then 1 else 0)
  if rest.isEmpty then none else changeBy whole (rest.length + 1) rights rest

/-- Changes rights by clauses with commas between them. -/
def changeAll (rights : Nat) (clauses : List Char) : Option Nat :=
  (Text.splitOn ',' clauses).foldl (fun sum clause => sum.bind (change · clause)) (some rights)

/-- Rights as letters, with dashes for what is not allowed. -/
def text (rights : Nat) : List Char :=
  (List.range 9).map fun n =>
    if rights / Nat.pow 2 (8 - n) % 2 = 1 then ['r', 'w', 'x'].getD (n % 3) '-' else '-'

/-- Rights as letters for their owner, group and others. -/
def clauses (rights : Nat) : List Char :=
  let letters (n : Nat) : List Char := ((text rights).drop n |>.take 3).filter (· ≠ '-')
  "u=".toList ++ letters 0 ++ ",g=".toList ++ letters 3 ++ ",o=".toList ++ letters 6

end Gutter.Shell.Rights

namespace Gutter.Shell.Modes

/-- Which bits a sign with its letters stands for: fixed ones, those of one class, or the right to
execute where somebody has it. -/
inductive Bits
  | fixed (n : Nat)
  | ofClass (n : Nat)
  | execution
deriving DecidableEq, Repr

/-- One change: whom it affects, if that is said, a sign, and bits. -/
structure Change where
  affected : Option Nat
  sign : Char
  value : Nat
  bits : Bits
  mentioned : Nat
deriving DecidableEq, Repr

/-- All bits of some of the twelve. -/
def without (n bits : Nat) : Nat := n - (n &&& bits)

def allBits : Nat := 0o7777

/-- Whom letters name. -/
def whom (letters : List Char) : Nat :=
  letters.foldl (fun n c => n ||| match c with
    | 'u' => 0o4700
    | 'g' => 0o2070
    | 'o' => 0o1007
    | _ => allBits) 0

/-- The bits of the letters after a sign. -/
def letterBits : List Char → Nat × Bool
  | [] => (0, false)
  | c :: rest =>
    let (n, execution) := letterBits rest
    match c with
    | 'r' => (n ||| 0o444, execution)
    | 'w' => (n ||| 0o222, execution)
    | 'x' => (n ||| 0o111, execution)
    | 's' => (n ||| 0o6000, execution)
    | 't' => (n ||| 0o1000, execution)
    | _ => (n, true)

def isOctal (c : Char) : Bool := '0' ≤ c && c ≤ '7'

/-- Reads signs, each with what follows it. -/
def signs (affected : Option Nat) : Nat → List Char → Option (List Change)
  | 0, _ => none
  | _, [] => some []
  | limit + 1, sign :: rest =>
    if !(['+', '-', '='].contains sign) then none
    else
      let octal := rest.takeWhile isOctal
      let letters := rest.takeWhile ['r', 'w', 'x', 'X', 's', 't'].contains
      let (change, after) : Change × List Char :=
        if !octal.isEmpty then
          let n := Text.valueOfDigits 8 octal
          (⟨some allBits, sign, n, .fixed n, allBits⟩, rest.drop octal.length)
        else match rest with
          | 'u' :: after => (⟨affected, sign, 0, .ofClass 0o700, affected.getD allBits⟩, after)
          | 'g' :: after => (⟨affected, sign, 0, .ofClass 0o070, affected.getD allBits⟩, after)
          | 'o' :: after => (⟨affected, sign, 0, .ofClass 0o007, affected.getD allBits⟩, after)
          | _ =>
            let (n, execution) := letterBits letters
            (⟨affected, sign, n, if execution then .execution else .fixed n,
              affected.elim n (n &&& ·)⟩, rest.drop letters.length)
      (signs affected limit after).map (change :: ·)

/-- Reads one clause: whom it names, and signs. -/
def clause (text : List Char) : Option (List Change) :=
  let (who, rest) := text.span ['u', 'g', 'o', 'a'].contains
  if rest.isEmpty then none
  else signs (if who.isEmpty then none else some (whom who)) (rest.length + 1) rest

/-- Reads changes: an octal number, or clauses with commas between them. -/
def ofText? (text : List Char) : Option (List Change) :=
  if !text.isEmpty && text.all isOctal then
    let n := Text.valueOfDigits 8 text
    if allBits < n then none
    else
      let mentioned := if text.length < 5 then (n &&& 0o7000) ||| 0o777 else allBits
      some [⟨some allBits, '=', n, .fixed n, mentioned⟩]
  else ((Text.splitOn ',' text).mapM clause).map List.flatten

/-- Rights after a change; what the mask takes away does not count where nobody is named. -/
def Change.apply (mask : Nat) (directory : Bool) (rights : Nat) (c : Change) : Nat :=
  let kept := if directory then without 0o6000 c.mentioned else 0
  let value := match c.bits with
    | .fixed n => n
    | .ofClass n =>
      let own := rights &&& n
      let part (bits : Nat) : Nat := if own &&& bits = 0 then 0 else bits
      part 0o444 ||| part 0o222 ||| part 0o111
    | .execution => if directory || rights &&& 0o111 ≠ 0 then c.value ||| 0o111 else c.value
  let value := without (value &&& c.affected.getD (without allBits mask)) kept
  match c.sign with
  | '+' => rights ||| value
  | '-' => without rights value
  | _ =>
    let preserved := (c.affected.elim 0 (without allBits ·)) ||| kept
    (rights &&& preserved) ||| value

def applyAll (mask : Nat) (directory : Bool) (changes : List Change) (rights : Nat) : Nat :=
  changes.foldl (Change.apply mask directory) rights

/-- Rights as letters, with dashes for what is not allowed. -/
def text (rights : Nat) : List Char :=
  let bit (n : Nat) : Bool := rights / Nat.pow 2 n % 2 = 1
  let group (shift special : Nat) (letter : Char) : List Char :=
    let execution := bit shift
    [if bit (shift + 2) then 'r' else '-', if bit (shift + 1) then 'w' else '-',
      if bit special then if execution then letter else letter.toUpper
      else if execution then 'x' else '-']
  group 6 11 's' ++ group 3 10 's' ++ group 0 9 't'

end Gutter.Shell.Modes
