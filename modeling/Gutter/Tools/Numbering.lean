import Gutter.Number.Leading
import Gutter.Regular.Match
import Gutter.Regular.Reader
import Gutter.Tools.Options

/-! The tool that puts numbers before lines. Lines of signs start the header, the body and the footer
of a page, each of which has its own rule for which lines are numbered. -/

namespace Gutter.Tools

open Machine Shell

namespace Numbering

/-- Which lines have numbers. -/
inductive Style
  | all
  | filled
  | none
  | fitting (node : Regular.Node)
deriving DecidableEq, Repr

/-- How numbers are written. -/
inductive Format
  | left
  | right
  | zeros
deriving DecidableEq, Repr

/-- The parts of a page. -/
inductive Part
  | header
  | body
  | footer
deriving DecidableEq, Repr

/-- How lines are numbered. `joined` is how many empty lines count as one. -/
structure Rule where
  wide : Bool
  body : Style := .filled
  header : Style := .none
  footer : Style := .none
  format : Format := .right
  width : Nat := 6
  separator : List Char := ['\t']
  start : Int := 1
  step : Int := 1
  joined : Nat := 1
  goesOn : Bool := false
  sign : List Char := ['\\', ':']

/-- The part of the page, the next number, and how many empty lines came since one had a number. -/
structure Progress where
  part : Part := .body
  number : Int
  empty : Nat := 0

def Rule.number (r : Rule) (n : Int) : List Char :=
  let sign := if n < 0 then ['-'] else []
  let digits := digits n.natAbs
  let gap := r.width - (sign.length + digits.length)
  match r.format with
  | .left => sign ++ digits ++ List.replicate gap ' '
  | .zeros => sign ++ List.replicate gap '0' ++ digits
  | .right => List.replicate gap ' ' ++ sign ++ digits

def Rule.style (r : Rule) : Part → Style
  | .header => r.header
  | .body => r.body
  | .footer => r.footer

/-- The part of a page that a line starts. -/
def Rule.part? (r : Rule) (line : List Char) : Option Part :=
  let times (n : Nat) : List Char := (List.replicate n r.sign).flatten
  if r.sign.isEmpty then none
  else if line = times 3 then some .header
  else if line = times 2 then some .body
  else if line = times 1 then some .footer
  else none

/-- Whether a line has a number, and how many empty lines have gone before the next one. -/
def Rule.counts (r : Rule) (p : Progress) (line : List Char) : Bool × Nat :=
  match r.style p.part with
  | .none => (false, p.empty)
  | .filled => (!line.isEmpty, p.empty)
  | .fitting node => ((node.on { wide := r.wide } (Regular.signs r.wide line)).isThere, p.empty)
  | .all =>
    if r.joined ≤ 1 then (true, p.empty)
    else if !line.isEmpty || p.empty + 1 = r.joined then (true, 0)
    else (false, p.empty + 1)

/-- The text for a line. -/
def Rule.line (r : Rule) (p : Progress) (line : List Char) : Progress × List Char :=
  match r.part? line with
  | some part => ({ p with part, number := if r.goesOn then p.number else r.start }, ['\n'])
  | none =>
    let (counts, empty) := r.counts p line
    if counts then
      ({ p with number := p.number + r.step, empty }, r.number p.number ++ r.separator ++ line ++ ['\n'])
    else
      ({ p with empty }, List.replicate (r.width + r.separator.length) ' ' ++ line ++ ['\n'])

def Rule.lines (r : Rule) : Progress → List (List Char) → List (List Char)
  | _, [] => []
  | p, line :: rest =>
    let (p, text) := r.line p line
    text :: r.lines p rest

def options : Options :=
  { letters := "b:d:f:h:i:l:n:ps:v:w:"
    words := [("header-numbering", 'h'), ("body-numbering", 'b'), ("footer-numbering", 'f'),
      ("starting-line-number", 'v'), ("line-increment", 'i'), ("no-renumber", 'p'),
      ("join-blank-lines", 'l'), ("number-separator", 's'), ("number-width", 'w'),
      ("number-format", 'n'), ("section-delimiter", 'd')] }

/-- What an option asks for is wrong: the tool ends at once, or after all options. -/
inductive Fault
  | now (pieces : List (List Char))
  | later (pieces : List (List Char))

/-- The style that a text asks for. -/
def styleOf (wide : Bool) (part : String) (text : List Char) : Act (Except Fault Style) := do
  match text with
  | 'a' :: _ => return .ok .all
  | 't' :: _ => return .ok .filled
  | 'n' :: _ => return .ok .none
  | 'p' :: pattern =>
    match Regular.read .basicStrict (Regular.signs wide pattern) with
    | .ok node => return .ok (.fitting node)
    | .error fault => return .error (.now [fault.text.toList])
  | _ =>
    return .error (.later ["invalid ".toList, part.toList, " numbering style: ".toList, ← quoted text])

/-- The number that a text writes. -/
def numberOf (what : String) (least : Option Int) (text : List Char) : Act (Except Fault Int) := do
  let complaint := ["invalid ".toList, what.toList, ": ".toList, ← quoted text]
  match Number.leadingInteger? (some 10) text with
  | some (n, []) =>
    if least.all (· ≤ n) then return .ok n
    return .error (.now (complaint ++ [": Numerical result out of range".toList]))
  | _ => return .error (.now complaint)

/-- The rule after one more option. -/
def take (r : Rule) (g : Given) : Act (Except Fault Rule) := do
  match g.letter with
  | 'b' => return (← styleOf r.wide "body" g.value).map fun body => { r with body }
  | 'h' => return (← styleOf r.wide "header" g.value).map fun header => { r with header }
  | 'f' => return (← styleOf r.wide "footer" g.value).map fun footer => { r with footer }
  | 'v' => return (← numberOf "starting line number" none g.value).map fun start => { r with start }
  | 'i' => return (← numberOf "line number increment" none g.value).map fun step => { r with step }
  | 'l' =>
    return (← numberOf "line number of blank lines" (some 1) g.value).map fun n =>
      { r with joined := n.toNat }
  | 'w' =>
    return (← numberOf "line number field width" (some 1) g.value).map fun n =>
      { r with width := n.toNat }
  | 's' => return .ok { r with separator := g.value }
  | 'p' => return .ok { r with goesOn := true }
  | 'd' =>
    match g.value with
    | [c] => return .ok { r with sign := [c, ':'] }
    | sign => return .ok { r with sign }
  | _ =>
    match String.ofList g.value with
    | "ln" => return .ok { r with format := .left }
    | "rn" => return .ok { r with format := .right }
    | "rz" => return .ok { r with format := .zeros }
    | _ =>
      return .error (.later ["invalid line numbering format: ".toList, ← quoted g.value])

end Numbering

open Numbering in
def nl : Tool := withOptions Numbering.options 1 fun c => do
  let mut r : Rule := { wide := ← isWide }
  let mut fine := true
  for g in c.given do
    match ← take r g with
    | .ok more => r := more
    | .error (.now pieces) =>
      warn pieces
      return 1
    | .error (.later pieces) =>
      warn pieces
      fine := false
  if !fine then
    tryHelp
    return 1
  let (bytes, status) ← joinedInputs none c.operands
  put (r.lines { number := r.start } (linesOf bytes)).flatten
  return status

end Gutter.Tools
