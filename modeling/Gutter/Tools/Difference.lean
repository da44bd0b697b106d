import Gutter.Shell.Glob
import Gutter.Tools.Copying
import Gutter.Tools.Reading

/-! Differences of files: where two first differ, and which lines have to change to make one of the
other. -/

namespace Gutter.Tools

open Machine Shell

/-- Says what is wrong with the arguments, with the name before both lines. -/
def misuseTwice (status : Nat) (pieces : List (List Char)) : Act Nat := do
  warn pieces
  warn ["Try '".toList, (← self).name, " --help' for more information.".toList]
  return status

/-! ### Bytes -/

/-- What two texts have in common at their starts. -/
def commonLength : List Char → List Char → Nat
  | a :: s, b :: t => if a = b then commonLength s t + 1 else 0
  | _, _ => 0

def octal (width : Nat) (c : Char) : List Char := aligned width (Nat.toDigits 8 c.toNat)

def cmp : Tool := fun arguments => do
  let options : Options := ⟨"bi:ln:sv", [("silent", 's'), ("quiet", 's'), ("verbose", 'l'),
    ("print-bytes", 'b'), ("bytes", 'n'), ("ignore-initial", 'i')], true⟩
  match options.read arguments with
  | .error fault => misuseTwice 2 [fault.message]
  | .ok (given, operands) =>
    let c : Choice := ⟨given, operands⟩
    match operands with
    | [] => misuseTwice 2 ["missing operand after '".toList, (← self).name, ['\'']]
    | first :: rest =>
      let second := rest.headD ['-']
      let skip := ((c.value? 'i').bind sizeOfText?).getD 0
      let limit := ((c.value? 'n').bind sizeOfText?).map (skip + ·)
      let read (path : List Char) : Act (Option (List Char)) := do
        match ← (match limit with
          | some count => someBytesAt count path
          | none => bytesAt path) with
        | .ok bytes => return some (bytes.drop skip)
        | .error fault =>
          if !c.has 's' then warn [path, ": ".toList, faultName fault]
          return none
      match ← read first with
      | none => return 2
      | some a =>
        match ← read second with
        | none => return 2
        | some b =>
          if a = b then return 0
          if c.has 's' then return 1
          let same := commonLength a b
          let tellEnd : Act Unit := do
            let short := if a.length < b.length then first else second
            let count := min a.length b.length
            let text := a.take count
            let lines := text.count '\n'
            let place := if count = 0 then " which is empty".toList
              else if c.has 'l' then " after byte ".toList ++ digits count
              else " after byte ".toList ++ digits count
                ++ (if text.getLast? = some '\n' then ", line ".toList ++ digits lines
                  else ", in line ".toList ++ digits (lines + 1))
            warn ["EOF on ".toList, short, place]
          if c.has 'l' then
            let width := (digits (min a.length b.length)).length
            if a.length ≠ b.length then tellEnd
            for ((x, y), n) in (a.zip b).zipIdx do
              if x ≠ y then
                let shown := if c.has 'b' then
                    octal 3 x ++ ' ' :: visible x ++ List.replicate (4 - (visible x).length) ' '
                      ++ ' ' :: octal 3 y ++ ' ' :: visible y
                  else octal 3 x ++ ' ' :: octal 3 y
                putLine (aligned width (digits (n + 1)) ++ ' ' :: shown)
          else if same = a.length || same = b.length then tellEnd
          else
            let line := (a.take same).count '\n' + 1
            let bytes := match a[same]?, b[same]? with
              | some x, some y =>
                if c.has 'b' then " is ".toList ++ octal 3 x ++ ' ' :: visible x ++ ' ' :: octal 3 y
                  ++ ' ' :: visible y
                else []
              | _, _ => []
            putLine (first ++ ' ' :: second ++ " differ: byte ".toList ++ digits (same + 1)
              ++ ", line ".toList ++ digits line ++ bytes)
          return 1

/-! ### Lines -/

namespace Difference

/-- The furthest points on diagonals, counted from a lowest one. -/
structure Reach where
  points : Array Int
  lowest : Int

def Reach.get (r : Reach) (diagonal : Int) : Int := r.points.getD (diagonal - r.lowest).toNat 0

def Reach.set (r : Reach) (diagonal x : Int) : Reach :=
  { r with points := r.points.setIfInBounds (diagonal - r.lowest).toNat x }

/-- Two sequences of lines, where equal lines have equal numbers. -/
structure Pair where
  first : Array Nat
  second : Array Nat

def Pair.same (p : Pair) (x y : Int) : Bool := p.first[x.toNat]? = p.second[y.toNat]?

/-- A part of both sequences. -/
structure Box where
  left : Int
  right : Int
  top : Int
  bottom : Int

def Pair.slideOn (p : Pair) (box : Box) : Nat → Int → Int → Int
  | 0, x, _ => x
  | limit + 1, x, y =>
    if x < box.right && y < box.bottom && p.same x y then p.slideOn box limit (x + 1) (y + 1) else x

def Pair.slideBack (p : Pair) (box : Box) : Nat → Int → Int → Int
  | 0, x, _ => x
  | limit + 1, x, y =>
    if box.left < x && box.top < y && p.same (x - 1) (y - 1) then
      p.slideBack box limit (x - 1) (y - 1)
    else x

/-- Diagonals that are searched. -/
structure Span where
  low : Int
  high : Int

def endless : Int := 1000000000

/-- The span of the next step, and the reach with its new borders. -/
def Span.grow (s : Span) (least most border : Int) (r : Reach) : Span × Reach :=
  let (low, r) := if least < s.low then (s.low - 1, r.set (s.low - 2) border) else (s.low + 1, r)
  let (high, r) := if s.high < most then (s.high + 1, r.set (s.high + 2) border) else (s.high - 1, r)
  (⟨low, high⟩, r)

/-- Where a search from the start and one from the end meet. -/
def Pair.meet (p : Pair) (box : Box) : Int × Int :=
  let least := box.left - box.bottom
  let most := box.right - box.top
  let (middle, end_) := (box.left - box.top, box.right - box.bottom)
  let odd := (middle - end_) % 2 ≠ 0
  let size := (most - least + 5).toNat
  let empty : Reach := ⟨Array.replicate size 0, least - 2⟩
  let slides := (box.right - box.left + box.bottom - box.top + 2).toNat
  let rec forward : Nat → Int → Span → Span → Reach → Reach → Reach × Option (Int × Int)
    | 0, _, _, _, f, _ => (f, none)
    | limit + 1, d, span, other, f, b =>
      if d < span.low then (f, none)
      else
        let (low, high) := (f.get (d - 1), f.get (d + 1))
        let x := if low < high then high else low + 1
        let x := p.slideOn box slides x (x - d)
        let f := f.set d x
        if odd && other.low ≤ d && d ≤ other.high && b.get d ≤ x then (f, some (x, x - d))
        else forward limit (d - 2) span other f b
  let rec backward : Nat → Int → Span → Span → Reach → Reach → Reach × Option (Int × Int)
    | 0, _, _, _, _, b => (b, none)
    | limit + 1, d, span, other, f, b =>
      if d < span.low then (b, none)
      else
        let (low, high) := (b.get (d - 1), b.get (d + 1))
        let x := if low < high then low else high - 1
        let x := p.slideBack box slides x (x - d)
        let b := b.set d x
        if !odd && other.low ≤ d && d ≤ other.high && x ≤ f.get d then (b, some (x, x - d))
        else backward limit (d - 2) span other f b
  let rec search : Nat → Span → Span → Reach → Reach → Int × Int
    | 0, _, _, _, _ => (box.right, box.bottom)
    | limit + 1, on, back, f, b =>
      let (on, f) := on.grow least most (-1) f
      match forward size on.high on back f b with
      | (_, some point) => point
      | (f, none) =>
        let (back, b) := back.grow least most endless b
        match backward size back.high back on f b with
        | (_, some point) => point
        | (b, none) => search limit on back f b
  search size ⟨middle, middle⟩ ⟨end_, end_⟩ (empty.set middle box.left) (empty.set end_ box.right)

/-- The lines that differ: those of the first sequence, and those of the second. -/
def Pair.compare (p : Pair) : Nat → Box → List Int × List Int
  | 0, _ => ([], [])
  | limit + 1, box =>
    let slides := (box.right - box.left + 1).toNat
    let left := p.slideOn box slides box.left box.top
    let box := { box with left, top := box.top + (left - box.left) }
    let right := p.slideBack box slides box.right box.bottom
    let box := { box with right, bottom := box.bottom - (box.right - right) }
    let between (low high : Int) : List Int :=
      (List.range (high - low).toNat).map fun (n : Nat) => low + n
    if box.left = box.right then ([], between box.top box.bottom)
    else if box.top = box.bottom then (between box.left box.right, [])
    else
      let (x, y) := p.meet box
      let (a, b) := p.compare limit { box with right := x, bottom := y }
      let (c, d) := p.compare limit { box with left := x, top := y }
      (a ++ c, b ++ d)

/-! ### Runs of changes -/

/-- Marks of the lines that change; beyond the lines there are none. -/
abbrev Marks := Array Bool

def at_ (marks : Marks) (n : Int) : Bool := if n < 0 then false else marks.getD n.toNat false

def skipUp (marks : Marks) : Nat → Int → Int
  | 0, n => n
  | limit + 1, n => if at_ marks n then skipUp marks limit (n + 1) else n

def skipDown (marks : Marks) : Nat → Int → Int
  | 0, n => n
  | limit + 1, n => if at_ marks (n - 1) then skipDown marks limit (n - 1) else n

/-- A run of changes from `start` to before `stop`, the place beside it in the other file, and the
last place where it could lie beside changes there. -/
structure Run where
  marks : Marks
  start : Int
  stop : Int
  beside : Int
  fitting : Int

/-- A file's lines with the marks of the other file. -/
structure Side where
  lines : Array Nat
  other : Marks

namespace Side

variable (s : Side)

def size : Nat := s.lines.size + s.other.size + 3

def equal (a b : Int) : Bool := 0 ≤ a && 0 ≤ b && s.lines[a.toNat]? = s.lines[b.toNat]?

/-- The place in the other file before one unchanged line. -/
def before : Nat → Int → Int
  | 0, j => j
  | limit + 1, j => if at_ s.other (j - 1) then before limit (j - 1) else j - 1

def moveBack : Nat → Run → Run
  | 0, r => r
  | limit + 1, r =>
    if 0 < r.start && s.equal (r.start - 1) (r.stop - 1) then
      let marks := (r.marks.setIfInBounds (r.start - 1).toNat true).setIfInBounds
        (r.stop - 1).toNat false
      let start := skipDown marks s.size (r.start - 1)
      moveBack limit { r with marks, start, stop := r.stop - 1, beside := s.before s.size r.beside }
    else r

/-- The place in the other file after an unchanged line; if changes follow, the run fits there. -/
def after (r : Run) (stop : Int) : Run :=
  let next := r.beside + 1
  if at_ s.other next then { r with beside := skipUp s.other s.size next, fitting := stop }
  else { r with beside := next }

def moveOn : Nat → Run → Run
  | 0, r => r
  | limit + 1, r =>
    if r.stop ≠ s.lines.size && s.equal r.start r.stop then
      let marks := (r.marks.setIfInBounds r.start.toNat false).setIfInBounds r.stop.toNat true
      let stop := skipUp marks s.size (r.stop + 1)
      moveOn limit { s.after r stop with marks, start := r.start + 1, stop }
    else r

/-- Moves a run back and on, as long as it grows. -/
def settle : Nat → Run → Run
  | 0, r => r
  | limit + 1, r =>
    let length := r.stop - r.start
    let r := s.moveBack s.size r
    let fitting : Int := if at_ s.other (r.beside - 1) then r.stop else s.lines.size
    let r := s.moveOn s.size { r with fitting }
    if r.stop - r.start = length then r else settle limit r

def fit : Nat → Run → Run
  | 0, r => r
  | limit + 1, r =>
    if r.fitting < r.stop then
      let marks := (r.marks.setIfInBounds (r.start - 1).toNat true).setIfInBounds
        (r.stop - 1).toNat false
      fit limit { r with
        marks
        start := r.start - 1
        stop := r.stop - 1
        beside := s.before s.size r.beside }
    else r

/-- The next run of changes from a place on. -/
def nextRun : Nat → Marks → Int → Int → Option (Int × Int)
  | 0, _, _, _ => none
  | limit + 1, marks, i, j =>
    if s.lines.size ≤ i then none
    else if at_ marks i then some (i, j)
    else nextRun limit marks (i + 1) (skipUp s.other s.size j + 1)

/-- Moves every run of changes as far on as it goes, or to where the other file changes. -/
def shift : Nat → Marks → Int → Int → Marks
  | 0, marks, _, _ => marks
  | limit + 1, marks, i, j =>
    match s.nextRun s.size marks i j with
    | none => marks
    | some (start, j) =>
      let stop := skipUp marks s.size start
      let beside := skipUp s.other s.size j
      let r := s.fit s.size (s.settle s.size ⟨marks, start, stop, beside, 0⟩)
      shift limit r.marks r.stop r.beside

end Side

/-- A change: lines of the first file from one number on, and lines of the second. -/
structure Change where
  first : Nat
  removed : Nat
  second : Nat
  added : Nat
deriving DecidableEq, Repr

/-- The changes that marks in both files tell. -/
def changesFrom (a b : Marks) : Nat → Nat → Nat → List Change
  | 0, _, _ => []
  | limit + 1, x, y =>
    if a.size ≤ x && b.size ≤ y then []
    else if at_ a x || at_ b y then
      let x' := (skipUp a (a.size + 1) x).toNat
      let y' := (skipUp b (b.size + 1) y).toNat
      ⟨x, x' - x, y, y' - y⟩ :: changesFrom a b limit x' y'
    else changesFrom a b limit (x + 1) (y + 1)

/-- Numbers for lines, so that equal lines have equal numbers. -/
def numbered : List (List Char) → List (List Char × Nat) → List Nat × List (List Char × Nat)
  | [], known => ([], known)
  | line :: rest, known =>
    match known.lookup line with
    | some n =>
      let (numbers, known) := numbered rest known
      (n :: numbers, known)
    | none =>
      let n := known.length
      let (numbers, known) := numbered rest ((line, n) :: known)
      (n :: numbers, known)

def marksOf (size : Nat) (indices : List Nat) : Marks :=
  indices.foldl (fun marks n => marks.setIfInBounds n true) (Array.replicate size false)

/-- The changes between two sequences of lines. Lines that only one of them has are compared with
none. -/
def changes (first second : List (List Char)) : List Change :=
  let (a, known) := numbered first []
  let (b, _) := numbered second known
  let shared (lines others : List Nat) : List (Nat × Nat) :=
    lines.zipIdx.filter fun line => others.contains line.1
  let (sharedA, sharedB) := (shared a b, shared b a)
  let pair : Pair := ⟨(sharedA.map (·.1)).toArray, (sharedB.map (·.1)).toArray⟩
  let box : Box := ⟨0, sharedA.length, 0, sharedB.length⟩
  let (removed, added) := pair.compare (a.length + b.length + 1) box
  let marked (lines : List Nat) (shared : List (Nat × Nat)) (others : List Nat)
      (changed : List Int) : Marks :=
    let lost := (lines.zipIdx.filter fun line => !others.contains line.1).map (·.2)
    let moved := changed.filterMap fun n => (shared[n.toNat]?).map (·.2)
    marksOf lines.length (lost ++ moved)
  let marksA := marked a sharedA b removed
  let marksB := marked b sharedB a added
  let count := a.length + b.length + 2
  let marksA := Side.shift ⟨a.toArray, marksB⟩ count marksA 0 0
  let marksB := Side.shift ⟨b.toArray, marksA⟩ count marksB 0 0
  changesFrom marksA marksB count 0 0

/-! ### Scripts -/

/-- The numbers of lines, from the first to the last. -/
def rangeText (first count : Nat) : List Char :=
  if count = 0 then digits first
  else if count = 1 then digits (first + 1)
  else digits (first + 1) ++ ',' :: digits (first + count)

/-- Lines after a mark. The last may not be ended. -/
def marked (mark : List Char) (lines : List (List Char)) : List Char :=
  lines.flatMap fun line =>
    mark ++ line ++ if line.getLast? = some '\n' then [] else
      "\n\\ No newline at end of file\n".toList

def slice (lines : List (List Char)) (first count : Nat) : List (List Char) :=
  (lines.drop first).take count

/-- A change as a command with the lines. -/
def plainScript (a b : List (List Char)) (c : Change) : List Char :=
  let letter := if c.removed = 0 then 'a' else if c.added = 0 then 'd' else 'c'
  rangeText c.first c.removed ++ letter :: rangeText c.second c.added ++ ['\n']
    ++ marked "< ".toList (slice a c.first c.removed)
    ++ (if letter = 'c' then "---\n".toList else [])
    ++ marked "> ".toList (slice b c.second c.added)

/-- Changes that are near enough to share what surrounds them. -/
def groups (context : Nat) : List Change → List (List Change)
  | [] => []
  | c :: rest =>
    match groups context rest with
    | (d :: group) :: others =>
      if d.first - (c.first + c.removed) ≤ 2 * context then (c :: d :: group) :: others
      else [c] :: (d :: group) :: others
    | others => [c] :: others

/-- Where a group starts and ends in both files, with what surrounds it. -/
structure Hunk where
  first : Nat
  removed : Nat
  second : Nat
  added : Nat

def hunkOf (context sizeA sizeB : Nat) (group : List Change) : Hunk :=
  match group.head?, group.getLast? with
  | some start, some last =>
    let before := min context start.first
    let after := min context (sizeA - (last.first + last.removed))
    let _ := sizeB
    ⟨start.first - before, last.first + last.removed + after - (start.first - before),
      start.second - before, last.second + last.added + after - (start.second - before)⟩
  | _, _ => ⟨0, 0, 0, 0⟩

def unifiedRange (first count : Nat) : List Char :=
  if count = 1 then digits (first + 1)
  else digits (if count = 0 then first else first + 1) ++ ',' :: digits count

/-- The lines of a group from a line of the first file on. -/
def unifiedLines (a b : List (List Char)) (stop : Nat) : Nat → List Change → List Char
  | at_, [] => marked [' '] (slice a at_ (stop - at_))
  | at_, c :: rest =>
    marked [' '] (slice a at_ (c.first - at_)) ++ marked ['-'] (slice a c.first c.removed)
      ++ marked ['+'] (slice b c.second c.added)
      ++ unifiedLines a b stop (c.first + c.removed) rest

def unifiedHunk (context : Nat) (a b : List (List Char)) (group : List Change) : List Char :=
  let h := hunkOf context a.length b.length group
  "@@ -".toList ++ unifiedRange h.first h.removed ++ " +".toList ++ unifiedRange h.second h.added
    ++ " @@\n".toList ++ unifiedLines a b (h.first + h.removed) h.first group

def contextRange (first count : Nat) : List Char :=
  if count ≤ 1 then digits (first + count) else digits (first + 1) ++ ',' :: digits (first + count)

/-- The lines of one file in a group; marks tell what happens to them. -/
def contextLines (lines : List (List Char)) (only : Char) (stop : Nat) :
    Nat → List (Nat × Nat × Bool) → List Char
  | at_, [] => marked "  ".toList (slice lines at_ (stop - at_))
  | at_, (first, count, both) :: rest =>
    marked "  ".toList (slice lines at_ (first - at_))
      ++ marked [if both then '!' else only, ' '] (slice lines first count)
      ++ contextLines lines only stop (first + count) rest

def contextHunk (context : Nat) (a b : List (List Char)) (group : List Change) : List Char :=
  let h := hunkOf context a.length b.length group
  let both (c : Change) : Bool := c.removed ≠ 0 && c.added ≠ 0
  let old := if group.any (·.removed ≠ 0) then
      contextLines a '-' (h.first + h.removed) h.first
        (group.map fun c => (c.first, c.removed, both c))
    else []
  let new := if group.any (·.added ≠ 0) then
      contextLines b '+' (h.second + h.added) h.second
        (group.map fun c => (c.second, c.added, both c))
    else []
  "***************\n*** ".toList ++ contextRange h.first h.removed ++ " ****\n".toList ++ old
    ++ "--- ".toList ++ contextRange h.second h.added ++ " ----\n".toList ++ new

/-- A line as it is compared. -/
def key (c : Choice) (line : List Char) : List Char :=
  let blank (c : Char) : Bool := c = ' ' || ('\t' ≤ c && c ≤ '\r' && c ≠ '\n')
  let line := if c.has 'i' then line.map Char.toLower else line
  if c.has 'w' then line.filter (!blank ·)
  else if c.has 'b' then
    let ended := line.getLast? = some '\n'
    let body := ((if ended then line.dropLast else line).reverse.dropWhile blank).reverse
    let runs := body.splitBy fun x y => blank x && blank y
    runs.flatMap (fun run => if run.head?.any blank then [' '] else run) ++ if ended then ['\n'] else []
  else line

/-- The head of a script with its surroundings. -/
def titles (c : Choice) (old new : String) (paths : List (List Char)) : List Char :=
  let labels := c.values 'L'
  let time := "\t1970-01-01 00:00:00.000000000 +0000".toList
  let title (n : Nat) : List Char := (labels[n]?).getD (paths.getD n [] ++ time)
  old.toList ++ title 0 ++ '\n' :: new.toList ++ title 1 ++ ['\n']

/-- The number of lines around a change, if they are wanted. -/
def contextOf (c : Choice) (plain counted : Char) : Option Nat :=
  match (c.value? counted).filter (!·.isEmpty) with
  | some text => some (Text.valueOfDigits 10 text)
  | none => if c.has plain || c.has counted then some 3 else none

/-- A script for two files. -/
def script (c : Choice) (paths : List (List Char)) (a b : List (List Char))
    (found : List Change) : List Char :=
  match contextOf c 'u' 'U', contextOf c 'c' 'C' with
  | some context, _ =>
    titles c "--- " "+++ " paths ++ (groups context found).flatMap (unifiedHunk context a b)
  | _, some context =>
    titles c "*** " "--- " paths ++ (groups context found).flatMap (contextHunk context a b)
  | _, _ => found.flatMap (plainScript a b)

end Difference

open Difference

/-- The arguments of a tool that were options, for a title. -/
def optionWords (arguments : List (List Char)) : List (List Char) :=
  arguments.filter fun a => a.head? = some '-' && 1 < a.length

/-- Compares two files; 1 tells that they differ, and 2 that something is wrong. -/
def diffFiles (c : Choice) (title : List Char) (first second : List Char) : Act Nat := do
  let absent (path : List Char) : Act Bool := do
    return c.has 'N' && (← nodeAt true path).toOption.isNone
  let read (path : List Char) : Act (Except Files.Fault (List Char)) := do
    if ← absent path then return .ok [] else bytesAt path
  let a ← read first
  let b ← if isInput first && isInput second then pure a else read second
  match a, b with
  | .ok a, .ok b =>
    let (linesA, linesB) := (fullLines a, fullLines b)
    let found := changes (linesA.map (key c)) (linesB.map (key c))
    let isBlank (line : List Char) : Bool := line = ['\n']
    let found := if c.has 'B' then found.filter fun change =>
        !((slice linesA change.first change.removed).all isBlank
          && (slice linesB change.second change.added).all isBlank)
      else found
    if found.isEmpty then
      if c.has 's' then
        putLine ("Files ".toList ++ first ++ " and ".toList ++ second ++ " are identical".toList)
      return 0
    if c.has 'q' then
      putLine ("Files ".toList ++ first ++ " and ".toList ++ second ++ " differ".toList)
    else put (title ++ script c [first, second] linesA linesB found)
    return 1
  | a, b =>
    for (path, result) in [(first, a), (second, b)] do
      match result with
      | .error fault => warn [path, ": ".toList, faultName fault]
      | .ok _ => pure ()
    return 2

/-- Compares two directories, at most `depth` deep. -/
def diffDirectories (c : Choice) (words : List (List Char)) :
    Nat → List Char → List Char → Act Nat
  | 0, _, _ => pure 2
  | depth + 1, first, second => do
    let files := (← get).files
    let (a, b) := (namesIn files first, namesIn files second)
    let mut status := 0
    for name in ((a ++ b).eraseDups).mergeSort charLess do
      let (pathA, pathB) := (pathInside first name, pathInside second name)
      let only (directory : List Char) : Act Unit :=
        putLine ("Only in ".toList ++ directory ++ ": ".toList ++ name)
      if !a.contains name && !c.has 'N' then
        only second
        status := max status 1
      else if !b.contains name && !c.has 'N' then
        only first
        status := max status 1
      else if files.isDirectory (textOf pathA) && files.isDirectory (textOf pathB) then
        if c.has 'r' then status := max status (← diffDirectories c words depth pathA pathB)
        else putLine ("Common subdirectories: ".toList ++ pathA ++ " and ".toList ++ pathB)
      else if files.isDirectory (textOf pathA) || files.isDirectory (textOf pathB) then
        let kind (path : List Char) : List Char :=
          if files.isDirectory (textOf path) then "a directory".toList else "a regular file".toList
        putLine ("File ".toList ++ pathA ++ " is ".toList ++ kind pathA ++ " while file ".toList ++ pathB
          ++ " is ".toList ++ kind pathB)
        status := max status 1
      else
        let title := ((["diff".toList] ++ words ++ [pathA, pathB]).intersperse [' ']).flatten ++ ['\n']
        status := max status (← diffFiles c title pathA pathB)
    return status

def diff : Tool := fun arguments => do
  let options : Options := ⟨"abBcC:eiL:nNqrsuU:wtTy", [("brief", 'q'), ("unified", 'U'),
    ("label", 'L'), ("recursive", 'r'), ("ignore-case", 'i'), ("ignore-all-space", 'w'),
    ("ignore-space-change", 'b'), ("ignore-blank-lines", 'B'), ("report-identical-files", 's'),
    ("new-file", 'N'), ("text", 'a'), ("normal", 'k'), ("context", 'C')], true⟩
  let plain : Options := { options with letters := options.letters ++ "k" }
  let arguments := arguments.map fun a =>
    if a = "--unified".toList then "-u".toList else if a = "--context".toList then "-c".toList else a
  match plain.read arguments with
  | .error fault => misuseTwice 2 [fault.message]
  | .ok (given, operands) =>
    let c : Choice := ⟨given, operands⟩
    match operands with
    | [first, second] =>
      let files := (← get).files
      let isDirectory (path : List Char) : Bool := files.isDirectory (textOf path)
      match isDirectory first, isDirectory second with
      | true, true => diffDirectories c (optionWords arguments) 100 first second
      | true, false => diffFiles c [] (pathInside first second) second
      | false, true => diffFiles c [] first (pathInside second first)
      | false, false => diffFiles c [] first second
    | _ :: _ :: other :: _ => misuseTwice 2 ["extra operand '".toList, other, ['\'']]
    | operands =>
      misuseTwice 2 ["missing operand after '".toList, operands.getLastD (← self).name, ['\'']]

end Gutter.Tools
