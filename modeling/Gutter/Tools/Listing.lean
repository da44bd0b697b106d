import Gutter.Console.Cells
import Gutter.Shell.Glob
import Gutter.Tools.Entry
import Gutter.Tools.Sorting
import Gutter.Tools.Telling

/-! The tool that lists files: which of them, in what order, what it tells of each, and how the names
stand in lines and columns. -/

namespace Gutter.Tools

open Machine Shell

namespace Listing

/-- How the names stand: one to a line with what is told of it, one to a line, in columns that are
read across or down, or with commas between them. -/
inductive Form
  | long
  | lines
  | across
  | down
  | commas
deriving DecidableEq, Repr

/-- Which marks stand after names: for all kinds, without the one for programs, or for directories
only. -/
inductive Marking
  | all
  | kinds
  | slashes
  | nothing
deriving DecidableEq, Repr

/-- How names are quoted. -/
inductive Quoting
  | literal
  | shell (always : Bool)
  | double
  | escapes
deriving DecidableEq, Repr

/-- How files are listed. A width of zero has no limit. -/
structure Manner where
  choice : Choice
  form : Form
  marking : Marking
  quoting : Quoting
  order : List Char
  width : Nat
  tab : Nat
  colors : Bool
  recent : List Char
  older : List Char
  finish : Char

def formWords : List (String × Form) :=
  [("verbose", .long), ("long", .long), ("commas", .commas), ("horizontal", .across),
    ("across", .across), ("vertical", .down), ("single-column", .lines)]

def orderWords : List (String × Char) :=
  [("none", 'U'), ("time", 't'), ("size", 'S'), ("extension", 'X'), ("version", 'v'), ("width", 'ω')]

def timeWords : List (String × Char) :=
  [("atime", 'a'), ("access", 'a'), ("use", 'a'), ("ctime", 'c'), ("status", 'c'), ("mtime", 'm'),
    ("modification", 'm'), ("birth", 'b'), ("creation", 'b')]

/-- When there are colors or marks: always, never, or where somebody looks on. -/
def occasionWords : List (String × Nat) :=
  [("always", 1), ("yes", 1), ("force", 1), ("never", 0), ("no", 0), ("none", 0), ("auto", 2),
    ("tty", 2), ("if-tty", 2)]

def markingWords : List (String × Marking) :=
  [("none", .nothing), ("slash", .slashes), ("file-type", .kinds), ("classify", .all)]

def quotingWords : List (String × Quoting) :=
  [("literal", .literal), ("shell", .shell false), ("shell-always", .shell true),
    ("shell-escape", .shell false), ("shell-escape-always", .shell true), ("c", .double),
    ("c-maybe", .double), ("escape", .escapes), ("locale", .double), ("clocale", .double)]

/-- The formats of times that are not long ago, and of others. -/
def timeStyles : List (String × (String × String)) :=
  [("full-iso", ("%Y-%m-%d %H:%M:%S.%N %z", "%Y-%m-%d %H:%M:%S.%N %z")),
    ("long-iso", ("%Y-%m-%d %H:%M", "%Y-%m-%d %H:%M")), ("iso", ("%m-%d %H:%M", "%Y-%m-%d ")),
    ("locale", ("%b %e %H:%M", "%b %e  %Y"))]

def options : Options :=
  ⟨"1aAbBcCdDfFgGhHiI:klLmnNopqQrRsStT:uUvw:xXZα::β:γ:δ:ε:ζ:ηθικ:λ:μν::ξοπρ::σ:",
    [("all", 'a'), ("almost-all", 'A'), ("author", 'ι'), ("block-size", 'κ'), ("classify", 'ρ'),
      ("color", 'α'), ("colour", 'α'), ("context", 'Z'), ("dereference", 'L'),
      ("dereference-command-line", 'H'), ("dereference-command-line-symlink-to-dir", 'ξ'),
      ("directory", 'd'), ("escape", 'b'), ("file-type", 'η'), ("format", 'β'), ("full-time", 'θ'),
      ("group-directories-first", 'π'), ("hide", 'λ'), ("hide-control-chars", 'q'),
      ("human-readable", 'h'), ("hyperlink", 'ν'), ("ignore", 'I'), ("ignore-backups", 'B'),
      ("indicator-style", 'ζ'), ("inode", 'i'), ("kibibytes", 'k'), ("literal", 'N'),
      ("no-group", 'G'), ("numeric-uid-gid", 'n'), ("quote-name", 'Q'), ("quoting-style", 'ε'),
      ("recursive", 'R'), ("reverse", 'r'), ("show-control-chars", 'ο'), ("si", 'μ'), ("size", 's'),
      ("sort", 'γ'), ("tabsize", 'T'), ("time", 'δ'), ("time-style", 'σ'), ("width", 'w')], true⟩

/-- What one option asks for, after those before it. -/
def take (m : Manner) (g : Given) : Act (Except Nat Manner) := do
  let chosen {α : Type} [BEq α] (name : String) (words : List (String × α)) (f : α → Manner) :
      Act (Except Nat Manner) := do
    match chosenIn? words g.value with
    | some value => return .ok (f value)
    | none => return .error (← notAmong 2 g.value name words)
  let number (what : String) (f : Nat → Manner) : Act (Except Nat Manner) := do
    if !g.value.isEmpty && g.value.all Char.isDigit then
      return .ok (f (Text.valueOfDigits 10 g.value))
    warn ["invalid ".toList, what.toList, ": ".toList, ← quoted g.value]
    return .error 2
  let styled (text : List Char) : Act (Except Nat Manner) := do
    let text := if "posix-".toList.isPrefixOf text then "locale".toList else text
    if text.head? = some '+' then
      let formats := Text.splitOn '\n' (text.drop 1)
      return .ok { m with recent := formats.getLastD [], older := formats.headD [] }
    match chosenIn? timeStyles text with
    | some (recent, older) => return .ok { m with recent := recent.toList, older := older.toList }
    | none =>
      warn ["invalid argument ".toList, ← quoted text, " for ".toList, ← quoted "time style".toList]
      say "Valid arguments are:\n  - [posix-]full-iso\n  - [posix-]long-iso\n  - [posix-]iso\n"
      say "  - [posix-]locale\n  - +FORMAT (e.g., +%H:%M) for a 'date'-style format\n"
      tryHelp
      return .error 2
  match g.letter with
  | 'l' => return .ok { m with form := .long }
  | 'g' => return .ok { m with form := .long }
  | 'o' => return .ok { m with form := .long }
  | 'n' => return .ok { m with form := .long }
  | 'θ' => return (← styled "full-iso".toList).map fun m => { m with form := .long }
  | '1' => return .ok (if m.form = .long then m else { m with form := .lines })
  | 'C' => return .ok { m with form := .down }
  | 'x' => return .ok { m with form := .across }
  | 'm' => return .ok { m with form := .commas }
  | 'β' => chosen "--format" formWords fun form => { m with form }
  | 'F' => return .ok { m with marking := .all }
  | 'ρ' =>
    if g.value.isEmpty then return .ok { m with marking := .all }
    chosen "--classify" occasionWords fun on => if on = 1 then { m with marking := .all } else m
  | 'p' => return .ok { m with marking := .slashes }
  | 'η' => return .ok { m with marking := .kinds }
  | 'ζ' => chosen "--indicator-style" markingWords fun marking => { m with marking }
  | 'N' => return .ok { m with quoting := .literal }
  | 'Q' => return .ok { m with quoting := .double }
  | 'b' => return .ok { m with quoting := .escapes }
  | 'ε' => chosen "--quoting-style" quotingWords fun quoting => { m with quoting }
  | 'f' =>
    let form := if m.form = .long then Form.lines else m.form
    return .ok { m with order := ['U'], form, colors := false }
  | 'γ' => chosen "--sort" orderWords fun order => { m with order := [order] }
  | 'δ' => chosen "--time" timeWords fun _ => m
  | 'σ' => styled g.value
  | 'w' => number "line width" fun width => { m with width }
  | 'T' => number "tab size" fun tab => { m with tab }
  | 'α' =>
    if g.value.isEmpty then return .ok { m with colors := true, tab := 0 }
    chosen "--color" occasionWords fun on => if on = 1 then { m with colors := true, tab := 0 } else m
  | 'ο' => return .ok m
  | _ =>
    if ['S', 't', 'U', 'X', 'v'].contains g.letter then return .ok { m with order := [g.letter] }
    return .ok m

/-- How options ask for files to be listed, or the status with which the tool ends. -/
def manner (c : Choice) : Act (Except Nat Manner) := do
  let exported := (← self).exported
  let told := (exported.lookup "COLUMNS".toList).filter fun text =>
    !text.isEmpty && text.all Char.isDigit
  let mut m : Manner := {
    choice := c, form := .lines, marking := .nothing, quoting := .literal, order := []
    width := (told.map (Text.valueOfDigits 10)).getD 80
    tab := 8, colors := false, recent := "%b %e %H:%M".toList, older := "%b %e  %Y".toList
    finish := '\n' }
  for g in c.given do
    match ← take m g with
    | .ok more => m := more
    | .error status => return .error status
  return .ok m

/-- The mark after a name that tells what it is. -/
def mark (m : Manner) (files : Files) (e : Entry) : List Char :=
  match m.marking, e.node with
  | .nothing, _ => []
  | _, .directory => ['/']
  | .slashes, _ => []
  | _, .link _ => ['@']
  | .all, .file .. => if files.rightsAt e.place &&& 0o111 ≠ 0 then ['*'] else []
  | .all, .tool _ => ['*']
  | _, _ => []

/-- A name between double quotes, or with the escapes that it would have there. -/
def withEscapes (wide isQuoted : Bool) (name : List Char) : List Char :=
  (marks wide name).flatMap fun
    | .shown bytes =>
      if bytes = ['\\'] || (isQuoted && bytes = ['"']) || (!isQuoted && bytes = [' ']) then
        '\\' :: bytes
      else bytes
    | .hidden byte => escapeOf byte

def shown (m : Manner) (wide : Bool) (name : List Char) : List Char :=
  match m.quoting with
  | .literal =>
    if m.choice.last? ['q', 'ο'] = some 'q' then
      (marks wide name).flatMap fun
        | .shown bytes => bytes
        | .hidden _ => ['?']
    else name
  | .shell true => shellQuoted wide name
  | .shell false => shellName wide false name
  | .double => '"' :: withEscapes wide true name ++ ['"']
  | .escapes => withEscapes wide false name

/-- The color of a file, if it has one. -/
def color? (files : Files) (e : Entry) : Option String :=
  let rights := files.rightsAt e.place
  match e.node with
  | .directory =>
    some (if rights &&& 0o1002 = 0o1002 then "30;42" else if rights &&& 0o002 ≠ 0 then "34;42"
      else if rights &&& 0o1000 ≠ 0 then "37;44" else "01;34")
  | .link _ => some "01;36"
  | .device _ => some "40;33;01"
  | .sealedFile => none
  | _ =>
    if rights &&& 0o4000 ≠ 0 then some "37;41"
    else if rights &&& 0o2000 ≠ 0 then some "30;43"
    else if rights &&& 0o111 ≠ 0 then some "01;32"
    else none

/-- How many columns a text takes. -/
def columns (wide : Bool) (text : List Char) : Nat :=
  if wide then (marks wide text).foldl (fun n mark => n + match mark with
    | .shown bytes => ((charOf? bytes).map Console.charCells).getD 1
    | .hidden _ => 0) 0
  else text.length

/-- A text with the columns that it takes. -/
structure Piece where
  text : List Char
  columns : Nat

/-- A name as it stands in a list, with its mark. `first` tells that no color was used before. -/
def namePiece (m : Manner) (wide first : Bool) (files : Files) (e : Entry) : Piece :=
  let name := shown m wide e.name
  let mark := mark m files e
  let escape := Char.ofNat 27
  let text := match if m.colors then color? files e else none with
    | some color =>
      let start := if first then escape :: "[0m".toList else []
      start ++ escape :: '[' :: color.toList ++ 'm' :: name ++ escape :: "[0m".toList
    | none => name
  ⟨text ++ mark, columns wide name + mark.length⟩

/-- A size as options ask for it. -/
def sizeText (m : Manner) (n : Nat) : List Char :=
  match m.choice.last? ['h', 'μ', 'k'] with
  | some 'h' => scaled 1024 n
  | some 'μ' => scaled 1000 n
  | _ => digits n

def blocksText (m : Manner) (n : Nat) : List Char :=
  match m.choice.last? ['h', 'μ'] with
  | some 'h' => scaled 1024 (n * 1024)
  | some _ => scaled 1000 (n * 1024)
  | none => digits n

/-- The widths of the columns before names in a long list. -/
structure Widths where
  number : Nat
  blocks : Nat
  links : Nat
  size : Nat

def sizeOrDevice (m : Manner) (e : Entry) : List Char :=
  match e.device with
  | some (major, minor) => digits major ++ ',' :: ' ' :: digits minor
  | none => sizeText m e.size

def widths (m : Manner) (files : Files) (entries : List Entry) : Widths :=
  let widest (f : Entry → List Char) : Nat := (entries.map fun e => (f e).length).foldl max 0
  let aligns := m.form ≠ .commas
  { number := if aligns then widest fun e => digits (e.number files) else 0
    blocks := if aligns then widest fun e => blocksText m e.blocks else 0
    links := widest fun e => digits (e.links files)
    size := widest (sizeOrDevice m) }

/-- What stands before the name or the rights. -/
def frills (m : Manner) (w : Widths) (files : Files) (e : Entry) : List Char :=
  let c := m.choice
  (if c.has 'i' then aligned w.number (digits (e.number files)) ++ [' '] else [])
    ++ (if c.has 's' then aligned w.blocks (blocksText m e.blocks) ++ [' '] else [])

/-- The line for a file in a long list. -/
def longLine (m : Manner) (zone : Zone) (wide first : Bool) (w : Widths) (files : Files) (e : Entry) :
    List Char :=
  let c := m.choice
  let owner := if c.has 'n' then "0 ".toList else "root ".toList
  let owners := (if c.has 'g' then [] else owner) ++ (if c.has 'o' || c.has 'G' then [] else owner)
    ++ (if c.has 'ι' then owner else [])
  let time := files.time e.place
  let date := ((instantOfTime time).clock zone).format (if isRecent files time then m.recent else m.older)
  let followed := match files.find (String.ofList (Path.placeText e.place)) with
    | .ok node => mark m files { e with node }
    | .error _ => []
  let name := match e.node with
    | .link _ => (namePiece { m with marking := .nothing } wide first files e).text ++ " -> ".toList
        ++ shown m wide e.target ++ followed
    | _ => (namePiece m wide first files e).text
  frills m w files e ++ e.rightsText files ++ ' ' :: aligned w.links (digits (e.links files))
    ++ ' ' :: owners ++ aligned w.size (sizeOrDevice m e) ++ ' ' :: date ++ ' ' :: name

/-- Blanks from one column to another, and tabs where their stops lie between. -/
def gap (tab : Nat) : Nat → Nat → Nat → List Char
  | 0, _, _ => []
  | limit + 1, start, goal =>
    if goal ≤ start then []
    else if tab ≠ 0 && (start + 1) / tab < goal / tab then
      '\t' :: gap tab limit (start + tab - start % tab) goal
    else ' ' :: gap tab limit (start + 1) goal

/-- The widths of columns, where pieces go down them or across. -/
def columnWidths (down : Bool) (count : Nat) (pieces : List Piece) : List Nat :=
  let rows := (pieces.length + count - 1) / count
  (List.range count).map fun column =>
    let own := pieces.zipIdx.filter fun (_, n) => (if down then n / rows else n % count) = column
    let room := if column + 1 = count then 0 else 2
    own.foldl (fun widest (piece, _) => max widest (piece.columns + room)) 3

/-- The most columns that fit into a line. -/
def fittingColumns (m : Manner) (down : Bool) (pieces : List Piece) : List Nat :=
  let most := min pieces.length ((m.width + 2) / 3)
  let tried := (List.range most).reverse.map fun n => columnWidths down (n + 1) pieces
  (tried.find? fun widths => widths.foldl (· + ·) 0 < m.width).getD
    (columnWidths down 1 pieces)

/-- Pieces in columns. -/
def inColumns (m : Manner) (down : Bool) (pieces : List Piece) : List (List Char) :=
  let widths := fittingColumns m down pieces
  let count := widths.length
  let rows := (pieces.length + count - 1) / count
  (List.range rows).map fun row =>
    let own := pieces.zipIdx.filter fun (_, n) => (if down then n % rows else n / count) = row
    let line : List Char × Nat × Nat := own.zip widths |>.foldl (fun (text, at_, start) (p, width) =>
      (text ++ gap m.tab (m.width + 8) at_ start ++ p.1.text, start + p.1.columns, start + width))
      ([], 0, 0)
    line.1

/-- Pieces with commas between them. -/
def withCommas (m : Manner) (pieces : List Piece) : List Char :=
  let line : List Char × Nat := pieces.zipIdx.foldl (fun (text, at_) (p, n) =>
    if n = 0 then (p.text, p.columns)
    else if m.width = 0 || at_ + p.columns + 2 < m.width then
      (text ++ ',' :: ' ' :: p.text, at_ + 2 + p.columns)
    else (text ++ ',' :: '\n' :: p.text, p.columns)) ([], 0)
  line.1

/-- Prints a list of files; `total` asks for the blocks that all of them take. -/
def printEntries (m : Manner) (first total : Bool) (entries : List Entry) : Act Unit := do
  let files := (← get).files
  let wide ← isWide
  let zone ← zone
  let w := widths m files entries
  let line (text : List Char) : Act Unit := put (text ++ [m.finish])
  if (m.form = .long || m.choice.has 's') && total then
    line ("total ".toList ++ blocksText m (entries.foldl (fun n e => n + e.blocks) 0))
  let isFirst (n : Nat) : Bool :=
    first && (entries.take n).all fun e => (color? files e).isNone
  let pieces := entries.zipIdx.map fun (e, n) =>
    let name := namePiece m wide (isFirst n) files e
    let before := frills m w files e
    (⟨before ++ name.text, before.length + name.columns⟩ : Piece)
  let plain (form : List (List Char)) : Act Unit := do
    for text in form do line text
  match m.form with
  | .long =>
    for (e, n) in entries.zipIdx do line (longLine m zone wide (isFirst n) w files e)
  | .lines => plain (pieces.map (·.text))
  | .commas => if !pieces.isEmpty then line (withCommas m pieces)
  | form =>
    if pieces.isEmpty then pure ()
    else if m.width = 0 then line (((pieces.map (·.text)).intersperse [' ', ' ']).flatten)
    else plain (inColumns m (form = .down) pieces)

/-- The order of a list. -/
def ordered (m : Manner) (files : Files) (entries : List Entry) : List Entry :=
  let byName := entries.mergeSort fun a b => charLess a.name b.name
  let ending (name : List Char) : List Char :=
    if name.contains '.' then (name.reverse.takeWhile (· ≠ '.')).reverse else []
  let long := m.form = .long
  let order := if m.order.isEmpty && !long && m.choice.has 'c' then ['t']
    else if m.order.isEmpty && !long && m.choice.has 'u' then ['t'] else m.order
  let found := match order with
    | ['S'] => byName.mergeSort fun a b => b.size ≤ a.size
    | ['t'] => byName.mergeSort fun a b => files.time b.place ≤ files.time a.place
    | ['U'] => entries
    | ['X'] => byName.mergeSort fun a b => charLess (ending a.name) (ending b.name)
    | ['v'] => byName.mergeSort fun a b => compareFileVersions a.name b.name ≠ .gt
    | ['ω'] => byName.mergeSort fun a b => columns true a.name ≤ columns true b.name
    | _ => byName
  let found := if m.choice.has 'r' && order ≠ ['U'] then found.reverse else found
  let isDirectory (e : Entry) : Bool :=
    files.isDirectory (String.ofList (Path.placeText e.place))
  if m.choice.has 'π' && order ≠ ['U'] then
    found.filter isDirectory ++ found.filter (!isDirectory ·)
  else found

/-- What is in a directory, as far as it is listed. -/
def entriesIn (m : Manner) (files : Files) (place : List (List Char)) : List Entry :=
  let c := m.choice
  let all := c.last? ['a', 'A', 'f']
  let entry? (name : List Char) : Option Entry :=
    let inner := place ++ [name]
    let shown := bytesOf (String.ofList name)
    (files.node? inner).map fun node =>
      let followed := match if c.has 'L' then files.locate (String.ofList (Path.placeText inner)) else .error .notFound with
        | .ok (goal, some node) => (goal, node)
        | _ => (inner, node)
      ⟨shown, followed.1, followed.2⟩
  let fitsOne (patterns : List (List Char)) (e : Entry) : Bool := patterns.any fun pattern =>
    fits (pattern.map fun c => ⟨c, false⟩) e.name
  let hidden (e : Entry) : Bool := e.name.head? = some '.' || fitsOne (c.values 'λ') e
  let ignored (e : Entry) : Bool :=
    fitsOne (c.values 'I') e || (c.has 'B' && e.name.getLast? = some '~')
  let found := ((files.names place).filterMap entry?).filter fun e =>
    (all.isSome || !hidden e) && !ignored e
  let dots := if all = some 'a' || all = some 'f' then
      [⟨['.'], place, .directory⟩, ⟨['.', '.'], place.dropLast, .directory⟩]
    else []
  ordered m files (dots ++ found)

/-- Lists a directory, and with `R` those below it, at most `depth` deep. -/
def directory (m : Manner) : Nat → Bool → Bool → List Char → List (List Char) → Act Unit
  | 0, _, _, _, _ => pure ()
  | depth + 1, first, titled, path, place => do
    let entries := entriesIn m (← get).files place
    if titled then put (shown m (← isWide) path ++ [':', m.finish])
    printEntries m first true entries
    if m.choice.has 'R' then
      for e in entries do
        if e.node = .directory && e.name ≠ ['.'] && e.name ≠ ['.', '.'] then
          put [m.finish]
          let slash := if path.getLast? = some '/' then [] else ['/']
          directory m depth false true (path ++ slash ++ e.name) e.place

/-- Which links among the operands are followed. -/
def found (m : Manner) (path : List Char) : Act (Except Files.Fault (List (List Char) × Node)) := do
  let c := m.choice
  let kept := c.has 'd' || m.marking = .all || m.form = .long
  match c.last? ['H', 'L', 'ξ'] with
  | some 'L' => nodeAt true path
  | some 'H' =>
    match ← nodeAt true path with
    | .error .notFound => nodeAt false path
    | found => return found
  | _ =>
    if kept then nodeAt false path
    else
      match ← nodeAt true path with
      | .ok (place, .directory) => return .ok (place, .directory)
      | _ => nodeAt false path

end Listing

open Listing in
def ls : Tool := withOptions Listing.options 2 fun c => do
  match ← manner c with
  | .error status => return status
  | .ok m =>
    let mut status := 0
    let mut alone : List Entry := []
    let mut whole : List Entry := []
    for path in (if c.operands.isEmpty then [['.']] else c.operands) do
      match ← found m path with
      | .error fault =>
        status := 2
        refuse ["cannot access ".toList, ← named path] fault
      | .ok (place, node) =>
        let entry : Entry := ⟨path, place, node⟩
        if node = .directory && !c.has 'd' then whole := whole ++ [entry]
        else alone := alone ++ [entry]
    let files := (← get).files
    if !alone.isEmpty then printEntries m true false (ordered m files alone)
    let titled := c.has 'R' || 1 < alone.length + whole.length || 1 < c.operands.length
    for (entry, n) in (ordered m files whole).zipIdx do
      if 0 < n || !alone.isEmpty then put [m.finish]
      directory m 100 (n = 0 && alone.isEmpty) titled entry.name entry.place
    return status

end Gutter.Tools
