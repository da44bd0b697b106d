import Gutter.Pattern
import Gutter.Regular.Match
import Gutter.Regular.Reader
import Gutter.Tools.Finding

/-! The tool that prints the lines in which a pattern is found. -/

namespace Gutter.Tools

open Machine Shell

namespace Grep

/-! ### Patterns -/

/-- How patterns are written. -/
inductive Style
  | basic
  | extended
  | fixed
  | perl
deriving DecidableEq, Repr

/-- What a match has to fill: part of a line, words, or a whole line. -/
inductive Filling
  | part
  | words
  | line
deriving DecidableEq, Repr

/-- A pattern that is ready for lines. -/
inductive Matcher
  | regular (node : Regular.Node)
  | perl (pattern : Pattern)

/-- An expression that has to fill something. -/
def filled (filling : Filling) (node : Regular.Node) : Regular.Node :=
  match filling with
  | .part => node
  | .words => .join (.edge .noWordBefore) (.join node (.edge .noWordAfter))
  | .line => .join (.edge .textStart) (.join node (.edge .textEnd))

def isEdgeLetter (c : Char) : Bool := ['<', '>', 'b', 'B', '\'', Char.ofNat 96].contains c

/-- The operators in an extended expression that have nothing to work on; `starts` tells that nothing
has come before. -/
def idleOperators : Nat → Bool → List Char → List String
  | 0, _, _ => []
  | _, _, [] => []
  | limit + 1, starts, '\\' :: c :: rest => idleOperators limit (starts && isEdgeLetter c) rest
  | limit + 1, starts, c :: rest =>
    if ['*', '+', '?'].contains c then
      (if starts then [String.ofList [c]] else []) ++ idleOperators limit starts rest
    else if c = '\x7b' && starts then
      match Regular.countBounds .extendedLines rest with
      | .ok (some (_, rest)) => "{...}" :: idleOperators limit true rest
      | _ => idleOperators limit false rest
    else if c = '[' then
      match Regular.bracketTest rest with
      | .ok (_, rest) => idleOperators limit false rest
      | .error _ => []
    else if c = '^' || c = '$' then idleOperators limit starts rest
    else idleOperators limit (c = '(' || c = '|' || c = '\n') rest

/-- A pattern of another family, with what it has to fill. -/
def perlText (filling : Filling) (text : List Char) : List Char :=
  match filling with
  | .part => text
  | .words => "(?<!\\w)(?:".toList ++ text ++ ")(?!\\w)".toList
  | .line => "^(?:".toList ++ text ++ ")$".toList

/-- Reads one pattern. -/
def matcher (style : Style) (filling : Filling) (wide folds : Bool) (text : List Char) :
    Except String Matcher :=
  let chars := Regular.signs wide text
  let regular (dialect : Regular.Dialect) : Except String Matcher :=
    match Regular.read dialect chars with
    | .ok node => .ok (.regular (filled filling node))
    | .error fault => .error fault.text
  match style with
  | .fixed => .ok (.regular (filled filling (Regular.Node.literal chars)))
  | .basic => regular .basicLines
  | .extended => regular .extendedLines
  | .perl =>
    match Pattern.compile { ignoreCase := folds } (perlText filling chars) with
    | .ok pattern => .ok (.perl pattern)
    | .error fault => .error (fault.message chars)

/-- Where a pattern is found in a line at or after a place. -/
def Matcher.on (sight : Regular.Sight) (line : List Char) (m : Matcher) :
    Nat → Option (Nat × Nat) :=
  match m with
  | .regular node =>
    let search := node.on sight line
    fun place => (search.from? place).map fun found => (found.start, found.stop)
  | .perl pattern =>
    let found := (pattern.findAll line).map fun found => (found.start, found.stop)
    fun place => found.find? fun span => place ≤ span.1

/-- The first of what several patterns find, and the longest of those. -/
def firstOf (found : List (Nat × Nat)) : Option (Nat × Nat) :=
  found.foldl (fun best span =>
    match best with
    | none => some span
    | some b =>
      if span.1 < b.1 || (span.1 = b.1 && b.2 < span.2) then some span else some b) none

/-- All that is found in a line one after another, without what is empty. -/
def allFound (searches : List (Nat → Option (Nat × Nat))) : Nat → Nat → List (Nat × Nat)
  | 0, _ => []
  | limit + 1, place =>
    match firstOf (searches.filterMap fun search => search place) with
    | none => []
    | some (start, stop) =>
      if stop ≤ start then allFound searches limit (start + 1)
      else (start, stop) :: allFound searches limit stop

/-! ### What is asked for -/

/-- What is printed of the files. -/
inductive Printing
  | lines
  | parts
  | counts
  | names
  | otherNames
  | nothing
deriving DecidableEq, Repr

structure Settings where
  matchers : List Matcher
  sight : Regular.Sight
  inverted : Bool
  printing : Printing
  limit : Option Nat
  before : Option Nat
  after : Option Nat
  separator : Option (List Char)
  names : Bool
  numbers : Bool
  offsets : Bool
  nameEnd : Option Char
  lineEnd : Char
  asText : Bool
  skipsBinary : Bool
  silent : Bool

/-- A line with its number, the bytes before it, and whether it is selected. -/
structure Line where
  number : Nat
  offset : Nat
  bytes : List Char
  selected : Bool

/-- What stands before a line or a part of it. -/
def Settings.head (s : Settings) (name : List Char) (line : Line) (offset : Nat) (mark : Char) :
    List Char :=
  (if s.names then name ++ [s.nameEnd.getD mark] else [])
    ++ (if s.numbers then digits line.number ++ [mark] else [])
    ++ (if s.offsets then digits offset ++ [mark] else [])

/-- The searches for all patterns in a line. -/
def Settings.searches (s : Settings) (chars : List Char) : List (Nat → Option (Nat × Nat)) :=
  s.matchers.map (·.on s.sight chars)

def Settings.selects (s : Settings) (bytes : List Char) : Bool :=
  let chars := Regular.signs s.sight.wide bytes
  let found := (s.searches chars).any fun search => (search 0).isSome
  found != s.inverted

/-- The parts of a line that are found, each with the number of bytes before it. -/
def Settings.parts (s : Settings) (bytes : List Char) : List (Nat × List Char) :=
  let chars := Regular.signs s.sight.wide bytes
  (allFound (s.searches chars) (chars.length + 1) 0).map fun (start, stop) =>
    ((Regular.unsigned s.sight.wide (chars.take start)).length,
      Regular.unsigned s.sight.wide ((chars.drop start).take (stop - start)))

/-! ### One file -/

/-- What has been printed of a file: how many lines were selected, how many more lines follow, lines
that may be printed before the next one, whether anything was printed of any file, the number of the
last line that was, whether a line was kept back, and whether the rest does not count. -/
structure Printed where
  count : Nat := 0
  follow : Nat := 0
  waiting : List Line := []
  any : Bool
  last : Option Nat := none
  keptBack : Bool := false
  done : Bool := false

/-- Bytes that encode no text. -/
def Settings.isBroken (s : Settings) (bytes : List Char) : Bool :=
  s.sight.wide && (Regular.signs true bytes).any Regular.isStray

/-- Prints a line, or keeps it back. -/
def printLine (s : Settings) (name : List Char) (p : Printed) (line : Line) (mark : Char) :
    Act Printed := do
  let p := { p with any := true, last := some line.number }
  if !s.asText && s.isBroken line.bytes then return { p with keptBack := true }
  if s.printing = .parts then
    if mark = ':' && !s.inverted then
      for (start, part) in s.parts line.bytes do
        put (s.head name line (line.offset + start) mark ++ part ++ [s.lineEnd])
  else put (s.head name line line.offset mark ++ line.bytes ++ [s.lineEnd])
  return p

/-- Prints a selected line with the lines before it. -/
def printSelected (s : Settings) (name : List Char) (p : Printed) (line : Line) : Act Printed := do
  let lines := p.waiting.reverse
  let first := (lines.head?.getD line).number
  if (s.before.isSome || s.after.isSome) && p.any && p.last.map (· + 1) ≠ some first then
    match s.separator with
    | some text => putLine text
    | none => pure ()
  let mut q := p
  for earlier in lines do q ← printLine s name q earlier '-'
  q ← printLine s name q line ':'
  return { q with follow := s.after.getD 0, waiting := [] }

/-- Takes one line. -/
def step (s : Settings) (name : List Char) (binary : Bool) (p : Printed) (line : Line) :
    Act Printed := do
  let full := s.limit.any (· ≤ p.count)
  if line.selected && !full then
    let p := { p with count := p.count + 1 }
    let full := s.limit.any (· ≤ p.count)
    match s.printing with
    | .counts => return { p with done := full }
    | .lines | .parts =>
      if binary then return { p with keptBack := true, done := true }
      let p ← printSelected s name p line
      return { p with done := full && p.follow = 0 }
    | _ => return { p with done := true }
  else if 0 < p.follow && !binary then
    let p ← printLine s name p line '-'
    return { p with follow := p.follow - 1, done := full && p.follow ≤ 1 }
  else return { p with waiting := (line :: p.waiting).take (s.before.getD 0), done := full }

/-- Takes lines up to one after which the rest does not count. -/
def steps (s : Settings) (name : List Char) : Nat → Nat → Nat → Bool → Printed → Lines →
    Act (Printed × Lines)
  | 0, _, _, _, p, lines => pure (p, lines)
  | limit + 1, number, offset, binary, p, lines => do
    if p.done then return (p, lines)
    match ← lines.next with
    | (none, lines) => return (p, lines)
    | (some bytes, lines) =>
      let binary := binary || (!s.asText && s.lineEnd = '\n' && bytes.contains '\x00')
      let body := if bytes.getLast? = some s.lineEnd then bytes.dropLast else bytes
      let p ← step s name binary p ⟨number, offset, body, s.selects body⟩
      steps s name limit (number + 1) (offset + bytes.length) binary p lines

/-- The most lines that are read. -/
def lineLimit : Nat := 0xffffffff

/-- What the search in files has brought so far. -/
structure Progress where
  selected : Bool := false
  failed : Bool := false
  any : Bool := false
  ended : Bool := false

abbrev Walk := StateT Progress Act

def trouble (s : Settings) (pieces : List (List Char)) : Walk Unit := do
  modify fun p => { p with failed := true }
  if !s.silent then warn pieces

/-- Searches lines that have a name. -/
def searchLines (s : Settings) (name : List Char) (lines : Lines) (isInput : Bool) : Walk Unit := do
  let known := lines.left
  let hasNull := s.lineEnd = '\n' && known.contains '\x00'
  if s.skipsBinary && !s.asText && (hasNull || s.isBroken known) then return
  let start : Printed := { any := (← get).any, done := s.limit = some 0 }
  let (p, rest) ← steps s name lineLimit 1 0 (hasNull && !s.asText) start lines
  if isInput then giveBack 0 rest.left
  modify fun q => { q with selected := q.selected || 0 < p.count, any := p.any }
  let nameEnd := [s.nameEnd.getD '\n']
  match s.printing with
  | .counts => put ((if s.names then name ++ [s.nameEnd.getD ':'] else []) ++ digits p.count ++ ['\n'])
  | .names => if 0 < p.count then put (name ++ nameEnd)
  | .otherNames => if p.count = 0 then put (name ++ nameEnd)
  | .nothing => if 0 < p.count then modify fun q => { q with ended := true }
  | _ => if p.keptBack then warn [name, ": binary file matches".toList]

/-- A file to which the output goes. -/
def isOutput (path : List Char) : Act Bool := do
  match ← channel? 1 with
  | some (.file place) =>
    match (← get).files.locate (textOf path) with
    | .ok (other, some (.file ..)) => return other = place
    | _ => return false
  | _ => return false

/-- Searches a file that is no directory. -/
def searchFile (s : Settings) (name path : List Char) : Walk Unit := do
  let prints := s.printing = .lines || s.printing = .parts || s.printing = .counts
  if prints && s.limit.all (1 < ·) && !isInput path && (← isOutput path) then
    trouble s [name, ": input file is also the output".toList]
  else
    match ← linesAt s.lineEnd path with
    | .ok lines => searchLines s name lines (isInput path)
    | .error fault => trouble s [name, ": ".toList, faultName fault]

/-- Which files count by their names. -/
structure Sieve where
  included : List (List Char)
  excluded : List (List Char)
  excludedDirectories : List (List Char)

def Sieve.admits (sieve : Sieve) (name : List Char) : Bool :=
  let fits (pattern : List Char) : Bool := Finding.fitsName pattern false name
  (sieve.included.isEmpty || sieve.included.any fits) && !sieve.excluded.any fits

/-- Searches all files in a directory, at most `limit` deep. -/
def searchDirectory (s : Settings) (sieve : Sieve) (follows : Bool) : Nat → List Char →
    List (List Char) → Walk Unit
  | 0, _, _ => pure ()
  | limit + 1, path, place => do
    for part in ((← getThe State).files.names place) do
      if (← get).ended then return
      let name := bytesOf (String.ofList part)
      let inner := if path.isEmpty then name
        else if path.getLast? = some '/' then path ++ name else path ++ '/' :: name
      let files := (← getThe State).files
      match files.node? (place ++ [part]) with
      | some .directory =>
        if !(sieve.excludedDirectories.any fun d => Finding.fitsName d false name) then
          searchDirectory s sieve follows limit inner (place ++ [part])
      | some (.link _) =>
        if follows then
          match files.locate (textOf inner) with
          | .ok (target, some .directory) => searchDirectory s sieve follows limit inner target
          | .ok (_, some _) => if sieve.admits name then searchFile s inner inner
          | _ => trouble s [inner, ": ".toList, faultName .notFound]
      | some (.device _) => pure ()
      | some _ => if sieve.admits name then searchFile s inner inner
      | none => pure ()

/-- What is done with directories. -/
inductive Directories
  | read
  | skip
  | recurse
  | follow
deriving DecidableEq, Repr

/-- Searches what an operand names. -/
def searchOperand (s : Settings) (sieve : Sieve) (directories : Directories) (label : List Char)
    (path : List Char) : Walk Unit := do
  if (← get).ended then return
  if path = ['-'] then searchFile s label path
  else
    match (← getThe State).files.locate (textOf path) with
    | .ok (place, some .directory) =>
      let bare := (path.reverse.dropWhile (· = '/')).reverse
      if sieve.excludedDirectories.any fun d => Finding.fitsName d false bare then pure ()
      else
        match directories with
        | .read => trouble s [path, ": ".toList, faultName .isDirectory]
        | .skip => pure ()
        | .recurse => searchDirectory s sieve false 200 path place
        | .follow => searchDirectory s sieve true 200 path place
    | _ => if sieve.admits (lastPart path) then searchFile s path path

end Grep

/-! ### Arguments -/

def grepOptions : Options :=
  { letters := "0123456789A:B:C:D:EFGHILPTUVX:abcd:e:f:hilm:noqRrsuvwxyzZα::β:γ:δ:ε:ζ:ηθλ:"
    words := [("basic-regexp", 'G'), ("extended-regexp", 'E'), ("fixed-regexp", 'F'),
      ("fixed-strings", 'F'), ("perl-regexp", 'P'), ("after-context", 'A'), ("before-context", 'B'),
      ("context", 'C'), ("group-separator", 'ζ'), ("no-group-separator", 'η'),
      ("binary-files", 'β'), ("line-buffered", 'u'), ("byte-offset", 'b'), ("color", 'α'),
      ("colour", 'α'), ("count", 'c'), ("devices", 'D'), ("directories", 'd'), ("exclude", 'γ'),
      ("exclude-dir", 'δ'), ("file", 'f'), ("files-with-matches", 'l'),
      ("files-without-match", 'L'), ("include", 'ε'), ("ignore-case", 'i'),
      ("no-ignore-case", 'θ'), ("initial-tab", 'T'), ("label", 'λ'), ("line-number", 'n'),
      ("line-regexp", 'x'), ("max-count", 'm'), ("no-filename", 'h'), ("no-messages", 's'),
      ("null", 'Z'), ("null-data", 'z'), ("only-matching", 'o'), ("quiet", 'q'),
      ("recursive", 'r'), ("dereference-recursive", 'R'), ("regexp", 'e'), ("invert-match", 'v'),
      ("silent", 'q'), ("text", 'a'), ("binary", 'U'), ("unix-byte-offsets", 'u'),
      ("with-filename", 'H'), ("word-regexp", 'w')] }

namespace Grep

/-- Says how the tool is used. -/
def showUsage : Act Nat := do
  let name := (← self).name
  say s!"Usage: {String.ofList name} [OPTION]... PATTERNS [FILE]...\n"
  tryHelp
  return 2

/-- Why the arguments cannot be used; the tool ends with status 2. -/
abbrev Setup := ExceptT Unit Act

def refuse {α : Type} (pieces : List (List Char)) : Setup α := do
  warn pieces
  throw ()

/-- The number of lines around a selected one. -/
def contextOf (text : List Char) : Setup Nat := do
  if !text.isEmpty && text.all Char.isDigit then return Text.valueOfDigits 10 text
  else refuse [text, ": invalid context length argument".toList]

/-- The digits among the options, up to the last that stand together. -/
def digitsGiven (given : List Given) : Option (List Char) :=
  let digits := (given.filter (·.letter.isDigit)).map (·.letter)
  if digits.isEmpty then none else some digits

/-- The lines around a selected one, for one side. -/
def sideOf (c : Choice) (letter : Char) : Setup (Option Nat) := do
  match c.value? letter with
  | some text => return some (← contextOf text)
  | none =>
    match c.value? 'C' with
    | some text => return some (← contextOf text)
    | none => return (digitsGiven c.given).map (Text.valueOfDigits 10)

/-- The most lines that are selected of a file. -/
def limitOf (c : Choice) : Setup (Option Nat) := do
  match c.value? 'm' with
  | none => return none
  | some text =>
    match Number.leadingInteger? (some 10) text with
    | some (n, []) => return if n < 0 then none else some n.toNat
    | _ => refuse ["invalid max count".toList]

/-- The texts of the patterns, from options or the first operand; and the files. -/
def patternsOf (c : Choice) : Setup (Option (List (List Char) × List (List Char))) := do
  let mut texts : List (List (List Char)) := []
  for g in c.given do
    if g.letter = 'e' then texts := Text.splitOn '\n' g.value :: texts
    if g.letter = 'f' then
      match ← bytesAt g.value with
      | .ok bytes => texts := linesOf bytes :: texts
      | .error fault => refuse [g.value, ": ".toList, faultName fault]
  if c.has 'e' || c.has 'f' then return some (texts.reverse.flatten, c.operands)
  else
    match c.operands with
    | [] => return none
    | text :: files => return some (Text.splitOn '\n' text, files)

def styleOf (start : Style) (c : Choice) : Setup Style := do
  let asked := (c.given.filter fun g => ['E', 'F', 'G', 'P'].contains g.letter).map (·.letter)
  let style : Style := match asked.head? with
    | some 'E' => .extended
    | some 'F' => .fixed
    | some 'G' => .basic
    | some 'P' => .perl
    | _ => start
  if asked.any (some · ≠ asked.head?) then refuse ["conflicting matchers specified".toList]
  return style

def printingOf (c : Choice) : Printing :=
  if c.has 'q' then .nothing
  else
    match c.last? ['l', 'L'] with
    | some 'l' => .names
    | some _ => .otherNames
    | none => if c.has 'c' then .counts else if c.has 'o' then .parts else .lines

/-- Reads all patterns, and warns of operators that have nothing to work on. -/
def matchersOf (style : Style) (filling : Filling) (wide folds : Bool)
    (texts : List (List Char)) : Setup (List Matcher) := do
  let mut found := []
  for text in texts do
    match matcher style filling wide folds text with
    | .ok m =>
      found := m :: found
      if style = .extended then
        for operator in idleOperators (text.length + 1) true text do
          warn ["warning: ".toList, operator.toList, " at start of expression".toList]
    | .error message => refuse [message.toList]
  return found.reverse

/-- The options as settings, with the files and what is done with directories. -/
def settings (start : Style) (c : Choice) : Setup (Option (Settings × List (List Char))) := do
  let wide ← isWide
  let style ← styleOf start c
  let limit ← limitOf c
  let before ← sideOf c 'B'
  let after ← sideOf c 'A'
  let kind := (c.value? 'β').map String.ofList
  if !(["text", "binary", "without-match"].contains (kind.getD "text")) then
    refuse ["unknown binary-files type".toList]
  match ← patternsOf c with
  | none => return none
  | some (texts, files) =>
    let filling : Filling := if c.has 'x' then .line else if c.has 'w' then .words else .part
    let folds := (c.last? ['i', 'y', 'θ']).any (· ≠ 'θ')
    let matchers ← matchersOf style filling wide folds texts
    let recurses := c.has 'r' || c.has 'R' || c.value? 'd' = some "recurse".toList
    let directories := (← get).files.isDirectory (textOf (files.headD []))
    let many := 1 < files.length || (recurses && (files.isEmpty || directories))
    let names := match c.last? ['h', 'H'] with
      | some 'h' => false
      | some _ => true
      | none => many
    return some ({
      matchers, limit, before, after, names
      sight := { wide, folds }
      inverted := c.has 'v'
      printing := printingOf c
      separator := match c.last? ['ζ', 'η'] with
        | some 'ζ' => c.value? 'ζ'
        | some _ => none
        | none => some ['-', '-']
      numbers := c.has 'n'
      offsets := c.has 'b'
      nameEnd := if c.has 'Z' then some '\x00' else none
      lineEnd := if c.has 'z' then '\x00' else '\n'
      asText := c.has 'a' || kind = some "text"
      skipsBinary := c.has 'I' || kind = some "without-match"
      silent := c.has 's' }, files)

/-- Searches all files. -/
def searchAll (s : Settings) (c : Choice) (files : List (List Char)) : Act Nat := do
  if s.printing = .counts then updateSelf fun p => { p with streams := false }
  let directories : Directories := match c.last? ['r', 'R', 'd'] with
    | some 'r' => .recurse
    | some 'R' => .follow
    | some _ => if c.value? 'd' = some "skip".toList then .skip
      else if c.value? 'd' = some "recurse".toList then .recurse else .read
    | none => .read
  let sieve : Sieve := ⟨c.values 'ε', c.values 'γ',
    (c.values 'δ').map fun d => (d.reverse.dropWhile (· = '/')).reverse⟩
  let label := (c.value? 'λ').getD "(standard input)".toList
  let all : Walk Unit :=
    if files.isEmpty && (directories = .recurse || directories = .follow) then do
      let place := (← getThe State).files.place
      searchDirectory s sieve (directories = .follow) 200 [] place
    else
      for path in (if files.isEmpty then [['-']] else files) do
        searchOperand s sieve directories label path
  let (_, p) ← all.run {}
  return if p.ended then 0 else if p.failed then 2 else if p.selected then 0 else 1

end Grep

/-- Prints lines in which patterns are found that are written in a style. -/
def grepIn (style : Grep.Style) : Tool := fun arguments => do
  match ← readOptions grepOptions arguments with
  | .error fault =>
    warn [fault.message]
    Grep.showUsage
  | .ok (given, operands) =>
    let c : Choice := ⟨given, operands⟩
    match ← (Grep.settings style c).run with
    | .error () => return 2
    | .ok none => Grep.showUsage
    | .ok (some (s, files)) => Grep.searchAll s c files

def grep : Tool := grepIn .basic

/-- The tool under an older name, which does not show. -/
def olderGrep (style : Grep.Style) : Tool := fun arguments => do
  updateSelf fun p => { p with name := "grep".toList }
  grepIn style arguments

end Gutter.Tools
