import Gutter.Tools.Copying
import Gutter.Tools.Entry
import Gutter.Tools.Instant

/-! Tools that tell where paths lead and what is known of files, and one that makes up names. -/

namespace Gutter.Tools

open Machine Shell

/-! ### Paths -/

/-- Which parts of a path may lead nowhere. -/
inductive Leeway
  | nothing
  | last
  | all
deriving DecidableEq, Repr

/-- Where parts lead from a place if those that are not there are taken as they are. -/
def lenientPlace (files : Files) : Nat → List (List Char) → List (List Char) → List (List Char)
  | 0, place, _ => place
  | _, place, [] => place
  | limit + 1, place, part :: rest =>
    if part = ['.'] then lenientPlace files limit place rest
    else if part = ['.', '.'] then lenientPlace files limit place.dropLast rest
    else
      match files.node? (place ++ [part]) with
      | some (.link target) =>
        lenientPlace files limit (Files.start place target) (Files.steps target ++ rest)
      | _ => lenientPlace files limit (place ++ [part]) rest

/-- The parts of a path without those of its links. -/
def plainPlace (place : List (List Char)) : List (List Char) → List (List Char)
  | [] => place
  | part :: rest =>
    if part = ['.'] then plainPlace place rest
    else if part = ['.', '.'] then plainPlace place.dropLast rest
    else plainPlace (place ++ [part]) rest

/-- The place that a path leads to after all links. -/
def resolvedPlace (leeway : Leeway) (path : List Char) :
    Act (Except Files.Fault (List (List Char))) := do
  let files := (← get).files
  let text := (textOf path).toList
  if leeway = .all && !path.isEmpty then
    return .ok (lenientPlace files 4096 (Files.start files.place text) (Files.steps text))
  let text := if leeway = .last && 1 < text.length then
      (text.reverse.dropWhile (· = '/')).reverse else text
  let text := if text.isEmpty then (textOf path).toList.take 1 else text
  match files.seek true (String.ofList text) with
  | .error fault => return .error fault
  | .ok (place, node) =>
    return if node.isNone && leeway = .nothing then .error .notFound else .ok place

/-- The text of a place. -/
def placeBytes (place : List (List Char)) : List Char := bytesOf (String.ofList (Path.placeText place))

def readlink : Tool :=
    withOptions ⟨"efmnqsvz", [("canonicalize", 'f'), ("canonicalize-existing", 'e'),
      ("canonicalize-missing", 'm'), ("no-newline", 'n'), ("quiet", 'q'), ("silent", 's'),
      ("zero", 'z'), ("verbose", 'v')], true⟩ 1
    fun c => do
  if c.operands.isEmpty then return ← missingOperand 1
  let several := 1 < c.operands.length
  if c.has 'n' && several then
    warn ["ignoring --no-newline with multiple arguments".toList]
  let finish := if c.has 'n' && !several then [] else if c.has 'z' then ['\x00'] else ['\n']
  let mut status := 0
  for path in c.operands do
    let place (leeway : Leeway) : Act (Except Files.Fault (List Char)) := do
      return (← resolvedPlace leeway path).map placeBytes
    let found ← match c.last? ['e', 'f', 'm'] with
      | some 'e' => place .nothing
      | some 'f' => place .last
      | some _ => place .all
      | none =>
        match ← nodeAt false path with
        | .ok (_, .link target) => pure (.ok (bytesOf (String.ofList target)))
        | .ok _ => pure (.error .invalid)
        | .error fault => pure (.error fault)
    match found with
    | .ok text => put (text ++ finish)
    | .error fault =>
      status := 1
      let silent := (c.last? ['v', 'q', 's']) ≠ some 'v'
      if !silent then warn [← nameOf path, ": ".toList, faultName fault]
  return status

/-- The path to a place, seen from another one where both are below a third. -/
def relativePath (base : Option (List (List Char))) (start place : List (List Char)) : List Char :=
  if base.all fun base => base.isPrefixOf start && base.isPrefixOf place then pathBetween start place
  else placeBytes place

def realpath : Tool :=
    withOptions ⟨"eLmPqszα:β:", [("canonicalize-existing", 'e'), ("canonicalize-missing", 'm'),
      ("logical", 'L'), ("physical", 'P'), ("quiet", 'q'), ("relative-to", 'α'),
      ("relative-base", 'β'), ("strip", 's'), ("no-symlinks", 's'), ("zero", 'z')], true⟩ 1
    fun c => do
  if c.operands.isEmpty then return ← missingOperand 1
  let leeway : Leeway := match c.last? ['e', 'm'] with
    | some 'e' => .nothing
    | some _ => .all
    | none => .last
  let resolve (path : List Char) : Act (Except Files.Fault (List (List Char))) := do
    let found ← resolvedPlace leeway path
    if c.last? ['s', 'L', 'P'] ≠ some 's' || !found.isOk then return found
    let text := (textOf path).toList
    let here := (← get).files.place
    return .ok (plainPlace (Files.start here text) (Files.steps text))
  let mut starts : List (List (List Char)) := []
  for path in (c.value? 'α').toList ++ (c.value? 'β').toList do
    match ← resolve path with
    | .ok place =>
      if leeway = .nothing && (← get).files.node? place ≠ some .directory then
        warn [← nameOf path, ": ".toList, faultName .notDirectory]
        return 1
      starts := starts ++ [place]
    | .error fault =>
      warn [← nameOf path, ": ".toList, faultName fault]
      return 1
  let mut status := 0
  for path in c.operands do
    match ← resolve path with
    | .ok place =>
      let shown := match starts with
        | [] => placeBytes place
        | start :: _ =>
          let base := (c.value? 'β').bind fun _ => starts.getLast?
          let outside := (c.value? 'α').isNone && base.any (!·.isPrefixOf place)
          if outside then placeBytes place else relativePath base start place
      put (shown ++ if c.has 'z' then ['\x00'] else ['\n'])
    | .error fault =>
      status := 1
      if !c.has 'q' then warn [← nameOf path, ": ".toList, faultName fault]
  return status

/-! ### What is known of files -/

/-- What a directive gives. -/
inductive Fact
  | text (text : List Char)
  | number (n : Nat)
  | octal (n : Nat)
  | hexadecimal (n : Nat)
  | seconds (instant : Instant)

/-- The bits that tell the kind of a file, with its rights. -/
def modeBits (files : Files) (e : Entry) : Nat :=
  let kind := match e.node with
    | .directory => 0o040000
    | .link _ => 0o120000
    | .device _ => 0o020000
    | _ => 0o100000
  kind + files.rightsAt e.place

/-- The number of the device that files are on. -/
def homeDevice : Nat := 46

/-- What a letter of a format tells about a file. -/
def fact? (files : Files) (zone : Zone) (wide : Bool) (e : Entry) (letter : Char) : Option Fact :=
  let instant := instantOfTime (files.time e.place)
  let shown := (instant.clock zone).format "%Y-%m-%d %H:%M:%S.%N %z".toList
  let (major, minor) := e.device.getD (0, 0)
  match letter with
  | 'n' => some (.text e.name)
  | 'N' =>
    let arrow := match e.node with
      | .link _ => " -> ".toList ++ shellQuoted wide e.target
      | _ => []
    some (.text (shellQuoted wide e.name ++ arrow))
  | 's' => some (.number e.size)
  | 'F' => some (.text e.kindName.toList)
  | 'a' => some (.octal (files.rightsAt e.place))
  | 'A' => some (.text (e.rightsText files))
  | 'f' => some (.hexadecimal (modeBits files e))
  | 'U' => some (.text "root".toList)
  | 'G' => some (.text "root".toList)
  | 'u' => some (.number 0)
  | 'g' => some (.number 0)
  | 'h' => some (.number (e.links files))
  | 'i' => some (.number (e.number files))
  | 'd' => some (.number homeDevice)
  | 'D' => some (.hexadecimal homeDevice)
  | 't' => some (.hexadecimal major)
  | 'T' => some (.hexadecimal minor)
  | 'm' => some (.text ['/'])
  | 'b' => some (.number (e.blocks * 2))
  | 'B' => some (.number 512)
  | 'o' => some (.number 4096)
  | 'C' => some (.text ['?'])
  | 'w' => some (.text shown)
  | 'x' => some (.text shown)
  | 'y' => some (.text shown)
  | 'z' => some (.text shown)
  | 'W' => some (.seconds instant)
  | 'X' => some (.seconds instant)
  | 'Y' => some (.seconds instant)
  | 'Z' => some (.seconds instant)
  | _ => none

/-- A text between blanks, or zeros before it, up to a width. -/
def spaced (flags : List Char) (zeros : Bool) (width : Nat) (text : List Char) : List Char :=
  let room := width - text.length
  if flags.contains '-' then text ++ List.replicate room ' '
  else if zeros && flags.contains '0' then List.replicate room '0' ++ text
  else List.replicate room ' ' ++ text

/-- A fact with the flags, the width and the precision of its directive. -/
def Fact.shown (flags : List Char) (width : Nat) (precision : Option Nat) : Fact → List Char
  | .text shown => spaced flags false width ((precision.elim shown shown.take))
  | .number n =>
    let sign := if flags.contains '+' then ['+'] else if flags.contains ' ' then [' '] else []
    let digits := digits n
    let zeros := (precision.getD 1) - digits.length
    spaced flags precision.isNone width (sign ++ List.replicate zeros '0' ++ digits)
  | .octal n =>
    let digits := Nat.toDigits 8 n
    let digits := if flags.contains '#' && digits.head? ≠ some '0' then '0' :: digits else digits
    spaced flags true width (List.replicate (precision.getD 1 - digits.length) '0' ++ digits)
  | .hexadecimal n =>
    let digits := Nat.toDigits 16 n
    let digits := List.replicate (precision.getD 1 - digits.length) '0' ++ digits
    spaced flags true width (if flags.contains '#' && n ≠ 0 then '0' :: 'x' :: digits else digits)
  | .seconds instant =>
    let wholes := if instant.seconds < 0 then '-' :: digits instant.seconds.natAbs
      else digits instant.seconds.natAbs
    let fraction := match precision with
      | none => []
      | some 0 => []
      | some places => '.' :: Clock.fractionDigits instant.nanos places
    spaced flags true width (wholes ++ fraction)

/-- The text of a format, at most so many directives long; `escapes` tells whether it has escapes. -/
def factsText (fact? : Char → Option Fact) (escapes : Bool) : Nat → List Char → List Char
  | 0, _ => []
  | limit + 1, '%' :: rest =>
    let (flags, after) := rest.span ['#', '0', '-', '+', ' ', '\''].contains
    let (width, after) := after.span Char.isDigit
    let (precision, after) : Option (List Char) × List Char := match after with
      | '.' :: more => (some (more.takeWhile Char.isDigit), more.dropWhile Char.isDigit)
      | more => (none, more)
    let number (digits : List Char) : Nat := Text.valueOfDigits 10 digits
    match after with
    | [] => '%' :: rest
    | '%' :: more => '%' :: factsText fact? escapes limit more
    | letter :: more =>
      let (fine, letter, more) := match letter, more with
        | 'H', c :: more => (true, c, more)
        | 'L', c :: more => (true, c, more)
        | c, more => (false, c, more)
      let fact := if fine then none else fact? letter
      let text := match fact with
        | some fact => fact.shown flags (number width)
            (precision.map fun digits => if digits.isEmpty then 9 else number digits)
        | none => ['?']
      text ++ factsText fact? escapes limit more
  | limit + 1, '\\' :: rest =>
    if !escapes then '\\' :: factsText fact? escapes limit rest
    else
      match escape true rest with
      | .chars chars size => chars ++ factsText fact? escapes limit (rest.drop size)
      | _ => '\\' :: factsText fact? escapes limit rest
  | limit + 1, c :: rest => c :: factsText fact? escapes limit rest
  | _, [] => []

/-- The format for all that is known of a file. -/
def fullFormat (e : Entry) : List Char :=
  let device := if e.device.isSome then "  Device type: %t,%T" else ""
  ("  File: %N\n  Size: %-10s\tBlocks: %-10b IO Block: %-6o %F\nDevice: 0,%d\tInode: %-11i Links: %-5h"
    ++ device ++ "\nAccess: (%04a/%10.10A)  Uid: (%5u/%8U)   Gid: (%5g/%8G)\n"
    ++ "Access: %x\nModify: %y\nChange: %z\n Birth: %w\n").toList

def stat : Tool :=
    withOptions ⟨"c:fLtα:β:", [("format", 'c'), ("printf", 'α'), ("dereference", 'L'),
      ("file-system", 'f'), ("terse", 't'), ("cached", 'β')], true⟩ 1 fun c => do
  if c.operands.isEmpty then return ← missingOperand 1
  let zone ← zone
  let wide ← isWide
  let mut status := 0
  for path in c.operands do
    match ← nodeAt (c.has 'L') path with
    | .error fault =>
      status := 1
      let what := if c.has 'f' then "cannot read file system information for " else "cannot statx "
      refuse [what.toList, ← named path] fault
    | .ok (place, node) =>
      let entry : Entry := ⟨path, place, node⟩
      let fact := fact? (← get).files zone wide entry
      let text (escapes : Bool) (format : List Char) : List Char :=
        factsText fact escapes (format.length + 1) format
      match c.last? ['c', 'α'] with
      | some 'c' => putLine (text false ((c.value? 'c').getD []))
      | some _ => put (text true ((c.value? 'α').getD []))
      | none =>
        if c.has 't' then putLine (text false "%n %s %b %f %u %g %D %i %h %t %T %X %Y %Z %W %o".toList)
        else put (text false (fullFormat entry))
  return status

/-! ### Names that are made up -/

/-- The characters of names that are made up. -/
def nameChar (n : Nat) : Char :=
  let letters := "abcdefghijklmnopqrstuvwxyzABCDEFGHIJKLMNOPQRSTUVWXYZ0123456789".toList
  letters.getD (n % letters.length) 'a'

/-- A number of characters that depend on a seed. -/
def madeUp : Nat → Nat → List Char
  | 0, _ => []
  | count + 1, seed => nameChar seed :: madeUp count ((seed * 1103515245 + 12345) / 7 % 2147483648)

/-- A template with the ending after the characters that are made up. -/
structure Template where
  start : List Char
  marks : Nat
  ending : List Char

/-- Reads a template, or says what is wrong with it. -/
def templateOf (c : Choice) (text : List Char) : Act (Except Nat Template) := do
  let fails (pieces : List (List Char)) : Act (Except Nat Template) := do
    warn pieces
    return .error 1
  let after := (text.reverse.takeWhile (· ≠ 'X')).reverse
  let told := c.value? 's'
  if told.isSome && text.getLast? ≠ some 'X' then
    return ← fails ["with --suffix, template ".toList, ← quoted text, " must end in X".toList]
  let ending := after ++ told.getD []
  if told.isSome && ending.contains '/' then
    return ← fails ["invalid suffix ".toList, ← quoted ending, ", contains directory separator".toList]
  let marks := ((text.reverse.drop after.length).takeWhile (· = 'X')).length
  if marks < 3 then
    return ← fails ["too few X's in template ".toList, ← quoted (text ++ told.getD [])]
  if told.isNone && ending.contains '/' then
    return ← fails ["invalid suffix ".toList, ← quoted ending, ", contains directory separator".toList]
  return .ok ⟨text.take (text.length - after.length - marks), marks, ending⟩

/-- Makes a file or a directory with a new name. -/
def mktemp : Tool :=
    withOptions ⟨"dp:qtuVs:α::", [("directory", 'd'), ("tmpdir", 'α'), ("dry-run", 'u'),
      ("quiet", 'q'), ("suffix", 's')], true⟩ 1 fun c => do
  if 1 < c.operands.length then return ← misuse 1 ["too many templates".toList]
  let text := c.operands.headD "tmp.XXXXXXXXXX".toList
  match ← templateOf c text with
  | .error status => return status
  | .ok template =>
    let told := ((← self).exported.lookup "TMPDIR".toList).filter (!·.isEmpty)
    let usual := told.getD "/tmp".toList
    let asked := ((c.given.filter fun g => g.letter = 'p' || g.letter = 'α').getLast?).map (·.value)
    let asked := asked.map fun text => if text.isEmpty then usual else text
    let base := if c.has 't' then some (told.getD (asked.getD usual))
      else if asked.isSome then asked else if c.operands.isEmpty then some usual else none
    if c.has 't' && text.contains '/' then
      warn ["invalid template, ".toList, ← quoted text, ", contains directory separator".toList]
      return 1
    if base.isSome && text.head? = some '/' then
      warn ["invalid template, ".toList, ← quoted text,
        "; with --tmpdir, it may not be absolute".toList]
      return 1
    let before := match base with
      | some base => if base.getLast? = some '/' then base else base ++ ['/']
      | none => []
    let p ← self
    let made := madeUp template.marks (p.clock * 31 + p.id * 7919 + 17)
    let path := before ++ template.start ++ made ++ template.ending
    match ← placeOf false path with
    | .ok (place, none) =>
      if !c.has 'u' then
        if c.has 'd' then createAt place .directory 0o700 else createAt place (.file [] false) 0o600
      putLine path
      return 0
    | found =>
      let fault := match found with
        | .error fault => fault
        | .ok _ => .exists
      let what := if c.has 'd' then "failed to create directory via template "
        else "failed to create file via template "
      if !c.has 'q' then
        refuse [what.toList, ← quoted (before ++ text ++ (c.value? 's').getD [])] fault
      return 1

/-! ### Commands -/

/-- Prints the files that commands are. -/
def which : Tool := fun arguments => do
  match Options.read { letters := "as", permutes := false } arguments with
  | .error fault =>
    let letter := match fault with
      | .unknownLetter letter => letter
      | _ => '-'
    write 2 ("Illegal option -".toList ++ [letter, '\n'])
    putLine "Usage: /usr/bin/which [-as] args".toList
    return 2
  | .ok (given, names) =>
    let files := (← get).files
    let path := ((← self).exported.lookup "PATH".toList).getD []
    let mut status := if names.isEmpty then 1 else 0
    for name in names do
      let candidates := if name.contains '/' then [name]
        else (Text.splitOn ':' path).map fun directory =>
          (if directory.isEmpty then ['.'] else directory) ++ '/' :: name
      let runs (path : List Char) : Bool :=
        match files.find (textOf path) with
        | .ok (.file _ executable) => executable
        | .ok (.tool _) => true
        | _ => false
      let found := candidates.filter runs
      if found.isEmpty then status := 1
      if given.all (·.letter ≠ 's') then
        for path in (if given.any (·.letter = 'a') then found else found.take 1) do putLine path
    return status

end Gutter.Tools
