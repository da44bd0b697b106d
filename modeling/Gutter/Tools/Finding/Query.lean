import Gutter.Regular.Match
import Gutter.Regular.Reader
import Gutter.Shell.Glob
import Gutter.Shell.Modes
import Gutter.Tools.Finding.Format
import Gutter.Tools.Instant.Reader

/-! What is asked of files that are found, and what is done with them: tests that are joined, and how
they are read from words. -/

namespace Gutter.Tools.Finding

open Machine Shell

/-- A number that is compared. -/
inductive Amount
  | more (n : Nat)
  | less (n : Nat)
  | same (n : Nat)
deriving DecidableEq, Repr

def Amount.fits (n : Nat) : Amount → Bool
  | .more m => m < n
  | .less m => n < m
  | .same m => n = m

/-- Times after one, before one, or in a span after one. -/
inductive Era
  | after (time : Int)
  | before (time : Int)
  | within (time span : Int)
deriving DecidableEq, Repr

def Era.fits (time : Int) : Era → Bool
  | .after start => start < time
  | .before stop => time < stop
  | .within start span => start < time && time ≤ start + span

/-- What is asked of a file, or done with it; what is printed may go into a file. -/
inductive Test
  | yes
  | no
  | name (pattern : List Char) (ignoresCase : Bool)
  | path (pattern : List Char) (ignoresCase : Bool)
  | leadsTo (pattern : List Char) (ignoresCase : Bool)
  | shape (node : Regular.Node) (ignoresCase : Bool)
  | kinds (letters : List Char) (behind : Bool)
  | empty
  | size (amount : Amount) (unit : Nat)
  | rights (mode modeOfDirectory : Nat) (mark : Option Char)
  | age (era : Era)
  | links (amount : Amount)
  | number (amount : Amount)
  | shares (places : List (List (List Char)))
  | executable
  | print (finish : Char) (goal : Option (List Char))
  | printf (pieces : List Piece) (goal : Option (List Char))
  | list (goal : Option (List Char))
  | execute (words : List (List Char)) (inPlace asks : Bool)
  | gather (index : Nat) (words : List (List Char)) (inPlace : Bool)
  | delete
  | prune
  | quit
deriving DecidableEq, Repr

/-- Tests that are joined. -/
inductive Query
  | test (test : Test)
  | not (query : Query)
  | and (first second : Query)
  | or (first second : Query)
  | comma (first second : Query)
deriving DecidableEq, Repr

/-- Options for the whole walk. -/
structure Walk where
  least : Nat := 0
  most : Option Nat := none
  afterwards : Bool := false
  ordered : Bool := false
  follows : Bool := false
  deletes : Bool := false
  prunes : Bool := false

/-- What is wrong with a query. -/
inductive Fault
  | unknown (word : List Char)
  | missing (word : List Char)
  | badKind (text : String)
  | badDepth (word text : List Char)
  | badArgument (word text : List Char)
  | badMode (text : List Char)
  | badUnit (text : List Char)
  | badSize (text : List Char)
  | badPredicate (word : List Char)
  | badDate (text : List Char)
  | badDialect (text : List Char)
  | badShape (text : String)
  | badFormat (fault : FormatFault)
  | unknownUser (name : List Char)
  | unknownGroup (name : List Char)
  | emptyName (word : List Char)
  | operand (word : List Char) (after : Option (List Char))
  | noFile (path : List Char) (fault : Files.Fault)
  | manyBraces (word : List Char)
  | after (word : List Char)
  | between (word : List Char)
  | nothingBefore (word : List Char)
  | unclosed
  | nothingInside
  | emptyParentheses
  | tooManyParentheses
  | prunesLate
  | unsafePath (part : List Char)
deriving DecidableEq, Repr

/-- What is known while a query is read. -/
structure Surroundings where
  files : Files
  zone : Zone
  present : Instant
  wide : Bool
  users : List (List Char)
  path : List Char

/-- A reader of queries: the words that are left, the options for the walk, how many programs are
gathered, the dialect of expressions, the files that are written, warnings, and whether days start at
midnight. -/
structure Reader where
  words : List (List Char)
  walk : Walk := {}
  gathered : Nat := 0
  dialect : Regular.Dialect := .editor
  goals : List (List Char) := []
  warnings : List (List Char) := []
  fromMidnight : Bool := false

abbrev Reads := StateT Reader (Except Fault)

def argument (word : List Char) : Reads (List Char) := do
  match (← get).words with
  | text :: rest =>
    modify fun r => { r with words := rest }
    return text
  | [] => throw (.missing word)

/-! ### Arguments of tests -/

/-- A number after a sign; what does not belong to it is left. -/
def amount? (text : List Char) : Option (Amount × List Char) :=
  let (make, rest) : (Nat → Amount) × List Char := match text with
    | '+' :: rest => (.more, rest)
    | '-' :: rest => (.less, rest)
    | rest => (.same, rest)
  let digits := rest.takeWhile Char.isDigit
  if digits.isEmpty then none
  else some (make (Text.valueOfDigits 10 digits), rest.drop digits.length)

/-- A number with a fraction, as units of a size. -/
def scaledNumber? (unit : Nat) (text : List Char) : Option Nat :=
  let whole := text.takeWhile Char.isDigit
  let fraction := match text.drop whole.length with
    | [] => some []
    | '.' :: digits => if digits.all Char.isDigit then some digits else none
    | _ => none
  match fraction with
  | some fraction =>
    if whole.isEmpty && fraction.isEmpty then none
    else some (Text.valueOfDigits 10 (whole ++ fraction) * unit / Nat.pow 10 fraction.length)
  | none => none

/-- The times that a number of days or minutes before the present asks for. A day counts from its
end. -/
def era? (s : Surroundings) (fromMidnight days : Bool) (text : List Char) : Option Era :=
  let second : Int := Files.perSecond
  let unit : Nat := if days then 86400 else 60
  let midnight : Int :=
    (s.present.seconds + s.zone.ahead) / 86400 * 86400 - s.zone.ahead
  let now : Int := if fromMidnight then (midnight + 86400) * second else s.present.time
  let origin := if days then now - 86400 * second else now
  let back (text : List Char) : Option Int :=
    (scaledNumber? (unit * Files.perSecond) text).map Int.ofNat
  match text with
  | '+' :: rest => (back rest).map fun n => .before (origin - n)
  | '-' :: rest =>
    (back rest).map fun n => .after (origin - n + if days then 86399 * second else 0)
  | rest => (back rest).map fun n => .within (origin - n) (unit * second)

/-- The units of sizes by their letters. -/
def unit? (c : Char) : Option Nat :=
  if c.isDigit then some 512
  else [('b', 512), ('c', 1), ('w', 2), ('k', 1024), ('M', 1048576), ('G', 1073741824)].lookup c

/-- Reads the mode that rights are compared with, for files and for directories. -/
def mode? (text : List Char) : Option (Nat × Nat × Option Char) :=
  let (mark, rest) : Option Char × List Char := match text with
    | '-' :: rest => (some '-', rest)
    | '/' :: rest => (some '/', rest)
    | rest => (none, rest)
  match text with
  | '+' :: c :: _ => if isOctalDigit c then none else changed mark rest
  | _ => changed mark rest
where
  changed (mark : Option Char) (text : List Char) : Option (Nat × Nat × Option Char) :=
    (Modes.ofText? text).map fun changes =>
      (Modes.applyAll 0 false changes 0, Modes.applyAll 0 true changes 0, mark)

/-- The kinds that letters with commas between them ask for, or what is wrong with them. -/
def kinds (before : List Char) : List Char → Except String (List Char)
  | [] =>
    if before.isEmpty then .error "Arguments to -type should contain at least one letter"
    else
      .error ("Last file type in list argument to -type is missing, i.e., list is ending on: ','")
  | c :: rest =>
    if !"bcdflps".toList.contains c then
      .error ("Unknown argument to -type: " ++ String.ofList [c])
    else if before.contains c then
      .error ("Duplicate file type '" ++ String.ofList [c] ++ "' in the argument list to -type.")
    else
      match rest with
      | [] => .ok (c :: before)
      | ',' :: more => kinds (c :: before) more
      | _ => .error "Must separate multiple arguments to -type using: ','"

/-- Dialects of expressions by their names, in the order in which they are told. -/
def dialects : List (String × Regular.Dialect) :=
  [("findutils-default", .editor), ("ed", .basicStrict), ("emacs", .editor),
    ("gnu-awk", .extendedStrict), ("grep", .basicStrict), ("posix-awk", .extendedStrict),
    ("awk", .extendedStrict), ("posix-basic", .basicStrict), ("posix-egrep", .extendedStrict),
    ("egrep", .extendedStrict), ("posix-extended", .extendedStrict),
    ("posix-minimal-basic", .basicStrict), ("sed", .basicStrict)]

/-- The words of a program up to a semicolon, or up to a plus after braces. -/
def program (word : List Char) (gathers : Bool) : Nat → List (List Char) →
    Reads (List (List Char) × Bool)
  | 0, _ => throw (.missing word)
  | limit + 1, taken => do
    match (← get).words with
    | [] => throw (.missing word)
    | text :: rest =>
      modify fun r => { r with words := rest }
      let braces : List Char := ['\x7b', '\x7d']
      if text = [';'] then
        if taken.isEmpty then throw (.badArgument word text)
        return (taken, false)
      else if gathers && text = ['+'] && taken.getLast? = some braces then
        let others := taken.dropLast
        if others.any fun w => (Text.splitOn '\x7b' w).any fun part => part.head? = some '\x7d' then
          throw (.manyBraces word)
        return (others, true)
      else program word gathers limit (taken ++ [text])

/-! ### Tests -/

/-- The first part of a search path that is not absolute. -/
def unsafePart? (path : List Char) : Option (List Char) :=
  (Text.splitOn ':' path).find? fun part => part.head? ≠ some '/'

/-- A test that runs a program. -/
def runningTest (s : Surroundings) (word : List Char) : Reads Test := do
  let text := String.ofList word
  let asks := text = "-ok" || text = "-okdir"
  let inPlace := text = "-execdir" || text = "-okdir"
  let (words, gathers) ← program word (!asks) ((← get).words.length + 1) []
  if inPlace then
    if let some part := unsafePart? s.path then throw (.unsafePath part)
  if gathers then
    let index := (← get).gathered
    modify fun r => { r with gathered := index + 1 }
    return .gather index words inPlace
  else return .execute words inPlace asks

/-- The place of a file and its time. -/
def fileAt (s : Surroundings) (path : List Char) : Reads (List (List Char)) := do
  match s.files.locate (textOf path) with
  | .ok (place, some _) => return place
  | .ok _ => throw (.noFile path .notFound)
  | .error fault => throw (.noFile path fault)

/-- A test of times by two letters: of what time, and what it is compared with. -/
def newerTest (s : Surroundings) (word : List Char) : Reads Test := do
  match word.drop 6 with
  | [x, y] =>
    if !(['a', 'B', 'c', 'm'].contains x) || !(['a', 'B', 'c', 'm', 't'].contains y) then
      throw (.badPredicate word)
    let value ← argument word
    if y = 't' then
      match Instant.ofText? s.zone s.present value with
      | some instant => return .age (.after instant.time)
      | none => throw (.badDate value)
    else return .age (.after (s.files.time (← fileAt s value)))
  | _ => throw (.unknown word)

/-- Reads a format, and keeps what it warns of. -/
def formatOf (text : List Char) : Reads (List Piece) := do
  match readFormat (text.length + 1) text with
  | .ok (pieces, warnings) =>
    modify fun r => { r with warnings := r.warnings ++ warnings }
    return pieces
  | .error fault => throw (.badFormat fault)

/-- A file that is written. -/
def goalOf (word : List Char) : Reads (Option (List Char)) := do
  let path ← argument word
  modify fun r => { r with goals := if r.goals.contains path then r.goals else r.goals ++ [path] }
  return some path

/-- A test of a user or a group by its name or number. -/
def ownerTest (s : Surroundings) (word : List Char) : Reads Test := do
  let name ← argument word
  let isUser := word = "-user".toList
  if name.isEmpty then throw (.emptyName word)
  if name = "root".toList then return .yes
  if s.users.contains name then return .no
  if name.all Char.isDigit then return if Text.valueOfDigits 10 name = 0 then .yes else .no
  throw (if isUser then .unknownUser name else .unknownGroup name)

/-- Tests that print. -/
def printingTest? (word : List Char) : Option (Reads Test) :=
  match String.ofList word with
  | "-print" => some (return .print '\n' none)
  | "-print0" => some (return .print '\x00' none)
  | "-printf" => some do return .printf (← formatOf (← argument word)) none
  | "-ls" => some (return .list none)
  | "-fprint" => some do return .print '\n' (← goalOf word)
  | "-fprint0" => some do return .print '\x00' (← goalOf word)
  | "-fls" => some do return .list (← goalOf word)
  | "-fprintf" => some do
    let goal ← goalOf word
    return .printf (← formatOf (← argument word)) goal
  | _ => none

/-- Tests of names and paths. -/
def namingTest? (s : Surroundings) (word : List Char) : Option (Reads Test) :=
  let shape (ignoresCase : Bool) : Reads Test := do
    let pattern ← argument word
    match Regular.read (← get).dialect (Regular.signs s.wide pattern) with
    | .ok node => return .shape node ignoresCase
    | .error fault => throw (.badShape fault.text)
  match String.ofList word with
  | "-name" => some do return .name (← argument word) false
  | "-iname" => some do return .name (← argument word) true
  | "-path" => some do return .path (← argument word) false
  | "-wholename" => some do return .path (← argument word) false
  | "-ipath" => some do return .path (← argument word) true
  | "-iwholename" => some do return .path (← argument word) true
  | "-lname" => some do return .leadsTo (← argument word) false
  | "-ilname" => some do return .leadsTo (← argument word) true
  | "-regex" => some (shape false)
  | "-iregex" => some (shape true)
  | _ => none

/-- Words that change the walk, and hold of every file. -/
def option? (word : List Char) : Option (Reads Unit) :=
  let change (f : Walk → Walk) : Reads Unit := modify fun r => { r with walk := f r.walk }
  let depth : Reads Nat := do
    let value ← argument word
    if value.isEmpty || !value.all Char.isDigit then throw (.badDepth word value)
    return Text.valueOfDigits 10 value
  match String.ofList word with
  | "-depth" => some (change fun w => { w with afterwards := true, ordered := true })
  | "-d" => some (change fun w => { w with afterwards := true, ordered := true })
  | "-maxdepth" => some do
    let n ← depth
    change fun w => { w with most := some n }
  | "-mindepth" => some do
    let n ← depth
    change fun w => { w with least := n }
  | "-follow" => some (change fun w => { w with follows := true })
  | "-daystart" => some (modify fun r => { r with fromMidnight := true })
  | "-regextype" => some do
    let name ← argument word
    match dialects.lookup (String.ofList name) with
    | some dialect => modify fun r => { r with dialect }
    | none => throw (.badDialect name)
  | _ =>
    if ["-mount", "-xdev", "-noleaf", "-warn", "-nowarn", "-ignore_readdir_race",
        "-noignore_readdir_race"].contains (String.ofList word) then some (pure ())
    else none

/-- A test of a number or a time. -/
def measuringTest? (s : Surroundings) (word : List Char) : Option (Reads Test) :=
  let number (make : Amount → Test) : Reads Test := do
    let value ← argument word
    match amount? value with
    | some (amount, []) => return make amount
    | _ => throw (.badArgument word value)
  let age (days : Bool) : Reads Test := do
    let value ← argument word
    match era? s (← get).fromMidnight days value with
    | some era => return .age era
    | none => throw (.badArgument word value)
  match String.ofList word with
  | "-mtime" => some (age true)
  | "-atime" => some (age true)
  | "-ctime" => some (age true)
  | "-mmin" => some (age false)
  | "-amin" => some (age false)
  | "-cmin" => some (age false)
  | "-used" => some (number fun amount => if amount.fits 0 then .yes else .no)
  | "-inum" => some (number .number)
  | "-links" => some (number .links)
  | "-uid" => some (number fun amount => if amount.fits 0 then .yes else .no)
  | "-gid" => some (number fun amount => if amount.fits 0 then .yes else .no)
  | "-size" => some do
    let value ← argument word
    match value.getLast? with
    | none => throw (.badSize [])
    | some c =>
      match unit? c, amount? value with
      | none, _ => throw (.badUnit [c])
      | some unit, some (amount, rest) =>
        if rest.length ≤ 1 then return .size amount unit else throw (.badSize value)
      | some _, none => throw (.badSize value)
  | "-perm" => some do
    let value ← argument word
    match mode? value with
    | some (mode, modeOfDirectory, mark) =>
      if mark = some '/' && mode = 0 then
        let warning := "warning: you have specified a mode pattern ".toList ++ value
          ++ (" (which is equivalent to /000). The meaning of -perm /000 has now been changed to be "
            ++ "consistent with -perm -000; that is, while it used to match no files, it now matches "
            ++ "all files.").toList
        modify fun r => { r with warnings := r.warnings ++ [warning] }
      return .rights mode modeOfDirectory mark
    | none => throw (.badMode value)
  | _ => none

/-- A test by its word. -/
def testOf (s : Surroundings) (word : List Char) : Reads Test := do
  if let some change := option? word then
    change
    return .yes
  if let some test := namingTest? s word <|> printingTest? word <|> measuringTest? s word then
    return ← test
  let kind (behind : Bool) : Reads Test := do
    match kinds [] (← argument word) with
    | .ok letters => return .kinds letters behind
    | .error text => throw (.badKind text)
  match String.ofList word with
  | "-true" => return .yes
  | "-false" => return .no
  | "-type" => kind false
  | "-xtype" => kind true
  | "-empty" => return .empty
  | "-newer" => return .age (.after (s.files.time (← fileAt s (← argument word))))
  | "-anewer" => return .age (.after (s.files.time (← fileAt s (← argument word))))
  | "-cnewer" => return .age (.after (s.files.time (← fileAt s (← argument word))))
  | "-samefile" => return .shares (s.files.sharers (← fileAt s (← argument word)))
  | "-executable" => return .executable
  | "-readable" => return .yes
  | "-writable" => return .yes
  | "-nouser" => return .no
  | "-nogroup" => return .no
  | "-fstype" => return if (← argument word) = "overlay".toList then .yes else .no
  | "-user" => ownerTest s word
  | "-group" => ownerTest s word
  | "-delete" =>
    modify fun r => { r with walk := { r.walk with afterwards := true, deletes := true } }
    return .delete
  | "-prune" =>
    modify fun r => { r with walk := { r.walk with prunes := true } }
    return .prune
  | "-quit" => return .quit
  | text =>
    if ["-exec", "-execdir", "-ok", "-okdir"].contains text then runningTest s word
    else if "-newer".toList.isPrefixOf word && word.length = 8 then newerTest s word
    else throw (.unknown word)

/-! ### Queries -/

/-- A word of a query, and the test that it stands for. -/
inductive Item
  | test (test : Test)
  | not (word : List Char)
  | opens
  | closes
  | and (word : List Char)
  | or (word : List Char)
  | comma
deriving DecidableEq, Repr

/-- The word of a sign that joins or inverts tests. -/
def sign? (word : List Char) : Option Item :=
  match String.ofList word with
  | "!" => some (.not word)
  | "-not" => some (.not word)
  | "(" => some .opens
  | ")" => some .closes
  | "-a" => some (.and word)
  | "-and" => some (.and word)
  | "-o" => some (.or word)
  | "-or" => some (.or word)
  | "," => some .comma
  | _ => none

/-- A test whose argument may have been a pattern without quotes. -/
def takesPattern (word : List Char) : Bool :=
  ["-name", "-iname", "-path", "-ipath", "-wholename", "-iwholename", "-lname", "-ilname"].contains
    (String.ofList word)

/-- Reads all words; `last` is the word of the last test. -/
def itemsFrom (s : Surroundings) : Nat → Option (List Char) → List Item → Reads (List Item)
  | 0, _, read => return read.reverse
  | limit + 1, last, read => do
    match (← get).words with
    | [] => return read.reverse
    | word :: rest =>
      modify fun r => { r with words := rest }
      match sign? word with
      | some item => itemsFrom s limit none (item :: read)
      | none =>
        if word.head? ≠ some '-' || word.length < 2 then
          let isThere := match s.files.find (textOf word) with
            | .ok _ => true
            | .error _ => false
          throw (.operand word (if isThere then last.filter takesPattern else none))
        let test ← testOf s word
        itemsFrom s limit (some word) (.test test :: read)

/-- A query, the word before it, and the items that are left. -/
abbrev ReadsItems := StateT (List Item) (Except Fault)

/-- How tightly a sign joins. -/
def Item.tightness : Item → Nat
  | .comma => 1
  | .or _ => 2
  | .closes => 0
  | _ => 3

/-- The word of an item. -/
def Item.word : Item → List Char
  | .not word => word
  | .and word => word
  | .or word => word
  | .comma => [',']
  | .opens => ['(']
  | .closes => [')']
  | .test _ => []

mutual

/-- One test or what is in parentheses, and what is joined to it more tightly than `loose`. -/
def queryFrom : Nat → Nat → Option Item → ReadsItems Query
  | 0, _, _ => throw .nothingInside
  | limit + 1, loose, before => do
    let first ← match (← get) with
      | [] => throw (.after ((before.map Item.word).getD []))
      | item :: rest => do
        set rest
        match item with
        | .test test => pure (.test test)
        | .not word => pure (.not (← queryFrom limit 4 (some (.not word))))
        | .opens =>
          match rest with
          | [] => throw .nothingInside
          | .closes :: _ => throw .emptyParentheses
          | _ =>
            let query ← queryFrom limit 0 (some .opens)
            match (← get) with
            | .closes :: rest =>
              set rest
              pure query
            | _ => throw .unclosed
        | .closes =>
          match before with
          | some .opens => throw .tooManyParentheses
          | some item => throw (.between item.word)
          | none => throw .tooManyParentheses
        | item => throw (.nothingBefore item.word)
    joined limit loose first

/-- What is joined to a query more tightly than `loose`. -/
def joined : Nat → Nat → Query → ReadsItems Query
  | 0, _, first => pure first
  | limit + 1, loose, first => do
    match (← get) with
    | [] => return first
    | item :: rest =>
      if item.tightness ≤ loose then return first
      match item with
      | .comma =>
        set rest
        joined limit loose (.comma first (← queryFrom limit 1 (some item)))
      | .or _ =>
        set rest
        joined limit loose (.or first (← queryFrom limit 2 (some item)))
      | .and _ =>
        set rest
        joined limit loose (.and first (← queryFrom limit 3 (some item)))
      | .closes => return first
      | _ => joined limit loose (.and first (← queryFrom limit 3 none))

end

/-- A query does something with what it finds. -/
def Query.acts : Query → Bool
  | .test asked =>
    match asked with
    | .print .. => true
    | .printf .. => true
    | .list _ => true
    | .execute .. => true
    | .gather .. => true
    | .delete => true
    | _ => false
  | .not query => query.acts
  | .and first second => first.acts || second.acts
  | .or first second => first.acts || second.acts
  | .comma first second => first.acts || second.acts

/-- Reads the query of all words. -/
def readQuery (s : Surroundings) : Reads Query := do
  let count := (← get).words.length
  let items ← itemsFrom s (count + 1) none []
  let walk := (← get).walk
  if walk.deletes && walk.prunes && !walk.ordered then throw .prunesLate
  if items.isEmpty then return .test .yes
  match (queryFrom (4 * items.length + 8) 0 none).run items with
  | .error fault => throw fault
  | .ok (query, []) => return query
  | .ok _ => throw .tooManyParentheses

end Gutter.Tools.Finding
