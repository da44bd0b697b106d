import Gutter.Tools.Finding.Query
import Gutter.Tools.Looking
import Gutter.Tools.Running
import Gutter.Tools.Telling

/-! The tool that walks through directories and tests or handles what it finds. -/

namespace Gutter.Tools

open Machine Shell

namespace Finding

/-- Programs that wait for paths: which it is, its words, the place where it runs, and the paths. -/
structure Batch where
  index : Nat
  words : List (List Char)
  place : Option (List (List Char))
  paths : List (List Char)

/-- The walk so far. -/
structure Progress where
  status : Nat := 0
  pruned : Bool := false
  ended : Bool := false
  batches : List Batch := []

/-- A pattern whose sets may be inverted by two signs. -/
def patternGlob (pattern : List Char) : Glob :=
  go pattern
where
  go : List Char → Glob
    | '\\' :: c :: rest => ⟨c, true⟩ :: go rest
    | '[' :: '^' :: rest => ⟨'[', false⟩ :: ⟨'!', false⟩ :: go rest
    | c :: rest => ⟨c, false⟩ :: go rest
    | [] => []

def fitsName (pattern : List Char) (ignoresCase : Bool) (text : List Char) : Bool :=
  let fold (text : List Char) : List Char := if ignoresCase then text.map Char.toLower else text
  fits (patternGlob (fold pattern)) (fold text)

/-- An expression fits a whole text. -/
def fitsWhole (wide : Bool) (node : Regular.Node) (ignoresCase : Bool) (text : List Char) : Bool :=
  let chars := Regular.signs wide text
  match (node.on { wide, folds := ignoresCase } chars).at? 0 with
  | some found => found.stop = chars.length
  | none => false

abbrev Search := StateT Progress Act

/-- Complains of something, which counts in the status. -/
def complainOf (pieces : List (List Char)) : Search Unit := do
  warn pieces
  modify fun p => { p with status := 1 }

/-- Runs a program at a place; `silent` lets nothing come in. -/
def runAt (worker : Worker) (place : Option (List (List Char))) (silent : Bool)
    (words : List (List Char)) : Act Bool := do
  let there (p : Process) : Process :=
    let channels := if silent then (0, .sink) :: p.channels.filter (·.1 ≠ 0) else p.channels
    { p with place := place.getD p.place, channels }
  let ended ← spawn worker there words fun fault => do
    warn [← quoted (words.headD []), ": ".toList, faultName fault]
  collect ended
  return (← self).status = 0

/-- The path by which a program gets a file. -/
def pathFor (found : Found) (inPlace : Bool) : List Char :=
  if inPlace then ['.', '/'] ++ lastPart found.path else found.path

def placeFor (found : Found) (inPlace : Bool) : Option (List (List Char)) :=
  if !inPlace then none
  else if lastPart found.path = ['.'] || found.place.isEmpty then some found.place
  else some found.place.dropLast

/-- Runs a program with a path in place of braces, perhaps after a question. -/
def runWith (worker : Worker) (found : Found) (words : List (List Char)) (inPlace asks : Bool) :
    Act Bool := do
  let path := pathFor found inPlace
  let words := words.map fun word => replaceAll ['\x7b', '\x7d'] path (word.length + 1) word
  if asks then
    write 2 ("< ".toList ++ words.headD [] ++ " ... ".toList ++ found.path ++ " > ? ".toList)
    match ← readLine 0 with
    | some (c :: _) => if c ≠ 'y' && c ≠ 'Y' then return false
    | _ => return false
  runAt worker (placeFor found inPlace) asks words

/-- Prints something, perhaps into a file. -/
def printInto (goal : Option (List Char)) (text : List Char) : Search Unit := do
  match goal with
  | none => put text
  | some path =>
    match ← writeFile path text true with
    | .ok () => pure ()
    | .error fault => complainOf [← quoted path, ": ".toList, faultName fault]

/-- Takes away what is found. -/
def takeAway (found : Found) : Search Bool := do
  let files := (← getThe State).files
  if found.path = ['.'] then return true
  if found.node = .directory && !(files.names found.place).isEmpty then
    complainOf ["cannot delete ".toList, ← quoted found.path, ": ".toList, faultName .notEmpty]
    return false
  changeFiles fun files => files.remove found.place
  return true

/-- Keeps a path for a program. -/
def gatherPath (found : Found) (index : Nat) (words : List (List Char)) (inPlace : Bool) :
    Search Unit := do
  let path := pathFor found inPlace
  let place := placeFor found inPlace
  modify fun p =>
    let own (b : Batch) : Bool := b.index = index && b.place = place
    let batches := if p.batches.any own then
        p.batches.map fun b => if own b then { b with paths := b.paths ++ [path] } else b
      else p.batches ++ [⟨index, words, place, [path]⟩]
    { p with batches }

/-- Whether a file passes a test; some do something with it. -/
def passes (worker : Worker) (follows : Bool) (found : Found) (test : Test) : Search Bool := do
  let files := (← getThe State).files
  match test with
  | .yes => return true
  | .no => return false
  | .name pattern ignoresCase => return fitsName pattern ignoresCase (lastPart found.path)
  | .path pattern ignoresCase => return fitsName pattern ignoresCase found.path
  | .leadsTo pattern ignoresCase =>
    match found.node with
    | .link _ => return fitsName pattern ignoresCase found.entry.target
    | _ => return false
  | .shape node ignoresCase => return fitsWhole (← isWide) node ignoresCase found.path
  | .kinds letters behind =>
    if !behind then return letters.contains (kindOf found.node)
    else if follows then
      return letters.contains ((files.node? found.place).elim (kindOf found.node) kindOf)
    else
      let kind := kindBehind files found
      return letters.contains (if kind = 'N' || kind = 'L' then 'l' else kind)
  | .empty =>
    match found.node with
    | .directory => return (files.names found.place).isEmpty
    | .file bytes _ => return bytes.isEmpty
    | _ => return false
  | .size amount unit => return amount.fits ((found.entry.size + unit - 1) / unit)
  | .rights mode modeOfDirectory mark =>
    let rights := files.rightsAt found.place
    let mode := if found.node = .directory then modeOfDirectory else mode
    match mark with
    | some '-' => return rights &&& mode = mode
    | some _ => return mode = 0 || rights &&& mode ≠ 0
    | none => return rights = mode
  | .age era => return era.fits (files.time found.place)
  | .links amount => return amount.fits (found.entry.links files)
  | .number amount => return amount.fits (found.entry.number files)
  | .shares places => return places.contains found.place
  | .executable =>
    match files.find (String.ofList (Path.placeText found.place)) with
    | .ok .directory => return true
    | .ok (.tool _) => return true
    | .ok (.file ..) => return files.rightsAt found.place &&& 0o111 ≠ 0
    | _ => return false
  | .print finish goal =>
    printInto goal (found.path ++ [finish])
    return true
  | .printf pieces goal =>
    printInto goal (formatText files (← zone) found pieces)
    return true
  | .list goal =>
    printInto goal (listText files (← zone) (← isWide) found)
    return true
  | .execute words inPlace asks => runWith worker found words inPlace asks
  | .gather index words inPlace =>
    gatherPath found index words inPlace
    return true
  | .delete => takeAway found
  | .prune =>
    modify fun p => { p with pruned := true }
    return true
  | .quit =>
    modify fun p => { p with ended := true }
    return true

def holds (worker : Worker) (follows : Bool) (found : Found) : Query → Search Bool
  | .test test => do if (← get).ended then return false else passes worker follows found test
  | .not query => do return !(← holds worker follows found query)
  | .and first second => do
    if ← holds worker follows found first then holds worker follows found second else return false
  | .or first second => do
    if ← holds worker follows found first then return true else holds worker follows found second
  | .comma first second => do
    let _ ← holds worker follows found first
    holds worker follows found second

/-- What stands at a place, after its links if they are followed and lead somewhere. -/
def seen (files : Files) (follows : Bool) (place : List (List Char)) (node : Node) :
    List (List Char) × Node :=
  match if follows then files.locate (String.ofList (Path.placeText place)) else .error .notFound with
  | .ok (goal, some node) => (goal, node)
  | _ => (place, node)

/-- Walks through what is found, at most `limit` deep; `above` are the directories with their paths
that led there. -/
def visit (worker : Worker) (walk : Walk) (query : Query) :
    Nat → List (List (List Char) × List Char) → Found → Search Unit
  | 0, _, _ => pure ()
  | limit + 1, above, found => do
    if (← get).ended then return
    if found.node = .directory then
      if let some (_, path) := above.find? (·.1 = found.place) then
        complainOf ["File system loop detected; ".toList, ← quoted found.path,
          " is part of the same file system loop as ".toList, ← quoted path, ['.']]
        return
    let test : Search Unit := do
      if walk.least ≤ found.depth then
        let _ ← holds worker walk.follows found query
    modify fun p => { p with pruned := false }
    if !walk.afterwards then test
    let pruned := (← get).pruned
    let files := (← getThe State).files
    let inside := found.node = .directory && !pruned && walk.most.all (found.depth < ·)
    if inside then
      for name in files.names found.place do
        let place := found.place ++ [name]
        let name := bytesOf (String.ofList name)
        let path := if found.path.getLast? = some '/' then found.path ++ name
          else found.path ++ '/' :: name
        let files := (← getThe State).files
        match files.node? place with
        | some node =>
          let (place, node) := seen files walk.follows place node
          visit worker walk query limit ((found.place, found.path) :: above)
            ⟨path, found.root, found.depth + 1, place, node⟩
        | none => pure ()
    if walk.afterwards then test

def Fault.tell (fault : Fault) : Act (List (List Char)) := do
  let mark := [Char.ofNat 96]
  let invalid (text : List Char) (word : List Char) : List (List Char) :=
    ["invalid argument ".toList, mark, text, "' to ".toList, mark, word, ['\'']]
  match fault with
  | .unknown word => return ["unknown predicate ".toList, mark, word, ['\'']]
  | .missing word => return ["missing argument to ".toList, mark, word, ['\'']]
  | .badKind text => return [text.toList]
  | .badDepth word text =>
    return ["Expected a positive decimal integer argument to ".toList, word, ", but got ".toList,
      ← quoted text]
  | .badArgument word text => return invalid text word
  | .badMode text => return ["invalid mode ".toList, ← quoted text]
  | .badUnit text => return ["invalid -size type ".toList, mark, text, ['\'']]
  | .badSize [] => return ["invalid null argument to -size".toList]
  | .badSize text => return ["Invalid argument ".toList, mark, text, "' to -size".toList]
  | .badPredicate word => return ["invalid predicate ".toList, mark, word, ['\'']]
  | .badDate text =>
    return ["I cannot figure out how to interpret ".toList, ← quoted text,
      " as a date or time".toList]
  | .badDialect text =>
    let names ← (dialects.map (·.1)).mapM fun name => quoted name.toList
    return ["Unknown regular expression type ".toList, ← quoted text, "; valid types are ".toList,
      (names.intersperse ", ".toList).flatten, ['.']]
  | .badShape text => return [text.toList]
  | .badFormat .ending => return ["error: % at end of format string".toList]
  | .badFormat (.reserved c) =>
    return ["error: the format directive ".toList, mark, ['%', c, '\''],
      " is reserved for future use".toList]
  | .unknownUser name => return [← quoted name, " is not the name of a known user".toList]
  | .unknownGroup name => return [← quoted name, " is not the name of an existing group".toList]
  | .emptyName word => return ["The argument to ".toList, word, " should not be empty".toList]
  | .operand word _ => return ["paths must precede expression: ".toList, mark, word, ['\'']]
  | .noFile path fault => return [← quoted path, ": ".toList, faultName fault]
  | .manyBraces word =>
    return ["Only one instance of ".toList, ['\x7b', '\x7d'], " is supported with ".toList, word,
      " ... +".toList]
  | .after word => return ["expected an expression after '".toList, word, ['\'']]
  | .between word => return ["expected an expression between '".toList, word, "' and ')'".toList]
  | .nothingBefore word =>
    return ["invalid expression; you have used a binary operator '".toList, word,
      "' with nothing before it.".toList]
  | .unclosed =>
    return ["invalid expression; I was expecting to find a ')' somewhere but did not see one.".toList]
  | .nothingInside =>
    return ["invalid expression; expected to find a ')' but didn't see one. ".toList,
      "Perhaps you need an extra predicate after '('".toList]
  | .emptyParentheses => return ["invalid expression; empty parentheses are not allowed.".toList]
  | .tooManyParentheses => return ["you have too many ')'".toList]
  | .prunesLate =>
    return ["The -delete action automatically turns on -depth, but -prune does nothing when -depth ".toList,
      "is in effect.  If you want to carry on anyway, just explicitly use the -depth option.".toList]
  | .unsafePath part =>
    let reason := "which is insecure in combination with the -execdir action of find.  ".toList
    if part.isEmpty || part = ['.'] then
      return ["The current directory is included in the PATH environment variable, ".toList, reason,
        "Please remove the current directory from your $PATH (that is, remove \".\", doubled ".toList,
        "colons, or leading or trailing colons)".toList]
    else
      return ["The relative path ".toList, ← quoted part,
        " is included in the PATH environment variable, ".toList, reason,
        "Please remove that entry from $PATH".toList]

/-- Options before the paths. -/
structure Start where
  follows : Option Char := none
  rest : List (List Char)

/-- Reads the options before the paths; otherwise the tool ends with a status. -/
def readStart : Nat → Start → Act (Except Nat Start)
  | 0, start => return .ok start
  | limit + 1, start => do
    match start.rest with
    | ['-', '-'] :: rest => return .ok { start with rest }
    | ['-', c] :: rest =>
      if ['H', 'L', 'P'].contains c then readStart limit ⟨some c, rest⟩
      else if c = 'O' then badLevel
      else if c = 'D' then
        match rest with
        | [] =>
          warn ["Missing argument after the -D option.".toList]
          tryHelp
          return .error 1
        | flags :: rest =>
          let known := ["exec", "opt", "rates", "search", "stat", "time", "tree", "all", "help"]
          for flag in Text.splitOn ',' flags do
            if !known.contains (String.ofList flag) then
              warn ["Ignoring unrecognised debug flag ".toList, ← quoted flag]
          readStart limit { start with rest }
      else return .ok start
    | ('-' :: 'O' :: level) :: rest =>
      if level.isEmpty || !level.all Char.isDigit then badLevel
      else readStart limit { start with rest }
    | _ => return .ok start
where
  badLevel : Act (Except Nat Start) := do
    warn ["Please specify a decimal number immediately after -O".toList]
    return .error 1

end Finding

open Finding

/-- A word with which the query starts: others are paths. -/
def startsQuery (word : List Char) : Bool :=
  (word.head? = some '-' && 1 < word.length) || word = ['('] || word = ['!']

/-- Runs the programs for which paths wait. -/
def runBatches (worker : Worker) : Search Unit := do
  for batch in (← get).batches do
    if !(← runAt worker batch.place false (batch.words ++ batch.paths)) then
      modify fun p => { p with status := 1 }

def find (worker : Worker) : Tool := fun arguments => do
  match ← readStart (arguments.length + 1) { rest := arguments } with
  | .error status => return status
  | .ok start =>
    let paths := start.rest.takeWhile (!startsQuery ·)
    let words := start.rest.drop paths.length
    let files := (← get).files
    let path := ((← self).exported.lookup "PATH".toList).getD []
    let surroundings : Surroundings :=
      ⟨files, ← zone, ← present, ← isWide, (← users).map (·.name), path⟩
    let follows := start.follows = some 'L'
    match (readQuery surroundings).run { words, walk := { follows } } with
    | .error fault =>
      warn (← fault.tell)
      if let .operand _ (some word) := fault then
        warn ["possible unquoted pattern after predicate ".toList, [Char.ofNat 96], word,
          "'?".toList]
      return 1
    | .ok (query, r) =>
      for warning in r.warnings do warn [warning]
      for goal in r.goals do
        match ← writeFile goal [] false with
        | .ok () => pure ()
        | .error fault =>
          warn [← quoted goal, ": ".toList, faultName fault]
          return 1
      let query := if query.acts then query else .and query (.test (.print '\n' none))
      let search : Search Unit := do
        for path in (if paths.isEmpty then [['.']] else paths) do
          let followsHere := r.walk.follows || start.follows = some 'H'
          let direct ← nodeAt false path
          let behind ← nodeAt true path
          match if followsHere && behind.isOk then behind else direct with
          | .ok (place, node) =>
            visit worker r.walk query 200 [] ⟨path, path, 0, place, node⟩
          | .error fault => complainOf [← quoted path, ": ".toList, faultName fault]
        runBatches worker
      let (_, progress) ← search.run {}
      return progress.status

end Gutter.Tools
