import Gutter.Shell.Modes
import Gutter.Tools.Entry
import Gutter.Tools.Instant.Reader
import Gutter.Tools.Printing

/-! Tools that create files, change them, or take them away. -/

namespace Gutter.Tools

open Machine Shell

/-- What stands at a path, where a link at its end is followed or not. -/
def placeOf (follow : Bool) (path : List Char) :
    Act (Except Files.Fault (List (List Char) × Option Node)) := do
  return (← get).files.seek follow (textOf path)

/-- What stands at a path, if anything does. -/
def nodeAt (follow : Bool) (path : List Char) : Act (Except Files.Fault (List (List Char) × Node)) := do
  match ← placeOf follow path with
  | .error fault => return .error fault
  | .ok (_, none) => return .error .notFound
  | .ok (place, some node) => return .ok (place, node)

/-- Asks a question, and tells whether the line that comes in says yes. -/
def agrees (question : List (List Char)) : Act Bool := do
  write 2 ((← self).name ++ ": ".toList ++ question.flatten ++ "? ".toList)
  match ← readLine 0 with
  | some (c :: _) => return c = 'y' || c = 'Y'
  | _ => return false

/-! ### Times -/

/-- The instant that digits tell: month, day, hour and minute, perhaps after a year and before
seconds. -/
def stampOf? (zone : Zone) (now : Instant) (text : List Char) : Option Instant := do
  let (digits, rest) := text.span (· ≠ '.')
  let second ← match rest with
    | [] => some 0
    | _ :: [a, b] => if a.isDigit && b.isDigit then some (Text.valueOfDigits 10 [a, b]) else none
    | _ => none
  if !digits.all Char.isDigit then none
  let year : Int := (now.clock zone).year
  let (year, rest) ← match digits.length with
    | 8 => some (year, digits)
    | 10 => some (Instant.fullYear (digits.take 2), digits.drop 2)
    | 12 => some ((Text.valueOfDigits 10 (digits.take 4) : Int), digits.drop 4)
    | _ => none
  let pair (n : Nat) : Nat := Text.valueOfDigits 10 ((rest.drop (2 * n)).take 2)
  let (month, day, hour, minute) := (pair 0, pair 1, pair 2, pair 3)
  if month < 1 || 12 < month || day < 1 || 23 < hour || 59 < minute || 60 < second then none
  let days := daysOfDate year month day
  if dateOfDays days ≠ (year, month, day) then none
  return ⟨days * 86400 + hour * 3600 + minute * 60 + second - zone.ahead, 0⟩

/-- The time that options ask for, or the status with which the tool ends. -/
def touchTime (c : Choice) : Act (Except Nat Nat) := do
  let now := (← get).files.now
  let zone ← zone
  let bad (text : List Char) : Act (Except Nat Nat) := do
    warn ["invalid date format ".toList, ← quoted text]
    return .error 1
  let start ← match c.value? 'r' with
    | some path =>
      match ← nodeAt true path with
      | .ok (place, _) => pure ((← get).files.time place)
      | .error fault =>
        refuse ["failed to get attributes of ".toList, ← named path] fault
        return .error 1
    | none => pure now
  match c.value? 'd', c.value? 't' with
  | some text, _ =>
    let here ← present
    let from_ := if c.has 'r' then instantOfTime start else here
    match Instant.ofText? zone from_ text with
    | some instant => return .ok instant.time
    | none => bad text
  | none, some text =>
    match stampOf? zone (← present) text with
    | some instant => return .ok instant.time
    | none => bad text
  | none, none => return .ok start

/-- Creates files that are not there, and notes that those that are have been written. -/
def touch : Tool :=
    withOptions ⟨"acd:fhmr:t:T:", [("no-create", 'c'), ("date", 'd'), ("reference", 'r'),
      ("time", 'T'), ("no-dereference", 'h')], true⟩ 1 fun c => do
  let kinds := (c.given.map (·.letter)).filter ['d', 't'].contains
  match ← touchTime c with
  | .error status => return status
  | .ok time =>
    if 1 < kinds.eraseDups.length || (c.has 't' && c.has 'r') then
      return ← misuse 1 ["cannot specify times from more than one source".toList]
    if c.operands.isEmpty then return ← misuse 1 ["missing file operand".toList]
    let writes := c.has 'm' || !c.has 'a'
    let mut status := 0
    for path in c.operands do
      match ← placeOf (!c.has 'h') path with
      | .ok (place, node) =>
        if node.isSome || !c.has 'c' then
          if node.isNone then createAt place (.file [] false) 0o666
          if writes then changeFiles fun files => files.stamp place time
      | .error fault =>
        if path ≠ ['-'] && !(c.has 'c' && fault = .notFound) then
          status := 1
          let slash := path.getLast? = some '/'
          refuse [if slash then "setting times of ".toList else "cannot touch ".toList,
            ← named path] fault
    return status

/-! ### Rights -/

/-- All places below one. -/
def placesBelow (files : Files) (place : List (List Char)) : List (List (List Char)) :=
  (files.nodes.map (·.1)).filter fun other => place.isPrefixOf other && other ≠ place

/-- Four digits, and letters in brackets. -/
def rightsText (rights : Nat) : List Char :=
  let digits := Nat.toDigits 8 rights
  List.replicate (4 - digits.length) '0' ++ digits ++ " (".toList ++ Modes.text rights ++ [')']

/-- Tells what became of rights. -/
def tellRights (c : Choice) (path : List Char) (old new : Nat) : Act Unit := do
  let path ← named path
  if old ≠ new then
    if c.has 'v' || c.has 'c' then
      putLine ("mode of ".toList ++ path ++ " changed from ".toList ++ rightsText old
        ++ " to ".toList ++ rightsText new)
  else if c.has 'v' then
    putLine ("mode of ".toList ++ path ++ " retained as ".toList ++ rightsText old)

/-- Changes the rights to what stands at a place. `plain` asks for a complaint where the mask of the
process makes a difference. -/
def changeRights (c : Choice) (plain : Bool) (changes : List Modes.Change) (path : List Char)
    (place : List (List Char)) (node : Node) : Act Nat := do
  let old := (← get).files.rightsAt place
  let directory := node = .directory
  let new := Modes.applyAll (← self).mask directory changes old
  changeFiles fun files => files.setRights place new
  tellRights c path old new
  let wanted := Modes.applyAll 0 directory changes old
  if plain && new ≠ wanted then
    warn [← nameOf path, ": new permissions are ".toList, Modes.text new, ", not ".toList,
      Modes.text wanted]
    return 1
  return 0

/-- Changes the rights to what stands at a path, and where that is asked for to all below it. -/
def chmodAt (c : Choice) (plain : Bool) (changes : List Modes.Change) (path : List Char) : Act Nat := do
  match ← nodeAt true path with
  | .error fault =>
    if !c.has 'f' then
      if (← nodeAt false path).isOk then
        warn ["cannot operate on dangling symlink ".toList, ← named path]
      else refuse ["cannot access ".toList, ← named path] fault
    return 1
  | .ok (place, node) =>
    let mut status ← changeRights c plain changes path place node
    if c.has 'R' then
      let files := (← get).files
      for below in placesBelow files place do
        let rest := (below.drop place.length).flatMap fun part => '/' :: bytesOf (String.ofList part)
        match files.node? below with
        | some (.link _) => pure ()
        | some node => status := max status (← changeRights c plain changes (path ++ rest) below node)
        | none => pure ()
    return status

def chmod : Tool := fun arguments => do
  let isMode (a : List Char) : Bool :=
    a.head? = some '-' && 1 < a.length
      && (a.drop 1).all ['r', 'w', 'x', 'X', 's', 't', 'u', 'g', 'o', 'a', ',', '+', '=', '-'].contains
      && a ≠ ['-', '-']
  let (modes, others) := arguments.partition isMode
  let run : Tool := withOptions ⟨"cfvRE:", [("recursive", 'R'), ("verbose", 'v'), ("changes", 'c'),
      ("silent", 'f'), ("quiet", 'f'), ("reference", 'E'), ("preserve-root", 'P'),
      ("no-preserve-root", 'P')], true⟩ 1 fun c => do
    match c.value? 'E' with
    | some path =>
      match ← nodeAt true path with
      | .error fault =>
        refuse ["failed to get attributes of ".toList, ← named path] fault
        return 1
      | .ok (place, _) =>
        if c.operands.isEmpty then return ← missingOperand 1
        let rights := (← get).files.rightsAt place
        let change : Modes.Change :=
          ⟨some Modes.allBits, '=', rights, .fixed rights, Modes.allBits⟩
        let mut status := 0
        for path in c.operands do status := max status (← chmodAt c false [change] path)
        return status
    | none =>
      let plain := !modes.isEmpty
      let mode := (modes.intersperse [',']).flatten
      match if plain then mode :: c.operands else c.operands with
      | [] => missingOperand 1
      | [mode] => misuse 1 ["missing operand after ".toList, ← quoted mode]
      | mode :: paths =>
        match Modes.ofText? mode with
        | none => misuse 1 ["invalid mode: ".toList, ← quoted mode]
        | some changes =>
          let mut status := 0
          for path in paths do status := max status (← chmodAt c plain changes path)
          return status
  run others

/-- Changes the owner or the group, which there is only one of. -/
def chown : Tool := withOptions ⟨"cfhHLPRv", [("recursive", 'R'), ("verbose", 'v')], true⟩ 1 fun c => do
  match c.operands with
  | [] => missingOperand 1
  | [owner] => misuse 1 ["missing operand after ".toList, ← quoted owner]
  | _ :: paths =>
    let mut status := 0
    for path in paths do
      match ← nodeAt (!c.has 'h') path with
      | .ok _ => pure ()
      | .error fault =>
        status := 1
        if !c.has 'f' then refuse ["cannot access ".toList, ← named path] fault
    return status

/-! ### Directories -/

/-- The starts of a path that end where one of its parts ends. -/
def pathStarts (path : List Char) : List (List Char) :=
  ((List.range path.length).filter fun n =>
    path[n]? = some '/' && n ≠ 0 && path[n - 1]? ≠ some '/').map (path.take ·)

/-- Creates a directory, and with `above` those above it. -/
def makeDirectory (c : Choice) (changes : Option (List Modes.Change)) (above : Bool)
    (path : List Char) : Act Nat := do
  let trimmed := (path.reverse.dropWhile (· = '/')).reverse
  let trimmed := if trimmed.isEmpty then path else trimmed
  for part in (if above then pathStarts trimmed else []) ++ [trimmed] do
    match ← placeOf above part with
    | .ok (place, none) =>
      createAt place .directory 0o777
      if part = trimmed then
        if let some changes := changes then
          let rights := Modes.applyAll (← self).mask true changes 0o777
          changeFiles fun files => files.setRights place rights
      if c.has 'v' then putLine ((← self).name ++ ": created directory ".toList ++ (← named part))
    | .ok (_, some node) =>
      if !(above && node = .directory) then
        refuse ["cannot create directory ".toList, ← quoted part]
          (if part = trimmed then .exists else .notDirectory)
        return 1
    | .error fault =>
      refuse ["cannot create directory ".toList, ← quoted part] fault
      return 1
  return 0

def mkdir : Tool :=
    withOptions ⟨"pm:vZ", [("parents", 'p'), ("mode", 'm'), ("verbose", 'v')], true⟩ 1 fun c => do
  if c.operands.isEmpty then return ← missingOperand 1
  let changes ← match c.value? 'm' with
    | none => pure none
    | some mode =>
      match Modes.ofText? mode with
      | some changes => pure (some changes)
      | none =>
        warn ["invalid mode ".toList, ← quoted mode]
        return 1
  let mut status := 0
  for path in c.operands do
    status := max status (← makeDirectory c changes (c.has 'p') path)
  return status

/-- Takes an empty directory away. -/
def removeDirectory (path : List Char) : Act (Option Files.Fault) := do
  match ← nodeAt false path with
  | .error fault => return some fault
  | .ok (place, .directory) =>
    if !((← get).files.names place).isEmpty then return some .notEmpty
    else if lastPart path = ['.'] then return some .invalid
    else
      changeFiles fun files => files.remove place
      return none
  | .ok _ => return some .notDirectory

def rmdir : Tool :=
    withOptions ⟨"pv", [("parents", 'p'), ("verbose", 'v'), ("ignore-fail-on-non-empty", 'i')], true⟩ 1
    fun c => do
  if c.operands.isEmpty then missingOperand 1
  else
    let mut status := 0
    for path in c.operands do
      let above := if c.has 'p' then (pathStarts path).reverse else []
      let mut goesOn := true
      for part in path :: above do
        if goesOn then
          if c.has 'v' then
            putLine ((← self).name ++ ": removing directory, ".toList ++ (← named part))
          match ← removeDirectory part with
          | none => pure ()
          | some fault =>
            goesOn := false
            if !(c.has 'i' && fault = .notEmpty) then
              status := 1
              let what := if part = path then "failed to remove " else "failed to remove directory "
              refuse [what.toList, ← named part] fault
    return status

/-! ### Taking away -/

/-- How files are taken away: with what is in them, after questions, telling it. -/
structure Removal where
  whole : Bool
  empty : Bool
  force : Bool
  asks : Bool
  tells : Bool

/-- Takes away what stands at a place, at most so many levels deep; the status, and whether it is
gone. -/
def removeAt (r : Removal) : Nat → List Char → List (List Char) → Node → Act (Nat × Bool)
  | 0, _, _, _ => return (1, false)
  | depth + 1, path, place, node => do
    let shown ← named path
    let files := (← get).files
    let names := if node = .directory then files.names place else []
    if node = .directory && !r.whole && !(r.empty && names.isEmpty) then
      refuse ["cannot remove ".toList, shown] (if r.empty then .notEmpty else .isDirectory)
      return (1, false)
    let mut status := 0
    if !names.isEmpty then
      if r.asks then
        if !(← agrees ["descend into directory ".toList, shown]) then return (0, false)
      for name in names do
        let inner := place ++ [name]
        let slash := if path.getLast? = some '/' then [] else ['/']
        match (← get).files.node? inner with
        | some node =>
          let (found, _) ← removeAt r depth (path ++ slash ++ bytesOf (String.ofList name)) inner node
          status := max status found
        | none => pure ()
    if r.asks then
      if !(← agrees ["remove ".toList, (Entry.kindName ⟨path, place, node⟩).toList, [' '], shown]) then
        return (status, false)
    if !((← get).files.names place).isEmpty then
      if !r.asks then refuse ["cannot remove ".toList, shown] .notEmpty
      return (if r.asks then status else 1, false)
    changeFiles fun files => files.remove place
    if r.tells then
      putLine ((if node = .directory then "removed directory ".toList else "removed ".toList) ++ shown)
    return (status, true)

/-- Takes away what stands at a path. -/
def removePath (r : Removal) (path : List Char) : Act Nat := do
  let last := lastPart path
  if r.whole && last = ['/'] then
    warn ["it is dangerous to operate recursively on ".toList, ← named path]
    warn ["use --no-preserve-root to override this failsafe".toList]
    return 1
  if r.whole && (last = ['.'] || last = ['.', '.']) then
    warn ["refusing to remove '.' or '..' directory: skipping ".toList, ← named path]
    return 1
  match ← nodeAt false path with
  | .error fault =>
    if r.force && (fault = .notFound || fault = .notDirectory) then return 0
    refuse ["cannot remove ".toList, ← named path] fault
    return 1
  | .ok (place, node) => return (← removeAt r 1000 path place node).1

def rmOptions : Options :=
  ⟨"dfiIrRv7::", [("force", 'f'), ("recursive", 'r'), ("dir", 'd'), ("verbose", 'v'),
    ("interactive", '7'), ("one-file-system", 'o'), ("preserve-root", 'o'),
    ("no-preserve-root", 'o')], true⟩

/-- How often questions are asked: `f` never, `I` once, `i` always. -/
def askingOf (c : Choice) : Char :=
  let kinds := c.given.filterMap fun g =>
    if ['f', 'i', 'I'].contains g.letter then some g.letter
    else if g.letter = '7' then
      match String.ofList g.value with
      | "never" => some 'n'
      | "no" => some 'n'
      | "none" => some 'n'
      | "once" => some 'I'
      | _ => some 'i'
    else none
  kinds.getLastD 'n'

/-- Points to files whose names look like options. -/
def tryDots (arguments : List (List Char)) : Act Unit := do
  for argument in arguments do
    if argument.head? = some '-' && 1 < argument.length then
      if (← nodeAt false argument).isOk then
        let name := (← self).name
        write 2 ("Try '".toList ++ name ++ " ./".toList ++ argument ++ "' to remove the file ".toList
          ++ (← named argument) ++ ".\n".toList)
        return

def rm : Tool := fun arguments => do
  match ← readOptions rmOptions arguments with
  | .error fault =>
    warn [fault.message]
    tryDots arguments
    tryHelp
    return 1
  | .ok (given, operands) =>
    let c : Choice := ⟨given, operands⟩
    let asking := askingOf c
    let whole := c.has 'r' || c.has 'R'
    if operands.isEmpty then return ← if asking = 'f' then pure 0 else missingOperand 1
    if asking = 'I' && (whole || 3 < operands.length) then
      let count := digits operands.length ++ " argument".toList
        ++ if operands.length = 1 then [] else ['s']
      let how := if whole then " recursively".toList else []
      if !(← agrees ["remove ".toList, count, how]) then return 0
    let r : Removal :=
      { whole, empty := c.has 'd', force := asking = 'f', asks := asking = 'i', tells := c.has 'v' }
    let mut status := 0
    for path in operands do status := max status (← removePath r path)
    return status

def unlink : Tool := withOptions { letters := "" } 1 fun c => do
  match c.operands with
  | [] => missingOperand 1
  | [path] =>
    match ← nodeAt false path with
    | .ok (_, .directory) =>
      refuse ["cannot unlink ".toList, ← named path] .isDirectory
      return 1
    | .ok (place, _) =>
      changeFiles fun files => files.remove place
      return 0
    | .error fault =>
      refuse ["cannot unlink ".toList, ← named path] fault
      return 1
  | _ :: other :: _ => extraOperand 1 other

/-! ### Bytes of files -/

/-- Copies what comes in to files, too. -/
def tee : Tool :=
    withOptions ⟨"aip", [("append", 'a'), ("ignore-interrupts", 'i')], true⟩ 1 fun c => do
  let mut good : List (List Char) := []
  let mut status := 0
  for path in c.operands do
    match ← writeFile path [] (c.has 'a') with
    | .ok () => good := good ++ [path]
    | .error fault =>
      status := 1
      warn [← nameOf path, ": ".toList, faultName fault]
  let bytes ← readAll 0
  put bytes
  for path in good do
    let _ ← writeFile path bytes true
  return status

/-- The number of bytes that a text with a unit writes. -/
def sizeOfText? (text : List Char) : Option Nat :=
  let digits := text.takeWhile Char.isDigit
  let unit := String.ofList (text.drop digits.length)
  let units := [("", 1), ("c", 1), ("b", 512), ("K", 1024), ("k", 1024), ("KiB", 1024), ("M", 1048576),
    ("m", 1048576), ("MiB", 1048576), ("G", 1073741824), ("GiB", 1073741824), ("KB", 1000),
    ("kB", 1000), ("MB", 1000000), ("GB", 1000000000), ("T", 1099511627776)]
  if digits.isEmpty then none else (units.lookup unit).map (Text.valueOfDigits 10 digits * ·)

/-- The size that a file gets: a number, or one that depends on its present size. -/
def newSize (sign : List Char) (size old : Nat) : Nat :=
  match sign with
  | ['+'] => old + size
  | ['-'] => old - size
  | ['<'] => min old size
  | ['>'] => max old size
  | ['/'] => old - old % max size 1
  | ['%'] => old + (size - old % max size 1) % max size 1
  | _ => size

def truncate : Tool :=
    withOptions ⟨"cor:s:", [("size", 's'), ("no-create", 'c'), ("reference", 'r')], true⟩ 1 fun c => do
  let reference : Option Nat ← match c.value? 'r' with
    | none => pure none
    | some path =>
      match ← nodeAt true path with
      | .ok _ => pure (some (Condition.sizeOf (← get).files (textOf path)))
      | .error fault =>
        refuse ["cannot stat ".toList, ← named path] fault
        return 1
  let text := c.value? 's'
  let (sign, number) := (text.getD []).span ['+', '-', '<', '>', '/', '%'].contains
  match text, reference, sizeOfText? number with
  | none, none, _ =>
    misuse 1 ["you must specify either ".toList, ← quoted "--size".toList, " or ".toList,
      ← quoted "--reference".toList]
  | some text, _, none =>
    warn ["Invalid number: ".toList, ← quoted text]
    return 1
  | _, _, size =>
    if c.operands.isEmpty then return ← misuse 1 ["missing file operand".toList]
    let mut status := 0
    for path in c.operands do
      let old := ((← get).files.read (textOf path)).toOption.getD []
      let size := newSize sign (size.getD 0) (reference.getD old.length)
      let size := if text.isNone then reference.getD 0 else size
      let bytes := (charsOf old).take size ++ List.replicate (size - old.length) '\x00'
      if (← nodeAt true path).isOk || !c.has 'c' then
        match ← writeFile path bytes false with
        | .ok () => pure ()
        | .error fault =>
          status := 1
          refuse ["cannot open ".toList, ← named path, " for writing".toList] fault
    return status

end Gutter.Tools
