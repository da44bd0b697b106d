import Gutter.Tools.Placing

/-! Tools that copy files, move them, and let them stand at several places. -/

namespace Gutter.Tools

open Machine Shell

/-! ### Where files are put -/

/-- How several files are put somewhere. -/
structure Transfer where
  sources : List (List Char)
  goal : List Char
  intoDirectory : Bool

def isDirectoryAt (path : List Char) : Act Bool := do
  return (← get).files.isDirectory (textOf path)

/-- Files that are put into a directory. -/
def intoDirectory (what : String) (sources : List (List Char)) (goal : List Char) :
    Act (Except Nat Transfer) := do
  if ← isDirectoryAt goal then return .ok ⟨sources, goal, true⟩
  else
    let fault := match ← nodeAt true goal with
      | .ok _ => Files.Fault.notDirectory
      | .error fault => fault
    refuse [what.toList, ← named goal] fault
    return .error 1

/-- What the operands of a tool that puts files somewhere ask for; otherwise it ends with a
status. -/
def transferOf (c : Choice) : Act (Except Nat Transfer) := do
  match c.value? 't', c.operands with
  | _, [] => return .error (← misuse 1 ["missing file operand".toList])
  | some goal, sources => intoDirectory "target directory " sources goal
  | none, [source] =>
    return .error (← misuse 1 ["missing destination file operand after ".toList, ← named source])
  | none, [source, goal] =>
    if c.has 'T' || !(← isDirectoryAt goal) then return .ok ⟨[source], goal, false⟩
    else return .ok ⟨[source], goal, true⟩
  | none, operands =>
    if c.has 'T' then return .error (← extraOperand 1 (operands.getD 2 []))
    else intoDirectory "target " operands.dropLast (operands.getLastD [])

/-- The path in a directory for a file that is put there. -/
def pathInside (directory source : List Char) : List Char :=
  (if directory.getLast? = some '/' then directory else directory ++ ['/']) ++ lastPart source

/-- The ending of the names of files that are kept from being overwritten, if they are. -/
def backupEnding (c : Choice) : Act (Option (List Char)) := do
  if !(c.has 'b' || c.has 'S' || c.has '8') then return none
  let told := (← self).exported.lookup "SIMPLE_BACKUP_SUFFIX".toList
  return some ((c.value? 'S').getD (told.getD ['~']))

/-- Keeps what stands at a place under another name, and tells that name for a path. -/
def backUp (ending : Option (List Char)) (path : List Char) (place : List (List Char)) :
    Act (Option (List Char)) := do
  match ending, place.getLast? with
  | some ending, some name =>
    let other := place.dropLast ++ [name ++ (textOf ending).toList]
    if ((← get).files.node? place).isSome then
      changeFiles fun files => files.move place other
      return some (path ++ ending)
    else return none
  | _, _ => return none

/-- Tells what was put where. -/
def tellPut (start arrow : String) (source goal : List Char) (kept : Option (List Char)) :
    Act Unit := do
  let note ← match kept with
    | some path => pure (" (backup: ".toList ++ (← named path) ++ [')'])
    | none => pure []
  putLine (start.toList ++ (← named source) ++ arrow.toList ++ (← named goal) ++ note)

/-! ### Copies -/

/-- How files are copied. `follows` tells whether links are followed that are named, and others. -/
structure Copying where
  choice : Choice
  recursive : Bool
  followsNamed : Bool
  followsAll : Bool
  keepsRights : Bool
  keepsTimes : Bool
  ending : Option (List Char)

def Copying.of (c : Choice) : Act Copying := do
  let recursive := c.has 'r' || c.has 'R' || c.has 'a'
  let links := c.last? ['P', 'd', 'a', 'L', 'H']
  let kept := c.values '7'
  let keeps (what : String) : Bool :=
    c.has 'p' || c.has 'a' || kept.any fun list =>
      list.isEmpty || (Text.splitOn ',' list).any fun w => w = what.toList || w = "all".toList
  return {
    choice := c, recursive
    followsNamed := match links with
      | some 'L' => true
      | some 'H' => true
      | some _ => false
      | none => !recursive
    followsAll := links = some 'L' || (links.isNone && !recursive)
    keepsRights := keeps "mode"
    keepsTimes := keeps "timestamps"
    ending := ← backupEnding c }

/-- Whether a file that is there is left alone. -/
def isKept (c : Choice) (tool : String) (source goal : List (List Char)) (path : List Char) :
    Act Bool := do
  let files := (← get).files
  if (files.node? goal).isNone then return false
  if c.has 'u' && files.time source ≤ files.time goal then return true
  match c.last? (if tool = "cp" then ['i', 'n'] else ['i', 'n', 'f']) with
  | some 'n' => return true
  | some 'i' => return !(← agrees ["overwrite ".toList, ← named path])
  | _ => return false

/-- Gives a copy the rights, and perhaps the time, of what it was made from. -/
def finishCopy (o : Copying) (isNew : Bool) (source goal : List (List Char)) : Act Unit := do
  let files := (← get).files
  let rights := files.rightsAt source
  let time := files.time source
  if o.keepsRights then changeFiles fun files => files.setRights goal rights
  else if isNew then
    let rights := Modes.without (rights &&& 0o777) (← self).mask
    if rights ≠ files.rightsAt goal then changeFiles fun files => files.setRights goal rights
  if o.keepsTimes then changeFiles fun files => files.stamp goal time

/-- Says that something cannot be created, and why. -/
def cannotMake (what : String) (path : List Char) (fault : Files.Fault) : Act Nat := do
  refuse ["cannot create ".toList, what.toList, ← named path] fault
  return 1

/-- Puts a copy of one file that is no directory at a place. -/
def copyFile (o : Copying) (source goal : List Char) (from_ : List (List Char)) (node : Node)
    (place : List (List Char)) (there : Option Node) : Act Nat := do
  let c := o.choice
  if ← isKept c "cp" from_ place goal then return 0
  let kept ← backUp o.ending goal place
  let there := if kept.isSome then none else there
  if c.has 's' then
    if there.isSome && !c.has 'f' then return ← cannotMake "symbolic link " goal .exists
    if source.head? ≠ some '/' && goal.contains '/' then
      warn [← nameOf goal, ": can make relative symbolic links only in current directory".toList]
      return 1
    changeFiles fun files => (files.remove place).set place (.link (textOf source).toList)
  else if c.has 'l' then
    if there.isSome && !c.has 'f' then return ← cannotMake "hard link " goal .exists
    changeFiles fun files => files.share from_ place
  else
    match node with
    | .link target =>
      if there.isSome && !c.has 'f' && (match there with
          | some (.link _) => false
          | _ => false) then return ← cannotMake "symbolic link " goal .exists
      changeFiles fun files => (files.remove place).set place (.link target)
      if o.keepsTimes then
        let time := (← get).files.time from_
        changeFiles fun files => files.stamp place time
    | _ =>
      let bytes ← match ← bytesAt source with
        | .ok bytes => pure bytes
        | .error fault =>
          refuse ["cannot open ".toList, ← named source, " for reading".toList] fault
          return 1
      if c.has '6' && there.isSome then changeFiles fun files => files.remove place
      match ← writeFile goal bytes false with
      | .error fault => return ← cannotMake "regular file " goal fault
      | .ok () =>
        match there with
        | some (.device _) => pure ()
        | _ => finishCopy o there.isNone from_ place
  if c.has 'v' then tellPut "" " -> " source goal kept
  return 0

/-- What stands at a path for a copy, where a link is followed unless it is copied as one. -/
def goalOf (goal : List Char) : Act (Except Files.Fault (List (List Char) × Option Node)) := do
  match ← placeOf true goal with
  | .ok found => return .ok found
  | .error fault => return .error fault

/-- Puts a copy of what stands at a place at a path, at most so many levels deep. The places that
were made are those that nothing else may overwrite. -/
def copyAt (o : Copying) : Nat → Bool → List Char → List (List Char) → Node → List Char →
    List (List (List Char)) → Act (Nat × List (List (List Char)))
  | 0, _, _, _, _, _, made => return (1, made)
  | depth + 1, top, source, from_, node, goal, made => do
    let directory := node = .directory
    let isLink := match node with
      | .link _ => true
      | _ => false
    let own := isLink || o.choice.has 's' || o.choice.has 'l'
    let fails (status : Act Nat) : Act (Nat × List (List (List Char))) := do return (← status, made)
    let stops (pieces : List (List Char)) : Act (Nat × List (List (List Char))) := do
      warn pieces
      return (1, made)
    if directory && !o.recursive then
      return ← stops ["-r not specified; omitting directory ".toList, ← named source]
    let what := if directory then "directory " else if isLink then "symbolic link "
      else "regular file "
    match ← (if own then placeOf false goal else goalOf goal) with
    | .error fault =>
      if fault = .notDirectory && goal.getLast? ≠ some '/' && top then
        refuse ["cannot stat ".toList, ← named goal] fault
        return (1, made)
      let fault := if goal.getLast? = some '/' && !directory && fault = .notFound then
          .notDirectory else fault
      fails (cannotMake what goal fault)
    | .ok (place, there) =>
      let files := (← get).files
      if place = from_ || ((files.sharers from_).contains place && !own) then
        return ← stops [← named source, " and ".toList, ← named goal, " are the same file".toList]
      if directory && from_.isPrefixOf place then
        return ← stops ["cannot copy a directory, ".toList, ← named source, ", into itself, ".toList,
          ← named goal]
      if !directory && there = some .directory then
        return ← stops ["cannot overwrite directory ".toList, ← named goal,
          " with non-directory".toList]
      if directory && there.isSome && there ≠ some .directory then
        return ← stops ["cannot overwrite non-directory ".toList, ← named goal,
          " with directory ".toList, ← named source]
      if !directory && made.contains place then
        return ← stops ["will not overwrite just-created ".toList, ← named goal, " with ".toList,
          ← named source]
      let dangling ← if there.isNone && !own then do pure (← nodeAt false goal).isOk else pure false
      if dangling then
        return ← stops ["not writing through dangling symlink ".toList, ← named goal]
      if !directory then
        let status ← copyFile o source goal from_ node place there
        return (status, place :: made)
      if there.isNone then
        createAt place .directory 0o777
        if o.choice.has 'v' then tellPut "" " -> " source goal none
      let mut status := 0
      let mut made := place :: made
      for name in files.names from_ do
        let inner := from_ ++ [name]
        let shown := bytesOf (String.ofList name)
        let found ← if o.followsAll then nodeAt true (pathInside source shown)
          else pure (((← get).files.node? inner).elim (.error .notFound) fun node => .ok (inner, node))
        match found with
        | .ok (inner, node) =>
          let (more, all) ← copyAt o depth false (pathInside source shown) inner node
            (pathInside goal shown) made
          status := max status more
          made := all
        | .error fault =>
          refuse ["cannot stat ".toList, ← named (pathInside source shown)] fault
          status := 1
      finishCopy o there.isNone from_ place
      return (status, made)

def cpOptions : Options :=
  ⟨"abdfHilLnpP6rRsS:t:Tuv7::x8::9", [("recursive", 'r'), ("force", 'f'), ("verbose", 'v'),
    ("no-clobber", 'n'), ("archive", 'a'), ("target-directory", 't'), ("update", 'u'),
    ("no-target-directory", 'T'), ("preserve", '7'), ("interactive", 'i'), ("link", 'l'),
    ("symbolic-link", 's'), ("suffix", 'S'), ("backup", '8'), ("dereference", 'L'),
    ("no-dereference", 'P'), ("remove-destination", '6'), ("one-file-system", 'x'),
    ("strip-trailing-slashes", '9')], true⟩

def cp : Tool := withOptions cpOptions 1 fun c => do
  let o ← Copying.of c
  match ← transferOf c with
  | .error status => return status
  | .ok t =>
    let mut status := 0
    let mut made : List (List (List Char)) := []
    let mut done : List (List (List Char)) := []
    for source in t.sources do
      let goal := if t.intoDirectory then pathInside t.goal source else t.goal
      match ← nodeAt o.followsNamed source with
      | .error fault =>
        status := 1
        refuse ["cannot stat ".toList, ← named source] fault
      | .ok (place, node) =>
        if done.contains place then
          warn ["warning: source ".toList,
            if node = .directory then "directory ".toList else "file ".toList, ← named source,
            " specified more than once".toList]
        else
          done := place :: done
          let (found, all) ← copyAt o 1000 true source place node goal made
          status := max status found
          made := all
    return status

/-- Copies files with the rights that programs have, or makes directories. -/
def install : Tool :=
    withOptions ⟨"bcCdDg:m:o:psS:t:Tv", [("directory", 'd'), ("mode", 'm'), ("verbose", 'v'),
      ("target-directory", 't'), ("no-target-directory", 'T'), ("owner", 'o'), ("group", 'g'),
      ("preserve-timestamps", 'p'), ("strip", 's'), ("suffix", 'S')], true⟩ 1 fun c => do
  let mode := (c.value? 'm').getD "755".toList
  match Modes.ofText? mode with
  | none =>
    warn ["invalid mode ".toList, ← quoted mode]
    return 1
  | some changes =>
    let rights := Modes.applyAll 0 false changes 0
    if c.has 'd' then
      if c.operands.isEmpty then return ← misuse 1 ["missing file operand".toList]
      let mut status := 0
      for path in c.operands do
        status := max status (← makeDirectory c (some changes) true path)
      return status
    match ← transferOf c with
    | .error status => return status
    | .ok t =>
      let o ← Copying.of c
      let o := { o with keepsRights := false, keepsTimes := c.has 'p' }
      let mut status := 0
      for source in t.sources do
        let goal := if t.intoDirectory then pathInside t.goal source else t.goal
        if c.has 'D' && !t.intoDirectory then
          let above := (pathStarts goal).getLast?
          if let some above := above then
            status := max status (← makeDirectory c none true above)
        match ← nodeAt true source with
        | .error fault =>
          status := 1
          refuse ["cannot stat ".toList, ← named source] fault
        | .ok (_, .directory) =>
          status := 1
          warn ["omitting directory ".toList, ← named source]
        | .ok (place, node) =>
          let quiet := { o with choice := { c with given := c.given.filter (·.letter ≠ 'v') } }
          let (found, _) ← copyAt quiet 2 true source place node goal []
          status := max status found
          if found = 0 then
            match ← placeOf true goal with
            | .ok (place, _) => changeFiles fun files => files.setRights place rights
            | .error _ => pure ()
            if c.has 'v' then tellPut "" " -> " source goal none
      return status

/-! ### Moves -/

/-- What is in the way of a move. -/
def moveClash (source goal : List Char) (old new : List (List Char)) (node : Node)
    (there : Option Node) : Act (Option (List (List Char))) := do
  let files := (← get).files
  if (files.sharers old).contains new then
    return some [← named source, " and ".toList, ← named goal, " are the same file".toList]
  if node = .directory && old.isPrefixOf new then
    return some ["cannot move ".toList, ← named source, " to a subdirectory of itself, ".toList,
      ← named goal]
  match there with
  | some .directory =>
    if node ≠ .directory then
      return some ["cannot overwrite directory ".toList, ← named goal,
        " with non-directory".toList]
    if !(files.names new).isEmpty then
      return some ["cannot move ".toList, ← named source, " to ".toList, ← named goal, ": ".toList,
        faultName .notEmpty]
    return none
  | some _ =>
    if node = .directory then
      return some ["cannot overwrite non-directory ".toList, ← named goal, " with directory ".toList,
        ← named source]
    return none
  | none => return none

/-- Moves what stands at one path to another one. -/
def moveAt (c : Choice) (ending : Option (List Char)) (source goal : List Char) : Act Nat := do
  match ← nodeAt false source with
  | .error fault =>
    refuse ["cannot stat ".toList, ← named source] fault
    return 1
  | .ok (old, node) =>
    match ← placeOf false goal with
    | .error fault =>
      if fault = .notDirectory && goal.getLast? ≠ some '/' then
        refuse ["cannot stat ".toList, ← named goal] fault
      else
        let inside := goal.getLast? = some '/' && node ≠ .directory && fault = .notFound
        refuse ["cannot move ".toList, ← named source, " to ".toList, ← named goal]
          (if inside then .notDirectory else fault)
      return 1
    | .ok (new, there) =>
      match ← moveClash source goal old new node there with
      | some pieces =>
        warn pieces
        return 1
      | none =>
        if ← isKept c "mv" old new goal then return 0
        let kept ← backUp ending goal new
        changeFiles fun files => files.move old new
        if c.has 'v' then tellPut "renamed " " -> " source goal kept
        return 0

def mv : Tool :=
    withOptions ⟨"bfinS:t:Tuv8::9", [("force", 'f'), ("verbose", 'v'), ("no-clobber", 'n'),
      ("interactive", 'i'), ("target-directory", 't'), ("no-target-directory", 'T'), ("update", 'u'),
      ("suffix", 'S'), ("backup", '8'), ("strip-trailing-slashes", '9')], true⟩ 1 fun c => do
  match ← transferOf c with
  | .error status => return status
  | .ok t =>
    let ending ← backupEnding c
    let mut status := 0
    for source in t.sources do
      let goal := if t.intoDirectory then pathInside t.goal source else t.goal
      status := max status (← moveAt c ending source goal)
    return status

/-! ### Links -/

/-- The path from a directory to a place. -/
def pathBetween (directory place : List (List Char)) : List Char :=
  let rec go : List (List Char) → List (List Char) → List (List Char)
    | a :: s, b :: t => if a = b then go s t else (a :: s).map (fun _ => ['.', '.']) ++ b :: t
    | s, t => s.map (fun _ => ['.', '.']) ++ t
  let parts := go directory place
  if parts.isEmpty then ['.'] else bytesOf (String.ofList (Text.joinWith '/' parts))

/-- What a link is made to, or why it cannot be made. -/
inductive Linked
  | path (text : List Char)
  | place (place : List (List Char))
  | refused (pieces : List (List Char))

def linkedBy (c : Choice) (source goal : List Char) : Act Linked := do
  if c.has 's' then
    if !c.has 'r' then return .path source
    match ← placeOf true source, ← placeOf false goal with
    | .ok (place, _), .ok (at_, _) => return .path (pathBetween at_.dropLast place)
    | _, _ => return .path source
  match ← nodeAt (c.has 'L') source with
  | .error fault =>
    return .refused ["failed to access ".toList, ← named source, ": ".toList, faultName fault]
  | .ok (_, .directory) =>
    return .refused [← nameOf source, ": hard link not allowed for directory".toList]
  | .ok (place, _) => return .place place

/-- Makes a link. -/
def linkAt (c : Choice) (ending : Option (List Char)) (source goal : List Char) : Act Nat := do
  match ← linkedBy c source goal with
  | .refused pieces =>
    warn pieces
    return 1
  | linked =>
    let kind := if c.has 's' then "symbolic" else "hard"
    let create := "failed to create ".toList ++ kind.toList ++ " link ".toList
    match ← placeOf false goal with
    | .error fault =>
      refuse [create, ← named goal] fault
      return 1
    | .ok (place, there) =>
      if let .place old := linked then
        if there.isSome && ((← get).files.sharers old).contains place && (c.has 'f' || c.has 'i') then
          warn [← named source, " and ".toList, ← named goal, " are the same file".toList]
          return 1
      let kept ← backUp ending goal place
      if there.isSome && kept.isNone then
        if c.last? ['f', 'i'] = some 'i' then
          if !(← agrees ["replace ".toList, ← named goal]) then return 0
        else if !c.has 'f' then
          refuse [create, ← named goal] .exists
          return 1
        if there = some .directory then
          warn [← nameOf goal, ": cannot overwrite directory".toList]
          return 1
      let shown ← match linked with
        | .place old =>
          changeFiles fun files => files.share old place
          pure source
        | .path text =>
          changeFiles fun files => (files.remove place).set place (.link (textOf text).toList)
          pure text
        | .refused _ => pure source
      if c.has 'v' then
        let note ← match kept with
          | some path => pure (" ~ ".toList ++ (← named path))
          | none => pure []
        let arrow := if c.has 's' then " -> " else " => "
        putLine ((← named goal) ++ note ++ arrow.toList ++ (← named shown))
      return 0

def ln : Tool :=
    withOptions ⟨"bdfFinLPrsS:t:Tv8::", [("symbolic", 's'), ("force", 'f'), ("verbose", 'v'),
      ("no-dereference", 'n'), ("target-directory", 't'), ("no-target-directory", 'T'),
      ("relative", 'r'), ("interactive", 'i'), ("logical", 'L'), ("physical", 'P'), ("backup", '8'),
      ("suffix", 'S')], true⟩ 1 fun c => do
  if c.has 'r' && !c.has 's' then
    warn ["cannot do --relative without --symbolic".toList]
    return 1
  let transfer ← match c.value? 't', c.operands with
    | _, [] => do pure (.error (← misuse 1 ["missing file operand".toList]))
    | some goal, sources => intoDirectory "target directory " sources goal
    | none, [source] =>
      if c.has 'T' then
        pure (.error (← misuse 1 ["missing destination file operand after ".toList, ← named source]))
      else pure (.ok ⟨[source], ['.'], true⟩)
    | none, [source, goal] => do
      let isLink := Condition.isLink (← get).files goal
      let inside := !c.has 'T' && !(c.has 'n' && isLink) && (← isDirectoryAt goal)
      pure (.ok ⟨[source], goal, inside⟩)
    | none, operands =>
      if c.has 'T' then pure (.error (← extraOperand 1 (operands.getD 2 [])))
      else intoDirectory "target " operands.dropLast (operands.getLastD [])
  match transfer with
  | .error status => return status
  | .ok t =>
    let ending ← backupEnding c
    let mut status := 0
    for source in t.sources do
      let goal := if t.intoDirectory then pathInside t.goal source else t.goal
      status := max status (← linkAt c ending source goal)
    return status

/-- Lets a file stand at another place, too. -/
def link : Tool := withOptions { letters := "" } 1 fun c => do
  match c.operands with
  | [] => missingOperand 1
  | [source] => misuse 1 ["missing operand after ".toList, ← quoted source]
  | [source, goal] =>
    let fails (fault : Files.Fault) : Act Nat := do
      refuse ["cannot create link ".toList, ← named goal, " to ".toList, ← named source] fault
      return 1
    match ← nodeAt false source, ← placeOf false goal with
    | .error fault, _ => fails fault
    | _, .error fault => fails fault
    | .ok (_, .directory), _ => fails .notPermitted
    | .ok _, .ok (_, some _) => fails .exists
    | .ok (old, _), .ok (new, none) =>
      changeFiles fun files => files.share old new
      return 0
  | _ :: _ :: other :: _ => extraOperand 1 other

end Gutter.Tools
