import Gutter.Pattern.Escape

/-! Reading patterns: character sets, repetitions, groups with their flags and conditions, and the
choices between sequences of these. Each function takes from the source what it reads. -/

namespace Gutter.Pattern

namespace Read

/-- The members of a character set that began at `start`, after those in `members`. -/
def setMembers (start : Nat) : Nat → List Member → Read (List Member)
  | 0, members => return members
  | fuel + 1, members => do
    let some first ← take | fail .unterminatedSet start
    if first = .plain ']' && !members.isEmpty then return members
    let low ← member first
    if ← accept '-' then
      let some last ← take | fail .unterminatedSet start
      if last = .plain ']' then return members ++ [low, .code '-'.toNat]
      let high ← member last
      match low, high with
      | .code m, .code n =>
        if n < m then badRange first last
        setMembers start fuel (members ++ [.range m n])
      | _, _ => badRange first last
    else setMembers start fuel (members ++ [low])
where
  member : Token → Read Member
    | .plain c => return .code c.toNat
    | .escaped c => setEscape c
  badRange {α : Type} (first last : Token) : Read α :=
    failBack (.badRange first.chars last.chars) (first.size + 1 + last.size)

/-- A character set whose bracket stands at `start`. -/
def set (start : Nat) : Read Item := do
  let negated ← accept '^'
  match (← setMembers start ((← remaining) + 1) []).eraseDups with
  | [.code n] => return .code negated n
  | members => return .set negated members

/-- Counts from this one on are refused. -/
def countLimit : Nat := 4294967295

/-- The number that the digits of a count write, if there are any. -/
def count? (digits : List Char) : Read (Option Nat) := do
  if digits.isEmpty then return none
  if Text.digitLimit < digits.length then throw (.numeral ⟨digits.length⟩)
  let n := Text.valueOfDigits 10 digits
  if countLimit ≤ n then throw .repeatTooLarge
  return some n

/-- The counts of a repetition in braces, after the opening one. Anything else that starts with a
brace is a text. -/
def braces : Read (Option (Nat × Option Nat)) := do
  let saved ← get
  let start ← position
  if (← peek) = some (.plain '}') then return none
  let low ← takeWhile Text.isAsciiDigit (← remaining)
  let high ← if ← accept ',' then takeWhile Text.isAsciiDigit (← remaining) else pure low
  if !(← accept '}') then
    MonadStateOf.set saved
    return none
  let min := (← count? low).getD 0
  match ← count? high with
  | none => return some (min, none)
  | some max =>
    if max < min then fail .repeatOrder start
    return some (min, some max)

/-- The mode that the mark after a repetition chooses. -/
def mode : Read Mode := do
  if ← accept '?' then return .lazy
  if ← accept '+' then return .possessive
  return .greedy

/-- The items, last one first, with the last one repeated. -/
def repetition (start min : Nat) (max : Option Nat) (items : List Item) : Read (List Item) := do
  match items with
  | [] => fail .nothingToRepeat start
  | .anchor _ :: _ => fail .nothingToRepeat start
  | .repeated .. :: _ => fail .repeatedTwice start
  | item :: rest =>
    let body := match item with
      | .group none on off body => if on = .none ∧ off = .none then body else [item]
      | _ => [item]
    return .repeated (← mode) min max body :: rest

/-- The flag of a letter. -/
def flag? : Char → Option Flags
  | 'i' => some { ignoreCase := true }
  | 'm' => some { multiline := true }
  | 's' => some { dotAll := true }
  | 'x' => some { verbose := true }
  | 'a' => some { ascii := true }
  | 'u' => some { unicode := true }
  | 't' => some { template := true }
  | _ => none

def isFlagLetter (c : Char) : Bool := c = 'L' || (flag? c).isSome

/-- Fails on a token where a flag, or what `wanted` says, should stand. -/
def notFlag {α : Type} (token : Token) (wanted : String) : Read α :=
  failBack (if token.isPlain Text.isAlphabetic then .unknownFlag else .missing wanted) token.size

/-- The flags that a group turns on, from the letter `c`, and the mark that ends them. -/
def flagsOn : Nat → Char → Flags → Read (Flags × Char)
  | 0, c, on => return (on, c)
  | fuel + 1, c, on => do
    let some flag := flag? c | failBack (.badFlags .locale) 0
    let on := on.union flag
    if flag.choosesAlphabet && on.ascii && on.unicode then failBack (.badFlags .alphabets) 0
    match ← take with
    | none => failBack (.missing "-, : or )") 0
    | some (.plain d) =>
      if d = ')' || d = '-' || d = ':' then return (on, d)
      else if isFlagLetter d then flagsOn fuel d on
      else notFlag (.plain d) "-, : or )"
    | some token => notFlag token "-, : or )"

/-- The flags that a group turns off, from the letter `c` up to the colon. -/
def flagsOff : Nat → Char → Flags → Read Flags
  | 0, _, off => return off
  | fuel + 1, c, off => do
    let some flag := flag? c | failBack (.badFlags .alphabetOff) 0
    if flag.choosesAlphabet then failBack (.badFlags .alphabetOff) 0
    let off := off.union flag
    match ← take with
    | none => failBack (.missing ":") 0
    | some (.plain d) =>
      if d = ':' then return off
      else if isFlagLetter d then flagsOff fuel d off
      else notFlag (.plain d) ":"
    | some token => notFlag token ":"

/-- The flags of a group that starts with the letter or dash `c`; `none` after flags for the whole
pattern, which are set. -/
def groupFlags (c : Char) : Read (Option (Flags × Flags)) := do
  let fuel := (← remaining) + 1
  let (on, mark) ← if c = '-' then pure (.none, '-') else flagsOn fuel c .none
  if mark = ')' then
    modify fun state => { state with flags := state.flags.union on }
    return none
  if on.template then failBack (.badFlags .globalOn) 1
  let off ← if mark = '-' then
      match ← take with
      | none => failBack (.missing "flag") 0
      | some (.plain d) =>
        if isFlagLetter d then flagsOff fuel d .none else notFlag (.plain d) "flag"
      | some token => notFlag token "flag"
    else pure .none
  if off.template then failBack (.badFlags .globalOff) 1
  if on.overlaps off then failBack (.badFlags .onAndOff) 1
  return some (on, off)

/-- Skips tokens up to and with the character `mark`; false if the pattern ends before it. -/
def skipPast (mark : Char) : Nat → Read Bool
  | 0 => return false
  | fuel + 1 => do
    match ← take with
    | none => return false
    | some token => if token = .plain mark then return true else skipPast mark fuel

/-- What the start of a group says about it. -/
inductive Opening
  | done
  | item (item : Item)
  | capture (name : Option (List Char))
  | flags (on off : Flags)
  | look (behind negated : Bool)
  | whenSet (index : Nat)
  | atomic
  | globalFlags

/-- The group with the given name. -/
def groupNamed (group : List Char) : Read Nat := do
  match (← get).groups.names.find? fun entry => entry.1 = group with
  | none => failBack (.unknownGroup group) (group.length + 1)
  | some (_, index) => return index

/-- A group name up to `mark`. -/
def groupName (mark : Char) : Read (List Char) := do
  let group ← name mark "group name"
  if !Text.isName group then failBack (.badGroupName group) (group.length + 1)
  return group

/-- The start of a group after `(?P`. -/
def namedOpening : Read Opening := do
  if ← accept '<' then return .capture (some (← groupName '>'))
  if ← accept '=' then
    let group ← groupName ')'
    let index ← groupNamed group
    if !(← isClosed index) then failBack .openGroup (group.length + 1)
    checkLookBehind index
    return .item (.again index)
  match ← take with
  | none => failBack .endOfPattern 0
  | some token => failBack (.unknownExtension ('P' :: token.chars)) (token.size + 2)

/-- Group numbers from this one on are refused. -/
def groupLimit : Nat := 1073741823

/-- The group whose number `group` writes; where it stands is kept, to be checked at the end. -/
def groupNumbered (group : List Char) : Read Nat := do
  let back := group.length + 1
  match Text.integer? group with
  | some (.ofNat index) =>
    if index = 0 then failBack .badGroupNumber back
    if groupLimit ≤ index then failBack (.noGroup index) back
    let place := (← position) - back
    modify fun state =>
      if state.conditions.any fun entry => entry.1 = index then state
      else { state with conditions := state.conditions ++ [(index, place)] }
    return index
  | _ => failBack (.badGroupName group) back

/-- The group that a condition tests, by name or number. -/
def conditionOpening : Read Opening := do
  let group ← name ')' "group name"
  let index ← if Text.isName group then groupNamed group else groupNumbered group
  checkLookBehind index
  return .whenSet index

/-- The start of a group whose parenthesis stands at `start`. -/
def opening (start : Nat) : Read Opening := do
  if !(← accept '?') then return .capture none
  match ← take with
  | none => failBack .endOfPattern 0
  | some (.escaped c) => failBack (.unknownExtension ['\\', c]) 3
  | some (.plain c) =>
    match c with
    | 'P' => namedOpening
    | ':' => return .flags .none .none
    | '#' =>
      if ← skipPast ')' (← remaining) then return .done else fail .unterminatedComment start
    | '=' => return .look false false
    | '!' => return .look false true
    | '<' =>
      match ← take with
      | none => failBack .endOfPattern 0
      | some (.plain '=') => return .look true false
      | some (.plain '!') => return .look true true
      | some token => failBack (.unknownExtension ('<' :: token.chars)) (token.size + 2)
    | '(' => conditionOpening
    | '>' => return .atomic
    | c =>
      if isFlagLetter c || c = '-' then
        match ← groupFlags c with
        | none => return .globalFlags
        | some (on, off) => return .flags on off
      else failBack (.unknownExtension [c]) 2

/-- The parenthesis that closes the group from `start` on. -/
def close (start : Nat) : Read Unit := do
  if !(← accept ')') then fail .unterminatedGroup start

/-- Reads a look-behind's body: groups opened in it cannot be meant there. -/
def behindBody (body : Read (List Item)) : Read (List Item) := do
  let outer := (← get).behind
  let groups ← groupCount
  modify fun state => { state with behind := some (outer.getD groups) }
  let items ← body
  modify fun state => { state with behind := outer }
  return items

/-- The rest of a group after its opening, as items in front of those read before. `inner` reads a
choice and `branch` one sequence, in verbose mode or not. -/
def groupBody (inner branch : Bool → Read (List Item)) (start : Nat) (first verbose : Bool)
    (items : List Item) : Opening → Read (List Item × Bool)
  | .done => return (items, verbose)
  | .item item => return (item :: items, verbose)
  | .globalFlags => do
    if !first || !items.isEmpty then fail .lateFlags start
    return (items, (← get).flags.verbose)
  | .look behind negated => do
    let body ← if behind then behindBody (inner verbose) else inner verbose
    close start
    return (.look behind negated body :: items, verbose)
  | .whenSet index => do
    let yes ← branch verbose
    let no ← if ← accept '|' then
        let no ← branch verbose
        if (← peek) = some (.plain '|') then failBack .tooManyBranches 0
        pure (some no)
      else pure none
    close start
    return (.whenSet index yes no :: items, verbose)
  | .atomic => do
    let body ← inner verbose
    close start
    return (.atomic body :: items, verbose)
  | .flags on off => do
    let body ← inner ((verbose || on.verbose) && !off.verbose)
    close start
    return (.group none on off body :: items, verbose)
  | .capture name => do
    let index ← openGroup name
    let body ← inner verbose
    close start
    closeGroup index (sequenceWidth (← get).groups.widths body)
    return (.group (some index) .none .none body :: items, verbose)

/-- Blank in verbose mode. -/
def isVerboseBlank (c : Char) : Bool := Text.isAsciiBlank c

/-- One piece of a sequence that starts with the token at `start`, in front of the items
before it. -/
def piece (inner branch : Bool → Read (List Item)) (start : Nat) (first verbose : Bool)
    (items : List Item) : Token → Read (List Item × Bool)
  | .escaped c => do return ((← itemEscape c) :: items, verbose)
  | .plain c => do
    if verbose && isVerboseBlank c then return (items, verbose)
    else if verbose && c = '#' then
      let _ ← skipPast '\n' (← remaining)
      return (items, verbose)
    else
      match c with
      | '[' => return ((← set start) :: items, verbose)
      | '(' => groupBody inner branch start first verbose items (← opening start)
      | '.' => return (.any :: items, verbose)
      | '^' => return (.anchor .lineStart :: items, verbose)
      | '$' => return (.anchor .lineEnd :: items, verbose)
      | '?' => return (← repetition start 0 (some 1) items, verbose)
      | '*' => return (← repetition start 0 none items, verbose)
      | '+' => return (← repetition start 1 none items, verbose)
      | '{' =>
        match ← braces with
        | some (min, max) => return (← repetition start min max items, verbose)
        | none => return (.code false c.toNat :: items, verbose)
      | c => return (.code false c.toNat :: items, verbose)

/-- A sequence without the groups that neither capture nor change flags: their items stand in it. -/
def unpack (items : List Item) : List Item :=
  items.flatMap fun item =>
    match item with
    | .group none on off body => if on = .none ∧ off = .none then body else [item]
    | _ => [item]

/-- The items that the first branch and all others start with, and what follows them in each. -/
def sharedStart : List Item → List (List Item) → List Item × List (List Item)
  | [], others => ([], [] :: others)
  | item :: rest, others =>
    let agrees := others.all fun branch =>
      match branch with
      | [] => false
      | head :: _ => item.alike head
    if agrees then
      let (shared, branches) := sharedStart rest (others.map List.tail)
      (item :: shared, branches)
    else ([], (item :: rest) :: others)

/-- The members of a set that takes the same characters as a branch, if the branch takes one. -/
def branchMembers? : List Item → Option (List Member)
  | [.code false n] => some [.code n]
  | [.set false members] => some members
  | _ => none

/-- A choice of several branches: what they share comes first, and branches of single characters
become a set. -/
def choose : List (List Item) → List Item
  | [] => []
  | [branch] => branch
  | first :: others =>
    let (shared, branches) := sharedStart first others
    match branches.mapM branchMembers? with
    | some members => shared ++ [.set false members.flatten.eraseDups]
    | none => shared ++ [.choice branches]

mutual

/-- Reads a choice; `top` says that it is the whole pattern. -/
def choice : Nat → Bool → Bool → Read (List Item)
  | 0, _, _ => return []
  | fuel + 1, top, verbose => do return choose (← branches fuel top top verbose)

/-- Reads the branches of a choice. Flags in the first one may change how the others are read. -/
def branches : Nat → Bool → Bool → Bool → Read (List (List Item))
  | 0, _, _, _ => return []
  | fuel + 1, top, first, verbose => do
    let branch ← sequence fuel first verbose []
    if ← accept '|' then
      let flags := (← get).flags
      let verbose := if top then flags.verbose else verbose
      return branch :: (← branches fuel top false verbose)
    else return [branch]

/-- Reads a sequence after `items`, the last one first. -/
def sequence : Nat → Bool → Bool → List Item → Read (List Item)
  | 0, _, _, items => return unpack items.reverse
  | fuel + 1, first, verbose, items => do
    match ← peek with
    | none => return unpack items.reverse
    | some token =>
      if token = .plain '|' || token = .plain ')' then return unpack items.reverse
      let start ← position
      let _ ← take
      let (items, verbose) ← piece (fun verbose => choice fuel false verbose)
        (fun verbose => sequence fuel false verbose []) start first verbose items token
      sequence fuel first verbose items

end

end Read

/-- A pattern as it was read: its items, flags and groups. -/
structure Written where
  items : List Item
  flags : Flags
  groups : Groups

/-- Reads a whole pattern that starts with `flags`. -/
def Written.read (flags : Flags) (text : List Char) : Except Fault Written := do
  let source ← Source.start 0 text
  let (items, state) ← (Read.choice (3 * text.length + 3) true flags.verbose).run
    { source, flags }
  if state.flags.ascii && state.flags.unicode then throw .twoAlphabets
  if state.source.next.isSome then
    throw (.written .unbalanced (some state.source.position))
  match state.conditions.find? fun entry => state.groups.widths.length < entry.1 with
  | some (index, position) => throw (.written (.noGroup index) (some position))
  | none =>
    return ⟨items, { state.flags with unicode := !state.flags.ascii }, state.groups⟩

end Gutter.Pattern
