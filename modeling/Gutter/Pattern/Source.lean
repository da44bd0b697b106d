import Gutter.Pattern.Fault
import Gutter.Pattern.Syntax

/-! The text of a pattern while it is read: the next token, what follows it, and the steps of a
reader that also keeps the flags and groups met so far. -/

namespace Gutter.Pattern

/-- A character, or a backslash with the character after it. -/
inductive Token
  | plain (c : Char)
  | escaped (c : Char)
deriving DecidableEq, Repr

namespace Token

def chars : Token → List Char
  | .plain c => [c]
  | .escaped c => ['\\', c]

def size : Token → Nat
  | .plain _ => 1
  | .escaped _ => 2

def isPlain (token : Token) (test : Char → Bool) : Bool :=
  match token with
  | .plain c => test c
  | .escaped _ => false

end Token

/-- What is left of a pattern: the next token, its position, and the text after it. -/
structure Source where
  next : Option Token
  position : Nat
  rest : List Char

/-- The source at `position`. A backslash that ends the pattern is refused before it is needed. -/
def Source.start (position : Nat) : List Char → Except Fault Source
  | [] => .ok ⟨none, position, []⟩
  | ['\\'] => .error (.written .escapeAtEnd (some position))
  | '\\' :: c :: rest => .ok ⟨some (.escaped c), position, rest⟩
  | c :: rest => .ok ⟨some (.plain c), position, rest⟩

/-- The groups that were opened: their widths, none while a group is open, and the names of some of
them with their numbers, from 1 on. -/
structure Groups where
  widths : List (Option Width)
  names : List (List Char × Nat)
  /-- Each name stands for one of the groups. -/
  inRange : ∀ entry ∈ names, 0 < entry.2 ∧ entry.2 ≤ widths.length

namespace Groups

def none : Groups := ⟨[], [], fun _ h => absurd h List.not_mem_nil⟩

/-- The groups with one more, which is open. -/
def opened (groups : Groups) (name : Option (List Char)) : Groups where
  widths := groups.widths ++ [.none]
  names := groups.names ++ name.toList.map fun name => (name, groups.widths.length + 1)
  inRange entry h := by
    rw [List.length_append, List.length_singleton]
    obtain h | h := List.mem_append.mp h
    · have hrange := groups.inRange entry h
      omega
    · obtain ⟨_, -, rfl⟩ := List.mem_map.mp h
      exact ⟨Nat.succ_pos _, Nat.le_refl _⟩

/-- The groups after one of them is closed. -/
def closed (groups : Groups) (index : Nat) (width : Width) : Groups where
  widths := groups.widths.set (index - 1) (some width)
  names := groups.names
  inRange := by
    rw [List.length_set]
    exact groups.inRange

end Groups

/-- What the reader knows: the rest of the pattern, the flags of the whole pattern, the groups, the
number of groups where the outermost look-behind began, and where a condition first named each
group. -/
structure Progress where
  source : Source
  flags : Flags
  groups : Groups := .none
  behind : Option Nat := none
  conditions : List (Nat × Nat) := []

abbrev Read := StateT Progress (Except Fault)

namespace Read

def peek : Read (Option Token) := do return (← get).source.next

def position : Read Nat := do return (← get).source.position

def fail {α : Type} (problem : Problem) (position : Nat) : Read α :=
  throw (.written problem (some position))

/-- Fails `back` characters before the next token. -/
def failBack {α : Type} (problem : Problem) (back : Nat) : Read α := do
  fail problem ((← position) - back)

/-- Takes the next token, if there is one. -/
def take : Read (Option Token) := do
  let state ← get
  match state.source.next with
  | none => return none
  | some token =>
    let source ← Source.start (state.source.position + token.size) state.source.rest
    set { state with source }
    return some token

/-- Takes the next token if it is the character `c`. -/
def accept (c : Char) : Read Bool := do
  if (← peek) = some (.plain c) then
    let _ ← take
    return true
  else return false

/-- Takes up to `count` characters that satisfy `test`. -/
def takeWhile (test : Char → Bool) : Nat → Read (List Char)
  | 0 => return []
  | count + 1 => do
    match ← peek with
    | some (.plain c) =>
      if test c then
        let _ ← take
        return c :: (← takeWhile test count)
      else return []
    | _ => return []

/-- The number of tokens that are left, or more. -/
def remaining : Read Nat := do return (← get).source.rest.length + 1

/-- Takes the text up to `mark`, and the mark. -/
def takeUntil (mark : Char) (what : String) : Nat → List Char → Read (List Char)
  | 0, read => return read
  | fuel + 1, read => do
    match ← take with
    | none =>
      if read.isEmpty then failBack (.missing what) 0
      else failBack (.unterminatedName mark) read.length
    | some token =>
      if token = .plain mark then
        if read.isEmpty then failBack (.missing what) 1 else return read
      else takeUntil mark what fuel (read ++ token.chars)

/-- A text of at least one character up to `mark`. -/
def name (mark : Char) (what : String) : Read (List Char) := do
  takeUntil mark what ((← remaining) + 1) []

/-- The number of groups, the whole pattern among them. -/
def groupCount : Read Nat := do return (← get).groups.widths.length + 1

/-- The group is there and closed. -/
def isClosed (index : Nat) : Read Bool := do
  return 0 < index && (((← get).groups.widths[index - 1]?).join).isSome

/-- Opens the next group. -/
def openGroup (name : Option (List Char)) : Read Nat := do
  let state ← get
  let index := state.groups.widths.length + 1
  if let some name := name then
    if let some (_, earlier) := state.groups.names.find? fun entry => entry.1 = name then
      failBack (.redefinedGroup name index earlier) (name.length + 1)
  set { state with groups := state.groups.opened name }
  return index

def closeGroup (index : Nat) (width : Width) : Read Unit :=
  modify fun state => { state with groups := state.groups.closed index width }

/-- Inside a look-behind only groups that were closed before it can be meant. -/
def checkLookBehind (index : Nat) : Read Unit := do
  match (← get).behind with
  | none => return ()
  | some groups =>
    if !(← isClosed index) then failBack .openGroup 0
    else if groups ≤ index then failBack .groupOfLookBehind 0

end Read

end Gutter.Pattern
