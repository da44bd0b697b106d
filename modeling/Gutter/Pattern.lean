import Gutter.Pattern.Match

/-! Compiled patterns: where one is found in a text, and all places where it is found in turn. -/

namespace Gutter

/-- A pattern that is ready to be matched: its node, the least number of characters it takes,
whether a fixed character or one of a set has to start it, how many groups it captures, and which of
them have names. -/
structure Pattern where
  node : Pattern.Node
  least : Nat
  startsFixed : Bool
  groups : Nat
  names : List (List Char × Nat)
deriving DecidableEq, Repr

namespace Pattern

/-- Where a pattern was found: from `start` to before `stop`, and the spans of its groups from
1 on. -/
structure Match where
  start : Nat
  stop : Nat
  groups : List (Option (Nat × Nat))
deriving DecidableEq, Repr

/-- Reads a pattern that starts with `flags`. -/
def compile (flags : Flags) (text : List Char) : Except Fault Pattern := do
  let written ← Written.read flags text
  let widths := written.groups.widths
  let node ← sequenceNode widths written.flags false none written.items
  let least := (sequenceWidth widths written.items).least
  let fixed := sequenceStartsFixed? written.flags written.items
  return ⟨node, least, 0 < least && fixed = some true, widths.length, written.groups.names⟩

/-- The span of a group, if it took part in the match. -/
def Match.group? (found : Match) (index : Nat) : Option (Nat × Nat) :=
  if index = 0 then some (found.start, found.stop) else (found.groups[index - 1]?).join

/-- No group is closed before it is opened. -/
def Match.isSound (found : Match) : Bool :=
  found.groups.all fun span => span.all fun (start, stop) => start ≤ stop

/-- What is told about a match that is not sound. -/
def unsoundMessage : String :=
  "The span of capturing group is wrong, please report a bug for the re module."

/-- What is found is not sound, so it does not tell that the pattern is found. -/
structure Unsound
deriving DecidableEq, Repr

def Unsound.message (_ : Unsound) : String := unsoundMessage

/-- The match from `start` that a trace shows. -/
def Match.ofTrace (groups start : Nat) (trace : Trace) : Match where
  start
  stop := trace.reached.index
  groups := (List.range groups).map fun n =>
    (trace.bounds? (n + 1)).map fun (start, stop) => (start.index, stop.index)

/-- What is found at the cursor, and the cursor after it. An empty match does not count if `advance`
is set. -/
def matchAt (pattern : Pattern) (advance : Bool) (cursor : Cursor) : Option (Match × Cursor) :=
  let accept : Goal := fun stop trace =>
    if advance && stop.index = cursor.index then fail trace else succeed stop trace
  let attempt := pattern.node.search cursor ⟨[], cursor⟩ accept
  if attempt.found then
    some (.ofTrace pattern.groups cursor.index attempt.trace, attempt.trace.reached)
  else none

/-- The first match after the cursor, which at least one less than the least width follows. -/
def firstAfter (pattern : Pattern) : List Char → Cursor → Option (Match × Cursor)
  | [], _ => none
  | c :: rest, cursor =>
    let next := cursor.past c rest
    if !pattern.startsFixed && !next.hasRoom (pattern.least - 1) then none
    else (pattern.matchAt false next).or (firstAfter pattern rest next)

/-- The first match at or after the cursor. Only at the cursor itself can `advance` refuse an empty
match. -/
def firstFrom (pattern : Pattern) (advance : Bool) (cursor : Cursor) : Option (Match × Cursor) :=
  if !cursor.hasRoom pattern.least then none
  else
    (pattern.matchAt (advance && !pattern.startsFixed) cursor).or
      (pattern.firstAfter cursor.after cursor)

/-- All matches from the cursor on, each search from where the match before it stops, up to the
first that is not sound. -/
def allFrom (pattern : Pattern) : Nat → Bool → Cursor → List Match
  | 0, _, _ => []
  | fuel + 1, advance, cursor =>
    match pattern.firstFrom advance cursor with
    | none => []
    | some (found, next) =>
      found :: (if found.isSound then
        allFrom pattern fuel (found.start = found.stop) next else [])

def start (text : List Char) : Cursor := ⟨[], text, 0⟩

/-- All matches in a text, from the left and without overlap. An empty match may follow another
match, but not an empty one at the same place. -/
def findAll (pattern : Pattern) (text : List Char) : List Match :=
  pattern.allFrom (2 * text.length + 2) false (start text)

/-- The first place in a text where the pattern is found. -/
def first? (pattern : Pattern) (text : List Char) : Option Match :=
  (pattern.firstFrom false (start text)).map (·.1)

/-- One of the patterns is found somewhere in the text. The first that is has to be sound. -/
def anyOccurs (text : List Char) : List Pattern → Except Unsound Bool
  | [] => .ok false
  | pattern :: rest =>
    match pattern.first? text with
    | none => anyOccurs text rest
    | some found => if found.isSound then .ok true else .error ⟨⟩

end Pattern

end Gutter
