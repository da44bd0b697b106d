import Gutter.Pattern.CharTest
import Gutter.Pattern.Reader

/-! Patterns as they are matched: the tree of nodes, in which flags have become tests, and its
making from a written pattern. Nodes know as much of what follows them as their search needs. -/

namespace Gutter.Pattern

/-- A test of the place between two characters, with its flags resolved. -/
inductive Place
  | textStart
  | lineStart
  | textEnd
  | lastLineEnd
  | lineEnd
  | boundary (ascii negated : Bool)
deriving DecidableEq, Repr

/-- A pattern to be matched. Nodes that have to take back marks know whether they stand in a loop; a
choice knows the test that its first branch starts with, and a repeated test the one that
follows it. -/
inductive Node
  | nothing
  | never
  | char (test : CharTest)
  | place (point : Place)
  | seq (first second : Node)
  | either (inLoop : Bool) (lead : Option CharTest) (first second : Node)
  | group (index : Nat) (body : Node)
  | many (inLoop : Bool) (next : Option CharTest) (mode : Mode) (min : Nat) (max : Option Nat)
      (test : CharTest)
  | loop (inLoop : Bool) (mode : Mode) (min : Nat) (max : Option Nat) (body : Node)
  | look (inLoop : Bool) (back : Nat) (negated : Bool) (body : Node)
  | atomic (body : Node)
  | again (fold : Fold) (index : Nat)
  | whenSet (index : Nat) (yes no : Node)
deriving DecidableEq, Repr

/-- The greatest width of a look-behind. -/
def behindLimit : Nat := 4294967295

def Mode.name : Mode → String
  | .greedy => "MAX_REPEAT"
  | .lazy => "MIN_REPEAT"
  | .possessive => "POSSESSIVE_REPEAT"

/-- A possessive repetition takes nothing back by itself. -/
def Mode.loops (mode : Mode) : Bool := mode ≠ .possessive

/-- The place that an anchor tests under `flags`. -/
def Anchor.place (flags : Flags) : Anchor → Place
  | .lineStart => if flags.multiline then .lineStart else .textStart
  | .textStart => .textStart
  | .lineEnd => if flags.multiline then .lineEnd else .lastLineEnd
  | .textEnd => .textEnd
  | .boundary => .boundary (!flags.unicode) false
  | .noBoundary => .boundary (!flags.unicode) true

/-- The width that a look-behind goes back. -/
def behindWidth (width : Width) : Except Fault Nat :=
  if behindLimit < width.least then .error (.written .tooFarBehind none)
  else if width.least ≠ width.most then .error (.written .widthVaries none)
  else .ok width.least

/-- A test that can be made before what it starts is tried. -/
def CharTest.lead? (test : CharTest) : Option CharTest := if test.isPlain then some test else none

mutual

/-- The test that an item starts with; `next` is that of what follows it. -/
def Item.lead (flags : Flags) (next : Option CharTest) : Item → Option CharTest
  | .code negated n => (CharTest.ofCode flags.alphabet negated n).lead?
  | .set negated members => (CharTest.ofSet flags.alphabet negated members).lead?
  | .group none on off body => sequenceLead (flags.within on off) next body
  | _ => none

def sequenceLead (flags : Flags) (next : Option CharTest) : List Item → Option CharTest
  | [] => next
  | item :: rest => item.lead flags (sequenceLead flags next rest)

end

mutual

/-- The node of an item that `next` follows. -/
def Item.node (groups : List (Option Width)) (flags : Flags) (inLoop : Bool)
    (next : Option CharTest) : Item → Except Fault Node
  | .code negated n => .ok (.char (.ofCode flags.alphabet negated n))
  | .set negated members => .ok (.char (.ofSet flags.alphabet negated members))
  | .any => .ok (.char (if flags.dotAll then .any else .notNewline))
  | .anchor point => .ok (.place (point.place flags))
  | .choice branches => branchNodes groups flags inLoop branches
  | .group none on off body => sequenceNode groups (flags.within on off) inLoop next body
  | .group (some index) on off body => do
    return .group index (← sequenceNode groups (flags.within on off) inLoop none body)
  | .repeated mode min max body => do
    if flags.template then throw (.written (.templateRepeat mode.name) none)
    match ← sequenceNode groups flags (inLoop || mode.loops) none body with
    | .char test => return .many inLoop next mode min max test
    | body => return .loop inLoop mode min max body
  | .look behind negated body => do
    let width ← if behind then behindWidth (sequenceWidth groups body) else pure 0
    return .look inLoop width negated (← sequenceNode groups flags inLoop none body)
  | .atomic body => do return .atomic (← sequenceNode groups flags inLoop none body)
  | .again index => .ok (.again flags.alphabet.fold index)
  | .whenSet index yes (some (first :: others)) => do
    let yes ← sequenceNode groups flags inLoop none yes
    return .whenSet index yes (← sequenceNode groups flags inLoop next (first :: others))
  | .whenSet index yes _ => do
    return .whenSet index (← sequenceNode groups flags inLoop next yes) .nothing

/-- The node of a choice. -/
def branchNodes (groups : List (Option Width)) (flags : Flags) (inLoop : Bool) :
    List (List Item) → Except Fault Node
  | [] => .ok .never
  | branch :: rest => do
    let first ← sequenceNode groups flags inLoop none branch
    return .either inLoop (sequenceLead flags none branch) first
      (← branchNodes groups flags inLoop rest)

/-- The node of a sequence that `next` follows. -/
def sequenceNode (groups : List (Option Width)) (flags : Flags) (inLoop : Bool)
    (next : Option CharTest) : List Item → Except Fault Node
  | [] => .ok .nothing
  | [item] => item.node groups flags inLoop next
  | item :: rest => do
    let first ← item.node groups flags inLoop (sequenceLead flags next rest)
    return .seq first (← sequenceNode groups flags inLoop next rest)

end

mutual

/-- What an item says about how a match starts: that a fixed character or one of a set does, that
none has to, or nothing if it takes no character. -/
def Item.startsFixed? (flags : Flags) : Item → Option Bool
  | .code negated n => some (!negated && (CharTest.ofCode flags.alphabet negated n).isPlain)
  | .set negated members => some (CharTest.ofSet flags.alphabet negated members).isPlain
  | .choice branches => some (branches.all fun branch =>
      match branch with
      | .code false n :: _ => (CharTest.ofCode flags.alphabet false n).isPlain
      | _ => false)
  | .group _ on off body => sequenceStartsFixed? (flags.within on off) body
  | _ => some false

def sequenceStartsFixed? (flags : Flags) : List Item → Option Bool
  | [] => none
  | item :: rest => item.startsFixed? flags <|> sequenceStartsFixed? flags rest

end

end Gutter.Pattern
