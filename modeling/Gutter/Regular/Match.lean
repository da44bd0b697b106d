import Gutter.Regular.Node

/-! Where an expression leads from and to, and where it is found in a text: as far left as possible,
and as long as possible there. -/

namespace Gutter.Regular

/-! ### Sets of places

They are numbers whose bits are the places. -/

/-- Places between the characters of a text, as the bits of a number. -/
abbrev Places := Nat

namespace Places

def single (place : Nat) : Places := 1 <<< place

def union (a b : Places) : Places := a ||| b

/-- The places at which facts hold, the first of which is at place zero. -/
def ofFacts (facts : List Bool) : Places := facts.foldr (fun fact n => 2 * n + fact.toNat) 0

/-- The places from a place on. -/
def onwards (place : Nat) (s : Places) : Places := (s >>> place) <<< place

/-- The last place. -/
def last? (s : Places) : Option Nat := if s = 0 then none else some s.log2

/-- The first place; the number of places is a limit. -/
def firstFrom (s : Places) : Nat → Nat → Option Nat
  | 0, _ => none
  | limit + 1, place => if s.testBit place then some place else firstFrom s limit (place + 1)

/-- What is reached by going on and on from a set; what was reached before is not looked at again. -/
def closure (step : Places → Places) : Nat → Places → Places → Places
  | 0, all, _ => all
  | limit + 1, all, new =>
    if new = 0 then all
    else
      let next := step new
      let fresh := (all ||| next) ^^^ all
      closure step limit (all ||| next) fresh

/-- What is reached in exactly a number of steps. -/
def times (step : Places → Places) : Nat → Places → Places
  | 0, s => s
  | n + 1, s => times step n (step s)

/-- What is reached in at most a number of steps. -/
def upTo (step : Places → Places) : Nat → Places → Places
  | 0, s => s
  | n + 1, s => if s = 0 then s else s ||| upTo step n (step s)

/-- What is reached by repeating a step at least and at most a number of times. -/
def repeated (step : Places → Places) (size least : Nat) (most : Option Nat) (s : Places) : Places :=
  match most with
  | none => let s := times step least s; closure step (size + 2) s s
  | some most => upTo step (most - least) (times step least s)

end Places

/-- An expression for one text: a character is taken, or nothing is, at the places that are allowed. -/
inductive Plan
  | stay (allowed : Places)
  | take (allowed : Places)
  | join (first second : Plan)
  | either (first second : Plan)
  | repeated (plan : Plan) (least : Nat) (most : Option Nat)
  | group (number : Nat) (plan : Plan)
deriving DecidableEq, Repr

/-- How characters of a text are seen. -/
structure Sight where
  wide : Bool
  folds : Bool := false
  ofLines : Bool := false
deriving DecidableEq, Repr

/-- The places between the characters of a text where an edge is. -/
def Edge.places (sight : Sight) (text : List Char) (edge : Edge) : Places :=
  let before := none :: text.map some
  let after := text.map some ++ [none]
  Places.ofFacts ((before.zip after).map fun (b, a) => edge.holds sight.wide sight.ofLines b a)

/-- The plan of an expression for a text. Nothing is taken where something is asked for again. -/
def Node.plan (sight : Sight) (text : List Char) : Node → Plan
  | .empty => .stay (Places.ofFacts (true :: text.map fun _ => true))
  | .one test => .take (Places.ofFacts (text.map fun c => test.holds sight.wide sight.folds c))
  | .edge e => .stay (e.places sight text)
  | .join a b => .join (a.plan sight text) (b.plan sight text)
  | .either a b => .either (a.plan sight text) (b.plan sight text)
  | .repeated a least most => .repeated (a.plan sight text) least most
  | .group number a => .group number (a.plan sight text)
  | .back _ => .stay 0

namespace Plan

/-- The places to which a plan leads from a set of places. -/
def ends (size : Nat) : Plan → Places → Places
  | .stay allowed => fun s => s &&& allowed
  | .take allowed => fun s => (s &&& allowed) <<< 1
  | .join a b => fun s => b.ends size (a.ends size s)
  | .either a b => fun s => a.ends size s ||| b.ends size s
  | .repeated a least most => fun s => Places.repeated (a.ends size) size least most s
  | .group _ a => fun s => a.ends size s

/-- The places from which a plan leads to a set of places. -/
def starts (size : Nat) : Plan → Places → Places
  | .stay allowed => fun s => s &&& allowed
  | .take allowed => fun s => (s >>> 1) &&& allowed
  | .join a b => fun s => a.starts size (b.starts size s)
  | .either a b => fun s => a.starts size s ||| b.starts size s
  | .repeated a least most => fun s => Places.repeated (a.starts size) size least most s
  | .group _ a => fun s => a.starts size s

end Plan

/-! ### Groups -/

/-- What was in the groups: where it starts and ends. -/
abbrev Groups := List (Nat × Nat × Nat)

def Groups.put (groups : Groups) (number start stop : Nat) : Groups :=
  (number, start, stop) :: groups.filter (·.1 ≠ number)

/-- Repeats a walk as often as it leads on; `later` are the places from which more repetitions lead
to the goal. -/
def walkOn (walk : Nat → Places → Groups → Nat × Groups) (starts : Places → Places)
    (later : Places) : Nat → Nat → Groups → Nat × Groups
  | 0, place, groups => (place, groups)
  | limit + 1, place, groups =>
    let further := Places.onwards (place + 1) later
    if (starts further).testBit place then
      let (next, groups) := walk place further groups
      walkOn walk starts later limit next groups
    else (place, groups)

/-- Repeats a walk at least and at most a number of times, and not more often than it must where it
does not lead on. -/
def walkCounted (walk : Nat → Places → Groups → Nat × Groups) (starts : Places → Places)
    (size : Nat) (goal : Places) : Nat → Nat → Option Nat → Nat → Groups → Nat × Groups
  | 0, _, _, place, groups => (place, groups)
  | limit + 1, least, most, place, groups =>
    if most = some 0 then (place, groups)
    else
      let later := Places.repeated starts size (least - 1) (most.map (· - 1)) goal
      if least = 0 && most.isNone then walkOn walk starts later limit place groups
      else
        let further := Places.onwards (place + 1) later
        if (starts further).testBit place then
          let (next, groups) := walk place further groups
          walkCounted walk starts size goal limit (least - 1) (most.map (· - 1)) next groups
        else if 0 < least then
          let (next, groups) := walk place later groups
          walkCounted walk starts size goal limit (least - 1) (most.map (· - 1)) next groups
        else (place, groups)

/-- The way through a plan from a place to one of some places: earlier alternatives go before later
ones, and more repetitions before fewer. There has to be a way. -/
def Plan.walk (size : Nat) : Plan → Nat → Places → Groups → Nat × Groups
  | .stay _ => fun place _ groups => (place, groups)
  | .take _ => fun place _ groups => (place + 1, groups)
  | .join a b => fun place goal groups =>
    let (middle, groups) := a.walk size place (b.starts size goal) groups
    b.walk size middle goal groups
  | .either a b => fun place goal groups =>
    if (a.starts size goal).testBit place then a.walk size place goal groups
    else b.walk size place goal groups
  | .repeated a least most => fun place goal groups =>
    walkCounted (a.walk size) (a.starts size) size goal (size + least + most.getD 0 + 2) least most
      place groups
  | .group number a => fun place goal groups =>
    let (next, groups) := a.walk size place goal groups
    (next, groups.put number place next)

/-- Where something was found, and what its groups held. -/
structure Found where
  start : Nat
  stop : Nat
  groups : Groups
deriving DecidableEq, Repr

/-- The text of a group; a group that held nothing is empty, and group zero is all. -/
def Found.group (f : Found) (number : Nat) : Option (Nat × Nat) :=
  if number = 0 then some (f.start, f.stop) else f.groups.lookup number

/-! ### What was in a group asked for again -/

/-- How far a text has been read, and what the groups held. -/
structure Trail where
  place : Nat
  groups : Groups
deriving DecidableEq, Repr

/-- Repeats steps at least and at most a number of times, more repetitions first. -/
def trailsAgain (step : Trail → List Trail) : Nat → Nat → Option Nat → Trail → List Trail
  | 0, _, _, t => [t]
  | limit + 1, least, most, t =>
    let further := if most = some 0 then [] else
      (step t).filter fun next => t.place < next.place || 0 < least
    (further.flatMap (trailsAgain step limit (least - 1) (most.map (· - 1))))
      ++ if least = 0 then [t] else []

/-- All ways through an expression from where a text has been read, those first that are preferred;
of ways that end alike only the first is kept. -/
def Node.trails (sight : Sight) (text : Array Char) : Node → Trail → List Trail
  | .empty => fun t => [t]
  | .one test => fun t =>
    if (text[t.place]?).any (test.holds sight.wide sight.folds) then
      [{ t with place := t.place + 1 }] else []
  | .edge e => fun t =>
    let before := if t.place = 0 then none else text[t.place - 1]?
    if e.holds sight.wide sight.ofLines before text[t.place]? then [t] else []
  | .join a b => fun t => ((a.trails sight text t).flatMap (b.trails sight text)).eraseDups
  | .either a b => fun t => (a.trails sight text t ++ b.trails sight text t).eraseDups
  | .repeated a least most => fun t =>
    (trailsAgain (a.trails sight text) (text.size + least + most.getD 0 + 2) least most t).eraseDups
  | .group number a => fun t =>
    (a.trails sight text t).map fun next =>
      { next with groups := next.groups.put number t.place next.place }
  | .back number => fun t =>
    match t.groups.lookup number with
    | none => []
    | some (start, stop) =>
      let same := (List.range (stop - start)).all fun i =>
        match text[start + i]?, text[t.place + i]? with
        | some a, some b =>
          a = b || (sight.folds && (bothCases sight.wide a).any (bothCases sight.wide b).contains)
        | _, _ => false
      if same then [{ t with place := t.place + (stop - start) }] else []

/-- The first of the longest trails. -/
def longest (trails : List Trail) : Option Trail :=
  trails.foldl (fun best t =>
    match best with
    | some b => if b.place < t.place then some t else some b
    | none => some t) none

/-! ### Searches -/

/-- An expression made ready for a text. -/
structure Search where
  sight : Sight
  size : Nat
  text : Array Char
  node : Node
  plan : Plan

def Node.on (node : Node) (sight : Sight) (text : List Char) : Search :=
  { sight, size := text.length, text := text.toArray, node, plan := node.plan sight text }

namespace Search

/-- What is found at a place by ways of its own. -/
def trailAt? (s : Search) (place : Nat) : Option Found :=
  (longest (s.node.trails s.sight s.text ⟨place, []⟩)).map fun t => ⟨place, t.place, t.groups⟩

/-- The longest that is found at a place. -/
def at? (s : Search) (place : Nat) : Option Found :=
  if s.node.asksBack then s.trailAt? place
  else
    (Places.last? (s.plan.ends s.size (Places.single place))).map fun stop =>
      let (_, groups) := s.plan.walk s.size place (Places.single stop) []
      ⟨place, stop, groups⟩

/-- The longest that is found at the first place where something is found. -/
def from? (s : Search) (place : Nat) : Option Found :=
  if s.size < place then none
  else if s.node.asksBack then
    ((List.range (s.size + 1 - place)).map (· + place)).findSome? s.trailAt?
  else
    let all := Places.ofFacts (List.replicate (s.size + 1) true)
    let starts := Places.onwards place (s.plan.starts s.size all)
    (Places.firstFrom starts (s.size + 1) place).bind s.at?

def isThere (s : Search) : Bool := (s.from? 0).isSome

end Search

end Gutter.Regular
