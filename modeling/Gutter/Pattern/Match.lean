import Gutter.Pattern.Node

/-! Matching: what a node takes at a place in a text, in the order in which a backtracking search
tries it. A search that fails leaves a trace as well: where it was, and marks that nothing took
back. -/

namespace Gutter.Pattern

/-- A place in a text: the characters before it, nearest first, and those after it. -/
structure Cursor where
  before : List Char
  after : List Char
  index : Nat
deriving DecidableEq, Repr

namespace Cursor

/-- The cursor after `c`, which `rest` follows. -/
def past (cursor : Cursor) (c : Char) (rest : List Char) : Cursor :=
  ⟨c :: cursor.before, rest, cursor.index + 1⟩

/-- The cursor `width` characters earlier. -/
def back? (cursor : Cursor) : Nat → Option Cursor
  | 0 => some cursor
  | width + 1 =>
    match cursor.before with
    | [] => none
    | c :: before => back? ⟨before, c :: cursor.after, cursor.index - 1⟩ width

/-- At least `n` characters follow. -/
def hasRoom (cursor : Cursor) (n : Nat) : Bool :=
  n = 0 || !(cursor.after.drop (n - 1)).isEmpty

end Cursor

/-- What a search leaves behind: the marks where groups were opened and closed, up to the last one
that was made, and the cursor from which something was tried last. -/
structure Trace where
  marks : List (Option Cursor)
  reached : Cursor
deriving DecidableEq, Repr

namespace Trace

/-- The trace with mark `n` at the cursor. -/
def mark (trace : Trace) (n : Nat) (cursor : Cursor) : Trace :=
  let known := trace.marks.length
  { trace with marks :=
      if n < known then trace.marks.set n (some cursor)
      else trace.marks ++ (List.replicate (n - known) none ++ [some cursor]) }

/-- Where a group opens has an even number, and where it closes the odd one after it. -/
def openMark (group : Nat) : Nat := 2 * (group - 1)

def closeMark (group : Nat) : Nat := 2 * (group - 1) + 1

/-- Something is tried from the cursor. -/
def tryFrom (trace : Trace) (cursor : Cursor) : Trace := { trace with reached := cursor }

/-- Where a group was last opened and closed, if it was both. -/
def bounds? (trace : Trace) (group : Nat) : Option (Cursor × Cursor) :=
  match (trace.marks[openMark group]?).join, (trace.marks[closeMark group]?).join with
  | some start, some stop => some (start, stop)
  | _, _ => none

/-- The text of a group that was closed after it was opened. -/
def captured? (trace : Trace) (group : Nat) : Option (List Char) :=
  (trace.bounds? group).bind fun (start, stop) =>
    if start.index ≤ stop.index then some (start.after.take (stop.index - start.index)) else none

/-- The trace after a failure from `start` on: the marks that were made since then are gone, but
marks that were moved are where they were only in a loop. -/
def undo (inLoop : Bool) (start now : Trace) : Trace :=
  { now with marks := if inLoop then start.marks else now.marks.take start.marks.length }

end Trace

/-- What came of a search: whether something was found, and the trace. -/
structure Attempt where
  found : Bool
  trace : Trace
deriving DecidableEq, Repr

/-- What has to follow a place. -/
abbrev Goal := Cursor → Trace → Attempt

/-- A search from a cursor that goes on with a goal. -/
abbrev Search := Cursor → Trace → Goal → Attempt

def fail (trace : Trace) : Attempt := ⟨false, trace⟩

/-- The goal of a search that stands by itself. -/
def succeed : Goal := fun cursor trace => ⟨true, trace.tryFrom cursor⟩

/-- What is done if nothing was found. -/
def Attempt.orElse (attempt : Attempt) (other : Trace → Attempt) : Attempt :=
  if attempt.found then attempt else other attempt.trace

/-- The cursor stands at the place. -/
def Place.holds (cursor : Cursor) : Place → Bool
  | .textStart => cursor.before.isEmpty
  | .lineStart =>
    match cursor.before with
    | [] => true
    | c :: _ => c = '\n'
  | .textEnd => cursor.after.isEmpty
  | .lastLineEnd => cursor.after.isEmpty || cursor.after = ['\n']
  | .lineEnd =>
    match cursor.after with
    | [] => true
    | c :: _ => c = '\n'
  | .boundary ascii negated =>
    let isWord : List Char → Bool
      | [] => false
      | c :: _ => isWordCharOf ascii c
    if cursor.before.isEmpty && cursor.after.isEmpty then false
    else (isWord cursor.before != isWord cursor.after) != negated

/-- The next character passes the test, if there is a test. -/
def passes (test : Option CharTest) (after : List Char) : Bool :=
  match test, after with
  | none, _ => true
  | some _, [] => false
  | some test, c :: _ => test.holds c

/-- One of a count that has been used up. -/
def oneLess (max : Option Nat) : Option Nat := max.map (· - 1)

/-- A test that folds case in a set is tried one character at a time, which shows in the trace. -/
def CharTest.settle (test : CharTest) (cursor : Cursor) (trace : Trace) : Trace :=
  if test.isStepwise then trace.tryFrom cursor else trace

/-- Goes on if no more characters have to be taken. -/
def finish (go : Goal) (min : Nat) : Goal := fun cursor trace =>
  if min = 0 then go cursor trace else fail trace

/-- Takes as many of the characters after the cursor as it can, then one less each time. -/
def takeGreedy (test : CharTest) (go : Goal) : List Char → Nat → Option Nat → Goal
  | [], min, _, cursor, trace => finish go min cursor (test.settle cursor trace)
  | c :: rest, min, max, cursor, trace =>
    if test.holds c && max ≠ some 0 then
      (takeGreedy test go rest (min - 1) (oneLess max) (cursor.past c rest) trace).orElse
        (finish go min cursor)
    else finish go min cursor (test.settle cursor trace)

/-- Takes as few of the characters after the cursor as it can, then one more each time. -/
def takeLazy (test : CharTest) (go : Goal) : List Char → Nat → Option Nat → Goal
  | [], min, _, cursor, trace =>
    (finish go min cursor trace).orElse fun trace => fail (trace.tryFrom cursor)
  | c :: rest, min, max, cursor, trace =>
    (finish go min cursor trace).orElse fun trace =>
      if test.holds c then
        let next := cursor.past c rest
        let trace := test.settle next (if min = 0 then trace.tryFrom cursor else trace)
        if max = some 0 then fail trace
        else takeLazy test go rest (min - 1) (oneLess max) next trace
      else fail (if min = 0 then trace.tryFrom cursor else trace)

/-- Takes as many of the characters after the cursor as it can. -/
def takePossessive (test : CharTest) (go : Goal) : List Char → Nat → Option Nat → Goal
  | [], min, _, cursor, trace => finish go min cursor (test.settle cursor trace)
  | c :: rest, min, max, cursor, trace =>
    if test.holds c && max ≠ some 0 then
      takePossessive test go rest (min - 1) (oneLess max) (cursor.past c rest) trace
    else finish go min cursor (test.settle cursor trace)

/-- Repeats `body` as often as it can before it goes on, then once less each time. Past the least
count no round starts where the round before it started, so that a round that takes nothing is the
last. -/
def loopGreedy (body : Search) (go : Goal) : Nat → Nat → Option Nat → Option Nat → Goal
  | 0, _, _, _, _, trace => fail trace
  | fuel + 1, min, max, last, cursor, trace =>
    let start := trace.tryFrom cursor
    let leave (trace : Trace) : Attempt :=
      (go cursor trace).orElse fun trace => fail (trace.tryFrom cursor)
    if 0 < min then
      (body cursor start (loopGreedy body go fuel (min - 1) (oneLess max) last)).orElse
        fun trace => fail (trace.tryFrom cursor)
    else if max ≠ some 0 && last ≠ some cursor.index then
      (body cursor start (loopGreedy body go fuel 0 (oneLess max) (some cursor.index))).orElse
        fun _ => leave start
    else leave start

/-- Repeats `body` as seldom as it can before it goes on, then once more each time. -/
def loopLazy (inLoop : Bool) (body : Search) (go : Goal) :
    Nat → Nat → Option Nat → Option Nat → Goal
  | 0, _, _, _, _, trace => fail trace
  | fuel + 1, min, max, last, cursor, trace =>
    let start := trace.tryFrom cursor
    let round (last : Option Nat) (trace : Trace) : Attempt :=
      (body cursor trace (loopLazy inLoop body go fuel (min - 1) (oneLess max) last)).orElse
        fun trace => fail (trace.tryFrom cursor)
    if 0 < min then round last start
    else
      (go cursor start).orElse fun now =>
        let trace := (start.undo inLoop now).tryFrom cursor
        if max ≠ some 0 && last ≠ some cursor.index then round (some cursor.index) trace
        else fail trace

/-- Repeats `body` as often as it can, with the first way to match it each time. The loop ends at
the cursor from which something was tried last, be it in a round that failed. -/
def loopPossessive (body : Search) : Nat → Nat → Option Nat → Option Nat → Goal
  | 0, _, _, _, _, trace => fail trace
  | fuel + 1, min, max, last, cursor, trace =>
    let start := trace.tryFrom cursor
    if 0 < min then
      let round := body cursor start succeed
      if round.found then
        loopPossessive body fuel (min - 1) (oneLess max) last round.trace.reached round.trace
      else fail round.trace
    else if max ≠ some 0 && last ≠ some cursor.index then
      let round := body cursor start succeed
      if round.found then
        loopPossessive body fuel 0 (oneLess max) (some cursor.index) round.trace.reached
          round.trace
      else ⟨true, start.undo true round.trace⟩
    else ⟨true, start⟩

/-- The same characters as those in the list follow the cursor. -/
def takeAgain (fold : Fold) : List Char → Cursor → Option Cursor
  | [], cursor => some cursor
  | c :: rest, cursor =>
    match cursor.after with
    | [] => none
    | d :: after =>
      if fold.lower c.toNat = fold.lower d.toNat then takeAgain fold rest (cursor.past d after)
      else none

/-- The search for a node. -/
def Node.search : Node → Search
  | .nothing, cursor, trace, go => go cursor trace
  | .never, _, trace, _ => fail trace
  | .char test, cursor, trace, go =>
    match cursor.after with
    | [] => fail trace
    | c :: rest => if test.holds c then go (cursor.past c rest) trace else fail trace
  | .place point, cursor, trace, go =>
    if point.holds cursor then go cursor trace else fail trace
  | .seq first second, cursor, trace, go =>
    first.search cursor trace fun next trace => second.search next trace go
  | .either inLoop lead first second, cursor, trace, go =>
    if passes lead cursor.after then
      (first.search cursor (trace.tryFrom cursor) go).orElse fun now =>
        second.search cursor (trace.undo inLoop now) go
    else second.search cursor trace go
  | .group index body, cursor, trace, go =>
    body.search cursor (trace.mark (Trace.openMark index) cursor) fun next trace =>
      go next (trace.mark (Trace.closeMark index) next)
  | .many inLoop next mode min max test, cursor, trace, go =>
    let start := trace.tryFrom cursor
    let attempt : Goal := fun cursor trace =>
      (go cursor (trace.tryFrom cursor)).orElse fun now => fail (start.undo inLoop now)
    if !cursor.hasRoom min then fail trace
    else
      match mode with
      | .greedy =>
        let checked : Goal := fun cursor trace =>
          if passes (next.bind CharTest.exactly?) cursor.after then attempt cursor trace
          else fail trace
        takeGreedy test checked cursor.after min max cursor start
      | .lazy => takeLazy test attempt cursor.after min max cursor start
      | .possessive =>
        takePossessive test (fun cursor trace => go cursor (trace.tryFrom cursor))
          cursor.after min max cursor start
  | .loop inLoop mode min max body, cursor, trace, go =>
    let fuel := min + max.getD 0 + cursor.index + cursor.after.length + 2
    match mode with
    | .greedy => loopGreedy body.search go fuel min max none cursor trace
    | .lazy => loopLazy inLoop body.search go fuel min max none cursor trace
    | .possessive =>
      let rounds := loopPossessive body.search fuel min max none cursor trace
      if rounds.found then go rounds.trace.reached rounds.trace
      else fail (rounds.trace.tryFrom cursor)
  | .look inLoop back negated body, cursor, trace, go =>
    match cursor.back? back with
    | none => if negated then go cursor trace else fail trace
    | some start =>
      let seen := body.search start (trace.tryFrom start) succeed
      if seen.found != negated then
        go cursor (if negated then trace.undo inLoop seen.trace else seen.trace)
      else fail seen.trace
  | .atomic body, cursor, trace, go =>
    let inner := body.search cursor (trace.tryFrom cursor) succeed
    if inner.found then go inner.trace.reached inner.trace
    else fail (inner.trace.tryFrom cursor)
  | .again fold index, cursor, trace, go =>
    match (trace.captured? index).bind fun text => takeAgain fold text cursor with
    | none => fail trace
    | some next => go next trace
  | .whenSet index yes no, cursor, trace, go =>
    if (trace.captured? index).isSome then yes.search cursor trace go
    else no.search cursor trace go

/-- The text between two positions. -/
def slice (text : List Char) (start stop : Nat) : List Char := (text.drop start).take (stop - start)

end Gutter.Pattern
