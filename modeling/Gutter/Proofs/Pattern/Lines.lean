import Gutter.Proofs.Pattern.Takes

/-! Patterns that match lines. Where a pattern matches only at the start of a line, and a line as a
whole or not at all, all its matches in a text are those of its lines, in their order. -/

namespace Gutter.Pattern

variable {pattern : Pattern} {cursor : Cursor}

/-! ### Searches without regard to room -/

theorem hasRoom_iff {n : Nat} : cursor.hasRoom n = true ↔ n ≤ cursor.after.length := by
  refine ⟨fun h => ?_, hasRoom_of_length⟩
  cases n with
  | zero => exact Nat.zero_le _
  | succ n =>
    have hne : cursor.after.drop n ≠ [] := by simpa [Cursor.hasRoom] using h
    rw [ne_eq, List.drop_eq_nil_iff] at hne
    omega

/-- The first match at the cursor or after it. -/
def nextMatch? (pattern : Pattern) : List Char → Cursor → Option (Match × Cursor)
  | [], cursor => pattern.matchAt false cursor
  | c :: rest, cursor =>
    (pattern.matchAt false cursor).or (nextMatch? pattern rest (cursor.past c rest))

/-- A pattern that finds nothing where less than its least width follows. -/
def NeedsRoom (pattern : Pattern) : Prop :=
  ∀ cursor, cursor.after.length < pattern.least → pattern.matchAt false cursor = none

theorem nextMatch?_of_short (h : pattern.NeedsRoom) {after : List Char}
    (hafter : cursor.after = after) (hshort : after.length < pattern.least) :
    pattern.nextMatch? after cursor = none := by
  induction after generalizing cursor with
  | nil => exact h cursor (hafter ▸ hshort)
  | cons c rest ih =>
    have hrest : rest.length < pattern.least := by
      rw [List.length_cons] at hshort
      omega
    rw [nextMatch?, h cursor (hafter ▸ hshort), ih rfl hrest]
    rfl

theorem nextMatch?_of_noRoom (h : pattern.NeedsRoom)
    (hroom : (!pattern.startsFixed && !cursor.hasRoom (pattern.least - 1)) = true) :
    pattern.nextMatch? cursor.after cursor = none := by
  simp only [Bool.and_eq_true, Bool.not_eq_true', ← Bool.not_eq_true, hasRoom_iff] at hroom
  exact nextMatch?_of_short h rfl (by omega)

theorem firstAfter_eq_nextMatch? (h : pattern.NeedsRoom) (c : Char) (rest : List Char) :
    pattern.firstAfter (c :: rest) cursor = pattern.nextMatch? rest (cursor.past c rest) := by
  induction rest generalizing c cursor with
  | nil =>
    rw [firstAfter]
    split
    next hroom => exact (nextMatch?_of_noRoom h hroom).symm
    · simp [firstAfter, nextMatch?]
  | cons d rest ih =>
    rw [firstAfter]
    split
    next hroom => exact (nextMatch?_of_noRoom h hroom).symm
    · rw [ih, nextMatch?]

theorem firstFrom_eq_nextMatch? (h : pattern.NeedsRoom) (cursor : Cursor) :
    pattern.firstFrom false cursor = pattern.nextMatch? cursor.after cursor := by
  unfold firstFrom
  split
  next hroom =>
    rw [Bool.not_eq_true', ← Bool.not_eq_true, hasRoom_iff] at hroom
    exact (nextMatch?_of_short h rfl (by omega)).symm
  · cases hafter : cursor.after with
    | nil => simp [firstAfter, nextMatch?]
    | cons c rest => simp [firstAfter_eq_nextMatch? h, nextMatch?]

theorem allFrom_congr {cursor' : Cursor} (fuel : Nat)
    (h : pattern.firstFrom false cursor = pattern.firstFrom false cursor') :
    pattern.allFrom fuel false cursor = pattern.allFrom fuel false cursor' := by
  cases fuel with
  | zero => rfl
  | succ fuel => rw [allFrom, allFrom, h]

/-! ### Lines -/

/-- The cursor stands at the start of a line. -/
def Cursor.AtLine (cursor : Cursor) : Prop := Place.lineStart.holds cursor = true

theorem Cursor.atLine_iff : cursor.AtLine ↔ ∀ c ∈ cursor.before.head?, c = '\n' := by
  unfold AtLine Place.holds
  cases cursor.before <;> simp

/-- A pattern that matches only at the start of a line. -/
structure Anchored (pattern : Pattern) : Prop where
  room : pattern.NeedsRoom
  start : ∀ cursor, ¬cursor.AtLine → pattern.matchAt false cursor = none

/-- From a line on which nothing is found at the cursor a search goes on to the next line. -/
theorem Anchored.nextMatch?_skip (h : pattern.Anchored) {text more : List Char}
    (hline : '\n' ∉ text) (hnone : pattern.matchAt false cursor = none) :
    pattern.nextMatch? (text ++ '\n' :: more) cursor =
      pattern.nextMatch? more (cursor.pastAll (text ++ ['\n']) more) := by
  induction text generalizing cursor with
  | nil =>
    rw [List.nil_append, nextMatch?, hnone, Option.none_or]
    rfl
  | cons c text ih =>
    obtain ⟨hc, hrest⟩ := not_or.mp (mt List.mem_cons.mpr hline)
    have hnext : ¬(cursor.past c (text ++ '\n' :: more)).AtLine := by
      simpa [Cursor.atLine_iff, Cursor.past] using Ne.symm hc
    rw [List.cons_append, nextMatch?, hnone, Option.none_or, ih hrest (h.start _ hnext)]
    have hpast := Cursor.pastAll_cons cursor c (text ++ ['\n']) more
    rw [List.append_assoc, List.singleton_append] at hpast
    rw [hpast, List.cons_append]

/-- On the last line there is nothing to go on to. -/
theorem Anchored.nextMatch?_last (h : pattern.Anchored) {text : List Char} (hline : '\n' ∉ text)
    (hnone : pattern.matchAt false cursor = none) : pattern.nextMatch? text cursor = none := by
  induction text generalizing cursor with
  | nil => exact hnone
  | cons c text ih =>
    obtain ⟨hc, hrest⟩ := not_or.mp (mt List.mem_cons.mpr hline)
    have hnext : ¬(cursor.past c text).AtLine := by
      simpa [Cursor.atLine_iff, Cursor.past] using Ne.symm hc
    rw [nextMatch?, hnone, Option.none_or, ih hrest (h.start _ hnext)]

/-- The spans of the groups of a match. -/
abbrev Spans := List (Option (Nat × Nat))

/-- A match of a whole text that stands at an index. -/
def Match.whole (index : Nat) (text : List Char) (spans : Spans) : Match where
  start := index
  stop := index + text.length
  groups := spans.map (Option.map fun span => (index + span.1, index + span.2))

/-- A line, and what is found on it: the groups of a match of the whole line, or nothing. -/
structure FoundLine (pattern : Pattern) where
  text : List Char
  spans? : Option Spans
  line : '\n' ∉ text
  inside : ∀ spans ∈ spans?, text ≠ [] ∧ ∀ span ∈ spans, ∀ bounds ∈ span,
    bounds.1 ≤ bounds.2 ∧ bounds.2 ≤ text.length
  found : ∀ (cursor : Cursor) (rest : List Char), cursor.after = text ++ rest → cursor.AtLine →
    (∀ c ∈ rest.head?, c = '\n') →
    pattern.matchAt false cursor = spans?.map fun spans =>
      (.whole cursor.index text spans, cursor.pastAll text rest)

namespace FoundLine

/-- The lines one after another. -/
def join (lines : List (FoundLine pattern)) : List Char :=
  ['\n'].intercalate (lines.map (·.text))

@[simp] theorem join_singleton (line : FoundLine pattern) : join [line] = line.text := by
  simp [join]

@[simp] theorem join_cons_cons (line next : FoundLine pattern) (rest : List (FoundLine pattern)) :
    join (line :: next :: rest) = line.text ++ '\n' :: join (next :: rest) := by
  simp [join, List.intercalate]

/-- The matches of the lines, the first of which stands at an index. -/
def hits : Nat → List (FoundLine pattern) → List Match
  | _, [] => []
  | index, line :: rest =>
    (line.spans?.map (Match.whole index line.text)).toList ++
      hits (index + line.text.length + 1) rest

theorem length_le_join (lines : List (FoundLine pattern)) :
    lines.length ≤ (join lines).length + 1 := by
  induction lines with
  | nil => exact Nat.zero_le _
  | cons line rest ih =>
    cases rest with
    | nil => simp
    | cons next rest =>
      simp only [join_cons_cons, List.length_cons, List.length_append] at ih ⊢
      omega

theorem isSound_whole {line : FoundLine pattern} {spans : Spans} (h : line.spans? = some spans)
    (index : Nat) : (Match.whole index line.text spans).isSound = true := by
  simp only [Match.isSound, Match.whole, List.all_map, List.all_eq_true]
  intro span hspan
  cases span with
  | none => rfl
  | some bounds =>
    have hle := ((line.inside spans h).2 _ hspan bounds rfl).1
    simpa using hle

theorem not_atLine_after (cursor : Cursor) (line : FoundLine pattern) (hne : line.text ≠ [])
    (rest : List Char) : ¬(cursor.pastAll line.text rest).AtLine := by
  obtain ⟨front, last, hlast⟩ : ∃ front last, line.text = front ++ [last] :=
    ⟨_, _, (List.dropLast_concat_getLast hne).symm⟩
  have hline := line.line
  rw [hlast] at hline ⊢
  simp only [List.mem_append, List.mem_singleton, not_or] at hline
  simpa [Cursor.atLine_iff, Cursor.pastAll] using Ne.symm hline.2

/-- What a search finds from the start of a line that others follow: the line, or what it finds
from the start of the next one. -/
theorem firstFrom_line (h : pattern.Anchored) (line : FoundLine pattern) {more : List Char}
    (hafter : cursor.after = line.text ++ '\n' :: more) (hstart : cursor.AtLine) :
    pattern.firstFrom false cursor =
      match line.spans? with
      | some spans =>
        some (.whole cursor.index line.text spans, cursor.pastAll line.text ('\n' :: more))
      | none => pattern.firstFrom false (cursor.pastAll (line.text ++ ['\n']) more) := by
  have hfound := line.found cursor ('\n' :: more) hafter hstart (by simp)
  rw [firstFrom_eq_nextMatch? h.room, hafter]
  cases hspans : line.spans? with
  | none =>
    rw [hspans] at hfound
    rw [h.nextMatch?_skip line.line hfound, firstFrom_eq_nextMatch? h.room]
    rfl
  | some spans =>
    obtain ⟨c, rest, htext⟩ := List.exists_cons_of_ne_nil (line.inside spans hspans).1
    rw [hspans] at hfound
    rw [htext, List.cons_append, nextMatch?, hfound, ← htext]
    rfl

theorem firstFrom_last (h : pattern.Anchored) (line : FoundLine pattern)
    (hafter : cursor.after = line.text) (hstart : cursor.AtLine) :
    pattern.firstFrom false cursor = line.spans?.map fun spans =>
      (.whole cursor.index line.text spans, cursor.pastAll line.text []) := by
  have hfound := line.found cursor [] (by rw [hafter, List.append_nil]) hstart (by simp)
  rw [firstFrom_eq_nextMatch? h.room, hafter]
  cases hspans : line.spans? with
  | none =>
    rw [hspans] at hfound
    exact h.nextMatch?_last line.line hfound
  | some spans =>
    obtain ⟨c, rest, htext⟩ := List.exists_cons_of_ne_nil (line.inside spans hspans).1
    rw [hspans] at hfound
    rw [htext, nextMatch?, hfound, ← htext]
    rfl

/-- Behind a match the search goes on to the next line. -/
theorem firstFrom_behind (h : pattern.Anchored) (line : FoundLine pattern) (hne : line.text ≠ [])
    (more : List Char) :
    pattern.firstFrom false (cursor.pastAll line.text ('\n' :: more)) =
      pattern.firstFrom false (cursor.pastAll (line.text ++ ['\n']) more) := by
  have hnone := h.start _ (line.not_atLine_after cursor hne ('\n' :: more))
  rw [firstFrom_eq_nextMatch? h.room, firstFrom_eq_nextMatch? h.room]
  refine (h.nextMatch?_skip List.not_mem_nil hnone).trans ?_
  have hpast := Cursor.pastAll_pastAll cursor line.text ['\n'] more
  rw [List.singleton_append] at hpast
  rw [List.nil_append, hpast]
  rfl

/-- Behind a match on the last line there is nothing to be found. -/
theorem firstFrom_end (h : pattern.Anchored) (line : FoundLine pattern) (hne : line.text ≠ []) :
    pattern.firstFrom false (cursor.pastAll line.text []) = none := by
  rw [firstFrom_eq_nextMatch? h.room]
  exact h.start _ (line.not_atLine_after cursor hne [])

theorem atLine_behind (cursor : Cursor) (text more : List Char) :
    (cursor.pastAll (text ++ ['\n']) more).AtLine := by
  simp [Cursor.atLine_iff, Cursor.pastAll]

/-- A match of a line is sound, and no search after it refuses an empty match. -/
theorem allFrom_found {line : FoundLine pattern} {spans : Spans} (hspans : line.spans? = some spans)
    {index fuel : Nat} {next : Cursor}
    (hfirst : pattern.firstFrom false cursor = some (.whole index line.text spans, next)) :
    pattern.allFrom (fuel + 1) false cursor =
      .whole index line.text spans :: pattern.allFrom fuel false next := by
  have hne : ((Match.whole index line.text spans).start =
      (Match.whole index line.text spans).stop) = False := by
    simp [Match.whole, (line.inside spans hspans).1]
  rw [allFrom, hfirst]
  simp only [isSound_whole hspans, hne, if_true, decide_false]

/-- All matches from the start of a line on are those of the lines from there on. -/
theorem allFrom_lines (h : pattern.Anchored) {line : FoundLine pattern}
    {rest : List (FoundLine pattern)} {fuel : Nat} (hfuel : rest.length + 1 < fuel)
    (hafter : cursor.after = join (line :: rest)) (hstart : cursor.AtLine) :
    pattern.allFrom fuel false cursor = hits cursor.index (line :: rest) := by
  induction rest generalizing line cursor fuel with
  | nil =>
    obtain ⟨fuel, rfl⟩ : ∃ n, fuel = n + 2 := ⟨fuel - 2, by simp at hfuel; omega⟩
    rw [join_singleton] at hafter
    have hfirst := firstFrom_last h line hafter hstart
    cases hspans : line.spans? with
    | none =>
      rw [hspans] at hfirst
      simp [allFrom, hfirst, hits, hspans]
    | some spans =>
      rw [hspans] at hfirst
      rw [allFrom_found hspans hfirst, allFrom, firstFrom_end h line (line.inside spans hspans).1]
      simp [hits, hspans]
  | cons next rest ih =>
    obtain ⟨fuel, rfl⟩ : ∃ n, fuel = n + 1 := ⟨fuel - 1, by omega⟩
    rw [join_cons_cons] at hafter
    have hbehind := atLine_behind cursor line.text (join (next :: rest))
    have hindex : (cursor.pastAll (line.text ++ ['\n']) (join (next :: rest))).index =
        cursor.index + line.text.length + 1 := by simp [Cursor.pastAll, Nat.add_assoc]
    have hfirst := firstFrom_line h line hafter hstart
    rw [hits, ← hindex]
    cases hspans : line.spans? with
    | none =>
      rw [hspans] at hfirst
      rw [allFrom_congr _ hfirst, ih (by simp at hfuel ⊢; omega) rfl hbehind]
      rfl
    | some spans =>
      rw [hspans] at hfirst
      rw [allFrom_found hspans hfirst,
        allFrom_congr _ (firstFrom_behind h line (line.inside spans hspans).1 _),
        ih (by simp at hfuel ⊢; omega) rfl hbehind]
      rfl

/-- The matches in a text of lines. -/
theorem findAll_join (h : pattern.Anchored) (line : FoundLine pattern)
    (rest : List (FoundLine pattern)) :
    pattern.findAll (join (line :: rest)) = hits 0 (line :: rest) := by
  have hlength := length_le_join (line :: rest)
  rw [List.length_cons] at hlength
  exact allFrom_lines h (by omega) rfl rfl

end FoundLine

end Gutter.Pattern
