import Gutter.Proofs.Refresh.Batch
import Gutter.Proofs.Validation.Stopping

/-! Parsing and listing: what is appended to a set while a parse pauses now and then, what is only
listed, and what each match comes to by itself agree. A parse has one pause for each full batch of
the matches that it reads. -/

namespace Gutter

namespace Text

/-- Decimal digits with blanks around them write a number. -/
def Writes (text : List Char) (n : Nat) : Prop :=
  isNumeral (trimWhere isBlank text) = true ∧ decimalNumber (trimWhere isBlank text) = n

theorem usableNumber?_eq_some_iff {text : List Char} {n : Nat} (h : ¬Overlong text) :
    usableNumber? text = some n ↔ Writes text n := by
  unfold usableNumber? Writes
  by_cases hnumeral : isNumeral (trimWhere isBlank text) = true
  · have hshort : (trimWhere isBlank text).length ≤ digitLimit :=
      Nat.not_lt.mp fun hlong => h ⟨hnumeral, hlong⟩
    simp [hnumeral, hshort]
  · simp [hnumeral]

end Text

namespace Pattern

/-- The matches in a text, up to where the engine breaks off if it does. -/
def soundMatches (pattern : Pattern) (text : List Char) : List Match :=
  (pattern.findAll text).filter (·.isSound)

/-- What the engine finds when it breaks off. -/
def brokenMatches (pattern : Pattern) (text : List Char) : List Match :=
  (pattern.findAll text).filter (!·.isSound)

theorem allFrom_eq (pattern : Pattern) (fuel : Nat) (advance : Bool) (cursor : Cursor) :
    pattern.allFrom fuel advance cursor =
      (pattern.allFrom fuel advance cursor).filter (·.isSound) ++
        (pattern.allFrom fuel advance cursor).filter (!·.isSound) := by
  induction fuel generalizing advance cursor with
  | zero => rfl
  | succ fuel ih =>
    rw [allFrom]
    cases pattern.firstFrom advance cursor with
    | none => rfl
    | some result =>
      obtain ⟨found, next⟩ := result
      by_cases hsound : found.isSound = true
      · simp only [hsound, if_true, List.filter_cons, Bool.not_true, Bool.false_eq_true, if_false,
          List.cons_append]
        exact congrArg _ (ih _ _)
      · simp [hsound]

theorem findAll_eq (pattern : Pattern) (text : List Char) :
    pattern.findAll text = pattern.soundMatches text ++ pattern.brokenMatches text :=
  pattern.allFrom_eq _ _ _

end Pattern

namespace Warning

open Validation

/-- The table that describes a warning. -/
def value (warning : Warning) : Value :=
  .table [("line", .int warning.line), ("col", .int warning.col),
    ("message", .text warning.message), ("linter", warning.linter.elim .null .text)]

/-- Every warning passes its own check. -/
theorem ofValue_value (warning : Warning) : ofValue warning.value = .accepted warning := by
  obtain ⟨line, col, message, linter⟩ := warning
  have hlinter : checkOptional checkText (linter.elim .null .text) = .ok linter := by
    cases linter <;> rfl
  unfold ofValue check value
  simp only
  rw [requiredField_eq_ok rfl (checkNatural_int line),
    optionalField_eq_ok rfl (checkNatural_int col), requiredField_eq_ok (a := message) rfl rfl,
    optionalField_eq_ok rfl hlinter]
  rfl

end Warning

namespace Linter

open Text (Writes Overlong usableNumber?)

variable {linter : Linter} {raw : List Char} {found : Pattern.Match}

/-- A numeral that is too long to be converted is captured as the line or the column. -/
def TooLong (linter : Linter) (raw : List Char) (found : Pattern.Match) : Prop :=
  (∃ text, (linter.captures raw found).line = some text ∧ Overlong text) ∨
    ∃ text, (linter.captures raw found).col = some text ∧ Overlong text

theorem legible_of_sound (hsound : found.isSound = true) :
    linter.Legible raw found ↔ ¬linter.TooLong raw found := by
  constructor
  · rintro ⟨-, hline, hcol⟩ (⟨text, htext, hlong⟩ | ⟨text, htext, hlong⟩)
    · exact hline text htext hlong
    · exact hcol text htext hlong
  · intro h
    exact ⟨hsound, fun text htext hlong => h (.inl ⟨text, htext, hlong⟩),
      fun text htext hlong => h (.inr ⟨text, htext, hlong⟩)⟩

theorem reading_of_tooLong (hsound : found.isSound = true) (h : linter.TooLong raw found) :
    ∃ e, linter.reading raw found = .error (.numeral e) := by
  simp only [reading, hsound, if_true]
  cases hr : linter.soundReading raw found with
  | error e => exact ⟨e, rfl⟩
  | ok r =>
    have hlegible : linter.Legible raw found :=
      legible_of_reading (r := r) (by simp only [reading, hsound, if_true, hr]; rfl)
    exact absurd h ((legible_of_sound hsound).mp hlegible)

theorem legible_of_mem (hm : found ∈ linter.pattern.soundMatches raw)
    (h : ¬linter.TooLong raw found) : linter.Legible raw found :=
  (legible_of_sound (List.mem_filter.mp hm).2).mpr h

/-- Without numerals that are too long, reading fails only where the engine breaks off. -/
theorem readings_findAll_of_short
    (h : ∀ found ∈ linter.pattern.soundMatches raw, ¬linter.TooLong raw found) :
    linter.readings raw (linter.pattern.findAll raw) =
      ((linter.pattern.soundMatches raw).map (linter.readingOf raw),
        if linter.pattern.brokenMatches raw = [] then none else some .unsound) := by
  have hlegible : ∀ found ∈ linter.pattern.soundMatches raw, linter.Legible raw found :=
    fun found hm => legible_of_mem hm (h found hm)
  rw [Pattern.findAll_eq]
  cases hbroken : linter.pattern.brokenMatches raw with
  | nil => rw [List.append_nil, readings_of_legible hlegible, if_pos rfl]
  | cons broken rest =>
    have hm : broken ∈ linter.pattern.brokenMatches raw := hbroken ▸ List.mem_cons_self
    have hunsound : broken.isSound = false := by simpa using (List.mem_filter.mp hm).2
    have herror : linter.reading raw broken = .error .unsound := by
      rw [reading, hunsound]
      rfl
    rw [readings_of_error hlegible herror, if_neg (List.cons_ne_nil _ _)]

/-- The first match with a numeral that is too long ends the reading. -/
theorem readings_findAll_of_tooLong {before after : List Pattern.Match}
    (hsplit : linter.pattern.soundMatches raw = before ++ found :: after)
    (hshort : ∀ other ∈ before, ¬linter.TooLong raw other) (hlong : linter.TooLong raw found) :
    ∃ e, linter.readings raw (linter.pattern.findAll raw) =
      (before.map (linter.readingOf raw), some (.numeral e)) := by
  have hmem {other : Pattern.Match} (hm : other ∈ before ++ found :: after) :
      other ∈ linter.pattern.soundMatches raw := hsplit ▸ hm
  have hlegible : ∀ other ∈ before, linter.Legible raw other := fun other hm =>
    legible_of_mem (hmem (List.mem_append_left _ hm)) (hshort other hm)
  have hsound : found.isSound = true :=
    (List.mem_filter.mp (hmem (List.mem_append_right _ List.mem_cons_self))).2
  obtain ⟨e, he⟩ := linter.reading_of_tooLong hsound hlong
  refine ⟨e, ?_⟩
  rw [Pattern.findAll_eq, hsplit, List.append_assoc, List.cons_append]
  exact readings_of_error hlegible he

/-- What is logged about a match that is skipped. -/
def skipLog? (linter : Linter) (raw : List Char) (found : Pattern.Match) : Option LogLine :=
  match linter.warningOf? raw found with
  | some _ => none
  | none => some (.debug (linter.skippedLine (Pattern.slice raw found.start found.stop)))

theorem logLine?_readingOf (linter : Linter) (raw : List Char) :
    Reading.logLine? linter ∘ linter.readingOf raw = linter.skipLog? raw := by
  funext found
  simp only [Function.comp_apply, readingOf, skipLog?]
  cases linter.warningOf? raw found <;> rfl

/-- A parse that reads some matches, each by itself, before it ends or fails. -/
theorem parseMatches_eq {hits read : List Pattern.Match} {failure : Option Reading.Fault}
    (h : linter.readings raw hits = (read.map (linter.readingOf raw), failure))
    (set : WarningSet) : linter.parseMatches raw hits set =
      ⟨set.addAll (read.filterMap (linter.warningOf? raw)),
        (read.filterMap (linter.warningOf? raw)).length, read.filterMap (linter.skipLog? raw),
        failure⟩ := by
  unfold parseMatches
  simp only [h, List.filterMap_map, warning?_readingOf, logLine?_readingOf]

theorem parseMatches_append {first : List Pattern.Match}
    (h : (linter.readings raw first).2 = none) (second : List Pattern.Match) (set : WarningSet) :
    linter.parseMatches raw (first ++ second) set =
      let before := linter.parseMatches raw first set
      let after := linter.parseMatches raw second before.set
      ⟨after.set, before.added + after.added, before.log ++ after.log, after.failure⟩ := by
  simp [parseMatches, readings_append_of_none h, WarningSet.addAll_append]

/-- Every match is read, or one that cannot be read ends the reading. -/
theorem length_readings (linter : Linter) (raw : List Char) (hits : List Pattern.Match) :
    ((linter.readings raw hits).2 = none ∧ (linter.readings raw hits).1.length = hits.length) ∨
      (∃ e, (linter.readings raw hits).2 = some e) ∧
        (linter.readings raw hits).1.length < hits.length := by
  induction hits with
  | nil => exact .inl ⟨rfl, rfl⟩
  | cons found rest ih =>
    rw [readings]
    cases linter.reading raw found with
    | error e => exact .inr ⟨⟨e, rfl⟩, Nat.succ_pos _⟩
    | ok reading =>
      rcases ih with ⟨hnone, hlength⟩ | ⟨hsome, hlength⟩
      · exact .inl ⟨hnone, congrArg (· + 1) hlength⟩
      · exact .inr ⟨hsome, Nat.succ_lt_succ hlength⟩

/-! ### What a warning says -/

/-- The warning says what a match captured: its line and its column are numbers that were written
there, where a column that took no part is 0 and a message that took none is empty; the carriage
returns that end a message are left out. -/
structure Describes (linter : Linter) (raw : List Char) (found : Pattern.Match)
    (warning : Warning) : Prop where
  line : ∃ text, (linter.captures raw found).line = some text ∧ Writes text warning.line
  col : ((linter.captures raw found).col = none ∧ warning.col = 0) ∨
    ∃ text, (linter.captures raw found).col = some text ∧ Writes text warning.col
  message : ∃ returns, (linter.captures raw found).message.getD [] =
    warning.message.toList ++ returns ∧ ∀ c ∈ returns, c = '\r'
  noReturn : warning.message.toList.getLast? ≠ some '\r'
  name : warning.linter = some linter.name

theorem messageText_eq_iff {message : Option (List Char)} {text : String} :
    messageText message = text ↔
      (∃ returns, message.getD [] = text.toList ++ returns ∧ ∀ c ∈ returns, c = '\r') ∧
        text.toList.getLast? ≠ some '\r' := by
  have hofList : messageText message = text ↔
      Text.trimEndWhere (· = '\r') (message.getD []) = text.toList := by
    unfold messageText
    rw [← String.toList_inj, String.toList_ofList]
  rw [hofList, Text.trimEndWhere_eq_iff]
  cases text.toList.getLast? <;> simp

theorem bind_usableNumber?_eq_some_iff {text : Option (List Char)} {n : Nat}
    (h : ∀ t, text = some t → ¬Overlong t) :
    text.bind usableNumber? = some n ↔ ∃ t, text = some t ∧ Writes t n := by
  rw [Option.bind_eq_some_iff]
  constructor
  · rintro ⟨t, rfl, hn⟩
    exact ⟨t, rfl, (Text.usableNumber?_eq_some_iff (h t rfl)).mp hn⟩
  · rintro ⟨t, rfl, hn⟩
    exact ⟨t, rfl, (Text.usableNumber?_eq_some_iff (h t rfl)).mpr hn⟩

theorem elim_usableNumber?_eq_some_iff {text : Option (List Char)} {n : Nat}
    (h : ∀ t, text = some t → ¬Overlong t) :
    text.elim (some 0) usableNumber? = some n ↔
      (text = none ∧ n = 0) ∨ ∃ t, text = some t ∧ Writes t n := by
  cases text with
  | none => simp [eq_comm]
  | some t => simp [Text.usableNumber?_eq_some_iff (h t rfl)]

/-- A match that can be read comes to a warning exactly if the warning says what it captured. -/
theorem warningOf?_eq_some_iff (h : ¬linter.TooLong raw found) {warning : Warning} :
    linter.warningOf? raw found = some warning ↔ linter.Describes raw found warning := by
  obtain ⟨line, col, message, name⟩ := warning
  have hline := bind_usableNumber?_eq_some_iff (n := line)
    fun t ht hlong => h (.inl ⟨t, ht, hlong⟩)
  have hcol := elim_usableNumber?_eq_some_iff (n := col)
    fun t ht hlong => h (.inr ⟨t, ht, hlong⟩)
  have hsome : linter.warningOf? raw found = some ⟨line, col, message, name⟩ ↔
      (linter.captures raw found).line.bind usableNumber? = some line ∧
      (linter.captures raw found).col.elim (some 0) usableNumber? = some col ∧
      messageText (linter.captures raw found).message = message ∧ some linter.name = name := by
    simp only [warningOf?]
    generalize (linter.captures raw found).line.bind usableNumber? = l
    generalize (linter.captures raw found).col.elim (some 0) usableNumber? = c
    cases l <;> cases c <;> simp
  rw [hsome, hline, hcol, messageText_eq_iff]
  constructor
  · rintro ⟨hl, hc, ⟨hmessage, hreturn⟩, rfl⟩
    exact ⟨hl, hc, hmessage, hreturn, rfl⟩
  · rintro ⟨hl, hc, hmessage, hreturn, hname⟩
    exact ⟨hl, hc, ⟨hmessage, hreturn⟩, hname.symm⟩

end Linter

namespace Refresh

/-! ### Pauses -/

section Pausing

variable {settings : Settings} {now : Snapshot} {linter : Linter} {raw : List Char}
  {outputs : List (Linter × List Char)} {rest : List Linter}

/-- A turn becomes another after so many pauses, all of them in the parse of one output. -/
inductive Pauses (settings : Settings) (now : Snapshot) (linter : Linter) (raw : List Char)
    (outputs : List (Linter × List Char)) (rest : List Linter) : Nat → Turn → Turn → Prop
  | done (turn : Turn) : Pauses settings now linter raw outputs rest 0 turn turn
  | pause {set : WarningSet} {left : List Pattern.Match} {log : List LogLine} {count : Nat}
    {last : Turn}
    (h : Pauses settings now linter raw outputs rest count
      ((resume settings (.parsing now set ⟨linter, raw, left⟩ outputs rest)).after log) last) :
    Pauses settings now linter raw outputs rest (count + 1)
      ⟨.parsing now set ⟨linter, raw, left⟩ outputs rest, log⟩ last

theorem Turn.after_after (first second : List LogLine) (turn : Turn) :
    (turn.after second).after first = turn.after (first ++ second) := by
  simp [Turn.after]

/-- What was logged before a parse plays no part in its pauses. -/
theorem Pauses.after {count : Nat} {turn last : Turn} (log : List LogLine)
    (h : Pauses settings now linter raw outputs rest count turn last) :
    Pauses settings now linter raw outputs rest count (turn.after log) (last.after log) := by
  induction h with
  | done turn => exact .done _
  | pause h ih =>
    rw [Turn.after_after] at ih
    exact .pause ih

/-- The turn that follows a parse. -/
def afterParse (settings : Settings) (now : Snapshot) (outputs : List (Linter × List Char))
    (rest : List Linter) (parsed : Parsed) : Turn :=
  match parsed.failure with
  | some e => ⟨.failed (.reading e), parsed.log⟩
  | none => (readOutputs settings now rest outputs parsed.set).after parsed.log

/-- A batch of which every match can be read is followed by a pause. -/
theorem readBatch_full {left : List Pattern.Match} (set : WarningSet)
    (hfull : settings.batchSize ≤ left.length)
    (hread : (linter.readings raw (left.take settings.batchSize)).2 = none)
    (next : WarningSet → Turn) :
    let parsed := linter.parseMatches raw (left.take settings.batchSize) set
    readBatch settings now set ⟨linter, raw, left⟩ outputs rest next =
      ⟨.parsing now parsed.set ⟨linter, raw, left.drop settings.batchSize⟩ outputs rest,
        parsed.log⟩ := by
  have hfailure : (linter.parseMatches raw (left.take settings.batchSize) set).failure = none :=
    hread
  simp only [readBatch, hfailure]
  rw [if_pos (by rw [List.length_take]; omega)]

/-- A batch that is not full, or in which a match cannot be read, ends the parse. -/
theorem readBatch_last {left : List Pattern.Match} (set : WarningSet)
    (hlast : left.length < settings.batchSize ∨
      ∃ e, (linter.readings raw (left.take settings.batchSize)).2 = some e) :
    readBatch settings now set ⟨linter, raw, left⟩ outputs rest
        (readOutputs settings now rest outputs) =
      afterParse settings now outputs rest
        (linter.parseMatches raw (left.take settings.batchSize) set) := by
  unfold readBatch afterParse
  cases hfailure : (linter.parseMatches raw (left.take settings.batchSize) set).failure with
  | some e => simp only [hfailure]
  | none =>
    rcases hlast with hshort | ⟨e, he⟩
    · have hlength : (left.take settings.batchSize).length ≠ settings.batchSize := by
        rw [List.length_take]
        omega
      simp only [hfailure, if_neg hlength]
    · exact absurd (he.symm.trans hfailure) (Option.some_ne_none e)

theorem afterParse_after (parsed : Parsed) (added : Nat) (log : List LogLine) :
    afterParse settings now outputs rest ⟨parsed.set, added, log ++ parsed.log, parsed.failure⟩ =
      (afterParse settings now outputs rest parsed).after log := by
  unfold afterParse
  cases parsed.failure with
  | some e => rfl
  | none => exact (Turn.after_after _ _ _).symm

/-- A parse that reads no full batch has no pause. -/
theorem pauses_none {left : List Pattern.Match} (set : WarningSet)
    (hlast : left.length < settings.batchSize ∨
      ∃ e, (linter.readings raw (left.take settings.batchSize)).2 = some e)
    (hsame : linter.readings raw (left.take settings.batchSize) = linter.readings raw left)
    (hless : (linter.readings raw left).1.length < settings.batchSize) :
    Pauses settings now linter raw outputs rest
      ((linter.readings raw left).1.length / settings.batchSize)
      (readBatch settings now set ⟨linter, raw, left⟩ outputs rest
        (readOutputs settings now rest outputs))
      (afterParse settings now outputs rest (linter.parseMatches raw left set)) := by
  have hparse : linter.parseMatches raw (left.take settings.batchSize) set =
      linter.parseMatches raw left set := by
    simp only [Linter.parseMatches, hsame]
  rw [readBatch_last set hlast, hparse, Nat.div_eq_of_lt hless]
  exact .done _

/-- A parse pauses after each full batch of the matches that it reads. -/
theorem pauses_readBatch (hsize : 0 < settings.batchSize) (left : List Pattern.Match)
    (set : WarningSet) :
    Pauses settings now linter raw outputs rest
      ((linter.readings raw left).1.length / settings.batchSize)
      (readBatch settings now set ⟨linter, raw, left⟩ outputs rest
        (readOutputs settings now rest outputs))
      (afterParse settings now outputs rest (linter.parseMatches raw left set)) := by
  induction hn : left.length using Nat.strong_induction_on generalizing left set with
  | _ n ih =>
  subst hn
  let first := left.take settings.batchSize
  let later := left.drop settings.batchSize
  have hsplit : first ++ later = left := List.take_append_drop _ left
  have htake : first.length = min settings.batchSize left.length := List.length_take
  rcases linter.length_readings raw first with ⟨hnone, hread⟩ | ⟨⟨e, he⟩, hread⟩
  · by_cases hfull : settings.batchSize ≤ left.length
    · -- The batch is full, and fewer matches are left after the pause.
      have hreadings := linter.readings_append_of_none hnone later
      have hparse := linter.parseMatches_append hnone later set
      rw [hsplit] at hreadings hparse
      have hcount : (linter.readings raw left).1.length / settings.batchSize =
          (linter.readings raw later).1.length / settings.batchSize + 1 := by
        rw [hreadings, List.length_append, hread, htake, Nat.min_eq_left hfull,
          Nat.add_div_left _ hsize]
      rw [hcount, readBatch_full set hfull hnone, hparse, afterParse_after]
      refine .pause (.after _ (ih later.length ?_ later _ rfl))
      rw [show later.length = _ from List.length_drop]
      omega
    · have hall : first = left := List.take_of_length_le (by omega)
      refine pauses_none set (.inl (by omega)) (congrArg _ hall) ?_
      rw [← hall, hread]
      omega
  · have hreadings := linter.readings_append_of_some he later
    rw [hsplit] at hreadings
    refine pauses_none set (.inr ⟨e, he⟩) hreadings.symm ?_
    rw [hreadings]
    omega

/-- With the turn that follows a parse its pauses are over. -/
theorem not_parsing_afterParse (parsed : Parsed) (set : WarningSet) (paused : Paused) :
    (afterParse settings now outputs rest parsed).stage ≠ .parsing now set paused outputs rest := by
  intro hparsing
  unfold afterParse at hparsing
  split at hparsing
  · cases hparsing
  · have hleft := left_readOutputs settings now rest outputs parsed.set
    have hstage : (readOutputs settings now rest outputs parsed.set).stage =
        .parsing now set paused outputs rest := hparsing
    rw [hstage] at hleft
    simp only [Stage.left] at hleft
    omega

theorem Pauses.unique {count other : Nat} {turn last : Turn}
    (h : Pauses settings now linter raw outputs rest count turn last)
    (h' : Pauses settings now linter raw outputs rest other turn last)
    (hlast : ∀ set paused, last.stage ≠ .parsing now set paused outputs rest) : other = count := by
  induction h generalizing other with
  | done turn =>
    cases h' with
    | done => rfl
    | pause => exact absurd rfl (hlast _ _)
  | pause h ih =>
    cases h' with
    | done => exact absurd rfl (hlast _ _)
    | pause h' => exact congrArg (· + 1) (ih h' hlast)

/-- A parse has as many pauses as there are full batches among the matches that it reads. -/
theorem pauses_parse_iff (hsize : 0 < settings.batchSize) (set : WarningSet) {count : Nat} :
    Pauses settings now linter raw outputs rest count
        (readOutputs settings now rest ((linter, raw) :: outputs) set)
        (afterParse settings now outputs rest (linter.parse raw set)) ↔
      count = linter.pauses raw settings.batchSize := by
  have hpauses : Pauses settings now linter raw outputs rest (linter.pauses raw settings.batchSize)
      (readOutputs settings now rest ((linter, raw) :: outputs) set)
      (afterParse settings now outputs rest (linter.parse raw set)) :=
    pauses_readBatch hsize (linter.pattern.findAll raw) set
  constructor
  · exact fun h => hpauses.unique h fun set paused => not_parsing_afterParse _ set paused
  · rintro rfl
    exact hpauses

end Pausing

/-! ### Agreement -/

/-- A parse of what a linter printed reads some matches and then ends or fails. Each of them by
itself is a warning, which is appended, or is skipped with a line in the log; warnings that are only
listed are the same; and there is a pause after each full batch, whatever was skipped. -/
structure ParseReads (settings : Settings) (linter : Linter) (raw : List Char) (set : WarningSet)
    (read : List Pattern.Match) (failure : Option Reading.Fault) : Prop where
  describes : ∀ found ∈ read, ∀ warning,
    linter.warningOf? raw found = some warning ↔ linter.Describes raw found warning
  valid : ∀ warning ∈ read.filterMap (linter.warningOf? raw),
    Warning.ofValue warning.value = .accepted warning
  parsed : linter.parse raw set =
    ⟨set.addAll (read.filterMap (linter.warningOf? raw)),
      (read.filterMap (linter.warningOf? raw)).length, read.filterMap (linter.skipLog? raw),
      failure⟩
  listed : linter.warnings raw = match failure with
    | some e => .error e
    | none => .ok (read.filterMap (linter.warningOf? raw))
  counted : linter.pauses raw settings.batchSize = read.length / settings.batchSize
  paused : ∀ now outputs rest count, Pauses settings now linter raw outputs rest count
    (readOutputs settings now rest ((linter, raw) :: outputs) set)
    (afterParse settings now outputs rest (linter.parse raw set)) ↔
      count = read.length / settings.batchSize

section ParseReads

variable {settings : Settings} {linter : Linter} {raw : List Char} {set : WarningSet}
  {read : List Pattern.Match} {failure : Option Reading.Fault}

theorem parseReads_of_readings (hsize : 0 < settings.batchSize)
    (hread : ∀ found ∈ read, ¬linter.TooLong raw found)
    (h : linter.readings raw (linter.pattern.findAll raw) =
      (read.map (linter.readingOf raw), failure)) :
    ParseReads settings linter raw set read failure where
  describes found hm _ := linter.warningOf?_eq_some_iff (hread found hm)
  valid warning _ := warning.ofValue_value
  parsed := linter.parseMatches_eq h set
  listed := by
    simp only [Linter.warnings, h, List.filterMap_map, Linter.warning?_readingOf]
    cases failure <;> rfl
  counted := by
    rw [Linter.pauses, h, List.length_map]
  paused now outputs rest count := by
    rw [pauses_parse_iff hsize set, Linter.pauses, h, List.length_map]

/-- A parse, the list of warnings, and the matches taken one by one agree. If no capture is a
numeral that is too long, all matches are read, and only an engine that breaks off makes both fail;
otherwise both fail at the first match with such a capture, when all matches before it are read. -/
theorem parse_agrees_with_matches (settings : Settings) (hsize : 0 < settings.batchSize)
    (linter : Linter) (raw : List Char) (set : WarningSet) :
    ((∀ found ∈ linter.pattern.soundMatches raw, ¬linter.TooLong raw found) →
      ParseReads settings linter raw set (linter.pattern.soundMatches raw)
        (if linter.pattern.brokenMatches raw = [] then none else some .unsound)) ∧
    ∀ before found after, linter.pattern.soundMatches raw = before ++ found :: after →
      (∀ other ∈ before, ¬linter.TooLong raw other) → linter.TooLong raw found →
      ∃ e, ParseReads settings linter raw set before (some (.numeral e)) := by
  constructor
  · intro hshort
    exact parseReads_of_readings hsize hshort (Linter.readings_findAll_of_short hshort)
  · intro before found after hsplit hshort hlong
    obtain ⟨e, he⟩ := Linter.readings_findAll_of_tooLong hsplit hshort hlong
    exact ⟨e, parseReads_of_readings hsize hshort he⟩

end ParseReads

section Loose

/-- A tool whose lines start with some word, and perhaps have a column. -/
def loose : Linter :=
  { teller "loose" with
    warningPattern := "(\\w+):(\\d*):(.*)"
    pattern := ⟨.seq (.group 1 (.many false none .greedy 1 none
        (.set false false { fold := .exact, ascii := false } [.category false .word])))
      (.seq colon (.seq (.group 2 (.many false none .greedy 0 none digit)) (.seq colon
        (.group 3 (.many false none .greedy 0 none .notNewline))))), 3, false, 3, []⟩ }

/-- The second line starts with no number, and the third has an empty column: both are skipped. -/
def looseText : List Char := "3:1:unused\nx:1:odd\n4::late\n5:2:last".toList

theorem loose_lines_are_parsed :
    Linter.ofValue loose.value = .accepted loose ∧
    0 < ({ batchSize := 2 } : Settings).batchSize ∧
    ParseReads { batchSize := 2 } loose looseText .empty (loose.pattern.soundMatches looseText)
      none ∧
    (loose.pattern.soundMatches looseText).length / 2 = 2 ∧
    (loose.pattern.soundMatches looseText).filterMap (loose.warningOf? looseText) =
      [⟨3, 1, "unused", some "loose"⟩, ⟨5, 2, "last", some "loose"⟩] := by
  have hpattern : Linter.checkWarningPattern (.text loose.warningPattern) =
      .ok (loose.warningPattern, loose.pattern, loose.layout) := by cbv
  have haccepted : Linter.ofValue loose.value = .accepted loose :=
    Linter.ofValue_value_eq_accepted.mpr ⟨_, _, _, hpattern, compiled_files, by cbv, rfl⟩
  have hsize : 0 < ({ batchSize := 2 } : Settings).batchSize := by decide
  have hall : (loose.readings looseText (loose.pattern.soundMatches looseText)).2 = none := by
    decide +kernel
  have hbroken : loose.pattern.brokenMatches looseText = [] := by decide +kernel
  have hread := (parse_agrees_with_matches { batchSize := 2 } hsize loose looseText .empty).1 ?_
  · rw [if_pos hbroken] at hread
    exact ⟨haccepted, hsize, hread, by decide +kernel, by decide +kernel⟩
  · intro found hm
    have hlegible := (Linter.readings_none_iff _).mp hall found hm
    exact (Linter.legible_of_sound hlegible.sound).mp hlegible

end Loose

end Refresh

end Gutter
