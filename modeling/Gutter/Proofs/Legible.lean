import Gutter.Linter.Reading
import Gutter.Proofs.Grouping
import Mathlib.Data.List.DropRight

/-! Matches that can be read. Reading fails only at a match that is not sound or that captured a
numeral that is too long; any other match comes to the warning that its captures describe, or to
none. What is read in batches is what is read at once. -/

namespace Gutter

namespace Text

/-- The number that a text writes between blanks, unless it is too long to be converted. -/
def usableNumber? (text : List Char) : Option Nat :=
  let digits := trimWhere isBlank text
  if isNumeral digits ∧ digits.length ≤ digitLimit then some (decimalNumber digits) else none

/-- A numeral between blanks that is too long to be converted. -/
def Overlong (text : List Char) : Prop :=
  isNumeral (trimWhere isBlank text) = true ∧ digitLimit < (trimWhere isBlank text).length

theorem plainNumber?_of_overlong {text : List Char} (h : Overlong text) :
    plainNumber? text = .error ⟨(trimWhere isBlank text).length⟩ := by
  simp [plainNumber?, h.1, h.2]

theorem plainNumber?_of_not_overlong {text : List Char} (h : ¬Overlong text) :
    plainNumber? text = .ok (usableNumber? text) := by
  unfold plainNumber? usableNumber?
  by_cases hn : isNumeral (trimWhere isBlank text) = true
  · have hl : ¬digitLimit < (trimWhere isBlank text).length := fun hl => h ⟨hn, hl⟩
    simp [hn, hl, Nat.not_lt.mp hl]
  · simp [hn]

/-- What is left of a text has the characters behind it that were dropped, and ends otherwise. -/
theorem trimEndWhere_eq_iff {drop : Char → Bool} {text kept : List Char} :
    trimEndWhere drop text = kept ↔
      (∃ dropped, text = kept ++ dropped ∧ ∀ c ∈ dropped, drop c = true) ∧
        ∀ c ∈ kept.getLast?, drop c = false := by
  constructor
  · rintro rfl
    refine ⟨⟨text.rtakeWhile drop, List.rdropWhile_append_rtakeWhile.symm,
      fun c hc => List.mem_rtakeWhile_imp hc⟩, fun c hc => ?_⟩
    obtain ⟨hne, rfl⟩ := List.mem_getLast?_eq_getLast hc
    exact Bool.eq_false_iff.mpr (List.rdropWhile_last_not drop text hne)
  · rintro ⟨⟨dropped, rfl, hdropped⟩, hlast⟩
    unfold trimEndWhere
    rw [List.reverse_append, List.dropWhile_append_of_pos (by simpa using hdropped)]
    cases hkept : kept.reverse with
    | nil => simpa using hkept.symm
    | cons c rest =>
      have hc : drop c = false := hlast c (by rw [List.getLast?_eq_head?_reverse, hkept]; rfl)
      rw [List.dropWhile_cons_of_neg (by simp [hc]), ← hkept, List.reverse_reverse]

end Text

namespace Linter

open Text (NumeralTooLong Overlong usableNumber?)

/-- The match is sound, and neither its line nor its column is a numeral that is too long. -/
structure Legible (linter : Linter) (raw : List Char) (found : Pattern.Match) : Prop where
  sound : found.isSound = true
  line : ∀ text, (linter.captures raw found).line = some text → ¬Overlong text
  col : ∀ text, (linter.captures raw found).col = some text → ¬Overlong text

/-- The warning of a match whose line is a number, and whose column is one if it was captured. -/
def warningOf? (linter : Linter) (raw : List Char) (found : Pattern.Match) : Option Warning :=
  let parts := linter.captures raw found
  match parts.line.bind usableNumber?, parts.col.elim (some 0) usableNumber? with
  | some line, some col => some ⟨line, col, messageText parts.message, some linter.name⟩
  | _, _ => none

theorem position?_eq {text : Option (List Char)} (h : ∀ t, text = some t → ¬Overlong t) :
    position? text = .ok (text.bind usableNumber?) := by
  cases text with
  | none => rfl
  | some t => exact Text.plainNumber?_of_not_overlong (h t rfl)

theorem column?_eq {text : Option (List Char)} (h : ∀ t, text = some t → ¬Overlong t) :
    column? text = .ok (text.elim (some 0) usableNumber?) := by
  cases text with
  | none => rfl
  | some t => exact Text.plainNumber?_of_not_overlong (h t rfl)

theorem not_overlong_of_position? {text : Option (List Char)} {n : Option Nat}
    (h : position? text = .ok n) : ∀ t, text = some t → ¬Overlong t := by
  rintro t rfl ho
  have he : position? (some t) = .error _ := Text.plainNumber?_of_overlong ho
  rw [he] at h
  cases h

theorem not_overlong_of_column? {text : Option (List Char)} {n : Option Nat}
    (h : column? text = .ok n) : ∀ t, text = some t → ¬Overlong t := by
  rintro t rfl ho
  have he : column? (some t) = .error _ := Text.plainNumber?_of_overlong ho
  rw [he] at h
  cases h

variable {linter : Linter} {raw : List Char}

/-- What a match that can be read comes to. -/
def readingOf (linter : Linter) (raw : List Char) (found : Pattern.Match) : Reading :=
  match linter.warningOf? raw found with
  | some warning => .found warning
  | none => .skipped (Pattern.slice raw found.start found.stop)

theorem reading_eq {found : Pattern.Match} (h : linter.Legible raw found) :
    linter.reading raw found = .ok (linter.readingOf raw found) := by
  simp only [reading, h.sound, if_true, soundReading, position?_eq h.line, column?_eq h.col,
    readingOf, warningOf?, bind, Except.bind]
  cases (linter.captures raw found).line.bind usableNumber? with
  | none => rfl
  | some line =>
    cases (linter.captures raw found).col.elim (some 0) usableNumber? <;> rfl

theorem warning?_readingOf (linter : Linter) (raw : List Char) :
    Reading.warning? ∘ linter.readingOf raw = linter.warningOf? raw := by
  funext found
  simp only [Function.comp_apply, readingOf]
  cases linter.warningOf? raw found <;> rfl

theorem legible_of_reading {found : Pattern.Match} {r : Reading}
    (h : linter.reading raw found = .ok r) : linter.Legible raw found := by
  unfold reading at h
  split at h
  case isFalse => cases h
  case isTrue hs =>
    cases hl : position? (linter.captures raw found).line with
    | error e =>
      rw [soundReading, hl] at h
      cases h
    | ok line =>
      cases hc : column? (linter.captures raw found).col with
      | error e =>
        rw [soundReading, hl, hc] at h
        cases h
      | ok col => exact ⟨hs, not_overlong_of_position? hl, not_overlong_of_column? hc⟩

theorem readings_append (first second : List Pattern.Match) :
    linter.readings raw (first ++ second) =
      match linter.readings raw first with
      | (before, some e) => (before, some e)
      | (before, none) =>
        (before ++ (linter.readings raw second).1, (linter.readings raw second).2) := by
  induction first with
  | nil => simp [readings]
  | cons found rest ih =>
    cases hr : linter.reading raw found with
    | error e => simp [readings, hr]
    | ok reading =>
      rw [List.cons_append, readings, readings, hr]
      simp only [ih]
      rcases linter.readings raw rest with ⟨later, _ | e⟩ <;> rfl

theorem readings_append_of_none {first : List Pattern.Match}
    (h : (linter.readings raw first).2 = none) (second : List Pattern.Match) :
    linter.readings raw (first ++ second) =
      ((linter.readings raw first).1 ++ (linter.readings raw second).1,
        (linter.readings raw second).2) := by
  rw [readings_append, show linter.readings raw first = (_, none) from Prod.ext rfl h]

theorem readings_append_of_some {first : List Pattern.Match} {e : Reading.Fault}
    (h : (linter.readings raw first).2 = some e) (second : List Pattern.Match) :
    linter.readings raw (first ++ second) = linter.readings raw first := by
  rw [readings_append, show linter.readings raw first = (_, some e) from Prod.ext rfl h]

theorem readings_of_legible {hits : List Pattern.Match}
    (h : ∀ found ∈ hits, linter.Legible raw found) :
    linter.readings raw hits = (hits.map (linter.readingOf raw), none) := by
  induction hits with
  | nil => rfl
  | cons found rest ih =>
    rw [readings, reading_eq (h found List.mem_cons_self),
      ih fun other hm => h other (List.mem_cons_of_mem found hm)]
    rfl

theorem readings_of_error {found : Pattern.Match} {before after : List Pattern.Match}
    {e : Reading.Fault} (h : ∀ found ∈ before, linter.Legible raw found)
    (he : linter.reading raw found = .error e) :
    linter.readings raw (before ++ found :: after) =
      (before.map (linter.readingOf raw), some e) := by
  rw [readings_append_of_none (by rw [readings_of_legible h]), readings_of_legible h]
  simp only [readings, he, List.append_nil]

/-- All matches can be read exactly if none is illegible, and then they come to their warnings. -/
theorem readings_none_iff (hits : List Pattern.Match) :
    (linter.readings raw hits).2 = none ↔ ∀ found ∈ hits, linter.Legible raw found := by
  induction hits with
  | nil => simp [readings]
  | cons found rest ih =>
    cases hr : linter.reading raw found with
    | error e =>
      have hn : ¬linter.Legible raw found := by
        intro hl
        rw [reading_eq hl] at hr
        cases hr
      simp [readings, hr, hn]
    | ok reading =>
      simp [readings, hr, legible_of_reading hr, ih]

theorem warnings_of_readings {hits : List Pattern.Match}
    (h : ∀ found ∈ hits, linter.Legible raw found) :
    (linter.readings raw hits).1.filterMap Reading.warning? =
      hits.filterMap (linter.warningOf? raw) := by
  rw [readings_of_legible h, List.filterMap_map, warning?_readingOf]

/-- The set with what matches come to, if all of them can be read. -/
def absorb? (linter : Linter) (raw : List Char) (hits : List Pattern.Match) (set : WarningSet) :
    Option WarningSet :=
  match linter.readings raw hits with
  | (_, some _) => none
  | (found, none) => some (set.addAll (found.filterMap Reading.warning?))

theorem absorb?_of_failure {hits : List Pattern.Match} {set : WarningSet} {e : Reading.Fault}
    (h : (linter.parseMatches raw hits set).failure = some e) :
    linter.absorb? raw hits set = none := by
  simp only [parseMatches] at h
  rw [absorb?, show linter.readings raw hits = (_, some e) from Prod.ext rfl h]

theorem absorb?_of_none {hits : List Pattern.Match} {set : WarningSet}
    (h : (linter.parseMatches raw hits set).failure = none) :
    linter.absorb? raw hits set = some (linter.parseMatches raw hits set).set := by
  simp only [parseMatches] at h
  rw [absorb?, show linter.readings raw hits = (_, none) from Prod.ext rfl h]
  rfl

@[simp] theorem absorb?_nil (set : WarningSet) : linter.absorb? raw [] set = some set := rfl

/-- Reading in two batches is reading at once. -/
theorem absorb?_append (linter : Linter) (raw : List Char) (first second : List Pattern.Match)
    (set : WarningSet) :
    linter.absorb? raw (first ++ second) set =
      (linter.absorb? raw first set).bind (linter.absorb? raw second) := by
  rcases hf : linter.readings raw first with ⟨before, _ | e⟩
  · rcases hs : linter.readings raw second with ⟨later, _ | e⟩ <;>
      simp [absorb?, readings_append, hf, hs, WarningSet.addAll_append]
  · simp [absorb?, readings_append, hf]

/-- A set takes in matches exactly if all of them are legible, and then it gains their
warnings. -/
theorem absorb?_eq_some_iff {hits : List Pattern.Match} {set result : WarningSet} :
    linter.absorb? raw hits set = some result ↔
      (∀ found ∈ hits, linter.Legible raw found) ∧
        result = set.addAll (hits.filterMap (linter.warningOf? raw)) := by
  rw [← readings_none_iff]
  rcases hr : linter.readings raw hits with ⟨found, _ | e⟩
  · have hw := warnings_of_readings ((readings_none_iff hits).mp (congrArg Prod.snd hr))
    rw [hr] at hw
    simp [absorb?, hr, hw, eq_comm]
  · simp [absorb?, hr]

/-- A set takes in what a linter printed exactly if its warnings can be told, and then it gains
them. -/
theorem absorb?_findAll {set result : WarningSet} :
    linter.absorb? raw (linter.pattern.findAll raw) set = some result ↔
      ∃ found, linter.warnings raw = .ok found ∧ result = set.addAll found := by
  rcases hr : linter.readings raw (linter.pattern.findAll raw) with ⟨found, _ | e⟩ <;>
    simp [absorb?, warnings, hr, eq_comm]

end Linter

end Gutter
