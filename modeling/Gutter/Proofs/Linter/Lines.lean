import Gutter.Proofs.Legible
import Gutter.Proofs.Pattern.Lines

/-! Linters that report on lines. If a linter's pattern matches lines, what it printed comes to what
each of its lines comes to by itself. -/

namespace Gutter.Linter

open Pattern (Anchored FoundLine Match Spans slice)

variable {linter : Linter} {raw text rest : List Char} {spans : Spans} {index : Nat}

theorem slice_of_drop (hraw : raw.drop index = text ++ rest) {start stop : Nat}
    (hstop : stop ≤ text.length) :
    slice raw (index + start) (index + stop) = slice text start stop := by
  unfold slice
  rw [← List.drop_drop, hraw]
  by_cases hle : start ≤ stop
  · rw [List.drop_append_of_le_length (by omega), List.take_append_of_le_length]
    · congr 1
      omega
    · rw [List.length_drop]
      omega
  · have hnone : stop - start = 0 := by omega
    have hnone' : index + stop - (index + start) = 0 := by omega
    rw [hnone, hnone', List.take_zero, List.take_zero]

/-- What a match of a line captures does not depend on where the line stands. -/
theorem groupText?_whole (hraw : raw.drop index = text ++ rest)
    (hinside : ∀ span ∈ spans, ∀ bounds ∈ span, bounds.2 ≤ text.length) (n : Nat) :
    groupText? raw (.whole index text spans) n = groupText? text (.whole 0 text spans) n := by
  unfold groupText? Match.group?
  split
  · have hslice : slice raw (index + 0) (index + text.length) = slice text 0 text.length :=
      slice_of_drop hraw (Nat.le_refl text.length)
    simpa [Match.whole] using hslice
  · simp only [Match.whole, List.getElem?_map]
    cases hspan : spans[n - 1]? with
    | none => rfl
    | some span =>
      cases span with
      | none => rfl
      | some bounds =>
        have hbound := hinside _ (List.mem_of_getElem? hspan) bounds rfl
        simp [slice_of_drop hraw hbound]

theorem captures_whole (hraw : raw.drop index = text ++ rest)
    (hinside : ∀ span ∈ spans, ∀ bounds ∈ span, bounds.2 ≤ text.length) :
    linter.captures raw (.whole index text spans) =
      linter.captures text (.whole 0 text spans) := by
  unfold captures
  rw [groupText?_whole hraw hinside, groupText?_whole hraw hinside,
    funext (groupText?_whole hraw hinside)]

variable {line : FoundLine linter.pattern} {lines : List (FoundLine linter.pattern)}

/-- The line can be read, if something is found on it. -/
def LineLegible (linter : Linter) (line : FoundLine linter.pattern) : Prop :=
  ∀ spans ∈ line.spans?, linter.Legible line.text (.whole 0 line.text spans)

/-- The warning of a line by itself. -/
def lineWarning? (linter : Linter) (line : FoundLine linter.pattern) : Option Warning :=
  line.spans?.bind fun spans => linter.warningOf? line.text (.whole 0 line.text spans)

theorem captures_line (hspans : line.spans? = some spans)
    (hraw : raw.drop index = line.text ++ rest) :
    linter.captures raw (.whole index line.text spans) =
      linter.captures line.text (.whole 0 line.text spans) :=
  captures_whole hraw fun span hm bounds hb =>
    ((line.inside spans hspans).2 span hm bounds hb).2

theorem legible_line (hspans : line.spans? = some spans)
    (hraw : raw.drop index = line.text ++ rest) (h : linter.LineLegible line) :
    linter.Legible raw (.whole index line.text spans) where
  sound := FoundLine.isSound_whole hspans index
  line := captures_line hspans hraw ▸ (h spans hspans).line
  col := captures_line hspans hraw ▸ (h spans hspans).col

theorem warningOf?_line (hspans : line.spans? = some spans)
    (hraw : raw.drop index = line.text ++ rest) :
    linter.warningOf? raw (.whole index line.text spans) = linter.lineWarning? line := by
  rw [lineWarning?, hspans, Option.bind_some, warningOf?, captures_line hspans hraw, ← warningOf?]

theorem drop_next {more : List Char} (hraw : raw.drop index = text ++ '\n' :: more) :
    raw.drop (index + text.length + 1) = more := by
  rw [Nat.add_assoc, ← List.drop_drop, hraw, ← List.drop_drop, List.drop_left]
  rfl

/-- The matches of lines that can be read can be read where the lines stand, and come to the same
warnings. -/
theorem readings_hits (hraw : raw.drop index = FoundLine.join lines)
    (h : ∀ line ∈ lines, linter.LineLegible line) :
    (∀ found ∈ FoundLine.hits index lines, linter.Legible raw found) ∧
      (FoundLine.hits index lines).filterMap (linter.warningOf? raw) =
        lines.filterMap linter.lineWarning? := by
  induction lines generalizing index with
  | nil => exact ⟨nofun, rfl⟩
  | cons line others ih =>
    obtain ⟨hfirst, hothers⟩ := List.forall_mem_cons.mp h
    obtain ⟨rest, hline, hlater⟩ : ∃ rest, raw.drop index = line.text ++ rest ∧
        (∀ found ∈ FoundLine.hits (index + line.text.length + 1) others,
          linter.Legible raw found) ∧
        (FoundLine.hits (index + line.text.length + 1) others).filterMap
          (linter.warningOf? raw) = others.filterMap linter.lineWarning? := by
      cases others with
      | nil => exact ⟨[], by simpa using hraw, nofun, rfl⟩
      | cons next others =>
        rw [FoundLine.join_cons_cons] at hraw
        exact ⟨_, hraw, ih (drop_next hraw) hothers⟩
    cases hspans : line.spans? with
    | none => simpa [FoundLine.hits, hspans, lineWarning?] using hlater
    | some spans =>
      have hwarning := warningOf?_line hspans hline
      refine ⟨?_, ?_⟩
      · simpa [FoundLine.hits, hspans] using ⟨legible_line hspans hline hfirst, hlater.1⟩
      · simp [FoundLine.hits, hspans, List.filterMap_cons, hwarning, hlater.2]

/-- What a linter printed comes to the warnings of its lines, in their order. -/
theorem warnings_join (hanchored : linter.pattern.Anchored) (line : FoundLine linter.pattern)
    (others : List (FoundLine linter.pattern))
    (h : ∀ each ∈ line :: others, linter.LineLegible each) :
    linter.warnings (FoundLine.join (line :: others)) =
      .ok ((line :: others).filterMap linter.lineWarning?) := by
  have hraw : (FoundLine.join (line :: others)).drop 0 = FoundLine.join (line :: others) := rfl
  obtain ⟨hlegible, hwarnings⟩ := readings_hits hraw h
  have hfailure := (readings_none_iff _).mpr hlegible
  have hfound := warnings_of_readings hlegible
  unfold warnings
  rw [FoundLine.findAll_join hanchored]
  simp only [hfailure, hfound, hwarnings]

end Gutter.Linter
