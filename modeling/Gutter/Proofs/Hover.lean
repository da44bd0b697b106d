import Gutter.Hover
import Gutter.Proofs.Text.Rewrapping

/-! Hover boxes. Messages that start with a word and end on its line are wrapped one by one, with an
empty line between them. The last line of a box is empty where more than one newline stands behind
the last word: in the last message, or because that is blank. -/

namespace Gutter

namespace Text

section Boxes

variable {width : Int} {text message : List Char} {messages : List (List Char)}

/-- A newline behind a text that ends on the line of its last word cuts it off from what follows. -/
theorem fillFrom_append_newline (hink : hasInk text = true) (hnone : newlinesBehind text = 0)
    (more : List Char) :
    fillFrom width [] (text ++ '\n' :: more) =
      fillFrom width [] text ++ fillFrom width [] more := by
  obtain ⟨before, last, hlast, hend⟩ := fillFrom_end width hink
  have hgap := blank_rtakeWhile text
  have hnewline : '\n' ∉ text.rtakeWhile isBlank := List.count_eq_zero.mp hnone
  have htext := hend [] not_startsSolid_nil
  rw [fillFrom_gap hgap hnewline, fillFrom_nil, if_pos (by simp [hlast]), List.append_nil] at htext
  rw [hend _ (not_startsSolid_newline more), htext, fillFrom_gap hgap hnewline, fillFrom_newline,
    List.append_assoc, List.singleton_append]

theorem startsSolid_intercalate (h : StartsSolid message) :
    StartsSolid (['\n', '\n'].intercalate (message :: messages)) := by
  cases messages with
  | nil => rwa [List.intercalate_singleton]
  | cons next more =>
    rw [List.intercalate_cons_cons, List.append_assoc]
    exact h.append

theorem wrapChars_intercalate
    (h : ∀ message ∈ messages, StartsSolid message ∧ newlinesBehind message = 0) :
    wrapChars width (['\n', '\n'].intercalate messages) =
      [[]].intercalate (messages.map (wrapChars width)) := by
  induction messages with
  | nil => rfl
  | cons message rest ih =>
    obtain ⟨⟨hstarts, hnone⟩, hrest⟩ := List.forall_mem_cons.mp h
    cases rest with
    | nil => simp
    | cons next more =>
      have hjoined : ['\n', '\n'].intercalate (message :: next :: more) =
          message ++ '\n' :: '\n' :: ['\n', '\n'].intercalate (next :: more) := by
        simp
      have hnext : StartsSolid (['\n', '\n'].intercalate (next :: more)) :=
        startsSolid_intercalate (hrest next List.mem_cons_self).1
      rw [hjoined, wrapChars_of_startsSolid hstarts.append,
        fillFrom_append_newline (hasInk_of_startsSolid hstarts) hnone, fillFrom_newline,
        ← wrapChars_of_startsSolid hstarts, ← wrapChars_of_startsSolid hnext, ih hrest]
      simp [trimEnd, trimEndWhere]

theorem hasInk_intercalate :
    hasInk (['\n', '\n'].intercalate messages) = true ↔
      ∃ message ∈ messages, hasInk message = true := by
  have hseparator : hasInk ['\n', '\n'] = false := by decide
  induction messages with
  | nil => simp [hasInk]
  | cons message rest ih =>
    cases rest with
    | nil => simp
    | cons next more =>
      rw [List.intercalate_cons_cons, hasInk_append, hasInk_append, hseparator, Bool.or_false,
        Bool.or_eq_true, List.exists_mem_cons_iff]
      exact or_congr Iff.rfl ih

/-- A separator already has two newlines: there are two behind the last word of messages, unless the
last message has that word and fewer. -/
theorem newlinesBehind_intercalate (h : ∃ message ∈ messages, hasInk message = true) :
    2 ≤ newlinesBehind (['\n', '\n'].intercalate messages) ↔
      ∀ last ∈ messages.getLast?, hasInk last = true → 2 ≤ newlinesBehind last := by
  induction messages with
  | nil =>
    obtain ⟨message, hm, -⟩ := h
    cases hm
  | cons message rest ih =>
    cases rest with
    | nil =>
      obtain ⟨only, hm, hink⟩ := h
      obtain rfl := List.mem_singleton.mp hm
      simp [hink]
    | cons next more =>
      rw [List.intercalate_cons_cons, List.getLast?_cons_cons]
      by_cases hink : ∃ message ∈ next :: more, hasInk message = true
      · rw [newlinesBehind_append (hasInk_intercalate.mpr hink)]
        exact ih hink
      · have hblank := Bool.eq_false_iff.mpr (mt hasInk_intercalate.mp hink)
        have hseparator : newlinesBehind (message ++ ['\n', '\n']) = newlinesBehind message + 2 :=
          newlinesBehind_append_of_blank (by decide)
        rw [newlinesBehind_append_of_blank hblank, hseparator]
        constructor
        · intro _ last hlast hlastInk
          exact (hink ⟨last, List.mem_of_mem_getLast? hlast, hlastInk⟩).elim
        · intro _
          omega

end Boxes

theorem getLast?_map_ofList {lines : List (List Char)} :
    (lines.map String.ofList).getLast? = some "" ↔ lines.getLast? = some [] := by
  rw [List.getLast?_map]
  cases lines.getLast? with
  | none => simp
  | some line =>
    rw [Option.map_some, Option.some.injEq, Option.some.injEq]
    exact String.ofList_eq_empty_iff

theorem map_intercalate {α β : Type} (f : α → β) (separator : List α) (parts : List (List α)) :
    (separator.intercalate parts).map f =
      (separator.map f).intercalate (parts.map (List.map f)) := by
  induction parts with
  | nil => rfl
  | cons part rest ih =>
    cases rest with
    | nil => simp
    | cons next more =>
      rw [List.intercalate_cons_cons, List.map_append, List.map_append, ih]
      simp

end Text

open Text (StartsSolid hasInk newlinesBehind wrap wrapChars)

theorem hoverText_eq (warnings : List Warning) (width : Int) :
    hoverText warnings width =
      (wrapChars width (['\n', '\n'].intercalate
        (warnings.map (·.message.toList)))).map String.ofList := by
  rw [hoverText, wrap, String.toList_intercalate, List.map_map]
  rfl

/-- The last line of a text is empty if there is more than one newline behind its last word. That of
a hover box is empty if the last message is blank and another one is not, or if it ends like such a
text. -/
theorem final_line_empty_iff (text : String) (warnings : List Warning) (width : Int) :
    ((wrap text width).getLast? = some "" ↔
        hasInk text.toList = true ∧ 2 ≤ newlinesBehind text.toList) ∧
      ((hoverText warnings width).getLast? = some "" ↔
        (∃ warning ∈ warnings, hasInk warning.message.toList = true) ∧
          ∀ last ∈ warnings.getLast?, hasInk last.message.toList = true →
            2 ≤ newlinesBehind last.message.toList) := by
  constructor
  · rw [wrap, Text.getLast?_map_ofList, Text.getLast?_wrapChars]
  · have hsome : (∃ message ∈ warnings.map (·.message.toList), hasInk message = true) ↔
        ∃ warning ∈ warnings, hasInk warning.message.toList = true := by
      simp
    rw [hoverText_eq, Text.getLast?_map_ofList, Text.getLast?_wrapChars, Text.hasInk_intercalate,
      hsome]
    refine and_congr_right fun hink => ?_
    rw [Text.newlinesBehind_intercalate (hsome.mpr hink), List.getLast?_map]
    simp

/-- A text with a blank line at its end, and a box whose last message is empty. -/
theorem blank_line_is_last :
    wrap "a\n\n" 80 = ["a", ""] ∧
      hoverText [⟨1, 1, "a", none⟩, ⟨1, 1, "", none⟩] 80 = ["a", ""] := by
  decide

/-- Messages that start with a word and end on its line are wrapped one by one, with an empty line
between them. -/
theorem messages_keep_apart {warnings : List Warning}
    (h : ∀ warning ∈ warnings, StartsSolid warning.message.toList ∧
      newlinesBehind warning.message.toList = 0) (width : Int) :
    hoverText warnings width =
      [""].intercalate (warnings.map fun warning => wrap warning.message width) := by
  rw [hoverText_eq, Text.wrapChars_intercalate (by simpa using h), Text.map_intercalate,
    List.map_map, List.map_map]
  rfl

/-- The first message is broken for its width and loses the blank at its end; the second has a
newline of its own, and its line stays indented. -/
theorem three_messages_keep_apart :
    let warnings : List Warning := [⟨3, 1, "unused variable 'x' ", none⟩,
      ⟨3, 9, "shadowed by\n  an import", some "plain"⟩, ⟨4, 1, "x", none⟩]
    (∀ warning ∈ warnings, StartsSolid warning.message.toList ∧
        newlinesBehind warning.message.toList = 0) ∧
      hoverText warnings 12 =
        ["unused", "variable 'x'", "", "shadowed by", "  an import", "", "x"] := by
  intro warnings
  have h : ∀ warning ∈ warnings, StartsSolid warning.message.toList ∧
      newlinesBehind warning.message.toList = 0 := by
    intro warning hm
    simp only [warnings, List.mem_cons, List.not_mem_nil, or_false] at hm
    obtain rfl | rfl | rfl := hm
    · exact ⟨⟨'u', rfl, by decide⟩, by decide⟩
    · exact ⟨⟨'s', rfl, by decide⟩, by decide⟩
    · exact ⟨⟨'x', rfl, by decide⟩, by decide⟩
  refine ⟨h, ?_⟩
  rw [messages_keep_apart h]
  decide

end Gutter
