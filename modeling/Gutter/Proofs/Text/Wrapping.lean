import Gutter.Text.Wrap
import Mathlib.Data.List.Chain
import Mathlib.Data.List.DropRight

/-! Wrapped lines against the text that they come from. Every character of the text is in a line or
among the blanks that are left out behind one; a line ends at a newline or where the next word would
not have fitted, and only a word of its own may be wider than the width. -/

namespace Gutter.Text

/-- Nothing but blanks. -/
def Blank (text : List Char) : Prop := ∀ c ∈ text, isBlank c = true

/-- No blanks. -/
def Solid (text : List Char) : Prop := ∀ c ∈ text, isBlank c = false

/-- The first character is no blank. -/
def StartsSolid (text : List Char) : Prop := ∃ c ∈ text.head?, isBlank c = false

/-- The last character, if there is one, is no blank. -/
def EndsSolid (text : List Char) : Prop := ∀ c ∈ text.getLast?, isBlank c = false

/-- The word with which a text starts. -/
def firstWord (text : List Char) : List Char := text.takeWhile (!isBlank ·)

/-- One word, which may be indented. -/
def Lone (line : List Char) : Prop :=
  ∃ indent word, line = indent ++ word ∧ Blank indent ∧ word ≠ [] ∧ Solid word

section Blanks

variable {text more word gap : List Char} {c : Char}

theorem blank_nil : Blank [] := fun _ h => (List.not_mem_nil h).elim

theorem blank_append : Blank (text ++ more) ↔ Blank text ∧ Blank more := List.forall_mem_append

theorem Solid.noNewline (h : Solid word) : '\n' ∉ word := by
  intro hm
  have := h '\n' hm
  revert this
  decide

theorem not_hasInk_iff : hasInk text = false ↔ Blank text := by
  simp [hasInk, Blank]

theorem startsSolid_append (h : word ≠ []) (hword : Solid word) : StartsSolid (word ++ more) := by
  obtain ⟨c, rest, rfl⟩ := List.exists_cons_of_ne_nil h
  exact ⟨c, rfl, hword c List.mem_cons_self⟩

/-- A text that starts with no blank does not start with what starts with one. -/
theorem StartsSolid.of_append (h : StartsSolid (text ++ more))
    (hmore : ∀ c ∈ more.head?, isBlank c = true) : StartsSolid text := by
  obtain ⟨c, hc, hsolid⟩ := h
  cases text with
  | nil =>
    rw [List.nil_append] at hc
    rw [hmore c hc] at hsolid
    cases hsolid
  | cons d text => exact ⟨c, hc, hsolid⟩

theorem EndsSolid.append (h : word ≠ []) (hword : Solid word) : EndsSolid (text ++ word) := by
  intro c hc
  rw [List.getLast?_append_of_ne_nil _ h] at hc
  exact hword c (List.mem_of_getLast? hc)

/-- The first word of a text is that of its start, if blanks or nothing follow. -/
theorem firstWord_append (h : ∀ c ∈ more.head?, isBlank c = true) :
    firstWord (text ++ more) = firstWord text := by
  unfold firstWord
  have hmore : more.takeWhile (!isBlank ·) = [] := by
    cases more with
    | nil => rfl
    | cons c more => exact List.takeWhile_cons_of_neg (by simp [h c rfl])
  rw [List.takeWhile_append, hmore]
  split
  next hall => rw [List.append_nil, (List.takeWhile_prefix _).eq_of_length hall]
  · rfl

theorem firstWord_of_solid (h : Solid word) : firstWord word = word :=
  List.takeWhile_eq_self_iff.mpr fun c hc => by simp [h c hc]

/-! ### Without the blanks at the end -/

theorem trimEnd_eq (text : List Char) : trimEnd text = text.rdropWhile isBlank := rfl

theorem trimEnd_append_rtakeWhile (text : List Char) :
    trimEnd text ++ text.rtakeWhile isBlank = text := List.rdropWhile_append_rtakeWhile

theorem blank_rtakeWhile (text : List Char) : Blank (text.rtakeWhile isBlank) :=
  fun _ h => List.mem_rtakeWhile_imp h

theorem endsSolid_trimEnd (text : List Char) : EndsSolid (trimEnd text) := by
  intro c hc
  rw [trimEnd_eq] at hc
  obtain ⟨hne, rfl⟩ := List.mem_getLast?_eq_getLast hc
  simpa using List.rdropWhile_last_not isBlank text hne

theorem trimEnd_of_endsSolid (h : EndsSolid text) : trimEnd text = text :=
  List.rdropWhile_eq_self_iff.mpr fun hne => by
    simp [h (text.getLast hne) (List.getLast?_eq_getLast_of_ne_nil hne)]

theorem rtakeWhile_ne_nil (h : ¬EndsSolid text) : text.rtakeWhile isBlank ≠ [] := by
  refine fun hnil => h fun c hc => ?_
  obtain ⟨hne, rfl⟩ := List.mem_getLast?_eq_getLast hc
  simpa using List.rtakeWhile_eq_nil_iff.mp hnil hne

theorem trimEnd_append_blank (h : isBlank c = true) : trimEnd (text ++ [c]) = trimEnd text :=
  List.rdropWhile_concat_pos isBlank text c h

end Blanks

/-! ### Words -/

/-- A word, and blanks behind it. -/
structure Spaced.Proper (s : Spaced) : Prop where
  nonempty : s.word ≠ []
  word : Solid s.word
  gap : Blank s.gap

/-- Words with blanks between them. -/
def AreProper : List Spaced → Prop
  | [] => True
  | s :: rest => s.Proper ∧ (rest ≠ [] → s.gap ≠ []) ∧ AreProper rest

/-- The text that words make. -/
def written (words : List Spaced) : List Char := words.flatMap fun s => s.word ++ s.gap

@[simp] theorem written_cons (s : Spaced) (rest : List Spaced) :
    written (s :: rest) = s.word ++ s.gap ++ written rest := List.flatMap_cons

theorem startsSolid_written {words : List Spaced} (h : AreProper words) (hne : words ≠ []) :
    StartsSolid (written words) := by
  obtain ⟨s, rest, rfl⟩ := List.exists_cons_of_ne_nil hne
  rw [written_cons, List.append_assoc]
  exact startsSolid_append h.1.nonempty h.1.word

/-- Blanks or nothing follow a word. -/
theorem blank_head_gap {gap : List Char} {rest : List Spaced} (hblank : Blank gap)
    (hgap : rest ≠ [] → gap ≠ []) : ∀ c ∈ (gap ++ written rest).head?, isBlank c = true := by
  intro c hc
  cases gap with
  | nil =>
    obtain rfl : rest = [] := by_contra fun hne => hgap hne rfl
    cases hc
  | cons d gap =>
    cases hc
    exact hblank c List.mem_cons_self

theorem firstWord_written {s : Spaced} {rest : List Spaced} (h : s.Proper)
    (hgap : rest ≠ [] → s.gap ≠ []) : firstWord (s.word ++ s.gap ++ written rest) = s.word := by
  rw [List.append_assoc, firstWord_append (blank_head_gap h.gap hgap), firstWord_of_solid h.word]

/-- A text is the blanks at its start and its words. -/
theorem spacedWords_spec (text : List Char) :
    (spacedWords text).1 ++ written (spacedWords text).2 = text ∧
      Blank (spacedWords text).1 ∧ AreProper (spacedWords text).2 := by
  induction text with
  | nil => exact ⟨rfl, blank_nil, trivial⟩
  | cons c text ih =>
    obtain ⟨htext, hlead, hwords⟩ := ih
    unfold spacedWords
    cases hblank : isBlank c with
    | true =>
      simp only [if_true]
      exact ⟨congrArg (c :: ·) htext, List.forall_mem_cons.mpr ⟨hblank, hlead⟩, hwords⟩
    | false =>
      simp only [Bool.false_eq_true, if_false]
      split
      next next more hnil hcons =>
        rw [hnil, hcons] at htext
        rw [hcons] at hwords
        obtain ⟨hnext, hgap, hmore⟩ := hwords
        refine ⟨congrArg (c :: ·) htext, blank_nil, ?_, hgap, hmore⟩
        exact ⟨List.cons_ne_nil _ _, List.forall_mem_cons.mpr ⟨hblank, hnext.word⟩, hnext.gap⟩
      next hnot =>
        refine ⟨congrArg (c :: ·) htext, blank_nil, ?_, ?_, hwords⟩
        · exact ⟨List.cons_ne_nil _ _, List.forall_mem_singleton.mpr hblank, hlead⟩
        · intro hrest hnil
          obtain ⟨next, more, hcons⟩ := List.exists_cons_of_ne_nil hrest
          exact hnot next more hnil hcons

/-! ### Lines -/

/-- A line, and the blanks behind it that are left out. -/
structure Piece where
  line : List Char
  gap : List Char

def Piece.text (piece : Piece) : List Char := piece.line ++ piece.gap

/-- What a line may be: it has no newline and ends in no blank, and one that is too wide has a
single word. An empty line has none; it is too wide for negative widths only. -/
structure IsLine (width : Int) (line : List Char) : Prop where
  noNewline : '\n' ∉ line
  endsSolid : EndsSolid line
  wide : line ≠ [] → width < line.length → Lone line

/-- The pieces of a text. What stands before them is blank, and it is the whole text if there are
none. -/
inductive Filled (width : Int) : List Char → List Char → List Piece → Prop
  | blank {lead : List Char} (hblank : Blank lead) (hnewline : '\n' ∉ lead) :
    Filled width lead lead []
  | last {line gap : List Char} (hline : IsLine width line) (hblank : Blank gap)
    (hnewline : '\n' ∉ gap) : Filled width (line ++ gap) [] [⟨line, gap⟩]
  | newline {line gap text lead : List Char} {pieces : List Piece} (hline : IsLine width line)
    (hblank : Blank gap) (hnewline : '\n' ∉ gap) (rest : Filled width text lead pieces) :
    Filled width (line ++ gap ++ '\n' :: text) [] (⟨line, gap ++ '\n' :: lead⟩ :: pieces)
  | full {line gap text : List Char} {pieces : List Piece} (hline : IsLine width line)
    (hgap : gap ≠ []) (hblank : Blank gap) (hnewline : '\n' ∉ gap) (hstarts : StartsSolid text)
    (hwide : width < line.length + gap.length + (firstWord text).length)
    (rest : Filled width text [] pieces) :
    Filled width (line ++ gap ++ text) [] (⟨line, gap⟩ :: pieces)

/-- The line of a piece ends at a newline, and no other is left out behind it. -/
def Piece.EndsAtNewline (piece : Piece) : Prop :=
  piece.gap.count '\n' = 1 ∧ piece.gap.getLast? = some '\n'

/-- The line of a piece ends at blanks in a line of the text, since it had no room for the word
after them. -/
structure Piece.IsFull (width : Int) (piece next : Piece) : Prop where
  gap : piece.gap ≠ []
  noNewline : '\n' ∉ piece.gap
  startsSolid : StartsSolid next.line
  wide : width < piece.line.length + piece.gap.length + (firstWord next.line).length

namespace Filled

variable {width : Int} {text lead : List Char} {pieces : List Piece}

theorem text_eq (h : Filled width text lead pieces) : text = lead ++ pieces.flatMap Piece.text := by
  induction h with
  | blank => simp
  | last => simp [Piece.text]
  | newline _ _ _ _ ih => simp [Piece.text, ih]
  | full _ _ _ _ _ _ _ ih => rw [ih]; simp [Piece.text]

theorem lead_eq_nil (h : Filled width text lead pieces) (hne : pieces ≠ []) : lead = [] := by
  cases h with
  | blank => exact (hne rfl).elim
  | _ => rfl

theorem lead_blank (h : Filled width text lead pieces) : Blank lead ∧ '\n' ∉ lead := by
  cases h with
  | blank hblank hnewline => exact ⟨hblank, hnewline⟩
  | _ => exact ⟨blank_nil, List.not_mem_nil⟩

theorem isLine (h : Filled width text lead pieces) :
    ∀ piece ∈ pieces, IsLine width piece.line ∧ Blank piece.gap := by
  induction h with
  | blank => exact fun _ h => (List.not_mem_nil h).elim
  | last hline hblank => exact List.forall_mem_singleton.mpr ⟨hline, hblank⟩
  | newline hline hblank _ rest ih =>
    refine List.forall_mem_cons.mpr ⟨⟨hline, blank_append.mpr ⟨hblank, ?_⟩⟩, ih⟩
    exact List.forall_mem_cons.mpr ⟨by decide, rest.lead_blank.1⟩
  | full hline _ hblank _ _ _ _ ih => exact List.forall_mem_cons.mpr ⟨⟨hline, hblank⟩, ih⟩

/-- What a text starts with is in its first line. -/
theorem starts {first : Piece} {rest : List Piece} (h : Filled width text [] (first :: rest))
    (hstarts : StartsSolid text) :
    StartsSolid first.line ∧ firstWord first.line = firstWord text := by
  obtain ⟨more, rfl, hmore⟩ : ∃ more, text = first.line ++ more ∧
      ∀ c ∈ more.head?, isBlank c = true := by
    cases h with
    | last hline hblank => exact ⟨_, rfl, fun c hc => hblank c (List.mem_of_mem_head? hc)⟩
    | @newline line gap =>
      rename_i hblank _ _
      refine ⟨_, List.append_assoc .., fun c hc => ?_⟩
      cases gap with
      | nil =>
        cases hc
        decide
      | cons d gap => exact hblank c (List.mem_of_mem_head? hc)
    | full hline hgap hblank =>
      refine ⟨_, List.append_assoc .., fun c hc => ?_⟩
      rw [List.head?_append_of_ne_nil _ hgap] at hc
      exact hblank c (List.mem_of_mem_head? hc)
  exact ⟨hstarts.of_append hmore, (firstWord_append hmore).symm⟩

/-- A line is followed by another where it ends at a newline or has no room left. -/
theorem breaks (h : Filled width text lead pieces) :
    pieces.IsChain fun piece next => piece.EndsAtNewline ∨ piece.IsFull width next := by
  induction h with
  | blank => exact .nil
  | last => exact .singleton _
  | newline _ _ hnewline rest ih =>
    refine List.isChain_cons.mpr ⟨fun next hnext => .inl ?_, ih⟩
    have hlead := rest.lead_eq_nil (List.ne_nil_of_mem (List.mem_of_mem_head? hnext))
    simp [Piece.EndsAtNewline, hlead, List.count_eq_zero_of_not_mem hnewline]
  | @full line gap text pieces _ hgap _ hnewline hstarts hwide rest ih =>
    refine List.isChain_cons.mpr ⟨fun next hnext => .inr ?_, ih⟩
    obtain ⟨rest', rfl⟩ := List.head?_eq_some_iff.mp hnext
    obtain ⟨hnext, hword⟩ := rest.starts hstarts
    exact ⟨hgap, hnewline, hnext, hword ▸ hwide⟩

/-- Behind the last line there is one newline at most. -/
theorem last_newline (h : Filled width text lead pieces) :
    ∀ piece ∈ pieces.getLast?, piece.gap.count '\n' ≤ 1 := by
  induction h with
  | blank => exact fun _ h => (Option.not_mem_none _ h).elim
  | last _ _ hnewline =>
    rintro piece ⟨rfl⟩
    simp [List.count_eq_zero_of_not_mem hnewline]
  | @newline line gap text lead pieces _ _ hnewline rest ih =>
    intro piece hlast
    cases pieces with
    | nil =>
      cases hlast
      simp [List.count_eq_zero_of_not_mem hnewline,
        List.count_eq_zero_of_not_mem rest.lead_blank.2]
    | cons next more => exact ih piece (by rwa [List.getLast?_cons_cons] at hlast)
  | @full line gap text pieces _ _ _ hnewline _ _ rest ih =>
    intro piece hlast
    cases pieces with
    | nil =>
      cases hlast
      simp [List.count_eq_zero_of_not_mem hnewline]
    | cons next more => exact ih piece (by rwa [List.getLast?_cons_cons] at hlast)

/-- A text that starts with no blank has nothing before its first line. -/
theorem lead_of_starts (h : Filled width text lead pieces) (hstarts : StartsSolid text) :
    lead = [] := by
  cases h with
  | blank hblank =>
    obtain ⟨c, hc, hsolid⟩ := hstarts
    rw [hblank c (List.mem_of_mem_head? hc)] at hsolid
    cases hsolid
  | _ => rfl

end Filled

/-! ### Filling -/

/-- The lines of the pieces of a text. -/
def Fills (width : Int) (text : List Char) (lines : List (List Char)) : Prop :=
  ∃ lead pieces, Filled width text lead pieces ∧ lines = pieces.map (·.line)

/-- What the start of a line may be. -/
structure Begun (width : Int) (current : List Char) : Prop where
  noNewline : '\n' ∉ current
  wide : trimEnd current ≠ [] → width < (trimEnd current).length → Lone (trimEnd current)

section Filling

variable {width : Int} {current word gap : List Char} {rest : List Spaced} {c : Char}

theorem begun_nil : Begun width [] where
  noNewline := List.not_mem_nil
  wide := fun hne _ => (hne rfl).elim

theorem Begun.isLine (h : Begun width current) : IsLine width (trimEnd current) where
  noNewline := fun hm => h.noNewline ((List.rdropWhile_prefix isBlank current).mem hm)
  endsSolid := endsSolid_trimEnd current
  wide := h.wide

theorem Begun.append_blank (h : Begun width current) (hblank : isBlank c = true) (hc : c ≠ '\n') :
    Begun width (current ++ [c]) where
  noNewline := by simpa using ⟨h.noNewline, hc.symm⟩
  wide := by
    rw [trimEnd_append_blank hblank]
    exact h.wide

/-- A word for which there is room goes on with a line; a blank line takes any word. -/
theorem Begun.append_word (h : Begun width current) (hne : word ≠ []) (hword : Solid word)
    (hroom : ¬(hasInk current = true ∧ width < current.length + word.length)) :
    Begun width (current ++ word) where
  noNewline := by simpa using ⟨h.noNewline, hword.noNewline⟩
  wide := by
    rw [trimEnd_of_endsSolid (EndsSolid.append hne hword), List.length_append]
    intro _ hwide
    have hblank : hasInk current = false := by
      refine Bool.eq_false_iff.mpr fun hink => hroom ⟨hink, ?_⟩
      exact_mod_cast hwide
    exact ⟨current, word, rfl, not_hasInk_iff.mp hblank, hne, hword⟩

theorem Begun.noNewline_gap (h : Begun width current) : '\n' ∉ current.rtakeWhile isBlank :=
  fun hm => h.noNewline ((List.rtakeWhile_suffix isBlank current).mem hm)

/-- The next word stands apart from what there is of the line. -/
def Apart (current : List Char) (rest : List Spaced) : Prop :=
  rest ≠ [] → hasInk current = true → ¬EndsSolid current

theorem fills_breakGap (hrest : ∀ current, Begun width current → Apart current rest →
      Fills width (current ++ written rest) (fillLines width current rest))
    (hgap : Blank gap) (hbegun : Begun width current) (hapart : gap = [] → Apart current rest) :
    Fills width (current ++ gap ++ written rest)
      ((breakGap current gap).1 ++ fillLines width (breakGap current gap).2 rest) := by
  induction gap generalizing current with
  | nil => simpa [breakGap] using hrest current hbegun (hapart rfl)
  | cons c gap ih =>
    obtain ⟨hblank, hrestGap⟩ := List.forall_mem_cons.mp hgap
    unfold breakGap
    split
    next hc =>
      subst hc
      obtain ⟨lead, pieces, hfilled, hlines⟩ :=
        ih hrestGap begun_nil fun _ _ hink => by cases hink
      refine ⟨[], ⟨trimEnd current, current.rtakeWhile isBlank ++ '\n' :: lead⟩ :: pieces, ?_,
        congrArg (trimEnd current :: ·) hlines⟩
      have hnewline := Filled.newline hbegun.isLine (blank_rtakeWhile current)
        hbegun.noNewline_gap hfilled
      rw [trimEnd_append_rtakeWhile] at hnewline
      simpa using hnewline
    next hc =>
      have happended :
          current ++ [c] ++ gap ++ written rest = current ++ c :: gap ++ written rest := by simp
      rw [← happended]
      refine ih hrestGap (hbegun.append_blank hblank hc) fun _ _ _ hends => ?_
      rw [hends c (by simp)] at hblank
      cases hblank

theorem fills_fillLines (words : List Spaced) (hwords : AreProper words)
    (hbegun : Begun width current) (hapart : Apart current words) :
    Fills width (current ++ written words) (fillLines width current words) := by
  induction words generalizing current with
  | nil =>
    rw [show written [] = [] from rfl, List.append_nil]
    unfold fillLines
    split
    next hink =>
      refine ⟨[], [⟨trimEnd current, current.rtakeWhile isBlank⟩], ?_, rfl⟩
      have hlast := Filled.last hbegun.isLine (blank_rtakeWhile current)
        hbegun.noNewline_gap
      rwa [trimEnd_append_rtakeWhile] at hlast
    next hink =>
      exact ⟨current, [], .blank (not_hasInk_iff.mp (by simpa using hink)) hbegun.noNewline, rfl⟩
  | cons s rest ih =>
    obtain ⟨word, gap⟩ := s
    obtain ⟨hproper, hgaps, hrest⟩ := hwords
    -- The words behind this one are filled in after the blanks between them.
    have hfill : ∀ current, Begun width current →
        Fills width (current ++ gap ++ written rest)
          ((breakGap current gap).1 ++ fillLines width (breakGap current gap).2 rest) :=
      fun current hbegun => fills_breakGap (fun _ => ih hrest) hproper.gap hbegun
        fun hnil hne => (hgaps hne hnil).elim
    rw [written_cons]
    unfold fillLines
    split
    next hfull =>
      have hword : Begun width word := by
        have hnothing : Begun width [] := begun_nil
        have hlone := hnothing.append_word hproper.nonempty hproper.word
          fun hink => by cases hink.1
        rwa [List.nil_append] at hlone
      obtain ⟨lead, pieces, hfilled, hlines⟩ := hfill word hword
      have hstarts : StartsSolid (word ++ gap ++ written rest) := by
        rw [List.append_assoc]
        exact startsSolid_append hproper.nonempty hproper.word
      obtain rfl := hfilled.lead_of_starts hstarts
      have hends : ¬EndsSolid current := hapart (List.cons_ne_nil _ _) hfull.1
      have hfirst : firstWord (word ++ gap ++ written rest) = word :=
        firstWord_written hproper hgaps
      have hlength := congrArg List.length (trimEnd_append_rtakeWhile current)
      rw [List.length_append] at hlength
      refine ⟨[], ⟨trimEnd current, current.rtakeWhile isBlank⟩ :: pieces, ?_,
        congrArg (trimEnd current :: ·) hlines⟩
      have hpieces := Filled.full hbegun.isLine (rtakeWhile_ne_nil hends)
        (blank_rtakeWhile current) hbegun.noNewline_gap hstarts
        (by rw [hfirst]; omega) hfilled
      rwa [trimEnd_append_rtakeWhile] at hpieces
    next hroom =>
      have hnext := hfill _ (hbegun.append_word hproper.nonempty hproper.word hroom)
      simpa using hnext

end Filling

/-- What a wrapped text is made of: the blanks before its first line, and its lines with the blanks
that are left out behind each. A text without lines is all blanks. -/
structure IsWrapped (width : Int) (text lead : List Char) (pieces : List Piece) : Prop where
  text : text = lead ++ pieces.flatMap Piece.text
  lead : Blank lead
  first : ∀ piece ∈ pieces.head?, StartsSolid piece.line
  lines : ∀ piece ∈ pieces, IsLine width piece.line
  gaps : ∀ piece ∈ pieces, Blank piece.gap
  breaks : pieces.IsChain fun piece next => piece.EndsAtNewline ∨ piece.IsFull width next
  last : ∀ piece ∈ pieces.getLast?, piece.gap.count '\n' ≤ 1

/-- Wrapping loses nothing but blanks, breaks lines at newlines and where it must, and exceeds the
width for lone words only. -/
theorem wrap_isWrapped (text : String) (width : Int) :
    ∃ lead pieces, wrap text width = pieces.map (fun piece => String.ofList piece.line) ∧
      IsWrapped width text.toList lead pieces := by
  obtain ⟨htext, hblank, hwords⟩ := spacedWords_spec text.toList
  have hbegun : Begun width [] := begun_nil
  obtain ⟨lead, pieces, hfilled, hlines⟩ :=
    fills_fillLines (spacedWords text.toList).2 hwords hbegun fun _ hink => by cases hink
  have hfirst : ∀ piece ∈ pieces.head?, StartsSolid piece.line := by
    intro piece hm
    obtain ⟨rest, rfl⟩ := List.head?_eq_some_iff.mp hm
    obtain rfl := hfilled.lead_eq_nil (List.cons_ne_nil _ _)
    refine (hfilled.starts (startsSolid_written hwords fun hnil => ?_)).1
    rw [hnil] at hlines
    cases hlines
  refine ⟨(spacedWords text.toList).1 ++ lead, pieces, ?_, ?_⟩
  · rw [wrap, wrapChars, hlines, List.map_map]
    rfl
  · exact {
      text := by rw [List.append_assoc, ← hfilled.text_eq, List.nil_append, htext]
      lead := blank_append.mpr ⟨hblank, hfilled.lead_blank.1⟩
      first := hfirst
      lines := fun piece hm => (hfilled.isLine piece hm).1
      gaps := fun piece hm => (hfilled.isLine piece hm).2
      breaks := hfilled.breaks
      last := hfilled.last_newline }

end Gutter.Text
