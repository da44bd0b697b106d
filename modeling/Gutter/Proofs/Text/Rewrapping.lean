import Gutter.Proofs.Text.Wrapping

/-! Texts wrapped to another width, and wrapped again. A text goes on in one of four ways: it ends,
or a newline, another blank or a whole word comes next. What each of them does to the line that is
being filled carries over to the whole text: a wide box stays ahead of a narrow one, a line that is
filled again is filled as it was, and the last lines are known from the last word of a text and the
blanks behind it. -/

namespace Gutter.Text

section Starts

variable {text more gap word : List Char} {c : Char}

theorem not_startsSolid_nil : ¬StartsSolid [] := by
  rintro ⟨c, hc, -⟩
  cases hc

theorem startsSolid_cons : StartsSolid (c :: text) ↔ isBlank c = false := by
  simp [StartsSolid]

theorem not_startsSolid_newline (text : List Char) : ¬StartsSolid ('\n' :: text) :=
  mt startsSolid_cons.mp (by decide)

theorem not_startsSolid_iff : ¬StartsSolid text ↔ ∀ c ∈ text.head?, isBlank c = true := by
  simp [StartsSolid]

theorem Blank.not_startsSolid (h : Blank gap) : ¬StartsSolid gap :=
  not_startsSolid_iff.mpr fun c hc => h c (List.mem_of_mem_head? hc)

theorem StartsSolid.append (h : StartsSolid text) : StartsSolid (text ++ more) := by
  cases text with
  | nil => exact (not_startsSolid_nil h).elim
  | cons c text => exact startsSolid_cons.mpr (startsSolid_cons.mp h)

theorem not_startsSolid_append (htext : ¬StartsSolid text) (hmore : ¬StartsSolid more) :
    ¬StartsSolid (text ++ more) := by
  cases text with
  | nil => exact hmore
  | cons c text => exact fun h => htext (startsSolid_cons.mpr (startsSolid_cons.mp h))

/-! ### Ink -/

@[simp] theorem hasInk_append (text more : List Char) :
    hasInk (text ++ more) = (hasInk text || hasInk more) := List.any_append

theorem hasInk_of_startsSolid (h : StartsSolid text) : hasInk text = true := by
  obtain ⟨c, hc, hsolid⟩ := h
  exact List.any_eq_true.mpr ⟨c, List.mem_of_mem_head? hc, by simp [hsolid]⟩

theorem hasInk_of_endsSolid (h : EndsSolid text) (hne : text ≠ []) : hasInk text = true := by
  have hlast := List.getLast?_eq_getLast_of_ne_nil hne
  refine List.any_eq_true.mpr ⟨text.getLast hne, List.getLast_mem hne, ?_⟩
  simp [h _ hlast]

theorem Solid.hasInk (h : Solid word) (hne : word ≠ []) : hasInk word = true :=
  hasInk_of_endsSolid (fun c hc => h c (List.mem_of_getLast? hc)) hne

theorem trimEnd_ne_nil (h : hasInk text = true) : trimEnd text ≠ [] := by
  intro hnil
  have hblank : Blank text := List.rdropWhile_eq_nil_iff.mp hnil
  rw [not_hasInk_iff.mpr hblank] at h
  cases h

/-- Something is left of a text with ink without the blanks at its start. -/
theorem startsSolid_dropWhile (h : hasInk text = true) :
    StartsSolid (text.dropWhile isBlank) := by
  induction text with
  | nil => cases h
  | cons c text ih =>
    cases hc : isBlank c with
    | true =>
      rw [List.dropWhile_cons_of_pos hc]
      exact ih (by simpa [hasInk, hc] using h)
    | false =>
      rw [List.dropWhile_cons_of_neg (by simp [hc])]
      exact startsSolid_cons.mpr hc

theorem dropWhile_of_startsSolid (h : StartsSolid text) : text.dropWhile isBlank = text := by
  cases text with
  | nil => rfl
  | cons c text => exact List.dropWhile_cons_of_neg (by simp [startsSolid_cons.mp h])

end Starts

/-! ### How a text goes on -/

/-- A property of texts holds of all if it holds of the empty one and goes on over a newline, over
another blank, and over a whole word. -/
@[elab_as_elim]
theorem wordInduction {motive : List Char → Prop} (nil : motive [])
    (newline : ∀ text, motive text → motive ('\n' :: text))
    (blank : ∀ c text, isBlank c = true → c ≠ '\n' → motive text → motive (c :: text))
    (word : ∀ word text, word ≠ [] → Solid word → ¬StartsSolid text → motive text →
      motive (word ++ text)) (text : List Char) : motive text := by
  have hgap : ∀ gap text, Blank gap → motive text → motive (gap ++ text) := by
    intro gap text hblank htext
    induction gap with
    | nil => exact htext
    | cons c gap ih =>
      obtain ⟨hc, hblank⟩ := List.forall_mem_cons.mp hblank
      by_cases hnewline : c = '\n'
      · rw [hnewline]
        exact newline _ (ih hblank)
      · exact blank c _ hc hnewline (ih hblank)
  have hwords : ∀ words, AreProper words → motive (written words) := by
    intro words hproper
    induction words with
    | nil => exact nil
    | cons s rest ih =>
      obtain ⟨hs, hne, hrest⟩ := hproper
      have hstop : ¬StartsSolid (s.gap ++ written rest) :=
        not_startsSolid_iff.mpr (blank_head_gap hs.gap hne)
      rw [written_cons, List.append_assoc]
      exact word _ _ hs.nonempty hs.word hstop (hgap _ _ hs.gap (ih hrest))
  obtain ⟨htext, hlead, hproper⟩ := spacedWords_spec text
  rw [← htext]
  exact hgap _ _ hlead (hwords _ hproper)

/-- The lines that a text fills after `current`. The blanks at its start go on with the line. -/
def fillFrom (width : Int) (current text : List Char) : List (List Char) :=
  let (lead, words) := spacedWords text
  let (lines, last) := breakGap current lead
  lines ++ fillLines width last words

/-- There is something on a line already, and a word would reach past its end. -/
def NoRoom (width : Int) (current word : List Char) : Prop :=
  hasInk current = true ∧ width < current.length + word.length

theorem not_noRoom_nil (width : Int) (word : List Char) : ¬NoRoom width [] word := by
  rintro ⟨hink, -⟩
  cases hink

section FillFrom

variable {width : Int} {current text gap word : List Char} {c : Char}

theorem fillFrom_nil :
    fillFrom width current [] = if hasInk current then [trimEnd current] else [] := rfl

theorem fillFrom_newline :
    fillFrom width current ('\n' :: text) = trimEnd current :: fillFrom width [] text := by
  have hblank : isBlank '\n' = true := by decide
  simp [fillFrom, spacedWords, hblank, breakGap]

theorem fillFrom_blank (hblank : isBlank c = true) (hc : c ≠ '\n') :
    fillFrom width current (c :: text) = fillFrom width (current ++ [c]) text := by
  simp [fillFrom, spacedWords, hblank, breakGap, hc]

theorem fillFrom_gap (hblank : Blank gap) (hnewline : '\n' ∉ gap) :
    fillFrom width current (gap ++ text) = fillFrom width (current ++ gap) text := by
  induction gap generalizing current with
  | nil => simp
  | cons c gap ih =>
    obtain ⟨hc, hblank⟩ := List.forall_mem_cons.mp hblank
    obtain ⟨hne, hnewline⟩ := not_or.mp (mt List.mem_cons.mpr hnewline)
    rw [List.cons_append, fillFrom_blank hc (Ne.symm hne), ih hblank hnewline]
    simp

theorem spacedWords_word (hne : word ≠ []) (hword : Solid word) (hstop : ¬StartsSolid text) :
    spacedWords (word ++ text) =
      ([], ⟨word, (spacedWords text).1⟩ :: (spacedWords text).2) := by
  induction word with
  | nil => exact (hne rfl).elim
  | cons c word ih =>
    obtain ⟨hc, hword⟩ := List.forall_mem_cons.mp hword
    cases word with
    | nil =>
      -- The word would go on only if the text behind it started with one.
      have hlead : ∀ next rest, spacedWords text ≠ ([], next :: rest) := by
        intro next rest heq
        obtain ⟨htext, -, hproper⟩ := spacedWords_spec text
        rw [heq] at htext hproper
        rw [← htext] at hstop
        exact hstop (startsSolid_written hproper (List.cons_ne_nil next rest))
      simp only [List.cons_append, List.nil_append, spacedWords, hc, Bool.false_eq_true, if_false]
      split
      next next rest hnil hcons => exact (hlead next rest (Prod.ext hnil hcons)).elim
      · rfl
    | cons d word =>
      rw [List.cons_append, spacedWords, ih (List.cons_ne_nil d word) hword]
      simp [hc]

theorem fillFrom_word (hne : word ≠ []) (hword : Solid word) (hstop : ¬StartsSolid text) :
    fillFrom width current (word ++ text) =
      fillLines width current (⟨word, (spacedWords text).1⟩ :: (spacedWords text).2) := by
  unfold fillFrom
  rw [spacedWords_word hne hword hstop]
  rfl

theorem fillFrom_full (hne : word ≠ []) (hword : Solid word) (hstop : ¬StartsSolid text)
    (hfull : NoRoom width current word) :
    fillFrom width current (word ++ text) = trimEnd current :: fillFrom width word text := by
  rw [fillFrom_word hne hword hstop, fillLines, if_pos ⟨hfull.1, hfull.2⟩]
  rfl

theorem fillFrom_room (hne : word ≠ []) (hword : Solid word) (hstop : ¬StartsSolid text)
    (hroom : ¬NoRoom width current word) :
    fillFrom width current (word ++ text) = fillFrom width (current ++ word) text := by
  rw [fillFrom_word hne hword hstop, fillLines, if_neg fun h => hroom ⟨h.1, h.2⟩]
  rfl

/-- A wrapped text fills its lines from an empty one on, without the blanks at its start. -/
theorem wrapChars_eq (width : Int) (text : List Char) :
    wrapChars width text = fillFrom width [] (text.dropWhile isBlank) := by
  induction text with
  | nil => rfl
  | cons c text ih =>
    cases hc : isBlank c with
    | true =>
      rw [List.dropWhile_cons_of_pos hc, ← ih]
      simp [wrapChars, spacedWords, hc]
    | false =>
      rw [List.dropWhile_cons_of_neg (by simp [hc])]
      have hlead : (spacedWords (c :: text)).1 = [] := by
        simp only [spacedWords, hc, Bool.false_eq_true, if_false]
        split <;> rfl
      simp [wrapChars, fillFrom, hlead, breakGap]

theorem wrapChars_of_startsSolid (h : StartsSolid text) :
    wrapChars width text = fillFrom width [] text := by
  rw [wrapChars_eq, dropWhile_of_startsSolid h]

theorem wrapChars_of_blank (h : hasInk text = false) : wrapChars width text = [] := by
  rw [wrapChars_eq, List.dropWhile_eq_nil_iff.mpr (not_hasInk_iff.mp h)]
  rfl

end FillFrom

/-! ### Wider boxes -/

section Wider

variable {narrow wide : Int} {current ahead word : List Char}

/-- `ahead` leaves more room for the next word than `current`. -/
structure Ahead (ahead current : List Char) : Prop where
  length : ahead.length ≤ current.length
  ink : hasInk ahead = true → hasInk current = true

theorem ahead_refl (current : List Char) : Ahead current current := ⟨Nat.le_refl _, id⟩

theorem ahead_append (current word : List Char) : Ahead word (current ++ word) where
  length := by simp
  ink := by simp +contextual

theorem Ahead.append (h : Ahead ahead current) (more : List Char) :
    Ahead (ahead ++ more) (current ++ more) where
  length := by simpa using h.length
  ink := by
    rw [hasInk_append, hasInk_append, Bool.or_eq_true, Bool.or_eq_true]
    exact Or.imp_left h.ink

/-- Where there is no room in a wide box, there is none in a narrow one. -/
theorem Ahead.noRoom (h : Ahead ahead current) (hwidth : narrow ≤ wide)
    (hfull : NoRoom wide ahead word) : NoRoom narrow current word := by
  have hlength := h.length
  have hpast := hfull.2
  exact ⟨h.ink hfull.1, by omega⟩

/-- Whatever is on their lines, a wide box takes at most one line more than a narrow one for the
rest of a text, and no line more if its own is ahead. -/
theorem length_fillFrom_le (h : narrow ≤ wide) (text ahead current : List Char) :
    (Ahead ahead current →
        (fillFrom wide ahead text).length ≤ (fillFrom narrow current text).length) ∧
      (fillFrom wide ahead text).length ≤ (fillFrom narrow current text).length + 1 := by
  -- After a break the word stands alone on the next line, which is ahead of any line that goes on
  -- with the word. So a break in one of the boxes alone costs it one line and no more.
  induction text using wordInduction generalizing ahead current with
  | nil =>
    rw [fillFrom_nil, fillFrom_nil]
    constructor
    · intro hahead
      have hink := hahead.ink
      split
      next hwide => simp [hink hwide]
      · simp
    · split <;> simp
  | newline text ih =>
    have hrest := (ih [] []).1 (ahead_refl [])
    rw [fillFrom_newline, fillFrom_newline, List.length_cons, List.length_cons]
    exact ⟨fun _ => by omega, by omega⟩
  | blank c text hc hne ih =>
    rw [fillFrom_blank hc hne, fillFrom_blank hc hne]
    exact ⟨fun hahead => (ih _ _).1 (hahead.append [c]), (ih _ _).2⟩
  | word word text hne hword hstop ih =>
    have hsame := (ih word word).1 (ahead_refl word)
    have hbroken := (ih word (current ++ word)).1 (ahead_append current word)
    have hlate := (ih (ahead ++ word) word).2
    obtain ⟨hahead, hmore⟩ := ih (ahead ++ word) (current ++ word)
    by_cases hwide : NoRoom wide ahead word
    · rw [fillFrom_full hne hword hstop hwide, List.length_cons]
      by_cases hnarrow : NoRoom narrow current word
      · rw [fillFrom_full hne hword hstop hnarrow, List.length_cons]
        exact ⟨fun _ => by omega, by omega⟩
      · rw [fillFrom_room hne hword hstop hnarrow]
        exact ⟨fun h' => (hnarrow (h'.noRoom h hwide)).elim, by omega⟩
    · rw [fillFrom_room hne hword hstop hwide]
      by_cases hnarrow : NoRoom narrow current word
      · rw [fillFrom_full hne hword hstop hnarrow, List.length_cons]
        exact ⟨fun _ => by omega, by omega⟩
      · rw [fillFrom_room hne hword hstop hnarrow]
        exact ⟨fun h' => hahead (h'.append word), hmore⟩

/-- A wider box is never taller. -/
theorem wider_is_not_taller (h : narrow ≤ wide) (text : String) :
    (wrap text wide).length ≤ (wrap text narrow).length := by
  rw [wrap, wrap, List.length_map, List.length_map, wrapChars_eq, wrapChars_eq]
  exact (length_fillFrom_le h _ [] []).1 (ahead_refl [])

/-- The two boxes break at different words, and meet again at the newline. -/
theorem wider_takes_fewer :
    (9 : Int) ≤ 16 ∧
      wrap "unused value: x1 y\n  in a_long_name of it" 9 =
        ["unused", "value: x1", "y", "  in", "a_long_name", "of it"] ∧
      wrap "unused value: x1 y\n  in a_long_name of it" 16 =
        ["unused value: x1", "y", "  in a_long_name", "of it"] ∧
      (wrap "unused value: x1 y\n  in a_long_name of it" 16).length ≤
        (wrap "unused value: x1 y\n  in a_long_name of it" 9).length :=
  ⟨by decide, by decide, by decide, wider_is_not_taller (by decide) _⟩

end Wider

/-! ### Lines that are filled again -/

/-- A line that is filled as it was if its text is filled again, whatever follows. -/
def Again (width : Int) (line : List Char) : Prop :=
  ∀ rest, ¬StartsSolid rest → fillFrom width [] (line ++ rest) = fillFrom width line rest

section Again

variable {width : Int} {current word text : List Char} {lines : List (List Char)}

theorem again_nil : Again width [] := fun _ _ => rfl

/-- A word for which there was room has room again. -/
theorem Again.append_word (h : Again width (trimEnd current)) (hnewline : '\n' ∉ current)
    (happart : current ≠ [] → ¬EndsSolid current) (hne : word ≠ []) (hword : Solid word)
    (hroom : ¬NoRoom width current word) : Again width (current ++ word) := by
  intro rest hstop
  by_cases hnil : current = []
  · rw [hnil] at hroom ⊢
    exact fillFrom_room hne hword hstop hroom
  have hblank := blank_rtakeWhile current
  have hinner : '\n' ∉ current.rtakeWhile isBlank :=
    fun hm => hnewline ((List.rtakeWhile_suffix isBlank current).mem hm)
  have hgap : ¬StartsSolid (current.rtakeWhile isBlank ++ (word ++ rest)) := by
    obtain ⟨c, gap, hcons⟩ := List.exists_cons_of_ne_nil (rtakeWhile_ne_nil (happart hnil))
    have hc := hblank c (by rw [hcons]; exact List.mem_cons_self)
    rw [hcons, List.cons_append, startsSolid_cons, hc]
    simp
  calc fillFrom width [] (current ++ word ++ rest)
      = fillFrom width [] (trimEnd current ++ (current.rtakeWhile isBlank ++ (word ++ rest))) := by
        rw [← List.append_assoc (trimEnd current), trimEnd_append_rtakeWhile, List.append_assoc]
    _ = fillFrom width (trimEnd current) (current.rtakeWhile isBlank ++ (word ++ rest)) := h _ hgap
    _ = fillFrom width current (word ++ rest) := by
        rw [fillFrom_gap hblank hinner, trimEnd_append_rtakeWhile]
    _ = fillFrom width (current ++ word) rest := fillFrom_room hne hword hstop hroom

theorem again_word (width : Int) (hne : word ≠ []) (hword : Solid word) : Again width word :=
  again_nil.append_word List.not_mem_nil (fun h => (h rfl).elim) hne hword
    (not_noRoom_nil width word)

/-- Every line of a text is filled again as it was. -/
theorem again_of_mem (h : Again width (trimEnd current)) (hnewline : '\n' ∉ current)
    (happart : StartsSolid text → current ≠ [] → ¬EndsSolid current) :
    ∀ line ∈ fillFrom width current text, EndsSolid line ∧ Again width line := by
  -- The invariant is about the line without the blanks at its end, since they are left out where
  -- the line ends.
  induction text using wordInduction generalizing current with
  | nil =>
    intro line hm
    rw [fillFrom_nil] at hm
    split at hm
    · rw [List.mem_singleton.mp hm]
      exact ⟨endsSolid_trimEnd current, h⟩
    · cases hm
  | newline text ih =>
    rw [fillFrom_newline]
    refine List.forall_mem_cons.mpr ⟨⟨endsSolid_trimEnd current, h⟩, ?_⟩
    exact ih again_nil List.not_mem_nil fun _ hne => (hne rfl).elim
  | blank c text hc hne ih =>
    rw [fillFrom_blank hc hne]
    refine ih (by rwa [trimEnd_append_blank hc]) (by simpa using ⟨hnewline, hne.symm⟩) ?_
    intro _ _ hends
    rw [hends c (by simp)] at hc
    cases hc
  | word word text hne hword hstop ih =>
    by_cases hfull : NoRoom width current word
    · rw [fillFrom_full hne hword hstop hfull]
      refine List.forall_mem_cons.mpr ⟨⟨endsSolid_trimEnd current, h⟩, ?_⟩
      refine ih ?_ hword.noNewline fun hstarts => (hstop hstarts).elim
      rw [trimEnd_of_endsSolid fun c hc => hword c (List.mem_of_getLast? hc)]
      exact again_word width hne hword
    · rw [fillFrom_room hne hword hstop hfull]
      refine ih ?_ ?_ fun hstarts => (hstop hstarts).elim
      · rw [trimEnd_of_endsSolid (EndsSolid.append hne hword)]
        exact h.append_word hnewline (happart (startsSolid_append hne hword)) hne hword hfull
      · simpa using ⟨hnewline, hword.noNewline⟩

/-- Lines that are filled as they were come back from the text that they make up, but for an empty
last one. -/
theorem fillFrom_joinWith (h : ∀ line ∈ lines, EndsSolid line ∧ Again width line) :
    fillFrom width [] (joinWith '\n' lines) = lines ↔ lines.getLast? ≠ some [] := by
  induction lines with
  | nil => simp [joinWith, fillFrom_nil, hasInk]
  | cons line rest ih =>
    obtain ⟨⟨hends, hagain⟩, hrest⟩ := List.forall_mem_cons.mp h
    cases rest with
    | nil =>
      have hline := hagain [] not_startsSolid_nil
      rw [List.append_nil, fillFrom_nil, trimEnd_of_endsSolid hends] at hline
      rw [joinWith, hline]
      by_cases hnil : line = []
      · simp [hnil, hasInk]
      · simp [hasInk_of_endsSolid hends hnil, hnil]
    | cons next more =>
      have hline := hagain _ (not_startsSolid_newline (joinWith '\n' (next :: more)))
      rw [fillFrom_newline, trimEnd_of_endsSolid hends] at hline
      rw [joinWith, hline, List.cons.injEq, List.getLast?_cons_cons, ih hrest]
      · simp
      · exact List.cons_ne_nil next more

/-- What a line starts with stays there. -/
theorem startsSolid_head_fillFrom (h : StartsSolid current) :
    ∀ line ∈ (fillFrom width current text).head?, StartsSolid line := by
  have htrim : ∀ start, StartsSolid start → StartsSolid (trimEnd start) := by
    intro start hstart
    rw [← trimEnd_append_rtakeWhile start] at hstart
    exact hstart.of_append fun c hc => blank_rtakeWhile start c (List.mem_of_mem_head? hc)
  induction text using wordInduction generalizing current with
  | nil =>
    intro line hm
    rw [fillFrom_nil] at hm
    split at hm
    · cases hm
      exact htrim current h
    · cases hm
  | newline text ih =>
    intro line hm
    rw [fillFrom_newline] at hm
    cases hm
    exact htrim current h
  | blank c text hc hne ih =>
    rw [fillFrom_blank hc hne]
    exact ih h.append
  | word word text hne hword hstop ih =>
    by_cases hfull : NoRoom width current word
    · intro line hm
      rw [fillFrom_full hne hword hstop hfull] at hm
      cases hm
      exact htrim current h
    · rw [fillFrom_room hne hword hstop hfull]
      exact ih h.append

/-- The first line of a text starts with its first word. -/
theorem startsSolid_head_of_startsSolid (h : StartsSolid text) :
    ∀ line ∈ (fillFrom width [] text).head?, StartsSolid line := by
  induction text using wordInduction with
  | nil => exact (not_startsSolid_nil h).elim
  | newline text => exact (not_startsSolid_newline text h).elim
  | blank c text hc =>
    rw [startsSolid_cons.mp h] at hc
    cases hc
  | word word text hne hword hstop =>
    rw [fillFrom_room hne hword hstop (not_noRoom_nil width word)]
    have hstarts : StartsSolid (word ++ []) := startsSolid_append hne hword
    rw [List.append_nil] at hstarts
    exact startsSolid_head_fillFrom hstarts

/-- Wrapping the lines of a text again gives the same lines if the last one is not empty. -/
theorem wrapChars_joinWith (width : Int) (text : List Char) :
    wrapChars width (joinWith '\n' (wrapChars width text)) = wrapChars width text ↔
      (wrapChars width text).getLast? ≠ some [] := by
  cases hink : hasInk text with
  | false =>
    rw [wrapChars_of_blank hink]
    exact iff_of_true rfl (Option.some_ne_none []).symm
  | true =>
    have hstarts := startsSolid_dropWhile hink
    rw [wrapChars_eq width text]
    generalize text.dropWhile isBlank = rest at hstarts
    have hlines : ∀ line ∈ fillFrom width [] rest, EndsSolid line ∧ Again width line :=
      again_of_mem again_nil List.not_mem_nil fun _ hne => (hne rfl).elim
    have hjoined : wrapChars width (joinWith '\n' (fillFrom width [] rest)) =
        fillFrom width [] (joinWith '\n' (fillFrom width [] rest)) := by
      cases hcons : fillFrom width [] rest with
      | nil => rfl
      | cons line more =>
        refine wrapChars_of_startsSolid ?_
        have hline := startsSolid_head_of_startsSolid hstarts line (by rw [hcons]; rfl)
        cases more with
        | nil => exact hline
        | cons next more => exact hline.append
    rw [hjoined]
    exact fillFrom_joinWith hlines

end Again

/-! ### The end of a text -/

/-- The newlines among the blanks at the end of a text. -/
def newlinesBehind (text : List Char) : Nat := (text.rtakeWhile isBlank).count '\n'

section Ends

variable {width : Int} {current text more gap word : List Char} {c : Char}

theorem EndsSolid.of_append (h : EndsSolid (text ++ more)) : EndsSolid more := by
  intro c hc
  refine h c ?_
  rw [Option.mem_def] at hc ⊢
  simp [List.getLast?_append, hc]

theorem EndsSolid.of_cons (h : EndsSolid (c :: text)) (hc : isBlank c = true) :
    EndsSolid text ∧ text ≠ [] := by
  refine ⟨@EndsSolid.of_append [c] text h, ?_⟩
  rintro rfl
  rw [h c rfl] at hc
  cases hc

theorem rtakeWhile_append (h : hasInk more = true) :
    (text ++ more).rtakeWhile isBlank = more.rtakeWhile isBlank := by
  have hstop : (more.reverse.takeWhile isBlank).length ≠ more.reverse.length := by
    intro hall
    have hself := (List.takeWhile_prefix isBlank).eq_of_length hall
    have hblank : Blank more := fun c hc =>
      List.takeWhile_eq_self_iff.mp hself c (List.mem_reverse.mpr hc)
    rw [not_hasInk_iff.mpr hblank] at h
    cases h
  rw [List.rtakeWhile, List.reverse_append, List.takeWhile_append, if_neg hstop, List.rtakeWhile]

theorem newlinesBehind_append (h : hasInk more = true) :
    newlinesBehind (text ++ more) = newlinesBehind more := by
  rw [newlinesBehind, rtakeWhile_append h, newlinesBehind]

theorem newlinesBehind_append_of_blank (h : hasInk more = false) :
    newlinesBehind (text ++ more) = newlinesBehind text + more.count '\n' := by
  have hblank : ∀ c ∈ more.reverse, isBlank c = true :=
    fun c hc => not_hasInk_iff.mp h c (List.mem_reverse.mp hc)
  simp [newlinesBehind, List.rtakeWhile, List.takeWhile_append_of_pos hblank]

/-- A text takes the start of a line to some lines and the start of another one, whatever follows.
That one has ink if the text ends in a word. -/
structure Leads (width : Int) (current text : List Char) (before : List (List Char))
    (last : List Char) : Prop where
  goesOn : ∀ rest, ¬StartsSolid rest →
    fillFrom width current (text ++ rest) = before ++ fillFrom width last rest
  ink : EndsSolid text → hasInk current = true ∨ text ≠ [] → hasInk last = true

/-- A word ends one line or none, and stands on the line that is filled next. -/
theorem exists_word_leads (width : Int) (current : List Char) (hne : word ≠ [])
    (hword : Solid word) :
    ∃ ended start, hasInk start = true ∧ ∀ rest, ¬StartsSolid rest →
      fillFrom width current (word ++ rest) = ended ++ fillFrom width start rest := by
  have hink := hword.hasInk hne
  by_cases hfull : NoRoom width current word
  · exact ⟨[trimEnd current], word, hink, fun _ hstop => fillFrom_full hne hword hstop hfull⟩
  · refine ⟨[], current ++ word, ?_, fun _ hstop => fillFrom_room hne hword hstop hfull⟩
    rw [hasInk_append, hink, Bool.or_true]

theorem exists_leads (width : Int) (current text : List Char) :
    ∃ before last, Leads width current text before last := by
  induction text using wordInduction generalizing current with
  | nil =>
    exact ⟨[], current, fun _ _ => rfl, fun _ h => h.elim id fun hne => (hne rfl).elim⟩
  | newline text ih =>
    obtain ⟨before, last, hgoesOn, hink⟩ := ih []
    refine ⟨trimEnd current :: before, last, fun rest hstop => ?_, fun hends _ => ?_⟩
    · rw [List.cons_append, fillFrom_newline, hgoesOn rest hstop, List.cons_append]
    · obtain ⟨hends, hsome⟩ := hends.of_cons (by decide)
      exact hink hends (.inr hsome)
  | blank c text hc hne ih =>
    obtain ⟨before, last, hgoesOn, hink⟩ := ih (current ++ [c])
    refine ⟨before, last, fun rest hstop => ?_, fun hends _ => ?_⟩
    · rw [List.cons_append, fillFrom_blank hc hne, hgoesOn rest hstop]
    · obtain ⟨hends, hsome⟩ := hends.of_cons hc
      exact hink hends (.inr hsome)
  | word word text hne hword hstop ih =>
    obtain ⟨ended, start, hstart, hword⟩ := exists_word_leads width current hne hword
    obtain ⟨before, last, hgoesOn, hink⟩ := ih start
    refine ⟨ended ++ before, last, fun rest hrest => ?_, fun hends _ => ?_⟩
    · rw [List.append_assoc, hword _ (not_startsSolid_append hstop hrest), hgoesOn rest hrest,
        List.append_assoc]
    · exact hink hends.of_append (.inl hstart)

/-- The blanks at the end of a text come behind a line with ink. -/
theorem fillFrom_end (width : Int) (h : hasInk text = true) :
    ∃ before last, hasInk last = true ∧ ∀ rest, ¬StartsSolid rest →
      fillFrom width [] (text ++ rest) =
        before ++ fillFrom width last (text.rtakeWhile isBlank ++ rest) := by
  obtain ⟨before, last, hgoesOn, hink⟩ := exists_leads width [] (trimEnd text)
  refine ⟨before, last, hink (endsSolid_trimEnd text) (.inr (trimEnd_ne_nil h)), ?_⟩
  intro rest hstop
  have hgap := (blank_rtakeWhile text).not_startsSolid
  rw [← hgoesOn _ (not_startsSolid_append hgap hstop), ← List.append_assoc,
    trimEnd_append_rtakeWhile]

/-- Each newline among blanks ends an empty line. -/
theorem fillFrom_blanks (hcurrent : Blank current) (hgap : Blank gap) :
    fillFrom width current gap = List.replicate (gap.count '\n') [] := by
  induction gap generalizing current with
  | nil => simp [fillFrom_nil, not_hasInk_iff.mpr hcurrent]
  | cons c gap ih =>
    obtain ⟨hc, hrest⟩ := List.forall_mem_cons.mp hgap
    by_cases hnewline : c = '\n'
    · subst hnewline
      have htrim : trimEnd current = [] := List.rdropWhile_eq_nil_iff.mpr hcurrent
      rw [fillFrom_newline, ih blank_nil hrest, htrim, List.count_cons_self, List.replicate_succ]
    · rw [fillFrom_blank hc hnewline, List.count_cons_of_ne hnewline]
      exact ih (blank_append.mpr ⟨hcurrent, List.forall_mem_singleton.mpr hc⟩) hrest

/-- The first newline behind a line ends it, and each other one an empty line. -/
theorem fillFrom_blanks_of_ink (hink : hasInk current = true) (hgap : Blank gap) :
    fillFrom width current gap =
      trimEnd current :: List.replicate (gap.count '\n' - 1) [] := by
  induction gap generalizing current with
  | nil => simp [fillFrom_nil, hink]
  | cons c gap ih =>
    obtain ⟨hc, hrest⟩ := List.forall_mem_cons.mp hgap
    by_cases hnewline : c = '\n'
    · subst hnewline
      rw [fillFrom_newline, fillFrom_blanks blank_nil hrest, List.count_cons_self,
        Nat.add_sub_cancel]
    · rw [fillFrom_blank hc hnewline, List.count_cons_of_ne hnewline, ih (by simp [hink]) hrest,
        trimEnd_append_blank hc]

/-- The lines of a text end in that of its last word and an empty one for each newline behind it but
the first. -/
theorem wrapChars_end (width : Int) (h : hasInk text = true) :
    ∃ before last, last ≠ [] ∧
      wrapChars width text = before ++ last :: List.replicate (newlinesBehind text - 1) [] := by
  have hrest := hasInk_of_startsSolid (startsSolid_dropWhile h)
  obtain ⟨before, last, hlast, hend⟩ := fillFrom_end width hrest
  have hbehind : newlinesBehind (text.dropWhile isBlank) = newlinesBehind text := by
    rw [← newlinesBehind_append hrest, List.takeWhile_append_dropWhile]
  refine ⟨before, trimEnd last, trimEnd_ne_nil hlast, ?_⟩
  have htext := hend [] not_startsSolid_nil
  rwa [List.append_nil, List.append_nil, ← wrapChars_eq,
    fillFrom_blanks_of_ink hlast (blank_rtakeWhile _), ← newlinesBehind, hbehind] at htext

/-- The last line of a text is empty if there is more than one newline behind its last word. -/
theorem getLast?_wrapChars (width : Int) (text : List Char) :
    (wrapChars width text).getLast? = some [] ↔ hasInk text = true ∧ 2 ≤ newlinesBehind text := by
  cases hink : hasInk text with
  | false => simp [wrapChars_of_blank hink]
  | true =>
    obtain ⟨before, last, hlast, htext⟩ := wrapChars_end width hink
    rw [htext, List.getLast?_append, List.getLast?_cons]
    by_cases hmany : newlinesBehind text - 1 = 0
    · have hfew : ¬2 ≤ newlinesBehind text := by omega
      simp [hmany, hlast, hfew]
    · have htwo : 2 ≤ newlinesBehind text := by omega
      simp [List.getLast?_replicate, hmany, htwo]

end Ends

/-- Wrapping the lines of a text again gives the same lines, unless there is more than one newline
behind the last word of the text. -/
theorem wrapping_is_stable_iff (text : String) (width : Int) :
    wrap ("\n".intercalate (wrap text width)) width = wrap text width ↔
      (hasInk text.toList = true → newlinesBehind text.toList ≤ 1) := by
  have hjoined : ("\n".intercalate (wrap text width)).toList =
      joinWith '\n' (wrapChars width text.toList) := by
    rw [String.toList_intercalate, joinWith_eq, wrap, List.map_map]
    simp [Function.comp_def]
  rw [wrap, hjoined, wrap, List.map_inj_right fun _ _ => String.ofList_injective,
    wrapChars_joinWith, Ne, getLast?_wrapChars, not_and, Nat.not_le]
  exact imp_congr_right fun _ => Nat.lt_succ_iff

/-- Empty lines at the end are lost one by one. -/
example : wrap "a\n\n\n" 80 = ["a", "", ""] ∧
    wrap ("\n".intercalate ["a", "", ""]) 80 = ["a", ""] := by
  decide

end Gutter.Text
