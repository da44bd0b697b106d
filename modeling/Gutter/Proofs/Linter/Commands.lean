import Gutter.Proofs.Refresh.Batch
import Gutter.Proofs.Validation.Stopping

/-! Commands: where neither a template nor its placeholder has a quote or a backslash, the shell
reads the words that a tool is called with. A path is quoted as one piece of one word. -/

namespace Gutter

namespace Text

variable {part new text rest : List Char}

/-! ### Replacing -/

/-- A search for `part` from the left and without overlap: it goes on behind an occurrence, and one
character further where there is none. -/
inductive Searched (part : List Char) : List Char → Prop
  | done : Searched part []
  | here {rest : List Char} (h : Searched part rest) : Searched part (part ++ rest)
  | further {c : Char} {rest : List Char} (hnone : ¬part <+: c :: rest)
    (h : Searched part rest) : Searched part (c :: rest)

theorem searched (hpart : part ≠ []) (text : List Char) : Searched part text := by
  induction hn : text.length using Nat.strong_induction_on generalizing text with
  | _ n ih =>
  subst hn
  by_cases hhere : part <+: text
  · obtain ⟨rest, rfl⟩ := hhere
    have hlength : 0 < part.length := List.length_pos_iff.mpr hpart
    refine .here (ih rest.length ?_ rest rfl)
    rw [List.length_append]
    omega
  · cases text with
    | nil => exact .done
    | cons c rest => exact .further hhere (ih rest.length (Nat.lt_succ_self _) rest rfl)

theorem dropStart?_eq_some_iff {after : List Char} :
    dropStart? part text = some after ↔ text = part ++ after := by
  induction part generalizing text with
  | nil => simp [dropStart?]
  | cons c part ih =>
    cases text with
    | nil => simp [dropStart?]
    | cons d text =>
      by_cases hcd : c = d
      · simp [dropStart?, hcd, ih]
      · simp [dropStart?, hcd, Ne.symm hcd]

theorem dropStart?_eq_none (h : ¬part <+: text) : dropStart? part text = none := by
  cases hstart : dropStart? part text with
  | none => rfl
  | some after => exact (h ⟨after, (dropStart?_eq_some_iff.mp hstart).symm⟩).elim

/-- As many steps as a text has characters are enough for it. -/
theorem replaceAllWithin_of_le (hpart : part ≠ []) {steps : Nat} (h : text.length ≤ steps) :
    replaceAllWithin part new steps text = replaceAll part new text := by
  have hlength : 0 < part.length := List.length_pos_iff.mpr hpart
  have hsame (steps other : Nat) (text : List Char) (h : text.length ≤ steps)
      (h' : text.length ≤ other) :
      replaceAllWithin part new steps text = replaceAllWithin part new other text := by
    induction steps generalizing other text with
    | zero =>
      rw [List.length_eq_zero_iff.mp (Nat.le_zero.mp h)]
      cases other <;> rfl
    | succ steps ih =>
      cases text with
      | nil => cases other <;> rfl
      | cons c rest =>
        obtain ⟨other, rfl⟩ : ∃ n, other = n + 1 := Nat.exists_eq_add_one_of_ne_zero (by
          rw [List.length_cons] at h'
          omega)
        rw [List.length_cons] at h h'
        simp only [replaceAllWithin]
        cases hstart : dropStart? part (c :: rest) with
        | none => exact congrArg (c :: ·) (ih other rest (by omega) (by omega))
        | some after =>
          have hafter := congrArg List.length (dropStart?_eq_some_iff.mp hstart)
          rw [List.length_cons, List.length_append] at hafter
          exact congrArg (new ++ ·) (ih other after (by omega) (by omega))
  rw [replaceAll, if_neg (by simpa using hpart)]
  exact hsame steps text.length text h (Nat.le_refl _)

theorem replaceAll_nil (hpart : part ≠ []) : replaceAll part new [] = [] := by
  rw [← replaceAllWithin_of_le hpart (Nat.le_refl _)]
  rfl

theorem replaceAll_append (hpart : part ≠ []) :
    replaceAll part new (part ++ rest) = new ++ replaceAll part new rest := by
  obtain ⟨c, tail, rfl⟩ := List.exists_cons_of_ne_nil hpart
  have hstart : dropStart? (c :: tail) (c :: (tail ++ rest)) = some rest :=
    dropStart?_eq_some_iff.mpr rfl
  rw [← replaceAllWithin_of_le hpart (Nat.le_refl _), List.cons_append, List.length_cons,
    replaceAllWithin, hstart]
  simp only [List.length_append]
  rw [replaceAllWithin_of_le hpart (by omega)]

theorem replaceAll_cons (hpart : part ≠ []) {c : Char} (hnone : ¬part <+: c :: rest) :
    replaceAll part new (c :: rest) = c :: replaceAll part new rest := by
  rw [← replaceAllWithin_of_le hpart (Nat.le_refl _), List.length_cons, replaceAllWithin,
    dropStart?_eq_none hnone]
  simp only
  rw [replaceAllWithin_of_le hpart (Nat.le_refl _)]

end Text

namespace Shell

open Text (replaceAll)

/-! ### Words -/

/-- Without quotes and backslashes. -/
def IsBare (text : List Char) : Prop := ∀ c ∈ text, c ≠ '\\' ∧ c ≠ '\'' ∧ c ≠ '"'

/-- Without blanks that end a word. -/
def IsSolid (text : List Char) : Prop := ∀ c ∈ text, isWordGap c = false

variable {c : Char} {begun path part rest : List Char}

theorem isBare_cons : IsBare (c :: rest) ↔ (c ≠ '\\' ∧ c ≠ '\'' ∧ c ≠ '"') ∧ IsBare rest :=
  List.forall_mem_cons

theorem isSolid_cons : IsSolid (c :: rest) ↔ isWordGap c = false ∧ IsSolid rest :=
  List.forall_mem_cons

theorem IsBare.of_append (h : IsBare (part ++ rest)) : IsBare rest :=
  fun c hc => h c (List.mem_append_right part hc)

theorem wordsFrom_gap (hgap : isWordGap c = true) :
    wordsFrom .word begun (c :: rest) = (words rest).map (begun :: ·) := by
  rw [wordsFrom, if_pos hgap]
  rfl

theorem words_gap (hgap : isWordGap c = true) : words (c :: rest) = words rest := by
  rw [words, wordsFrom, if_pos hgap]
  rfl

/-- The first character is no blank. -/
def BeginsWord (line : List Char) : Prop := ∃ c rest, line = c :: rest ∧ isWordGap c = false

theorem BeginsWord.append (h : BeginsWord part) (rest : List Char) : BeginsWord (part ++ rest) := by
  obtain ⟨c, tail, rfl, hgap⟩ := h
  exact ⟨c, tail ++ rest, rfl, hgap⟩

theorem BeginsWord.words_eq {line : List Char} (h : BeginsWord line) :
    words line = wordsFrom .word [] line := by
  obtain ⟨c, rest, rfl, hgap⟩ := h
  simp only [words, wordsFrom, hgap, Bool.false_eq_true, if_false]

theorem IsSolid.beginsWord (h : IsSolid part) (hsome : part ≠ []) : BeginsWord part := by
  obtain ⟨c, rest, rfl⟩ := List.exists_cons_of_ne_nil hsome
  exact ⟨c, rest, rfl, (isSolid_cons.mp h).1⟩

theorem wordsFrom_bare (hbare : c ≠ '\\' ∧ c ≠ '\'' ∧ c ≠ '"') (hgap : isWordGap c = false) :
    wordsFrom .word begun (c :: rest) = wordsFrom .word (begun ++ [c]) rest := by
  obtain ⟨hescape, hsingle, hdouble⟩ := hbare
  simp only [wordsFrom, wordStep, hgap, hescape, hsingle, hdouble, Bool.false_eq_true, if_false]

/-- A text without quotes, backslashes and blanks belongs to the word as it is. -/
theorem wordsFrom_append (hbare : IsBare part) (hsolid : IsSolid part) :
    wordsFrom .word begun (part ++ rest) = wordsFrom .word (begun ++ part) rest := by
  induction part generalizing begun with
  | nil => rw [List.nil_append, List.append_nil]
  | cons c part ih =>
    obtain ⟨hc, hbare⟩ := isBare_cons.mp hbare
    obtain ⟨hgap, hsolid⟩ := isSolid_cons.mp hsolid
    rw [List.cons_append, wordsFrom_bare hc hgap, ih hbare hsolid, List.append_assoc]
    rfl

theorem isBare_of_plain (h : path.all isPlainChar = true) : IsBare path := by
  intro c hc
  have hplain : isPlainChar c = true := List.all_eq_true.mp h c hc
  refine ⟨?_, ?_, ?_⟩ <;> (rintro rfl; revert hplain; decide)

theorem isSolid_of_plain (h : path.all isPlainChar = true) : IsSolid path := by
  intro c hc
  have hplain : isPlainChar c = true := List.all_eq_true.mp h c hc
  refine Bool.eq_false_iff.mpr fun hgap => ?_
  simp only [isWordGap, Bool.or_eq_true, decide_eq_true_eq] at hgap
  rcases hgap with ((rfl | rfl) | rfl) | rfl <;> (revert hplain; decide)

/-- A text in single quotes is read back, its own single quotes with it. -/
theorem wordsFrom_single (begun path rest : List Char) :
    wordsFrom .single begun
        (path.flatMap (fun c => if c = '\'' then ['\'', '"', '\'', '"', '\''] else [c]) ++
          '\'' :: rest) =
      wordsFrom .word (begun ++ path) rest := by
  induction path generalizing begun with
  | nil => simp [wordsFrom]
  | cons c path ih =>
    rw [List.flatMap_cons, List.append_assoc]
    by_cases hquote : c = '\''
    · -- The quote is closed, one in double quotes follows, and the next is opened.
      subst hquote
      have hnext (tail : List Char) :
          wordsFrom .single begun ('\'' :: '"' :: '\'' :: '"' :: '\'' :: tail) =
            wordsFrom .single (begun ++ ['\'']) tail := by
        simp [wordsFrom, wordStep, isWordGap]
      rw [if_pos rfl]
      exact (hnext _).trans ((ih _).trans (by rw [List.append_assoc]; rfl))
    · rw [if_neg hquote, List.singleton_append, wordsFrom, if_neg hquote, ih, List.append_assoc]
      rfl

/-- A quoted text is one piece of the word that it stands in. -/
theorem wordsFrom_quoteWord (begun path rest : List Char) :
    wordsFrom .word begun (quoteWord path ++ rest) = wordsFrom .word (begun ++ path) rest := by
  unfold quoteWord
  split
  next hnil =>
    rw [List.isEmpty_iff.mp hnil, List.append_nil]
    simp [wordsFrom, wordStep, isWordGap]
  next =>
    split
    next hplain => exact wordsFrom_append (isBare_of_plain hplain) (isSolid_of_plain hplain)
    next =>
      rw [← wordsFrom_single, List.append_assoc, List.cons_append]
      simp [wordsFrom, wordStep, isWordGap]

theorem beginsWord_quoteWord (path : List Char) : BeginsWord (quoteWord path) := by
  unfold quoteWord
  split
  next => exact ⟨_, _, rfl, by decide⟩
  next hsome =>
    split
    next hplain => exact (isSolid_of_plain hplain).beginsWord (mt List.isEmpty_iff.mpr hsome)
    next => exact ⟨_, _, rfl, by decide⟩

/-- A line with quoted paths in the places of a placeholder has the words of the line, each with the
path as it is in those places. This holds behind the beginning of a word, whose rest is at the start
of the line, as it does between words. -/
structure Fills (placeholder path line : List Char) : Prop where
  inWord : ∃ word later, word <+: line ∧ ∀ begun,
    wordsFrom .word begun line = .ok ((begun ++ word) :: later) ∧
    wordsFrom .word begun (replaceAll placeholder (quoteWord path) line) =
      .ok ((begun ++ replaceAll placeholder path word) :: later.map (replaceAll placeholder path))
  between : ∃ pieces, words line = .ok pieces ∧
    words (replaceAll placeholder (quoteWord path) line) =
      .ok (pieces.map (replaceAll placeholder path))

section Fills

variable {placeholder : List Char}

/-- Where both lines begin with a word, it is enough to look behind its beginning. -/
theorem fills_of_inWord {line word : List Char} (later : List (List Char))
    (hline : BeginsWord line) (hfilled : BeginsWord (replaceAll placeholder (quoteWord path) line))
    (hfront : word <+: line) (hread : ∀ begun,
      wordsFrom .word begun line = .ok ((begun ++ word) :: later) ∧
      wordsFrom .word begun (replaceAll placeholder (quoteWord path) line) =
        .ok ((begun ++ replaceAll placeholder path word) ::
          later.map (replaceAll placeholder path))) :
    Fills placeholder path line where
  inWord := ⟨word, later, hfront, hread⟩
  between := ⟨word :: later, hline.words_eq.trans (hread []).1,
    hfilled.words_eq.trans (hread []).2⟩

variable (hsome : placeholder ≠ [])

include hsome

theorem fills_nil : Fills placeholder path [] where
  inWord := by
    refine ⟨[], [], List.prefix_rfl, fun begun => ?_⟩
    rw [Text.replaceAll_nil hsome, Text.replaceAll_nil hsome, List.append_nil]
    exact ⟨rfl, rfl⟩
  between := ⟨[], rfl, by rw [Text.replaceAll_nil hsome]; rfl⟩

/-- The placeholder at the start of a line belongs to a word, and so does the quoted path. -/
theorem Fills.here (hbare : IsBare placeholder) (hsolid : IsSolid placeholder)
    (h : Fills placeholder path rest) : Fills placeholder path (placeholder ++ rest) := by
  obtain ⟨word, later, hfront, hread⟩ := h.inWord
  have hfilled : BeginsWord (replaceAll placeholder (quoteWord path) (placeholder ++ rest)) := by
    rw [Text.replaceAll_append hsome]
    exact (beginsWord_quoteWord path).append _
  refine fills_of_inWord later ((hsolid.beginsWord hsome).append rest) hfilled
    ((List.prefix_append_right_inj placeholder).mpr hfront) fun begun => ?_
  rw [wordsFrom_append hbare hsolid, Text.replaceAll_append hsome, Text.replaceAll_append hsome,
    wordsFrom_quoteWord, ← List.append_assoc, ← List.append_assoc]
  exact ⟨(hread _).1, (hread _).2⟩

/-- A blank ends the word, which has nothing more in either line. -/
theorem Fills.gap (hgap : isWordGap c = true) (hnone : ¬placeholder <+: c :: rest)
    (h : Fills placeholder path rest) : Fills placeholder path (c :: rest) := by
  obtain ⟨pieces, hpieces, hfilled⟩ := h.between
  refine ⟨⟨[], pieces, List.nil_prefix, fun begun => ?_⟩, ⟨pieces, ?_, ?_⟩⟩
  · rw [Text.replaceAll_cons hsome hnone, Text.replaceAll_nil hsome, wordsFrom_gap hgap,
      wordsFrom_gap hgap, hpieces, hfilled, List.append_nil]
    exact ⟨rfl, rfl⟩
  · rw [words_gap hgap, hpieces]
  · rw [Text.replaceAll_cons hsome hnone, words_gap hgap, hfilled]

/-- No placeholder begins at a character of a word if none begins there in the line. -/
theorem Fills.further (hbare : c ≠ '\\' ∧ c ≠ '\'' ∧ c ≠ '"') (hgap : isWordGap c = false)
    (hnone : ¬placeholder <+: c :: rest) (h : Fills placeholder path rest) :
    Fills placeholder path (c :: rest) := by
  obtain ⟨word, later, hfront, hread⟩ := h.inWord
  have hword : c :: word <+: c :: rest := (List.prefix_cons_inj c).mpr hfront
  have hfilled : BeginsWord (replaceAll placeholder (quoteWord path) (c :: rest)) :=
    ⟨c, _, Text.replaceAll_cons hsome hnone, hgap⟩
  refine fills_of_inWord later ⟨c, rest, rfl, hgap⟩ hfilled hword fun begun => ?_
  rw [Text.replaceAll_cons hsome hnone,
    Text.replaceAll_cons hsome fun hhere => hnone (hhere.trans hword),
    wordsFrom_bare hbare hgap, wordsFrom_bare hbare hgap, List.append_cons begun c word,
    List.append_cons begun c (replaceAll placeholder path word)]
  exact hread _

theorem fills (hbare : IsBare placeholder) (hsolid : IsSolid placeholder) (path : List Char)
    {line : List Char} (hline : IsBare line) : Fills placeholder path line := by
  induction Text.searched hsome line with
  | done => exact fills_nil hsome
  | here _ ih => exact (ih hline.of_append).here hsome hbare hsolid
  | @further c rest hnone _ ih =>
    obtain ⟨hc, hrest⟩ := isBare_cons.mp hline
    cases hgap : isWordGap c with
    | true => exact (ih hrest).gap hsome hgap hnone
    | false => exact (ih hrest).further hsome hc hgap hnone

end Fills

/-- In a template with quotes of its own the quotes of a path close them. -/
example : words (replaceAll ['$'] (quoteWord ['a', ' ', 'b']) ['\'', '$', '\'']) =
    .ok [['a'], ['b']] := by decide

end Shell

namespace Linter

/-- A command without quotes and backslashes, for which the placeholder has none either, is accepted
for the shell as it is for a call. From the line that it is given the shell reads the words of the
call. These are the words of the command, each with the path as it is in the places of the
placeholder. -/
theorem shell_reads_the_call (d : Definition) (placeholder path : String)
    (hcommand : Shell.IsBare d.command.toList) (hbare : Shell.IsBare placeholder.toList)
    (hsolid : Shell.IsSolid placeholder.toList) (hsome : placeholder ≠ "")
    (haccepted : ∃ shell linter, ofValue { d with shell }.value = .accepted linter) :
    ∃ forShell forCall line args pieces,
      ofValue { d with shell := true }.value = .accepted forShell ∧
      ofValue { d with shell := false }.value = .accepted forCall ∧
      forShell.commandFor placeholder path = .shell line ∧
      forCall.commandFor placeholder path = .call args ∧
      Shell.words line.toList = .ok (args.map String.toList) ∧
      Shell.words d.command.toList = .ok pieces ∧
      args.map String.toList = pieces.map (Text.replaceAll placeholder.toList path.toList) := by
  have hne : placeholder.toList ≠ [] := by simpa using hsome
  obtain ⟨shell, linter, haccepted⟩ := haccepted
  obtain ⟨warning, files, _, hwarning, hfiles, -, -⟩ := ofValue_value_eq_accepted.mp haccepted
  obtain ⟨pieces, hpieces, hfilled⟩ := (Shell.fills hne hbare hsolid path.toList hcommand).between
  have hwords : template? false d.command = .ok (.words pieces) := by
    rw [template?, hpieces]
    rfl
  refine ⟨_, _, _, _, pieces,
    ofValue_value_eq_accepted.mpr ⟨warning, files, _, hwarning, hfiles, rfl, rfl⟩,
    ofValue_value_eq_accepted.mpr ⟨warning, files, _, hwarning, hfiles, hwords, rfl⟩, rfl, rfl, ?_,
    hpieces, ?_⟩
  · rw [String.toList_ofList, hfilled, List.map_map]
    exact congrArg Except.ok (List.map_congr_left fun _ _ => String.toList_ofList.symm)
  · rw [List.map_map]
    exact List.map_congr_left fun _ _ => String.toList_ofList

section Spaced

/-- A compiler that is told where to write. -/
def compiler : Definition :=
  { (Refresh.teller "cc").toDefinition with command := "cc -o $FILENAME.o $FILENAME" }

/-- A path with a quote and a blank is one piece of two of the words. -/
theorem spaced_path_is_one_piece :
    Shell.IsBare compiler.command.toList ∧ Shell.IsBare defaultPlaceholder.toList ∧
    Shell.IsSolid defaultPlaceholder.toList ∧ defaultPlaceholder ≠ "" ∧
    ∃ forShell forCall line args,
      ofValue { compiler with shell := true }.value = .accepted forShell ∧
      ofValue { compiler with shell := false }.value = .accepted forCall ∧
      forShell.commandFor defaultPlaceholder "it's b.c" = .shell line ∧
      forCall.commandFor defaultPlaceholder "it's b.c" = .call args ∧
      Shell.words line.toList = .ok (args.map String.toList) ∧
      args.map String.toList = ["cc", "-o", "it's b.c.o", "it's b.c"].map String.toList := by
  have hcommand : Shell.IsBare compiler.command.toList := by
    simp [Shell.IsBare, compiler]
  have hbare : Shell.IsBare defaultPlaceholder.toList := by
    simp [Shell.IsBare, defaultPlaceholder]
  have hsolid : Shell.IsSolid defaultPlaceholder.toList := by
    simp [Shell.IsSolid, Shell.isWordGap, defaultPlaceholder]
  have hsome : defaultPlaceholder ≠ "" := by decide
  have hwords : Shell.words compiler.command.toList =
      .ok (["cc", "-o", "$FILENAME.o", "$FILENAME"].map String.toList) := by cbv
  have haccepted : ∃ shell linter, ofValue { compiler with shell }.value = .accepted linter :=
    ⟨false, _, Refresh.accepted_teller "cc" hwords⟩
  obtain ⟨forShell, forCall, line, args, pieces, hshell, hcall, hline, hargs, hread, hpieces,
    hfilled⟩ := shell_reads_the_call compiler defaultPlaceholder "it's b.c" hcommand hbare hsolid
      hsome haccepted
  obtain rfl := Except.ok.inj (hpieces.symm.trans hwords)
  refine ⟨hcommand, hbare, hsolid, hsome, forShell, forCall, line, args, hshell, hcall, hline,
    hargs, hread, hfilled.trans ?_⟩
  cbv

end Spaced

end Linter

end Gutter
