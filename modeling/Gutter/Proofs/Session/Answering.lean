import Gutter.Proofs.Session.Entries

/-! Questions and their answers: no query meets a claim that is taken already, and a question has an
answer unless it is about a place on the line of a warning whose column is too large to be
looked up. Such a column is one that a linter printed. At a place are the warnings whose letters
reach there. -/

namespace Gutter


/-- The columns that a warning at `col` underlines, however large `col` is. -/
def underlined (line : List Char) (col : Int) : Int × Int :=
  let start := max col 1
  let length := ((line.drop (start.toNat - 1)).takeWhile isUnderlined).length
  (start, max start (start + length - 1))

theorem max_one_le_lastColumn {col : Int} : max col 1 ≤ lastColumn ↔ col ≤ lastColumn := by
  unfold lastColumn
  omega

theorem wordSpan_of_le (line : List Char) {col : Int} (h : col ≤ lastColumn) :
    wordSpan line col = .ok (underlined line col) := by
  unfold wordSpan
  rw [if_neg (Int.not_lt.mpr (max_one_le_lastColumn.mpr h))]
  rfl

theorem wordSpan_of_lt (line : List Char) {col : Int} (h : lastColumn < col) :
    wordSpan line col = .error ⟨col⟩ := by
  have hfirst : max col 1 = col := by
    unfold lastColumn at h
    omega
  unfold wordSpan
  rw [hfirst, if_pos h]

/-- The column of the warning can be looked up. -/
def Warning.InReach (warning : Warning) : Prop := (warning.col : Int) ≤ lastColumn

instance (warning : Warning) : Decidable warning.InReach := inferInstanceAs (Decidable (_ ≤ _))

namespace Session

open Refresh (Told)

/-- The warning underlines the column `col` of the line `text`. -/
def isUnder (text : List Char) (col : Int) (warning : Warning) : Bool :=
  let (first, last) := underlined text warning.col
  first ≤ col ∧ col ≤ last

theorem covers_of_inReach (text : List Char) (col : Int) {warning : Warning}
    (h : warning.InReach) : covers text col warning = .ok (isUnder text col warning) := by
  unfold covers
  rw [wordSpan_of_le text h]
  rfl

theorem covers_of_not_inReach (text : List Char) (col : Int) {warning : Warning}
    (h : ¬warning.InReach) : covers text col warning = .error ⟨warning.col⟩ := by
  unfold covers
  rw [wordSpan_of_lt text (Int.not_le.mp h)]
  rfl

theorem filterAuxM_covers {text : List Char} {col : Int} {warnings : List Warning}
    (h : ∀ warning ∈ warnings, warning.InReach) (kept : List Warning) :
    warnings.filterAuxM (covers text col) kept =
      .ok ((warnings.filter (isUnder text col)).reverse ++ kept) := by
  induction warnings generalizing kept with
  | nil => rfl
  | cons warning rest ih =>
    have hrest := ih fun other hm => h other (List.mem_cons_of_mem warning hm)
    rw [List.filterAuxM, covers_of_inReach text col (h warning List.mem_cons_self)]
    refine (hrest _).trans ?_
    cases hunder : isUnder text col warning <;> simp [hunder]

/-- Warnings that can all be looked up are sifted. -/
theorem filterM_covers {text : List Char} {col : Int} {warnings : List Warning}
    (h : ∀ warning ∈ warnings, warning.InReach) :
    warnings.filterM (covers text col) = .ok (warnings.filter (isUnder text col)) := by
  rw [List.filterM, filterAuxM_covers h, List.append_nil]
  exact congrArg Except.ok (List.reverse_reverse _)

/-- The first warning that cannot be looked up ends the search. -/
theorem filterM_covers_error {text : List Char} {col : Int} {before after : List Warning}
    {warning : Warning} (hbefore : ∀ other ∈ before, other.InReach) (h : ¬warning.InReach) :
    (before ++ warning :: after).filterM (covers text col) = .error ⟨warning.col⟩ := by
  have haux (kept : List Warning) : (before ++ warning :: after).filterAuxM (covers text col) kept =
      .error ⟨warning.col⟩ := by
    induction before generalizing kept with
    | nil =>
      rw [List.nil_append, List.filterAuxM, covers_of_not_inReach text col h]
      rfl
    | cons other rest ih =>
      have hrest := ih fun w hm => hbefore w (List.mem_cons_of_mem other hm)
      rw [List.cons_append, List.filterAuxM,
        covers_of_inReach text col (hbefore other List.mem_cons_self)]
      exact hrest _
  rw [List.filterM, haux]
  rfl

/-- A search ends at the first warning that cannot be looked up, and sifts the list if there is
none. -/
theorem filterM_covers_eq (text : List Char) (col : Int) (warnings : List Warning) :
    warnings.filterM (covers text col) =
      match warnings.find? fun warning => ¬warning.InReach with
      | some warning => .error ⟨warning.col⟩
      | none => .ok (warnings.filter (isUnder text col)) := by
  cases hfound : warnings.find? fun warning => ¬warning.InReach with
  | none =>
    refine filterM_covers fun warning hm => ?_
    simpa using List.find?_eq_none.mp hfound warning hm
  | some warning =>
    obtain ⟨hfar, before, after, rfl, hbefore⟩ := List.find?_eq_some_iff_append.mp hfound
    exact filterM_covers_error (by simpa using hbefore) (of_decide_eq_true hfar)

/-! ### Questions -/

/-- Why a question has no answer: the claim that a refresh needs is taken, or a column is too large
to be looked up. -/
inductive QueryFault
  | claimed (id : Nat)
  | column (e : ColumnTooLarge)

def QueryFault.message : QueryFault → String
  | .claimed id => claimedMessage (toString id)
  | .column _ => ColumnTooLarge.message

/-- What is answered to a question. -/
inductive Reply
  | entry (entry : Option Entry)
  | set (set : WarningSet)
  | warnings (list : List Warning)
deriving DecidableEq, Repr

/-- Schedules a refresh under a claim, which must not be taken. -/
def trigger? (s : Session) (loop : Bool) (document : Document) : Except QueryFault Session :=
  match s.guard.acquire? document.id with
  | none => .error (.claimed document.id)
  | some _ => .ok (s.trigger loop document)

/-- A query for the entry of a document, which fails at a claim that is taken. -/
def get? (s : Session) (loop : Bool) (id : Nat) : Except QueryFault (Session × Option Entry) :=
  match s.document? id with
  | none => .ok (s, none)
  | some document =>
    if !isNamed document then .ok (s, none)
    else
      let s := s.track id
      let asked :=
        if s.hasCurrent document || s.guard.contains id then .ok s else s.trigger? loop document
      asked.map fun s => (s, s.entry? id)

/-- The session after a question, and what is answered. -/
def ask? (s : Session) (loop : Bool) (id : Nat) (question : Question) :
    Except QueryFault (Session × Reply) := do
  let (after, entry) ← s.get? loop id
  let set := (entry.map (·.warnings)).getD .empty
  match question with
  | .entry => return (after, .entry entry)
  | .all => return (after, .set set)
  | .onLine line => return (after, .warnings (set.forLine line))
  | .atPlace line col =>
    let text := ((after.document? id).map (·.line line)).getD []
    let hits ← ((set.forLine line).filterM (covers text col)).mapError .column
    return (after, .warnings hits)

/-- A query takes a claim only after it has seen that the claim is free. -/
theorem get?_eq (s : Session) (loop : Bool) (id : Nat) : s.get? loop id = .ok (s.get loop id) := by
  unfold get? get
  cases hd : s.document? id with
  | none => rfl
  | some document =>
    obtain rfl := document?_id hd
    simp only
    split
    · rfl
    · split
      · rfl
      next hfree =>
        simp only [Bool.or_eq_true, not_or, Bool.not_eq_true] at hfree
        simp only [trigger?, Guard.acquire?, hfree.2, Bool.false_eq_true, if_false]
        rfl

/-- The answer to a question, if every column can be looked up. -/
def reply (s : Session) (loop : Bool) (id : Nat) : Question → Reply
  | .entry => .entry (s.get loop id).2
  | .all => .set (s.allWarnings loop id).2
  | .onLine line => .warnings (s.warningsOnLine loop id line).2
  | .atPlace line col =>
    let (after, warnings) := s.warningsOnLine loop id line
    .warnings (warnings.filter (isUnder (((after.document? id).map (·.line line)).getD []) col))

/-- The warning at which a question fails: only places are looked up. -/
def obstacle? (s : Session) (loop : Bool) (id : Nat) : Question → Option Warning
  | .atPlace line _ => (s.warningsOnLine loop id line).2.find? fun warning => ¬warning.InReach
  | _ => none

/-- A question has its answer, or fails at the column of a warning. -/
theorem ask?_eq (s : Session) (loop : Bool) (id : Nat) (question : Question) :
    s.ask? loop id question =
      match s.obstacle? loop id question with
      | some warning => .error (.column ⟨warning.col⟩)
      | none => .ok (s.query loop id question, s.reply loop id question) := by
  unfold ask?
  rw [get?_eq]
  cases question with
  | atPlace line col =>
    simp only [obstacle?, reply, query, warningsAt, warningsOnLine, allWarnings, bind, Except.bind,
      filterM_covers_eq]
    cases List.find? (fun warning => decide ¬Warning.InReach warning) _ <;> rfl
  | _ => rfl

/-! ### Columns that linters print -/

/-- A run of the linter that ends among the events printed a match with the warning. -/
def Reported (events : List Event) (warning : Warning) : Prop :=
  ∃ run outcome raw warnings, .finish run outcome ∈ events ∧ outcome.output = .ok raw ∧
    run.linter.warnings raw = .ok warnings ∧ warning ∈ warnings

theorem Happened.exists_mem {P : Session → Event → Prop} {s : Session} {events : List Event}
    (h : Happened P s events) : ∃ s event, event ∈ events ∧ P s event := by
  induction events generalizing s with
  | nil => exact h.elim
  | cons event events ih =>
    obtain hhere | hlater := h
    · exact ⟨s, event, List.mem_cons_self, hhere⟩
    · obtain ⟨s, other, hm, hp⟩ := ih hlater
      exact ⟨s, other, List.mem_cons_of_mem event hm, hp⟩

theorem reported_of_told {number place : Nat} {s : Session} {events : List Event}
    {linters : List Linter} {lists : List (List Warning)}
    (h : Told (Printed number s events) place linters lists) {warning : Warning}
    (hm : warning ∈ lists.flatten) : Reported events warning := by
  induction h with
  | nil => exact (List.not_mem_nil hm).elim
  | cons hprinted hwarnings _ ih =>
    rw [List.flatten_cons, List.mem_append] at hm
    obtain hm | hm := hm
    · obtain ⟨outcome, hraw, hends⟩ := hprinted
      obtain ⟨-, -, hevent, run, rfl, -, -, -, -, rfl⟩ := hends.exists_mem
      exact ⟨run, outcome, _, _, hevent, hraw, hwarnings, hm⟩
    · exact ih hm

theorem reported_of_hasOrigin {first : Session} {events : List Event} {set : WarningSet}
    (h : HasOrigin first events set) {line : Int} {warning : Warning}
    (hm : warning ∈ set.forLine line) : Reported events warning := by
  obtain rfl | ⟨entry, rfl, ⟨origin⟩⟩ := h
  · exact (List.not_mem_nil hm).elim
  · rw [origin.warnings, WarningSet.forLine_ofList] at hm
    obtain ⟨run, outcome, raw, warnings, hevent, hrest⟩ :=
      reported_of_told origin.told (List.mem_filter.mp hm).1
    exact ⟨run, outcome, raw, warnings, origin.history ▸ by simp [hevent], hrest⟩

/-- Every question, whatever has happened, has its answer unless it is about a place and a warning
on that line has a column that is too large to be looked up. If only refreshes publish entries, such
a warning is in what a linter printed. -/
theorem questions_are_answered (settings : Settings) (base : Path.Base) (registry : Registry)
    (events : List Event) :
    let s := (open_ settings base registry).run events
    (∀ loop id question, s.ask? loop id question =
      match s.obstacle? loop id question with
      | some warning => .error (.column ⟨warning.col⟩)
      | none => .ok (s.query loop id question, s.reply loop id question)) ∧
    ((∀ entry, .publish entry ∉ events) → ∀ loop id question warning,
      s.obstacle? loop id question = some warning →
        lastColumn < warning.col ∧ Reported events warning) := by
  intro s
  refine ⟨s.ask?_eq, fun hpublish loop id question warning hobstacle => ?_⟩
  cases question with
  | atPlace line col =>
    have hfar := List.find?_some hobstacle
    obtain ⟨-, -, hsets, -⟩ := served_sets_are_whole settings base registry events hpublish
    exact ⟨Int.not_le.mp (of_decide_eq_true hfar),
      reported_of_hasOrigin (hsets loop id) (List.mem_of_find?_eq_some hobstacle)⟩
  | _ => cases hobstacle

section FarRight

open Refresh (teller bareBase pythonFile)

/-- A document is asked about, and the linter for it prints a column that is too large. -/
def farRight : List Event :=
  [.add pythonFile true, .query true 0 .all, .start 0,
    .finish ⟨0, 0, teller "plain", .call ["plain"], true⟩
      (.ended 1 "3:9223372036854775809:far" none),
    .settle 0]

/-- A question about a place on its line has no answer. -/
theorem far_column_stops_question :
    let s := (open_ {} bareBase ⟨[teller "plain"]⟩).run farRight
    s.inFlight = 0 ∧ (s.document? 0).isSome = true ∧
    (s.ask? true 0 (.atPlace 3 1)).mapError QueryFault.message =
      .error "Python int too large to convert to C ssize_t" := by
  intro s
  have hobstacle : s.obstacle? true 0 (.atPlace 3 1) =
      some ⟨3, 9223372036854775809, "far", some "plain"⟩ := by decide +kernel
  refine ⟨by decide +kernel, by decide +kernel, ?_⟩
  rw [s.ask?_eq, hobstacle]
  rfl

/-- The linter printed what stands in the way, and a question about the line is answered. -/
theorem far_column_was_printed :
    let s := (open_ {} bareBase ⟨[teller "plain"]⟩).run farRight
    let far : Warning := ⟨3, 9223372036854775809, "far", some "plain"⟩
    (∀ entry, .publish entry ∉ farRight) ∧
    s.obstacle? true 0 (.atPlace 3 1) = some far ∧ lastColumn < far.col ∧
    Reported farRight far ∧
    s.ask? true 0 (.onLine 3) = .ok (s.query true 0 (.onLine 3), .warnings [far]) := by
  intro s far
  have hpublish : ∀ entry, .publish entry ∉ farRight := by
    intro entry hm
    simp [farRight] at hm
  have hobstacle : s.obstacle? true 0 (.atPlace 3 1) = some far := by decide +kernel
  have hreply : s.reply true 0 (.onLine 3) = .warnings [far] := by decide +kernel
  obtain ⟨hasked, hprinted⟩ := questions_are_answered {} bareBase ⟨[teller "plain"]⟩ farRight
  obtain ⟨hfar, hreported⟩ := hprinted hpublish _ _ _ _ hobstacle
  exact ⟨hpublish, hobstacle, hfar, hreported, hreply ▸ hasked true 0 (.onLine 3)⟩

end FarRight

end Session

/-! ### Places -/

namespace Document

/-- A letter or an underscore stands at a place of a document. Lines and columns count from 1. -/
def HasLetter (document : Document) (line col : Int) : Prop :=
  1 ≤ line ∧ 1 ≤ col ∧ ∃ text c, document.lines[(line - 1).toNat]? = some text ∧
    text[(col - 1).toNat]? = some c ∧ isUnderlined c = true

/-- Where the longest run of letters that starts at a column ends; without a letter there, it is the
column itself. -/
inductive RunsTo (document : Document) (line first : Int) : Int → Prop
  | run {last : Int} (hle : first ≤ last)
    (letters : ∀ col, first ≤ col → col ≤ last → document.HasLetter line col)
    (longest : ¬document.HasLetter line (last + 1)) : RunsTo document line first last
  | alone (hnone : ¬document.HasLetter line first) : RunsTo document line first first

variable {document : Document} {line : Int}

theorem RunsTo.unique {first last other : Int} (h : document.RunsTo line first last)
    (h' : document.RunsTo line first other) : last = other := by
  cases h with
  | run hle letters longest =>
    cases h' with
    | run hle' letters' longest' =>
      -- The longer of two runs would go on behind the end of the other.
      rcases Int.lt_trichotomy last other with hlt | heq | hgt
      · exact absurd (letters' (last + 1) (by omega) (by omega)) longest
      · exact heq
      · exact absurd (letters (other + 1) (by omega) (by omega)) longest'
    | alone hnone => exact absurd (letters first (by omega) hle) hnone
  | alone hnone =>
    cases h' with
    | run hle' letters' longest' => exact absurd (letters' first (by omega) hle') hnone
    | alone => rfl

theorem hasLetter_iff (document : Document) (line : Int) {col : Int} (hcol : 1 ≤ col) :
    document.HasLetter line col ↔
      ∃ c, (document.line line)[(col - 1).toNat]? = some c ∧ isUnderlined c = true := by
  unfold HasLetter Document.line
  by_cases hline : 1 ≤ line
  · cases hat : document.lines[(line - 1).toNat]? with
    | none => simp [hline]
    | some text => simp [hline, hcol]
  · simp [hline]

theorem length_takeWhile_spec {α : Type} (p : α → Bool) (list : List α) :
    (∀ i < (list.takeWhile p).length, ∃ a, list[i]? = some a ∧ p a = true) ∧
      ¬∃ a, list[(list.takeWhile p).length]? = some a ∧ p a = true := by
  induction list with
  | nil => simp
  | cons a rest ih =>
    by_cases ha : p a = true
    · obtain ⟨hall, hend⟩ := ih
      rw [List.takeWhile_cons_of_pos ha, List.length_cons]
      refine ⟨fun i hi => ?_, by simpa using hend⟩
      cases i with
      | zero => exact ⟨a, rfl, ha⟩
      | succ i => simpa using hall i (by omega)
    · rw [List.takeWhile_cons_of_neg ha]
      simp [ha]

/-- What is underlined from a column on ends with the run of letters there. -/
theorem runsTo_underlined (document : Document) (line col : Int) :
    document.RunsTo line (max col 1) (underlined (document.line line) col).2 := by
  obtain ⟨start, hstart⟩ : ∃ start : Nat, max col 1 = start + 1 := ⟨(max col 1).toNat - 1, by omega⟩
  let behind := (document.line line).drop start
  have hat (i : Nat) : document.HasLetter line (start + 1 + i) ↔
      ∃ c, behind[i]? = some c ∧ isUnderlined c = true := by
    rw [hasLetter_iff document line (by omega), List.getElem?_drop]
    rw [show ((start : Int) + 1 + i - 1).toNat = start + i by omega]
  obtain ⟨hrun, hend⟩ := length_takeWhile_spec isUnderlined behind
  have hlast : (underlined (document.line line) col).2 =
      max (start + 1 : Int) (start + 1 + (behind.takeWhile isUnderlined).length - 1) := by
    simp only [underlined, hstart]
    rfl
  rw [hlast, hstart]
  generalize (behind.takeWhile isUnderlined).length = length at hrun hend
  cases length with
  | zero =>
    rw [show max (start + 1 : Int) (start + 1 + (0 : Nat) - 1) = start + 1 by omega]
    exact .alone fun h => hend ((hat 0).mp (by simpa using h))
  | succ length =>
    rw [show max (start + 1 : Int) (start + 1 + (length + 1 : Nat) - 1) = start + 1 + length by
      omega]
    refine .run (by omega) (fun c hfirst hle => ?_) fun h => hend ((hat (length + 1)).mp ?_)
    · obtain ⟨i, rfl⟩ : ∃ i : Nat, c = start + 1 + i := ⟨(c - (start + 1)).toNat, by omega⟩
      exact (hat i).mpr (hrun i (by omega))
    · rw [show ((start : Int) + 1 + (length + 1 : Nat)) = start + 1 + length + 1 by omega]
      exact h

end Document

namespace Session

/-- What is kept for a line of a document; for a document without a name it is nothing. -/
def keptOn (s : Session) (document : Document) (line : Int) : List Warning :=
  if isNamed document then (s.known document.id).forLine line else []

variable {s : Session} {id : Nat} {document : Document}

theorem warningsOnLine_eq (hdoc : s.document? id = some document) (loop : Bool) (line : Int) :
    (s.warningsOnLine loop id line).2 = s.keptOn document line := by
  obtain rfl := document?_id hdoc
  unfold keptOn
  split
  next hnamed =>
    simp only [warningsOnLine, allWarnings, get_entry hdoc hnamed, known]
  next hnamed =>
    simp only [warningsOnLine, allWarnings, get, hdoc, hnamed]
    rfl

/-- The warnings at a place are those on its line, in their order, that underline its column: from
the column of the warning, or the first if that is 0, to the end of the letters there. -/
theorem place_has_its_warnings (loop : Bool) (hdoc : s.document? id = some document)
    (line col : Int) (hreach : ∀ warning ∈ s.keptOn document line, (warning.col : Int) ≤ 2 ^ 63) :
    ∃ last : Nat → Int,
      (∀ (n : Nat) (c : Int), document.RunsTo line (max n 1) c ↔ c = last n) ∧
      (s.warningsAt loop id line col).2 = .ok ((s.keptOn document line).filter fun warning =>
        max (warning.col : Int) 1 ≤ col ∧ col ≤ last warning.col) := by
  have hafter : (s.warningsOnLine loop id line).1.document? id = some document :=
    ((sameStore_get s loop id).document? id).trans hdoc
  refine ⟨fun n => (underlined (document.line line) n).2, fun n c => ?_, ?_⟩
  · exact ⟨fun h => h.unique (document.runsTo_underlined line n),
      fun h => h ▸ document.runsTo_underlined line n⟩
  · have hkept := warningsOnLine_eq hdoc loop line
    simp only [warningsAt, hafter, hkept, Option.map_some, Option.getD_some]
    exact filterM_covers hreach

section Return

open Refresh (teller bareBase)

/-- The letters of its second line are in the columns from 3 to 8 and from 10 to 14. -/
def returning : Document :=
  ⟨0, some "/w/a.py", ["import os".toList, "  return value".toList], 0⟩

/-- The document is asked about, and its linter prints three lines about the second line. -/
def pointed : List Event :=
  [.add returning true, .query true 0 .all, .start 0,
    .finish ⟨0, 0, teller "plain", .call ["plain"], true⟩
      (.ended 1 "2:10:late\n2:0:early\n2:3:kept" none),
    .settle 0]

/-- The last letter of a word is asked about: only the warning about that word is told. -/
theorem last_letter_has_its_warning :
    let s := (open_ {} bareBase ⟨[teller "plain"]⟩).run pointed
    s.document? 0 = some returning ∧
    (∀ warning ∈ s.keptOn returning 2, (warning.col : Int) ≤ 2 ^ 63) ∧
    (s.keptOn returning 2).map (·.col) = [10, 0, 3] ∧
    (∀ c, returning.RunsTo 2 3 c ↔ c = 8) ∧
    (s.warningsAt true 0 2 8).2 = .ok [⟨2, 3, "kept", some "plain"⟩] := by
  intro s
  have hdoc : s.document? 0 = some returning := by decide +kernel
  have hreach : ∀ warning ∈ s.keptOn returning 2, (warning.col : Int) ≤ 2 ^ 63 := by
    decide +kernel
  have hkept : s.keptOn returning 2 = [⟨2, 10, "late", some "plain"⟩,
      ⟨2, 0, "early", some "plain"⟩, ⟨2, 3, "kept", some "plain"⟩] := by decide +kernel
  obtain ⟨last, hlast, height⟩ := place_has_its_warnings true hdoc 2 8 hreach
  have hends (n : Nat) : last n = (underlined (returning.line 2) n).2 :=
    ((hlast n _).mp (returning.runsTo_underlined 2 n)).symm
  have hthree : last 3 = 8 := by
    rw [hends]
    decide +kernel
  refine ⟨hdoc, hreach, by rw [hkept]; rfl, fun c => hthree ▸ hlast 3 c, ?_⟩
  rw [height, hkept]
  simp only [hends]
  rfl

end Return

end Session

end Gutter
