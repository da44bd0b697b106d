import Gutter.Proofs.Legible
import Gutter.Refresh.Stage

/-! The outlook of a refresh: the entry that it comes to if its runs end as foreseen. Every step
keeps the outlook, in whatever order runs that go on at once end, so a refresh that is complete has
the entry that was in view from its start. -/

namespace Gutter.Refresh

open Linter (absorb?)

/-- What the runs of a refresh's linters come to, by the place of the linter. -/
abbrev Forecast := Nat → Outcome

/-- The set with all that outputs come to, if each can be read. -/
def absorbOutputs? : List (Linter × List Char) → WarningSet → Option WarningSet
  | [], set => some set
  | (linter, raw) :: outputs, set =>
    (linter.absorb? raw (linter.pattern.findAll raw) set).bind (absorbOutputs? outputs)

/-- The set with all that the runs of linters come to, the first of which has the place `place`. -/
def absorbRuns? (forecast : Forecast) : Nat → List Linter → WarningSet → Option WarningSet
  | _, [], set => some set
  | place, linter :: rest, set =>
    match (forecast place).output with
    | .error _ => none
    | .ok raw =>
      (linter.absorb? raw (linter.pattern.findAll raw) set).bind
        (absorbRuns? forecast (place + 1) rest)

/-- The outputs of slots from the place `place` on once all runs have ended. -/
def foreseen? (forecast : Forecast) :
    Nat → List (Linter × Option (List Char)) → Option (List (Linter × List Char))
  | _, [] => some []
  | place, (linter, output) :: slots =>
    match output.or (forecast place).output.toOption with
    | none => none
    | some raw => (foreseen? forecast (place + 1) slots).map ((linter, raw) :: ·)

/-- The place of the linter that is called when `rest` follow it. -/
def Snapshot.placeOf (now : Snapshot) (rest : List Linter) : Nat :=
  now.linters.length - rest.length - 1

/-- The entry that a refresh comes to from a stage, if it comes to one. -/
def Stage.outlook (forecast : Forecast) : Stage → Option Entry
  | .waiting => none
  | .calling now set linter rest =>
    (absorbRuns? forecast (now.placeOf rest) (linter :: rest) set).map now.entry
  | .gathering now slots =>
    ((foreseen? forecast 0 slots).bind fun outputs => absorbOutputs? outputs .empty).map now.entry
  | .parsing now set paused outputs rest =>
    (((paused.linter.absorb? paused.raw paused.left set).bind (absorbOutputs? outputs)).bind
      (absorbRuns? forecast (now.linters.length - rest.length) rest)).map now.entry
  | .completed entry => some entry
  | .failed _ => none

section

variable (forecast : Forecast) (now : Snapshot) (set : WarningSet)

@[simp] theorem outlook_calling (linter : Linter) (rest : List Linter) :
    (Stage.calling now set linter rest).outlook forecast =
      (absorbRuns? forecast (now.placeOf rest) (linter :: rest) set).map now.entry := rfl

@[simp] theorem outlook_gathering (slots : List (Linter × Option (List Char))) :
    (Stage.gathering now slots).outlook forecast =
      ((foreseen? forecast 0 slots).bind fun outputs =>
        absorbOutputs? outputs .empty).map now.entry := rfl

@[simp] theorem outlook_parsing (paused : Paused) (outputs : List (Linter × List Char))
    (rest : List Linter) :
    (Stage.parsing now set paused outputs rest).outlook forecast =
      (((paused.linter.absorb? paused.raw paused.left set).bind (absorbOutputs? outputs)).bind
        (absorbRuns? forecast (now.linters.length - rest.length) rest)).map now.entry := rfl

@[simp] theorem outlook_completed (entry : Entry) :
    (Stage.completed entry).outlook forecast = some entry := rfl

@[simp] theorem outlook_failed (e : Failure) : (Stage.failed e).outlook forecast = none := rfl

end

/-! ### Slots -/

section Slots

variable {forecast : Forecast}

theorem foreseen?_of_gathered (forecast : Forecast) {slots : List (Linter × Option (List Char))}
    {outputs : List (Linter × List Char)} (h : gathered? slots = some outputs) (place : Nat) :
    foreseen? forecast place slots = some outputs := by
  induction slots generalizing outputs place with
  | nil =>
    simp only [gathered?, List.mapM_nil, pure, Option.some.injEq] at h
    rw [← h, foreseen?]
  | cons slot rest ih =>
    obtain ⟨linter, output⟩ := slot
    cases output with
    | none => simp [gathered?] at h
    | some raw =>
      obtain ⟨later, hl, rfl⟩ : ∃ later, gathered? rest = some later ∧
          (linter, raw) :: later = outputs := by
        simpa [gathered?, Option.bind_eq_some_iff] using h
      simp [foreseen?, ih hl]

/-- A slot that is filled with what was foreseen for it leaves what is foreseen as it is. -/
theorem foreseen?_fill {slots : List (Linter × Option (List Char))} {index : Nat} (place : Nat)
    {linter : Linter} {raw : List Char} (hs : slots[index]? = some (linter, none))
    (hr : (forecast (place + index)).output = .ok raw) :
    foreseen? forecast place (fill slots index raw) = foreseen? forecast place slots := by
  induction slots generalizing index place with
  | nil => simp at hs
  | cons slot rest ih =>
    cases index with
    | zero =>
      obtain rfl : slot = (linter, none) := by simpa using hs
      simp only [Nat.add_zero] at hr
      simp [fill, foreseen?, hr, Except.toOption]
    | succ index =>
      have hrest : rest[index]? = some (linter, none) := by simpa using hs
      rw [show place + (index + 1) = place + 1 + index by omega] at hr
      have ih' := ih (place + 1) hrest hr
      simp only [fill] at ih'
      simp [fill, foreseen?, ih']

/-- A slot whose run crashes leaves nothing to be foreseen. -/
theorem foreseen?_of_crash {slots : List (Linter × Option (List Char))} {index : Nat}
    (place : Nat) {linter : Linter} {message : String} (hs : slots[index]? = some (linter, none))
    (hr : (forecast (place + index)).output = .error message) :
    foreseen? forecast place slots = none := by
  induction slots generalizing index place with
  | nil => simp at hs
  | cons slot rest ih =>
    cases index with
    | zero =>
      obtain rfl : slot = (linter, none) := by simpa using hs
      simp only [Nat.add_zero] at hr
      simp [foreseen?, hr, Except.toOption]
    | succ index =>
      have hlater : rest[index]? = some (linter, none) := by simpa using hs
      rw [show place + (index + 1) = place + 1 + index by omega] at hr
      have hrest : foreseen? forecast (place + 1) rest = none := ih (place + 1) hlater hr
      simp only [foreseen?, hrest]
      split <;> rfl

/-- Runs that go on at once come to what they come to one after another. -/
theorem foreseen?_bind_absorb (linters : List Linter) (place : Nat) (set : WarningSet) :
    ((foreseen? forecast place (linters.map fun linter => (linter, none))).bind
      fun outputs => absorbOutputs? outputs set) = absorbRuns? forecast place linters set := by
  induction linters generalizing place set with
  | nil => rfl
  | cons linter rest ih =>
    simp only [List.map_cons, foreseen?, absorbRuns?, Option.none_or]
    cases hr : (forecast place).output with
    | error message => rfl
    | ok raw =>
      simp only [Except.toOption]
      -- The outputs that follow are foreseen before the first is read: the two may change places.
      cases ha : linter.absorb? raw (linter.pattern.findAll raw) set with
      | none =>
        cases foreseen? forecast (place + 1) (rest.map fun linter => (linter, none)) <;>
          simp [absorbOutputs?, ha]
      | some next =>
        rw [Option.bind_some, ← ih]
        cases foreseen? forecast (place + 1) (rest.map fun linter => (linter, none)) <;>
          simp [absorbOutputs?, ha]

theorem exists_open_slot {slots : List (Linter × Option (List Char))}
    (h : gathered? slots = none) : ∃ slot ∈ slots, slot.2 = none := by
  induction slots with
  | nil => simp [gathered?] at h
  | cons slot rest ih =>
    obtain ⟨linter, output⟩ := slot
    cases output with
    | none => exact ⟨(linter, none), by simp, rfl⟩
    | some raw =>
      have hrest : gathered? rest = none := by
        cases hg : gathered? rest with
        | none => rfl
        | some later =>
          have hg' := hg
          simp only [gathered?] at h hg'
          simp [hg'] at h
      obtain ⟨slot, hm, hn⟩ := ih hrest
      exact ⟨slot, List.mem_cons_of_mem _ hm, hn⟩

theorem map_fst_fill (slots : List (Linter × Option (List Char))) (index : Nat)
    (raw : List Char) : (fill slots index raw).map (·.1) = slots.map (·.1) := by
  induction slots generalizing index with
  | nil => simp [fill]
  | cons slot rest ih =>
    cases index with
    | zero => rfl
    | succ index =>
      have := ih index
      simp only [fill] at this
      simp [fill, this]

end Slots

/-! ### Steps -/

section Steps

variable {forecast : Forecast} {settings : Settings} {now : Snapshot}

theorem placeOf_succ {rest : List Linter} {linter : Linter}
    (h : linter :: rest <:+ now.linters) :
    now.placeOf rest + 1 = now.linters.length - rest.length := by
  have := h.length_le
  simp only [List.length_cons] at this
  unfold Snapshot.placeOf
  omega

theorem outlook_callNext {rest : List Linter} (set : WarningSet) (h : rest <:+ now.linters) :
    (callNext settings now set rest).stage.outlook forecast =
      (absorbRuns? forecast (now.linters.length - rest.length) rest set).map now.entry := by
  cases rest with
  | nil => rfl
  | cons linter rest =>
    have hp : now.linters.length - (linter :: rest).length = now.placeOf rest := by
      have := placeOf_succ h
      simp only [List.length_cons]
      omega
    rw [hp]
    rfl

/-- A batch either ends a refresh, or leads to a pause, or goes on with what follows. -/
theorem readBatch_cases (settings : Settings) (now : Snapshot) (set : WarningSet) (paused : Paused)
    (outputs : List (Linter × List Char)) (rest : List Linter) (next : WarningSet → Turn) :
    (∃ e, (readBatch settings now set paused outputs rest next).stage = .failed (.reading e) ∧
      paused.linter.absorb? paused.raw paused.left set = none) ∨
    (∃ after, (readBatch settings now set paused outputs rest next).stage =
        .parsing now after { paused with left := paused.left.drop settings.batchSize } outputs
          rest ∧
      settings.batchSize ≤ paused.left.length ∧
      paused.linter.absorb? paused.raw paused.left set =
        paused.linter.absorb? paused.raw (paused.left.drop settings.batchSize) after) ∨
    ∃ after, (readBatch settings now set paused outputs rest next).stage = (next after).stage ∧
      paused.linter.absorb? paused.raw paused.left set = some after := by
  have hsplit := Linter.absorb?_append paused.linter paused.raw
    (paused.left.take settings.batchSize) (paused.left.drop settings.batchSize) set
  rw [List.take_append_drop] at hsplit
  rw [hsplit]
  simp only [readBatch]
  split
  next e he => exact .inl ⟨e, rfl, by simp [Linter.absorb?_of_failure he]⟩
  next he =>
    rw [Linter.absorb?_of_none he, Option.bind_some]
    by_cases hfull : (paused.left.take settings.batchSize).length = settings.batchSize
    · rw [if_pos hfull]
      refine .inr (.inl ⟨_, rfl, ?_, rfl⟩)
      rw [List.length_take] at hfull
      omega
    · rw [if_neg hfull]
      refine .inr (.inr ⟨_, rfl, ?_⟩)
      have hend : paused.left.drop settings.batchSize = [] := by
        rw [List.length_take] at hfull
        exact List.drop_eq_nil_of_le (by omega)
      rw [hend, Linter.absorb?_nil]

theorem outlook_readBatch (set : WarningSet) (paused : Paused)
    (outputs : List (Linter × List Char)) (rest : List Linter) (next : WarningSet → Turn)
    (h : ∀ set, (next set).stage.outlook forecast =
      ((absorbOutputs? outputs set).bind
        (absorbRuns? forecast (now.linters.length - rest.length) rest)).map now.entry) :
    (readBatch settings now set paused outputs rest next).stage.outlook forecast =
      (Stage.parsing now set paused outputs rest).outlook forecast := by
  obtain ⟨e, hs, ha⟩ | ⟨after, hs, -, ha⟩ | ⟨after, hs, ha⟩ :=
    readBatch_cases settings now set paused outputs rest next
  · simp [hs, ha]
  · simp [hs, ha]
  · rw [hs, h, outlook_parsing, ha, Option.bind_some]

theorem outlook_readOutputs (forecast : Forecast) (settings : Settings) {rest : List Linter}
    (hrest : rest <:+ now.linters)
    (outputs : List (Linter × List Char)) (set : WarningSet) :
    (readOutputs settings now rest outputs set).stage.outlook forecast =
      ((absorbOutputs? outputs set).bind
        (absorbRuns? forecast (now.linters.length - rest.length) rest)).map now.entry := by
  induction outputs generalizing set with
  | nil => exact outlook_callNext set hrest
  | cons output outputs ih =>
    obtain ⟨linter, raw⟩ := output
    rw [readOutputs, outlook_readBatch _ _ _ _ _ ih]
    rfl

theorem outlook_receive_call {set : WarningSet} {linter : Linter} {rest : List Linter}
    (hf : linter :: rest <:+ now.linters) (index : Nat) :
    (receive settings index (forecast (now.placeOf rest))
      (.calling now set linter rest)).stage.outlook forecast =
      (Stage.calling now set linter rest).outlook forecast := by
  have hrest : rest <:+ now.linters := (List.suffix_cons linter rest).trans hf
  simp only [receive, outlook_calling, absorbRuns?]
  cases (forecast (now.placeOf rest)).output with
  | error message => rfl
  | ok raw =>
    simp only [outlook_readOutputs forecast settings hrest, absorbOutputs?, placeOf_succ hf]
    cases linter.absorb? raw (linter.pattern.findAll raw) set <;> rfl

theorem outlook_receive_gather {slots : List (Linter × Option (List Char))} {index : Nat}
    {linter : Linter} (hs : slots[index]? = some (linter, none)) :
    (receive settings index (forecast index) (.gathering now slots)).stage.outlook forecast =
      (Stage.gathering now slots).outlook forecast := by
  simp only [receive]
  cases hr : (forecast index).output with
  | error message =>
    have hn := foreseen?_of_crash 0 hs (by simpa using hr)
    simp [hn]
  | ok raw =>
    have hfill := foreseen?_fill 0 hs (by simpa using hr)
    cases hg : gathered? (fill slots index raw) with
    | none => simp [hg, hfill]
    | some outputs =>
      have hall := foreseen?_of_gathered forecast hg 0
      rw [hfill] at hall
      have hr := outlook_readOutputs forecast settings (List.nil_suffix (l := now.linters))
        outputs .empty
      simp only [hg, hr, outlook_gathering, hall, Option.bind_some]
      cases absorbOutputs? outputs .empty <;> rfl

theorem outlook_resume_parsing {set : WarningSet} {paused : Paused}
    {outputs : List (Linter × List Char)} {rest : List Linter} (hrest : rest <:+ now.linters) :
    (resume settings (.parsing now set paused outputs rest)).stage.outlook forecast =
      (Stage.parsing now set paused outputs rest).outlook forecast := by
  rw [resume]
  exact outlook_readBatch _ _ _ _ _ (outlook_readOutputs forecast settings hrest outputs)

end Steps

end Gutter.Refresh
