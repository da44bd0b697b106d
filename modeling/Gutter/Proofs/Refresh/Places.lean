import Gutter.Proofs.Refresh.Course

/-! The places of linters in a refresh: of which runs the outputs are still to come at a stage, which
of them the stage waits for, and which of their commands it has begun with a turn. A run that ends
takes its own place from those that are waited for, and no other; from start to end each linter
begins once. -/

namespace Gutter.Refresh

/-- The run of the linter at the place has not ended yet. -/
def Stage.Open (place : Nat) : Stage → Prop
  | .calling now _ _ rest => now.placeOf rest ≤ place ∧ place < now.linters.length
  | .gathering _ slots => ∃ linter, slots[place]? = some (linter, none)
  | .parsing now _ _ _ rest =>
    now.linters.length - rest.length ≤ place ∧ place < now.linters.length
  | _ => False

/-- The stage waits for a run of the linter, which has the place. -/
def Stage.Awaits (place : Nat) (linter : Linter) : Stage → Prop
  | .calling now _ next rest => place = now.placeOf rest ∧ linter = next
  | .gathering _ slots => slots[place]? = some (linter, none)
  | _ => False

section Places

variable {settings : Settings} {now : Snapshot} {stage : Stage} {place : Nat} {linter : Linter}

theorem Stage.Follows.ne_waiting (h : stage.Follows now) : stage ≠ .waiting := by
  rintro rfl
  exact h

theorem Stage.Awaits.ne_waiting (h : stage.Awaits place linter) : stage ≠ .waiting := by
  rintro rfl
  exact h

theorem getElem?_of_suffix {rest : List Linter} (h : linter :: rest <:+ now.linters) :
    now.linters[now.placeOf rest]? = some linter := by
  obtain ⟨before, hb⟩ := h
  have hlength : now.placeOf rest = before.length := by
    rw [Snapshot.placeOf, ← hb, List.length_append, List.length_cons]
    omega
  rw [hlength, ← hb]
  simp

/-- A run that is waited for is of the linter at its place. -/
theorem getElem?_of_awaits (hf : stage.Follows now) (h : stage.Awaits place linter) :
    now.linters[place]? = some linter := by
  cases stage with
  | calling noted set next rest =>
    obtain ⟨rfl, hsuffix⟩ := hf
    obtain ⟨rfl, rfl⟩ := h
    exact getElem?_of_suffix hsuffix
  | gathering noted slots =>
    obtain ⟨rfl, hall, -⟩ := hf
    have hslot : slots[place]? = some (linter, none) := h
    rw [← hall, List.getElem?_map, hslot]
    rfl
  | _ => exact h.elim

theorem open_of_awaits (hf : stage.Follows now) (h : stage.Awaits place linter) :
    stage.Open place := by
  have hlinter := getElem?_of_awaits hf h
  cases stage with
  | calling noted set next rest =>
    obtain ⟨rfl, -⟩ := hf
    exact ⟨h.1.ge, (List.getElem?_eq_some_iff.mp hlinter).1⟩
  | gathering noted slots => exact ⟨linter, h⟩
  | _ => exact h.elim

theorem open_callNext {rest : List Linter} (set : WarningSet) (h : rest <:+ now.linters) :
    (callNext settings now set rest).stage.Open place ↔
      now.linters.length - rest.length ≤ place ∧ place < now.linters.length := by
  cases rest with
  | nil =>
    have hfalse : ¬(now.linters.length - 0 ≤ place ∧ place < now.linters.length) := by omega
    exact iff_of_false id hfalse
  | cons next rest =>
    have := placeOf_succ h
    have hplace : now.linters.length - (next :: rest).length = now.placeOf rest := by
      simp only [List.length_cons]
      omega
    rw [hplace]
    rfl

/-- Outputs that are read leave open what follows them, unless one of them cannot be read. -/
theorem open_readOutputs (settings : Settings) {rest : List Linter} (hrest : rest <:+ now.linters)
    (outputs : List (Linter × List Char)) (set : WarningSet) :
    (∃ e, (readOutputs settings now rest outputs set).stage = .failed e) ∨
      ∀ place, (readOutputs settings now rest outputs set).stage.Open place ↔
        now.linters.length - rest.length ≤ place ∧ place < now.linters.length := by
  induction outputs generalizing set with
  | nil => exact .inr fun place => open_callNext set hrest
  | cons output outputs ih =>
    obtain ⟨linter, raw⟩ := output
    rw [readOutputs]
    obtain ⟨e, hs, -⟩ | ⟨after, hs, -⟩ | ⟨after, hs, -⟩ :=
      readBatch_cases settings now set ⟨linter, raw, linter.pattern.findAll raw⟩ outputs rest
        (readOutputs settings now rest outputs)
    · exact .inl ⟨_, hs⟩
    · exact .inr fun place => by rw [hs]; rfl
    · rw [hs]
      exact ih after

theorem open_resume (settings : Settings) (hf : stage.Follows now) :
    (∃ e, (resume settings stage).stage = .failed e) ∨
      ∀ place, (resume settings stage).stage.Open place ↔ stage.Open place := by
  cases stage with
  | parsing noted set paused outputs rest =>
    obtain ⟨rfl, hrest⟩ := hf
    rw [resume]
    obtain ⟨e, hs, -⟩ | ⟨after, hs, -⟩ | ⟨after, hs, -⟩ :=
      readBatch_cases settings noted set paused outputs rest
        (readOutputs settings noted rest outputs)
    · exact .inl ⟨_, hs⟩
    · exact .inr fun place => by rw [hs]; rfl
    · rw [hs]
      exact open_readOutputs settings hrest outputs after
  | _ => exact .inr fun place => .rfl

/-! ### Slots

Filling one slot leaves the others open. -/

theorem getElem?_fill_ne {slots : List (Linter × Option (List Char))} {index other : Nat}
    (h : other ≠ index) (raw : List Char) : (fill slots index raw)[other]? = slots[other]? := by
  rw [fill, List.getElem?_modify]
  simp [Ne.symm h]

theorem getElem?_fill_self {slots : List (Linter × Option (List Char))} {index : Nat}
    (raw : List Char) : (fill slots index raw)[index]? ≠ some (linter, none) := by
  rw [fill, List.getElem?_modify]
  cases slots[index]? <;> simp

/-- Once all outputs are there no slot is open. -/
theorem not_open_of_gathered {slots : List (Linter × Option (List Char))}
    {outputs : List (Linter × List Char)} (h : gathered? slots = some outputs) :
    slots[place]? ≠ some (linter, none) := by
  intro hslot
  induction slots generalizing place outputs with
  | nil => simp at hslot
  | cons slot rest ih =>
    obtain ⟨first, output⟩ := slot
    cases output with
    | none => simp [gathered?] at h
    | some raw =>
      obtain ⟨later, hl, -⟩ : ∃ later, gathered? rest = some later ∧
          (first, raw) :: later = outputs := by
        simpa [gathered?, Option.bind_eq_some_iff] using h
      cases place with
      | zero => simp at hslot
      | succ place => exact ih hl (by simpa using hslot)

/-- A run that ends closes its own place only, unless its output cannot be read. -/
theorem open_receive (settings : Settings) (hf : stage.Follows now) (h : stage.Awaits place linter)
    (outcome : Outcome) :
    (∃ e, (receive settings place outcome stage).stage = .failed e) ∨
      ∀ other, (receive settings place outcome stage).stage.Open other ↔
        stage.Open other ∧ other ≠ place := by
  cases stage with
  | calling noted set next rest =>
    obtain ⟨rfl, hsuffix⟩ := hf
    obtain ⟨rfl, rfl⟩ := h
    simp only [receive]
    cases outcome.output with
    | error message => exact .inl ⟨_, rfl⟩
    | ok raw =>
      obtain hfailed | hopen := open_readOutputs settings
        ((List.suffix_cons linter rest).trans hsuffix) [(linter, raw)] set
      · exact .inl hfailed
      · refine .inr fun other => (hopen other).trans ?_
        have := placeOf_succ hsuffix
        simp only [Stage.Open]
        omega
  | gathering noted slots =>
    obtain ⟨rfl, hall, -⟩ := hf
    simp only [receive]
    cases outcome.output with
    | error message => exact .inl ⟨_, rfl⟩
    | ok raw =>
      cases hg : gathered? (fill slots place raw) with
      | none =>
        simp only [hg]
        refine .inr fun other => ?_
        by_cases ho : other = place
        · subst ho
          refine iff_of_false ?_ fun hboth => hboth.2 rfl
          rintro ⟨first, hslot⟩
          exact getElem?_fill_self raw hslot
        · simp only [Stage.Open, getElem?_fill_ne ho raw, ne_eq, ho, not_false_eq_true, and_true]
      | some outputs =>
        simp only [hg]
        obtain hfailed | hopen := open_readOutputs settings
          (List.nil_suffix (l := noted.linters)) outputs .empty
        · exact .inl hfailed
        · refine .inr fun other => (hopen other).trans (iff_of_false ?_ ?_)
          · simp only [List.length_nil]
            omega
          · rintro ⟨⟨first, hslot⟩, ho⟩
            rw [← getElem?_fill_ne ho raw] at hslot
            exact not_open_of_gathered hg hslot
  | _ => exact h.elim

theorem output_eq_error {outcome : Outcome} {message : String}
    (h : outcome.output = .error message) : outcome = .crashed message := by
  cases outcome with
  | crashed other => exact congrArg Outcome.crashed (Except.error.inj h)
  | _ => cases h

/-- The crash of a run that is waited for ends a refresh. -/
theorem receive_crashed (settings : Settings) (h : stage.Awaits place linter) (message : String) :
    (receive settings place (.crashed message) stage).stage = .failed (.crash message) := by
  cases stage with
  | calling => rfl
  | gathering => rfl
  | _ => exact h.elim

/-- If a stage waits for several runs, it goes on waiting for the others when one has ended, unless
that has crashed. -/
theorem awaits_receive (settings : Settings) {other : Nat} {next : Linter}
    (hother : stage.Awaits other next)
    (h : stage.Awaits place linter) (hne : other ≠ place) (outcome : Outcome) :
    (∃ message, outcome = .crashed message) ∨
      ∃ now slots, (receive settings place outcome stage).stage = .gathering now slots ∧
        (Stage.gathering now slots).Awaits other next := by
  cases stage with
  | calling noted set first rest => exact (hne (hother.1.trans h.1.symm)).elim
  | gathering noted slots =>
    have hslot : slots[other]? = some (next, none) := hother
    simp only [receive]
    cases hout : outcome.output with
    | error message => exact .inl ⟨message, output_eq_error hout⟩
    | ok raw =>
      rw [← getElem?_fill_ne hne raw] at hslot
      cases hg : gathered? (fill slots place raw) with
      | none => exact .inr ⟨noted, _, by simp only [hg], hslot⟩
      | some outputs => exact (not_open_of_gathered hg hslot).elim
  | _ => exact h.elim

/-- A run that ends as foreseen keeps the outlook. -/
theorem outlook_receive {forecast : Forecast} (hf : stage.Follows now)
    (h : stage.Awaits place linter) :
    (receive settings place (forecast place) stage).stage.outlook forecast =
      stage.outlook forecast := by
  cases stage with
  | calling noted set next rest =>
    obtain ⟨rfl, hsuffix⟩ := hf
    rw [h.1]
    exact outlook_receive_call hsuffix _
  | gathering noted slots => exact outlook_receive_gather h
  | _ => exact h.elim

theorem outlook_resume {forecast : Forecast} (hf : stage.Follows now) :
    (resume settings stage).stage.outlook forecast = stage.outlook forecast := by
  cases stage with
  | parsing noted set paused outputs rest =>
    obtain ⟨rfl, hrest⟩ := hf
    exact outlook_resume_parsing hrest
  | _ => rfl

theorem less_receive (h : stage.Awaits place linter) (outcome : Outcome) :
    (receive settings place outcome stage).stage.Less stage := by
  cases stage with
  | calling noted set next rest => exact less_receive_call set next rest place outcome
  | gathering noted slots => exact less_receive_gather h outcome
  | _ => exact h.elim

end Places

/-- At the start no run has ended. -/
theorem open_start {settings : Settings} {base : Path.Base} {registry : Registry}
    {document : Document} {now : Snapshot} (h : snapshot base registry document = .ok now)
    (place : Nat) :
    (start settings base registry document).stage.Open place ↔ place < now.linters.length := by
  simp only [start, h]
  split
  · simp only [Stage.Open, List.getElem?_map, Option.map_eq_some_iff, Prod.mk.injEq, and_true,
      exists_eq_right]
    simp only [← Option.isSome_iff_exists, isSome_getElem?]
  · rw [open_callNext _ (List.suffix_refl _)]
    omega

/-! ### Commands that are owed -/

/-- The command of the linter that is called. -/
def Stage.called (settings : Settings) : Stage → List Command
  | .calling now _ linter _ => [commandOf settings now linter]
  | _ => []

/-- The commands of the linters that are still to be called. -/
def Stage.owed (settings : Settings) : Stage → List Command
  | .calling now _ _ rest => rest.map (commandOf settings now)
  | .parsing now _ _ _ rest => rest.map (commandOf settings now)
  | _ => []

/-- Linters that are called run one after another. -/
def Stage.InTurn (stage : Stage) : Prop := ∀ now slots, stage ≠ .gathering now slots

section Owing

variable {settings : Settings} {now : Snapshot} {stage : Stage} {place other : Nat}
  {linter next : Linter}

theorem owed_callNext (settings : Settings) (now : Snapshot) (set : WarningSet)
    (rest : List Linter) :
    (callNext settings now set rest).stage.called settings ++
      (callNext settings now set rest).stage.owed settings =
        rest.map (commandOf settings now) := by
  cases rest <;> rfl

theorem Stage.inTurn_calling (now : Snapshot) (set : WarningSet) (linter : Linter)
    (rest : List Linter) : (calling now set linter rest).InTurn := by
  rintro _ _ ⟨⟩

theorem Stage.inTurn_parsing (now : Snapshot) (set : WarningSet) (paused : Paused)
    (outputs : List (Linter × List Char)) (rest : List Linter) :
    (parsing now set paused outputs rest).InTurn := by
  rintro _ _ ⟨⟩

theorem Stage.inTurn_completed (entry : Entry) : (completed entry).InTurn := by
  rintro _ _ ⟨⟩

theorem Stage.inTurn_failed (e : Failure) : (failed e).InTurn := by
  rintro _ _ ⟨⟩

theorem inTurn_callNext (settings : Settings) (now : Snapshot) (set : WarningSet)
    (rest : List Linter) : (callNext settings now set rest).stage.InTurn := by
  cases rest with
  | nil => exact Stage.inTurn_completed _
  | cons linter rest => exact Stage.inTurn_calling now set linter rest

/-- Outputs that are read leave the linters that follow them. -/
theorem owed_readOutputs (settings : Settings) (now : Snapshot) (rest : List Linter)
    (outputs : List (Linter × List Char)) (set : WarningSet) :
    (readOutputs settings now rest outputs set).stage.InTurn ∧
      ((∃ e, (readOutputs settings now rest outputs set).stage = .failed e) ∨
        (readOutputs settings now rest outputs set).stage.called settings ++
          (readOutputs settings now rest outputs set).stage.owed settings =
            rest.map (commandOf settings now)) := by
  induction outputs generalizing set with
  | nil => exact ⟨inTurn_callNext settings now set rest, .inr (owed_callNext settings now set rest)⟩
  | cons output outputs ih =>
    obtain ⟨linter, raw⟩ := output
    rw [readOutputs]
    obtain ⟨e, hs, -⟩ | ⟨after, hs, -⟩ | ⟨after, hs, -⟩ :=
      readBatch_cases settings now set ⟨linter, raw, linter.pattern.findAll raw⟩ outputs rest
        (readOutputs settings now rest outputs)
    · rw [hs]
      exact ⟨Stage.inTurn_failed _, .inl ⟨_, rfl⟩⟩
    · rw [hs]
      exact ⟨Stage.inTurn_parsing _ _ _ _ _, .inr rfl⟩
    · rw [hs]
      exact ih after

/-- A run that ends is followed by the next one, or by none. -/
theorem owed_receive (settings : Settings) (h : stage.Awaits place linter) (outcome : Outcome) :
    (∃ e, (receive settings place outcome stage).stage = .failed e) ∨
      (receive settings place outcome stage).stage.called settings ++
        (receive settings place outcome stage).stage.owed settings = stage.owed settings := by
  cases stage with
  | calling noted set first rest =>
    simp only [receive]
    cases outcome.output with
    | error message => exact .inl ⟨_, rfl⟩
    | ok raw => exact (owed_readOutputs settings noted rest [(first, raw)] set).2
  | gathering noted slots =>
    simp only [receive]
    cases outcome.output with
    | error message => exact .inl ⟨_, rfl⟩
    | ok raw =>
      cases hg : gathered? (fill slots place raw) with
      | none => exact .inr (by simp only [hg]; rfl)
      | some outputs =>
        simp only [hg]
        exact (owed_readOutputs settings noted [] outputs .empty).2
  | _ => exact h.elim

theorem owed_resume (settings : Settings) (stage : Stage)
    (h : ∃ now set paused outputs rest, stage = .parsing now set paused outputs rest) :
    (resume settings stage).stage.InTurn ∧
      ((∃ e, (resume settings stage).stage = .failed e) ∨
        (resume settings stage).stage.called settings ++
          (resume settings stage).stage.owed settings = stage.owed settings) := by
  obtain ⟨now, set, paused, outputs, rest, rfl⟩ := h
  rw [resume]
  obtain ⟨e, hs, -⟩ | ⟨after, hs, -⟩ | ⟨after, hs, -⟩ :=
    readBatch_cases settings now set paused outputs rest (readOutputs settings now rest outputs)
  · rw [hs]
    exact ⟨Stage.inTurn_failed _, .inl ⟨_, rfl⟩⟩
  · rw [hs]
    exact ⟨Stage.inTurn_parsing _ _ _ _ _, .inr rfl⟩
  · rw [hs]
    exact owed_readOutputs settings now rest outputs after

/-- Linters start at once, or the first of them is called. -/
theorem start_cases {base : Path.Base} {registry : Registry} {document : Document}
    (settings : Settings) (h : snapshot base registry document = .ok now) :
    (start settings base registry document).stage =
        .gathering now (now.linters.map fun linter => (linter, none)) ∨
      (start settings base registry document).stage =
        (callNext settings now .empty now.linters).stage := by
  simp only [start, h]
  split
  · exact .inl rfl
  · exact .inr rfl

theorem inTurn_start {base : Path.Base} {registry : Registry} {document : Document}
    (h : settings.parallel = false) : (start settings base registry document).stage.InTurn := by
  unfold start
  split
  · exact Stage.inTurn_failed _
  · rw [h]
    exact inTurn_callNext settings _ _ _

/-- Runs that are called one after another do not come to run at once. -/
theorem inTurn_receive (settings : Settings) (h : stage.InTurn) (place : Nat) (outcome : Outcome) :
    (receive settings place outcome stage).stage.InTurn := by
  cases stage with
  | calling now set linter rest =>
    simp only [receive]
    cases outcome.output with
    | error message => exact Stage.inTurn_failed _
    | ok raw => exact (owed_readOutputs settings now rest [(linter, raw)] set).1
  | gathering now slots => exact (h now slots rfl).elim
  | _ => exact h

/-- The run that a stage waits for is the one that it calls, if it calls one after another. -/
theorem Stage.InTurn.awaits (h : stage.InTurn) (hawaits : stage.Awaits place linter) :
    ∃ now set rest, stage = .calling now set linter rest ∧ place = now.placeOf rest := by
  cases stage with
  | calling now set next rest =>
    obtain ⟨rfl, rfl⟩ := hawaits
    exact ⟨now, set, rest, rfl, rfl⟩
  | gathering now slots => exact (h now slots rfl).elim
  | _ => exact hawaits.elim

/-- What a stage waits for when a run has ended is called with that, or was waited for before. -/
theorem awaits_of_receive (settings : Settings) (h : stage.Awaits place linter) (outcome : Outcome)
    (hother : (receive settings place outcome stage).stage.Awaits other next) :
    (receive settings place outcome stage).stage.InTurn ∨
      stage.Awaits other next ∧ other ≠ place := by
  cases stage with
  | calling noted set first rest =>
    left
    simp only [receive]
    cases outcome.output with
    | error message => exact Stage.inTurn_failed _
    | ok raw => exact (owed_readOutputs settings noted rest [(first, raw)] set).1
  | gathering noted slots =>
    simp only [receive] at hother ⊢
    cases hout : outcome.output with
    | error message => exact .inl (Stage.inTurn_failed _)
    | ok raw =>
      simp only [hout] at hother
      cases hg : gathered? (fill slots place raw) with
      | none =>
        simp only [hg] at hother
        have hne : other ≠ place := by
          rintro rfl
          exact getElem?_fill_self raw hother
        exact .inr ⟨(getElem?_fill_ne hne raw).symm.trans hother, hne⟩
      | some outputs =>
        left
        simp only [hg]
        exact (owed_readOutputs settings noted [] outputs .empty).1
  | _ => exact h.elim

end Owing

end Gutter.Refresh
