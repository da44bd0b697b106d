import Gutter.Proofs.Refresh.Places

/-! Whether a refresh is completed. If every linter's run ends with some output, its warnings are
those of all well-formed matches, whatever the order in which runs end; what spoils a refresh is a
name without an absolute path, and an output with a match that cannot be read. -/

namespace Gutter

/-- The steps from `a`, whichever are taken, come to something of which `P` holds. -/
inductive ComesTo {α : Type} (step : α → α → Prop) (P : α → Prop) : α → Prop
  | here {a : α} (h : P a) : ComesTo step P a
  | later {a b : α} (h : step a b) (all : ∀ b, step a b → ComesTo step P b) : ComesTo step P a

namespace ComesTo

variable {α : Type} {step : α → α → Prop} {P I : α → Prop}

theorem of_wellFounded {r : α → α → Prop} (wf : WellFounded r)
    (next : ∀ a, I a → P a ∨ ∃ b, step a b)
    (keep : ∀ a b, I a → step a b → I b ∧ r b a) {a : α} (h : I a) : ComesTo step P a := by
  induction a using wf.induction with
  | _ a ih =>
    obtain hp | ⟨b, hb⟩ := next a h
    · exact .here hp
    · exact .later hb fun c hc => ih c (keep a c h hc).2 (keep a c h hc).1

theorem mono {Q : α → Prop} {a : α} (h : ComesTo step P a) (hPQ : ∀ b, P b → Q b) :
    ComesTo step Q a := by
  induction h with
  | here hp => exact .here (hPQ _ hp)
  | later hb _ ih => exact .later hb ih

/-- Two things at which no step starts, and to which the steps come in any case, are the same. -/
theorem meet {Q : α → Prop} (hp : ∀ a b, P a → ¬step a b) (hq : ∀ a b, Q a → ¬step a b) {a : α}
    (h : ComesTo step P a) (h' : ComesTo step Q a) : ∃ b, P b ∧ Q b := by
  induction h with
  | here ha =>
    cases h' with
    | here ha' => exact ⟨_, ha, ha'⟩
    | later hb _ => exact absurd hb (hp _ _ ha)
  | later hb _ ih =>
    cases h' with
    | here ha' => exact absurd hb (hq _ _ ha')
    | later _ all => exact ih _ hb (all _ hb)

end ComesTo

/-- What a run printed, less a newline at its end: nothing if it was refused. -/
def Outcome.text (outcome : Outcome) : List Char :=
  match outcome.output with
  | .ok raw => raw
  | .error _ => []

theorem Outcome.output_eq_text {outcome : Outcome} (h : ∀ message, outcome ≠ .crashed message) :
    outcome.output = .ok outcome.text := by
  cases outcome with
  | crashed message => exact absurd rfl (h message)
  | _ => rfl

namespace Refresh

/-- A refresh goes on: a run that it waits for ends as foreseen, or a pause is over. -/
inductive GoesOn (settings : Settings) (forecast : Forecast) : Stage → Stage → Prop
  | receive {stage : Stage} {place : Nat} {linter : Linter} (h : stage.Awaits place linter) :
    GoesOn settings forecast stage (receive settings place (forecast place) stage).stage
  | resume (now : Snapshot) (set : WarningSet) (paused : Paused)
    (outputs : List (Linter × List Char)) (rest : List Linter) :
    GoesOn settings forecast (.parsing now set paused outputs rest)
      (Refresh.resume settings (.parsing now set paused outputs rest)).stage

/-- The warnings of all well-formed matches in what linters printed, the first of which has the
place `place`. -/
def reports (forecast : Forecast) : Nat → List Linter → List Warning
  | _, [] => []
  | place, linter :: rest =>
    let raw := (forecast place).text
    (linter.pattern.findAll raw).filterMap (linter.warningOf? raw) ++
      reports forecast (place + 1) rest

/-- The stage is that of a refresh that is complete, with all the reports about each line. -/
def Stage.HasReports (warnings : List Warning) (stage : Stage) : Prop :=
  ∃ entry, stage = .completed entry ∧
    ∀ line, entry.warnings.forLine line = warnings.filter (WarningSet.isOn line)

section GoesOn

variable {settings : Settings} {forecast : Forecast} {now : Snapshot} {stage later : Stage}

theorem GoesOn.follows (h : GoesOn settings forecast stage later) (hf : stage.Follows now) :
    later.Follows now := by
  cases h with
  | receive => exact follows_receive hf _ _
  | resume => exact follows_resume hf

/-- No step changes what a refresh comes to. -/
theorem GoesOn.outlook (h : GoesOn settings forecast stage later) (hf : stage.Follows now) :
    later.outlook forecast = stage.outlook forecast := by
  cases h with
  | receive hawaits => exact outlook_receive hf hawaits
  | resume => exact outlook_resume hf

theorem GoesOn.less (h : GoesOn settings forecast stage later) (hsize : 0 < settings.batchSize) :
    later.Less stage := by
  cases h with
  | receive hawaits => exact less_receive hawaits _
  | resume => exact less_resume hsize _ _ _ _

/-- A refresh that has not ended can go on. -/
theorem exists_goesOn (settings : Settings) (forecast : Forecast) (hf : stage.Follows now) :
    (∃ entry, stage = .completed entry) ∨ (∃ e, stage = .failed e) ∨
      ∃ later, GoesOn settings forecast stage later := by
  cases stage with
  | waiting => exact hf.elim
  | calling noted set linter rest =>
    have hawaits : (Stage.calling noted set linter rest).Awaits (noted.placeOf rest) linter :=
      ⟨rfl, rfl⟩
    exact .inr (.inr ⟨_, .receive hawaits⟩)
  | gathering noted slots =>
    obtain ⟨-, -, ⟨linter, output⟩, hm, rfl⟩ := hf
    obtain ⟨index, hs⟩ := List.mem_iff_getElem?.mp hm
    have hawaits : (Stage.gathering noted slots).Awaits index linter := hs
    exact .inr (.inr ⟨_, .receive hawaits⟩)
  | parsing noted set paused outputs rest => exact .inr (.inr ⟨_, .resume noted set paused _ rest⟩)
  | completed entry => exact .inl ⟨entry, rfl⟩
  | failed e => exact .inr (.inl ⟨e, rfl⟩)

/-- A refresh ends with the entry that was in view, or fails if there was none. -/
theorem comesTo_outlook (hsize : 0 < settings.batchSize) (hf : stage.Follows now) :
    ComesTo (GoesOn settings forecast)
      (fun last => (∃ entry, last = .completed entry ∧ stage.outlook forecast = some entry) ∨
        ∃ e, last = .failed e ∧ stage.outlook forecast = none) stage := by
  refine ComesTo.of_wellFounded (I := fun present =>
    present.Follows now ∧ present.outlook forecast = stage.outlook forecast)
    less_wellFounded ?_ ?_ ⟨hf, rfl⟩
  · rintro present ⟨hp, ho⟩
    obtain ⟨entry, rfl⟩ | ⟨e, rfl⟩ | hnext := exists_goesOn settings forecast hp
    · exact .inl (.inl ⟨entry, rfl, ho.symm⟩)
    · exact .inl (.inr ⟨e, rfl, ho.symm⟩)
    · exact .inr hnext
  · rintro present later ⟨hp, ho⟩ hstep
    exact ⟨⟨hstep.follows hp, (hstep.outlook hp).trans ho⟩, hstep.less hsize⟩

/-- A refresh that fails in any case is not completed in any case. -/
theorem not_completes_of_fails {warnings : List Warning}
    (hc : ComesTo (GoesOn settings forecast) (Stage.HasReports warnings) stage)
    (hf : ComesTo (GoesOn settings forecast) (fun last => ∃ e, last = .failed e) stage) :
    False := by
  have hcompleted : ∀ last later, last.HasReports warnings →
      ¬GoesOn settings forecast last later := by
    rintro _ later ⟨entry, rfl, -⟩ hstep
    cases hstep with
    | receive hawaits => exact hawaits.elim
  have hfailed : ∀ last later, (∃ e, last = .failed e) → ¬GoesOn settings forecast last later := by
    rintro _ later ⟨e, rfl⟩ hstep
    cases hstep with
    | receive hawaits => exact hawaits.elim
  obtain ⟨_, ⟨entry, rfl, -⟩, e, hlast⟩ := ComesTo.meet hcompleted hfailed hc hf
  cases hlast

end GoesOn

/-- Every match in what linters printed can be read; the first linter has the place `place`. -/
def AllLegible (forecast : Forecast) (place : Nat) (linters : List Linter) : Prop :=
  ∀ (index : Nat) (linter : Linter), linters[index]? = some linter →
    ∀ found ∈ linter.pattern.findAll (forecast (place + index)).text,
      linter.Legible (forecast (place + index)).text found

theorem allLegible_cons {forecast : Forecast} {place : Nat} {linter : Linter}
    {rest : List Linter} :
    AllLegible forecast place (linter :: rest) ↔
      (∀ found ∈ linter.pattern.findAll (forecast place).text,
        linter.Legible (forecast place).text found) ∧ AllLegible forecast (place + 1) rest := by
  constructor
  · intro h
    refine ⟨by simpa using h 0 linter rfl, fun index other hi => ?_⟩
    rw [show place + 1 + index = place + (index + 1) by omega]
    exact h (index + 1) other (by simpa using hi)
  · rintro ⟨hfirst, hrest⟩ index other hi
    cases index with
    | zero =>
      obtain rfl : linter = other := by simpa using hi
      simpa using hfirst
    | succ index =>
      rw [show place + (index + 1) = place + 1 + index by omega]
      exact hrest index other (by simpa using hi)

/-- Runs that all end come to a set exactly if every match in what they printed can be read, and
then to one with all the reports. -/
theorem absorbRuns?_eq_some_iff {forecast : Forecast}
    (calm : ∀ place message, forecast place ≠ .crashed message) (linters : List Linter)
    (place : Nat) (set result : WarningSet) :
    absorbRuns? forecast place linters set = some result ↔
      AllLegible forecast place linters ∧ result = set.addAll (reports forecast place linters) := by
  induction linters generalizing place set with
  | nil => simp [absorbRuns?, reports, AllLegible, eq_comm]
  | cons linter rest ih =>
    simp only [absorbRuns?, Outcome.output_eq_text (calm place), Option.bind_eq_some_iff,
      Linter.absorb?_eq_some_iff, ih, reports, WarningSet.addAll_append, allLegible_cons]
    constructor
    · rintro ⟨next, ⟨hfirst, rfl⟩, hrest, rfl⟩
      exact ⟨⟨hfirst, hrest⟩, rfl⟩
    · rintro ⟨⟨hfirst, hrest⟩, rfl⟩
      exact ⟨_, ⟨hfirst, rfl⟩, hrest, rfl⟩

section Completes

variable {settings : Settings} {base : Path.Base} {registry : Registry} {document : Document}
  {forecast : Forecast} {now : Snapshot}

theorem snapshot_isOk_iff :
    (∃ now, snapshot base registry document = .ok now) ↔
      (∃ path, Path.ofName base document.filename = .ok path) ∧
        ∃ linters, registry.matching? document.filename = .ok linters := by
  simp only [snapshot_eq_ok]
  constructor
  · rintro ⟨_, path, linters, hpath, hlinters, -⟩
    exact ⟨⟨path, hpath⟩, linters, hlinters⟩
  · rintro ⟨⟨path, hpath⟩, linters, hlinters⟩
    exact ⟨_, path, linters, hpath, hlinters, rfl⟩

/-- A refresh whose runs all end is completed with all reports if the document has a path, its
linters can be told, and every match can be read. -/
theorem completes_of_legible (hsize : 0 < settings.batchSize)
    (calm : ∀ place message, forecast place ≠ .crashed message)
    (hpath : ∃ path, Path.ofName base document.filename = .ok path)
    (hlinters : ∃ linters, registry.matching? document.filename = .ok linters)
    (hall : AllLegible forecast 0 (registry.matching document.filename)) :
    ComesTo (GoesOn settings forecast)
      (Stage.HasReports (reports forecast 0 (registry.matching document.filename)))
      (start settings base registry document).stage := by
  obtain ⟨now, hnow⟩ := snapshot_isOk_iff.mpr ⟨hpath, hlinters⟩
  have hlinters := snapshot_linters hnow
  have hset := (absorbRuns?_eq_some_iff calm now.linters 0 .empty _).mpr
    ⟨hlinters ▸ hall, rfl⟩
  refine (comesTo_outlook hsize (follows_start hnow)).mono ?_
  rintro last (⟨entry, rfl, ho⟩ | ⟨e, -, ho⟩) <;> rw [outlook_start forecast hnow, hset] at ho
  · cases ho
    exact ⟨_, rfl, fun line => by
      rw [← hlinters]
      exact WarningSet.forLine_ofList _ line⟩
  · cases ho

/-- Otherwise it fails. -/
theorem fails_of_not_legible (hsize : 0 < settings.batchSize)
    (calm : ∀ place message, forecast place ≠ .crashed message)
    (h : ¬((∃ path, Path.ofName base document.filename = .ok path) ∧
      (∃ linters, registry.matching? document.filename = .ok linters) ∧
      AllLegible forecast 0 (registry.matching document.filename))) :
    ComesTo (GoesOn settings forecast) (fun last => ∃ e, last = .failed e)
      (start settings base registry document).stage := by
  by_cases hnoted : ∃ now, snapshot base registry document = .ok now
  · obtain ⟨now, hnow⟩ := hnoted
    obtain ⟨hpath, htold⟩ := snapshot_isOk_iff.mp ⟨now, hnow⟩
    have hlinters := snapshot_linters hnow
    refine (comesTo_outlook hsize (follows_start hnow)).mono ?_
    rintro last (⟨entry, -, ho⟩ | ⟨e, rfl, -⟩)
    · rw [outlook_start forecast hnow, Option.map_eq_some_iff] at ho
      obtain ⟨set, hset, -⟩ := ho
      have hall := ((absorbRuns?_eq_some_iff calm _ _ _ _).mp hset).1
      exact absurd ⟨hpath, htold, hlinters ▸ hall⟩ h
    · exact ⟨e, rfl⟩
  · cases hs : snapshot base registry document with
    | ok now => exact absurd ⟨now, hs⟩ hnoted
    | error e => exact .here ⟨e, start_of_error hs⟩

end Completes

end Refresh

end Gutter
