import Gutter.Proofs.Refresh.Batch
import Gutter.Refresh.Whole

/-! One linter after another or all at once: whichever the settings ask for, and in whatever order
runs end, a refresh comes to the same entry, or fails in the same cases. -/

namespace Gutter.Refresh

/-- The refresh is over: complete with an entry, or failed without one. -/
def Stage.IsEnd (result : Option Entry) : Stage → Prop
  | .completed entry => result = some entry
  | .failed _ => result = none
  | _ => False

/-- Whatever the order in which its runs end, a refresh of the document comes to the result. -/
def ResultsIn (settings : Settings) (base : Path.Base) (registry : Registry) (document : Document)
    (forecast : Forecast) (result : Option Entry) : Prop :=
  ComesTo (GoesOn settings forecast) (Stage.IsEnd result)
    (start settings base registry document).stage

/-- The entry of a document whose linters' outputs are absorbed in the order of registration, if it
has a path and all of them can be. -/
def entryOf? (base : Path.Base) (registry : Registry) (document : Document) (forecast : Forecast) :
    Option Entry :=
  match snapshot base registry document with
  | .error _ => none
  | .ok now => (absorbRuns? forecast 0 now.linters .empty).map now.entry

section Result

variable {settings : Settings} {base : Path.Base} {registry : Registry} {document : Document}
  {forecast : Forecast} {result : Option Entry}

theorem Stage.IsEnd.not_goesOn {stage later : Stage} (h : stage.IsEnd result) :
    ¬GoesOn settings forecast stage later := by
  intro hstep
  cases hstep with
  | @receive stage place linter hawaits =>
    cases stage with
    | calling => exact h.elim
    | gathering => exact h.elim
    | _ => exact hawaits.elim
  | resume => exact h.elim

theorem Stage.IsEnd.unique {stage : Stage} {other : Option Entry} (h : stage.IsEnd result)
    (h' : stage.IsEnd other) : other = result := by
  cases stage with
  | completed entry => exact Eq.trans h' (Eq.symm h)
  | failed e => exact Eq.trans h' (Eq.symm h)
  | _ => exact h.elim

theorem resultsIn_entryOf (hsize : 0 < settings.batchSize) :
    ResultsIn settings base registry document forecast
      (entryOf? base registry document forecast) := by
  unfold ResultsIn entryOf?
  cases hsnapshot : snapshot base registry document with
  | error e =>
    rw [start_of_error hsnapshot]
    exact .here rfl
  | ok now =>
    refine (comesTo_outlook hsize (follows_start hsnapshot)).mono ?_
    rw [outlook_start forecast hsnapshot]
    rintro last (⟨entry, rfl, hentry⟩ | ⟨e, rfl, hnone⟩)
    · exact hentry
    · exact hnone

/-- A refresh has one result, in which neither the order of its runs nor the settings have
a part. -/
theorem resultsIn_iff (hsize : 0 < settings.batchSize) :
    ResultsIn settings base registry document forecast result ↔
      result = entryOf? base registry document forecast := by
  constructor
  · intro h
    obtain ⟨last, hlast, hend⟩ := ComesTo.meet (fun _ _ ha => ha.not_goesOn)
      (fun _ _ ha => ha.not_goesOn) h (resultsIn_entryOf hsize)
    exact hend.unique hlast
  · rintro rfl
    exact resultsIn_entryOf hsize

/-- Linters that run at once and linters that run one after another come to one result: the same
entry, with the same lines and warnings in the same order, or a failure of both. -/
theorem modes_agree (settings : Settings) (base : Path.Base) (registry : Registry)
    (document : Document) (forecast : Forecast) (hsize : 0 < settings.batchSize) :
    ∃ result, ∀ other,
      (ResultsIn { settings with parallel := true } base registry document forecast other ↔
        other = result) ∧
      (ResultsIn { settings with parallel := false } base registry document forecast other ↔
        other = result) := by
  have hatOnce : 0 < ({ settings with parallel := true } : Settings).batchSize := hsize
  have hinTurn : 0 < ({ settings with parallel := false } : Settings).batchSize := hsize
  exact ⟨_, fun other => ⟨resultsIn_iff hatOnce, resultsIn_iff hinTurn⟩⟩

end Result

/-- The linter `loud` reports two lines, the second of which `plain` reports as well. -/
theorem tellers_agree :
    0 < ({} : Settings).batchSize ∧
    ∃ result, result = some ⟨0, some "/w/a.py", "/w/a.py", 0,
        ⟨[(4, [⟨4, 2, "odd", some "loud"⟩]),
          (3, [⟨3, 7, "late", some "loud"⟩, ⟨3, 1, "unused", some "plain"⟩])]⟩⟩ ∧
      ResultsIn { parallel := true } bareBase tellers pythonFile
        (told "4:2:odd\n3:7:late".toList) result ∧
      ResultsIn { parallel := false } bareBase tellers pythonFile
        (told "4:2:odd\n3:7:late".toList) result := by
  have hsize : 0 < ({} : Settings).batchSize := by decide
  obtain ⟨result, hagree⟩ :=
    modes_agree {} bareBase tellers pythonFile (told "4:2:odd\n3:7:late".toList) hsize
  obtain ⟨hatOnce, hinTurn⟩ := hagree result
  refine ⟨hsize, result, ?_, hatOnce.mpr rfl, hinTurn.mpr rfl⟩
  rw [(resultsIn_iff hsize).mp (hinTurn.mpr rfl)]
  cbv

/-! ### Refreshes as a whole -/

section Whole

variable {settings : Settings} {tool : Command → Outcome} {now : Snapshot} {forecast : Forecast}

/-- What is foreseen for linters, the first of which has the place `place`, is what the tool does
with their commands. -/
def Foretells (settings : Settings) (tool : Command → Outcome) (now : Snapshot)
    (forecast : Forecast) (place : Nat) (linters : List Linter) : Prop :=
  ∀ (index : Nat) (linter : Linter), linters[index]? = some linter →
    forecast (place + index) = tool (commandOf settings now linter)

theorem Foretells.first {place : Nat} {linter : Linter} {rest : List Linter}
    (h : Foretells settings tool now forecast place (linter :: rest)) :
    forecast place = tool (commandOf settings now linter) :=
  h 0 linter rfl

theorem Foretells.later {place : Nat} {linter : Linter} {rest : List Linter}
    (h : Foretells settings tool now forecast place (linter :: rest)) :
    Foretells settings tool now forecast (place + 1) rest := by
  intro index other hother
  rw [show place + 1 + index = place + (index + 1) by omega]
  exact h (index + 1) other hother

/-- Outputs that are parsed one after another are absorbed, and what follows goes on from there. -/
theorem result_parseAll {next : WarningSet → Report} (outputs : List (Linter × List Char))
    (set : WarningSet) :
    (parseAll next outputs set).result.toOption =
      (absorbOutputs? outputs set).bind fun last => (next last).result.toOption := by
  induction outputs generalizing set with
  | nil => rfl
  | cons output outputs ih =>
    obtain ⟨linter, raw⟩ := output
    unfold parseAll absorbOutputs?
    cases hfailure : (linter.parse raw set).failure with
    | some e =>
      rw [Linter.absorb?_of_failure hfailure]
      simp only [hfailure]
      rfl
    | none =>
      rw [Linter.absorb?_of_none hfailure, Option.bind_some]
      simp only [hfailure]
      exact ih _

theorem result_sequential {place : Nat} {linters : List Linter}
    (h : Foretells settings tool now forecast place linters) (set : WarningSet) :
    (sequential settings tool now linters set).result.toOption =
      (absorbRuns? forecast place linters set).map now.entry := by
  induction linters generalizing place set with
  | nil => rfl
  | cons linter rest ih =>
    unfold sequential absorbRuns?
    simp only [Report.after, h.first]
    cases (tool (commandOf settings now linter)).output with
    | error message => rfl
    | ok raw =>
      simp only [result_parseAll, absorbOutputs?, ih h.later]
      cases linter.absorb? raw (linter.pattern.findAll raw) set <;> rfl

theorem outputs_eq_foreseen {place : Nat} {linters : List Linter}
    (h : Foretells settings tool now forecast place linters) :
    (outputs tool (linters.map fun linter => (linter, commandOf settings now linter))).toOption =
      foreseen? forecast place (linters.map fun linter => (linter, none)) := by
  induction linters generalizing place with
  | nil => rfl
  | cons linter rest ih =>
    simp only [List.map_cons, outputs, foreseen?, Option.none_or, h.first]
    cases (tool (commandOf settings now linter)).output with
    | error message => rfl
    | ok raw =>
      simp only [Except.toOption, ← ih h.later]
      cases outputs tool (rest.map fun linter => (linter, commandOf settings now linter)) <;> rfl

theorem result_concurrent (h : Foretells settings tool now forecast 0 now.linters) :
    (concurrent settings tool now).result.toOption =
      (absorbRuns? forecast 0 now.linters .empty).map now.entry := by
  rw [← foreseen?_bind_absorb, ← outputs_eq_foreseen h]
  unfold concurrent
  simp only [Report.after]
  cases outputs tool (now.linters.map fun linter => (linter, commandOf settings now linter)) with
  | error message => rfl
  | ok gathered =>
    refine (result_parseAll gathered .empty).trans ?_
    rw [Except.toOption, Option.bind_some]
    cases absorbOutputs? gathered .empty <;> rfl

/-- A refresh as a whole comes to what its steps come to. -/
theorem whole_resultsIn {base : Path.Base} {registry : Registry} {document : Document}
    (hsize : 0 < settings.batchSize)
    (h : ∀ now, snapshot base registry document = .ok now →
      Foretells settings tool now forecast 0 now.linters) :
    ResultsIn settings base registry document forecast
      (whole settings base registry tool document).result.toOption := by
  rw [resultsIn_iff hsize]
  unfold whole entryOf?
  cases hsnapshot : snapshot base registry document with
  | error e => rfl
  | ok now =>
    simp only
    split
    · exact result_concurrent (h now hsnapshot)
    · exact result_sequential (h now hsnapshot) .empty

end Whole

end Gutter.Refresh
