import Gutter.Proofs.Session.Runs

/-! Where refreshes come from. What a refresh notes when it starts, and how each run for it ends,
decide what it comes to; nothing else that happens meanwhile has a part in it. -/

namespace Gutter.Session

open Refresh (Stage Snapshot Forecast absorbRuns?)

/-- Somewhere among the events, `P` holds of one and of the session in which it happens. -/
def Happened (P : Session → Event → Prop) (s : Session) : List Event → Prop
  | [] => False
  | event :: events => P s event ∨ Happened P (s.step event) events

section Happened

variable {P : Session → Event → Prop} {s : Session}

theorem run_append (first second : List Event) :
    s.run (first ++ second) = (s.run first).run second := List.foldl_append

theorem happened_append {first second : List Event} :
    Happened P s (first ++ second) ↔ Happened P s first ∨ Happened P (s.run first) second := by
  induction first generalizing s with
  | nil => simp [Happened, run]
  | cons event first ih =>
    rw [List.cons_append, Happened, Happened, ih, or_assoc]
    rfl

end Happened

/-- The run for the refresh `number` of the linter at `place` ends. -/
def Ends (number place : Nat) (linter : Linter) (outcome : Outcome) (s : Session)
    (event : Event) : Prop :=
  ∃ run, event = .finish run outcome ∧ run ∈ s.runs ∧ run.begun = true ∧ run.task = number ∧
    run.index = place ∧ run.linter = linter

/-- The refresh `number` can start, and what it notes is `now`. -/
def Starts (number : Nat) (now : Snapshot) (s : Session) : Prop :=
  ∃ task document, task ∈ s.tasks ∧ task.number = number ∧ task.document = now.document ∧
    task.stage = .waiting ∧ s.document? now.document = some document ∧
    Refresh.snapshot s.base s.registry document = .ok now

/-- The refresh `number` started after `before`, and `after` brought it to the stage. The runs whose
places are not open have ended with `outcomes`, which decide what the refresh comes to. -/
structure Traced (first : Session) (before : List Event) (number : Nat) (after : List Event)
    (now : Snapshot) (outcomes : Forecast) (stage : Stage) : Prop where
  starts : Starts number now (first.run before)
  follows : stage.Follows now
  ended : ∀ place linter, now.linters[place]? = some linter → ¬stage.Open place →
    Happened (Ends number place linter (outcomes place)) (first.run (before ++ [.start number]))
      after
  outlook : ∀ forecast, (∀ place, ¬stage.Open place → forecast place = outcomes place) →
    stage.outlook forecast = (absorbRuns? forecast 0 now.linters .empty).map now.entry

namespace Traced

variable {first : Session} {before after : List Event} {number : Nat} {now : Snapshot}
  {outcomes : Forecast} {stage : Stage}

theorem later (h : Traced first before number after now outcomes stage) (event : Event) :
    Traced first before number (after ++ [event]) now outcomes stage :=
  { h with
    ended := fun place linter hl ho => happened_append.mpr (.inl (h.ended place linter hl ho)) }

theorem start {settings : Settings} {document : Document}
    (hstarts : Starts number now (first.run before))
    (hsnapshot : Refresh.snapshot (first.run before).base (first.run before).registry document =
      .ok now) :
    Traced first before number [] now outcomes
      (Refresh.start settings (first.run before).base (first.run before).registry
        document).stage where
  starts := hstarts
  follows := Refresh.follows_start hsnapshot
  ended := by
    intro place linter hl ho
    rw [Refresh.open_start hsnapshot] at ho
    exact (ho (List.getElem?_eq_some_iff.mp hl).1).elim
  outlook := fun forecast _ => Refresh.outlook_start forecast hsnapshot

/-- The end of a run that is waited for decides what the refresh comes to, together with those
before. -/
theorem receive (settings : Settings) (h : Traced first before number after now outcomes stage)
    {run : Run} {outcome : Outcome} (hawaits : stage.Awaits run.index run.linter)
    (hrun : run ∈ (first.run (before ++ .start number :: after)).runs) (hbegun : run.begun = true)
    (hnumber : run.task = number)
    (hgoes : ∀ e, (Refresh.receive settings run.index outcome stage).stage ≠ .failed e) :
    Traced first before number (after ++ [.finish run outcome]) now
      (Function.update outcomes run.index outcome)
      (Refresh.receive settings run.index outcome stage).stage := by
  obtain ⟨e, he⟩ | hopen := Refresh.open_receive settings h.follows hawaits outcome
  · exact (hgoes e he).elim
  have hlinter := Refresh.getElem?_of_awaits h.follows hawaits
  refine ⟨h.starts, Refresh.follows_receive h.follows _ _, ?_, ?_⟩
  · intro place linter hl ho
    rw [happened_append, ← run_append, List.append_assoc]
    by_cases hplace : place = run.index
    · subst hplace
      rw [hlinter] at hl
      refine .inr (.inl ⟨run, ?_, hrun, hbegun, hnumber, rfl, Option.some.inj hl⟩)
      rw [Function.update_self]
    · have hold : ¬stage.Open place := fun hold => ho ((hopen place).mpr ⟨hold, hplace⟩)
      rw [Function.update_of_ne hplace]
      exact .inl (h.ended place linter hl hold)
  · intro forecast hagrees
    have hself : forecast run.index = outcome := by
      rw [hagrees run.index fun ho => ((hopen run.index).mp ho).2 rfl, Function.update_self]
    have hbefore : ∀ place, ¬stage.Open place → forecast place = outcomes place := by
      intro place ho
      have hne : place ≠ run.index := by
        rintro rfl
        exact ho (Refresh.open_of_awaits h.follows hawaits)
      rw [hagrees place fun hn => ho ((hopen place).mp hn).1, Function.update_of_ne hne]
    rw [← h.outlook forecast hbefore, ← hself]
    exact Refresh.outlook_receive h.follows hawaits

theorem resume (settings : Settings) (h : Traced first before number after now outcomes stage)
    (event : Event) (hgoes : ∀ e, (Refresh.resume settings stage).stage ≠ .failed e) :
    Traced first before number (after ++ [event]) now outcomes
      (Refresh.resume settings stage).stage := by
  obtain ⟨e, he⟩ | hopen := Refresh.open_resume settings h.follows
  · exact (hgoes e he).elim
  have hlater := h.later event
  refine ⟨h.starts, Refresh.follows_resume h.follows, ?_, ?_⟩
  · exact fun place linter hl ho => hlater.ended place linter hl (mt (hopen place).mpr ho)
  · intro forecast hagrees
    rw [← h.outlook forecast fun place ho => hagrees place (mt (hopen place).mp ho)]
    exact Refresh.outlook_resume h.follows

end Traced

end Gutter.Session
