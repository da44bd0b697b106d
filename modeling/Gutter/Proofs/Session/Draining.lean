import Gutter.Proofs.Session.Calls
import Gutter.Proofs.Session.Working

/-! Work on a plan with tools that end every run as foreseen: it comes to an end, and then each job
has its entry, and each linter for it has run once. -/

namespace Gutter.Session

open Refresh (Stage commandOf)

/-- The run is of a linter of a job, with its command. -/
def Plan.Expects (plan : Plan) (run : Run) : Prop :=
  ∃ job, plan.jobs[run.task]? = some job ∧ job.now.linters[run.index]? = some run.linter ∧
    run.command = commandOf plan.settings job.now run.linter

/-- The run ends as foreseen. -/
def Plan.Tells (plan : Plan) (run : Run) (outcome : Outcome) : Prop :=
  ∀ job, plan.jobs[run.task]? = some job → outcome = job.told run.index

/-- Tools with which every run of a plan ends as foreseen; `fit` holds between their state and the
runs that have begun. -/
structure Plan.Obeyed {σ : Type} (plan : Plan) (tools : Tools σ) (fit : σ → List Run → Prop) :
    Prop where
  atOnce : ∀ {state runs run outcome}, fit state runs → run ∈ runs → plan.Expects run →
    tools.atOnce state run = some outcome →
      plan.Tells run outcome ∧ fit state (runs.filter (· ≠ run))
  next : ∀ {state runs}, fit state runs → (∀ run ∈ runs, plan.Expects run) → runs ≠ [] →
    ∃ later run outcome, tools.next state runs = (later, some (run, outcome)) ∧ run ∈ runs ∧
      plan.Tells run outcome ∧ fit later (runs.filter (· ≠ run))
  more : ∀ {state runs runs'}, fit state runs → (∀ run ∈ runs, run ∈ runs') → fit state runs'

/-- The runs that have begun. -/
def begunRuns (s : Session) : List Run := s.runs.filter (·.begun)

theorem mem_begunRuns {s : Session} {run : Run} :
    run ∈ s.begunRuns ↔ run ∈ s.runs ∧ run.begun = true :=
  List.mem_filter

/-! ### What happens next -/

section Ready

variable {s : Session}

theorem ready?_eq_some {event : Event} (h : s.ready? = some event) :
    (∃ task ∈ s.ended, event = .settle task.number) ∨
      (∃ task ∈ s.tasks, task.stage = .waiting ∧ event = .start task.number) ∨
      (∃ run ∈ s.runs, run.begun = false ∧ event = .launch run) ∨
      ∃ task ∈ s.tasks, (∃ now set paused outputs rest,
        task.stage = .parsing now set paused outputs rest) ∧ event = .resume task.number := by
  simp only [ready?] at h
  split at h
  next task hended =>
    exact .inl ⟨task, List.mem_of_head? hended, (Option.some.inj h).symm⟩
  next task _ hfind =>
    have hwaits := List.find?_some hfind
    exact .inr (.inl ⟨task, List.mem_of_find?_eq_some hfind, of_decide_eq_true hwaits,
      (Option.some.inj h).symm⟩)
  next run _ _ hfind =>
    have hbegun := List.find?_some hfind
    exact .inr (.inr (.inl ⟨run, List.mem_of_find?_eq_some hfind, by simpa using hbegun,
      (Option.some.inj h).symm⟩))
  next task _ _ _ hfind =>
    have hstage := List.find?_some hfind
    refine .inr (.inr (.inr ⟨task, List.mem_of_find?_eq_some hfind, ?_,
      (Option.some.inj h).symm⟩))
    cases htask : task.stage with
    | parsing now set paused outputs rest => exact ⟨now, set, paused, outputs, rest, rfl⟩
    | _ => simp [htask] at hstage
  next => cases h

/-- If nothing is ready, all runs have begun, and every refresh calls a linter or gathers outputs. -/
theorem ready?_eq_none (h : s.ready? = none) :
    s.ended = [] ∧ (∀ run ∈ s.runs, run.begun = true) ∧ ∀ task ∈ s.tasks,
      task.stage ≠ .waiting ∧ ∀ now set paused outputs rest,
        task.stage ≠ .parsing now set paused outputs rest := by
  simp only [ready?] at h
  split at h
  all_goals try cases h
  next hended hstarting hruns hpausing =>
    refine ⟨List.head?_eq_none_iff.mp hended, fun run hr => ?_, fun task ht => ⟨fun hwaits => ?_,
      fun now set paused outputs rest hstage => ?_⟩⟩
    · simpa using List.find?_eq_none.mp hruns run hr
    · exact List.find?_eq_none.mp hstarting task ht (decide_eq_true hwaits)
    · have hnot := List.find?_eq_none.mp hpausing task ht
      rw [hstage] at hnot
      exact hnot rfl

theorem ended?_eq_some {σ : Type} {tools : Tools σ} {state : σ} {event : Event}
    (h : ended? tools state s = some event) :
    ∃ run ∈ s.begunRuns, ∃ outcome, tools.atOnce state run = some outcome ∧
      event = .finish run outcome := by
  obtain ⟨run, hr, hevent⟩ := List.exists_of_findSome?_eq_some h
  obtain ⟨outcome, houtcome, rfl⟩ := Option.map_eq_some_iff.mp hevent
  exact ⟨run, hr, outcome, houtcome, rfl⟩

/-- A run that is not there, or has not begun, does not end. -/
theorem finish_of_not_begun {run : Run} (h : run ∉ s.begunRuns) (outcome : Outcome) :
    s.finish run outcome = s := by
  unfold finish
  refine if_neg fun hrun => h ?_
  simpa [mem_begunRuns] using hrun

end Ready

/-! ### Runs that have begun -/

section Begun

variable {s : Session} {run : Run}

theorem mem_runs_takeTurn (task : Task) (turn : Refresh.Turn) (h : run ∈ s.runs) :
    run ∈ (s.takeTurn task turn).runs := by
  obtain hturn | hturn := turns_takeTurn s task turn
  · rw [hturn.runs]
    exact List.mem_append_left _ h
  · rw [hturn.runs]
    exact h

theorem mem_runs_start (number : Nat) (h : run ∈ s.runs) : run ∈ (s.start number).runs := by
  unfold start
  split
  · split
    · exact List.mem_append_left _ (mem_runs_takeTurn _ _ h)
    · exact h
  · exact h

theorem mem_runs_resume (number : Nat) (h : run ∈ s.runs) : run ∈ (s.resume number).runs := by
  unfold resume
  split
  · split
    · exact mem_runs_takeTurn _ _ h
    · exact h
  · exact h

theorem mem_begunRuns_launch (other : Run) (h : run ∈ s.begunRuns) :
    run ∈ (s.launch other).begunRuns := by
  obtain ⟨hr, hbegun⟩ := mem_begunRuns.mp h
  refine mem_begunRuns.mpr ⟨?_, hbegun⟩
  unfold launch
  split
  next hother =>
    refine List.mem_map.mpr ⟨run, hr, if_neg ?_⟩
    rintro rfl
    simp [hbegun] at hother
  next => exact hr

theorem mem_runs_finish {other : Run} (outcome : Outcome) (h : run ∈ s.runs) (hne : run ≠ other) :
    run ∈ (s.finish other outcome).runs := by
  have hrest : run ∈ (s.without other).runs := List.mem_filter.mpr ⟨h, decide_eq_true hne⟩
  unfold finish
  split
  · simp only
    split
    · exact hrest
    · exact mem_runs_takeTurn _ _ hrest
  · exact h

end Begun

/-! ### Steps and runs -/

section Steps

variable {σ : Type} {tools : Tools σ} {state : σ} {plan : Plan} {fit : σ → List Run → Prop}
  {s : Session}

namespace Busy

theorem expects (h : Busy plan s) {run : Run} (hr : run ∈ s.runs) : plan.Expects run := by
  obtain ⟨job, hjob, hcommand⟩ := h.wanted run hr
  obtain ⟨task, hm, hnumber⟩ := h.runs run hr
  obtain ⟨other, hother, hhas⟩ := h.tasks task hm
  obtain rfl : job = other := Option.some.inj (hjob.symm.trans (hnumber ▸ hother))
  have hawaits := h.awaited.awaits run hr task hm hnumber
  have hfollows := (hhas.stage.resolve_left hawaits.ne_waiting).1
  exact ⟨job, hjob, Refresh.getElem?_of_awaits hfollows hawaits, hcommand⟩

/-- A refresh that calls a linter or gathers outputs waits for a run, which is there. -/
theorem exists_run (h : Busy plan s) {task : Task} (hm : task ∈ s.tasks)
    (hstarted : task.stage ≠ .waiting) (hparses : ∀ now set paused outputs rest,
      task.stage ≠ .parsing now set paused outputs rest) : ∃ run, run ∈ s.runs := by
  obtain ⟨job, -, hhas⟩ := h.tasks task hm
  obtain ⟨hfollows, hover, -⟩ := hhas.stage.resolve_left hstarted
  have hawaits : ∃ place linter, task.stage.Awaits place linter := by
    cases hstage : task.stage with
    | waiting => exact (hstarted hstage).elim
    | calling now set linter rest => exact ⟨now.placeOf rest, linter, rfl, rfl⟩
    | gathering now slots =>
      rw [hstage] at hfollows
      obtain ⟨-, -, ⟨linter, output⟩, hslot, rfl⟩ := hfollows
      obtain ⟨place, hplace⟩ := List.mem_iff_getElem?.mp hslot
      exact ⟨place, linter, hplace⟩
    | parsing now set paused outputs rest => exact (hparses now set paused outputs rest hstage).elim
    | completed entry =>
      rw [hstage] at hover
      cases hover
    | failed e =>
      rw [hstage] at hover
      cases hover
  obtain ⟨place, linter, hawaits⟩ := hawaits
  obtain ⟨run, hr, -⟩ := h.served task hm place linter hawaits
  exact ⟨run, hr⟩

/-- What is ready to happen. -/
theorem ready (h : Busy plan s) {event : Event} (hready : s.ready? = some event) :
    Busy plan (s.step event) ∧ Less (s.step event) s ∧ (s.step event).calls = s.calls ∧
      ∀ run ∈ s.begunRuns, run ∈ (s.step event).begunRuns := by
  obtain ⟨task, hm, rfl⟩ | ⟨task, hm, hwaits, rfl⟩ | ⟨other, hr, hbegun, rfl⟩ |
    ⟨task, hm, hparses, rfl⟩ := ready?_eq_some hready
  · obtain ⟨hbusy, hless⟩ := h.settle hm
    exact ⟨hbusy, hless, rfl, fun run hr => hr⟩
  · obtain ⟨hbusy, hless⟩ := h.start hm hwaits
    exact ⟨hbusy, hless, calls_start s task.number, fun run hr =>
      mem_begunRuns.mpr ((mem_begunRuns.mp hr).imp_left (mem_runs_start task.number))⟩
  · obtain ⟨hbusy, hless⟩ := h.launch hr hbegun
    exact ⟨hbusy, hless, calls_launch s other, fun run hr => mem_begunRuns_launch other hr⟩
  · obtain ⟨hbusy, hless⟩ := h.resume hm hparses
    exact ⟨hbusy, hless, calls_resume s task.number, fun run hr =>
      mem_begunRuns.mpr ((mem_begunRuns.mp hr).imp_left (mem_runs_resume task.number))⟩

/-- A run ends as foreseen. -/
theorem ends (h : Busy plan s) (hobeyed : plan.Obeyed tools fit) {run : Run}
    (hr : run ∈ s.begunRuns) {outcome : Outcome} (htells : plan.Tells run outcome)
    (hfit : fit state (s.begunRuns.filter (· ≠ run))) :
    Busy plan (s.finish run outcome) ∧ fit state (s.finish run outcome).begunRuns ∧
      (s.finish run outcome).calls = s.calls ∧ Less (s.finish run outcome) s := by
  obtain ⟨hrun, hbegun⟩ := mem_begunRuns.mp hr
  obtain ⟨hbusy, hless⟩ := h.finish hrun hbegun htells
  refine ⟨hbusy, hobeyed.more hfit fun other ho => ?_, calls_finish s run outcome, hless⟩
  obtain ⟨ho, hne⟩ := List.mem_filter.mp ho
  exact mem_begunRuns.mpr ((mem_begunRuns.mp ho).imp_left fun ho =>
    mem_runs_finish outcome ho (of_decide_eq_true hne))

/-- One step of the work leaves less to be done, unless there is nothing left. -/
theorem drain (h : Busy plan s) (hobeyed : plan.Obeyed tools fit) (hfit : fit state s.begunRuns) :
    (Busy plan (Session.drain tools 1 state s).2 ∧
        fit (Session.drain tools 1 state s).1 (Session.drain tools 1 state s).2.begunRuns ∧
        (Session.drain tools 1 state s).2.calls = s.calls ∧
        Less (Session.drain tools 1 state s).2 s) ∨
      ((Session.drain tools 1 state s).2 = s ∧ s.tasks = [] ∧ s.ended = []) := by
  cases hended : ended? tools state s with
  | some event =>
    obtain ⟨run, hr, outcome, houtcome, rfl⟩ := ended?_eq_some hended
    have hexpects := h.expects (mem_begunRuns.mp hr).1
    obtain ⟨htells, hrest⟩ := hobeyed.atOnce hfit hr hexpects houtcome
    left
    simp only [Session.drain, hended, Option.some_or]
    exact h.ends hobeyed hr htells hrest
  | none =>
    cases hready : s.ready? with
    | some event =>
      left
      simp only [Session.drain, hended, hready, Option.none_or]
      obtain ⟨hbusy, hless, hcalls, hbegun⟩ := h.ready hready
      exact ⟨hbusy, hobeyed.more hfit hbegun, hcalls, hless⟩
    | none =>
      obtain ⟨hnone, hall, hstages⟩ := ready?_eq_none hready
      have hbegun : s.begunRuns = s.runs := List.filter_eq_self.mpr hall
      by_cases hruns : s.begunRuns = []
      · -- Nothing waits for a run, and if the tools tell of one it is none of the session.
        right
        have htasks : s.tasks = [] := List.eq_nil_iff_forall_not_mem.mpr fun task hm => by
          obtain ⟨run, hr⟩ := h.exists_run hm (hstages task hm).1 (hstages task hm).2
          rw [← hbegun, hruns] at hr
          cases hr
        refine ⟨?_, htasks, hnone⟩
        simp only [Session.drain, hended, hready, Option.none_or]
        split
        · rfl
        · exact finish_of_not_begun (by rw [hruns]; exact List.not_mem_nil) _
      · obtain ⟨later, run, outcome, hnext, hr, htells, hrest⟩ :=
          hobeyed.next hfit (fun run hr => h.expects (mem_begunRuns.mp hr).1) hruns
        left
        have hdrain : Session.drain tools 1 state s = (later, s.finish run outcome) := by
          have hnext' : tools.next state (s.runs.filter (·.begun)) = _ := hnext
          simp only [Session.drain, hended, hready, Option.none_or, hnext', step]
        rw [hdrain]
        exact h.ends hobeyed hr htells hrest

/-- Work goes on until no refresh is left. -/
theorem work (h : Busy plan s) (hobeyed : plan.Obeyed tools fit) (hfit : fit state s.begunRuns) :
    Busy plan (Session.work tools state s).2 ∧ (Session.work tools state s).2.isIdle = true ∧
      (Session.work tools state s).2.calls = s.calls := by
  induction state, s using Session.work.induct tools with
  | case1 state s after hless ih =>
    rw [Session.work, dif_pos hless]
    obtain ⟨hbusy, hfit', hcalls, -⟩ | ⟨hsame, -⟩ := h.drain hobeyed hfit
    · obtain ⟨hlast, hidle, hkept⟩ := ih hbusy hfit'
      exact ⟨hlast, hidle, hkept.trans hcalls⟩
    · rw [hsame, less_iff] at hless
      omega
  | case2 state s after hless =>
    rw [Session.work, dif_neg hless]
    obtain ⟨-, -, -, hless'⟩ | ⟨hsame, htasks, hended⟩ := h.drain hobeyed hfit
    · exact (hless hless').elim
    · rw [hsame]
      exact ⟨h, by simp [isIdle, inFlight, htasks, hended], rfl⟩

end Busy

end Steps

end Gutter.Session
