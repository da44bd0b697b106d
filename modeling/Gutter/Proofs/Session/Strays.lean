import Gutter.Proofs.Refresh.Batch
import Gutter.Proofs.Session.History
import Mathlib.Data.List.Induction

/-! Runs that outlive their refresh. A refresh holds its claim until all of its runs have ended,
unless one of them crashes: then it fails at once, and the runs beside that one are left to
themselves. Runs are beside one another only where linters run at once. -/

namespace Gutter.Session

open Refresh (Stage)

/-- A run for the refresh `number` crashes. -/
def Crashes (number : Nat) (s : Session) (event : Event) : Prop :=
  ∃ place linter message, Ends number place linter (.crashed message) s event

/-- The refresh holds its claim, and waits for the run. -/
structure Holds (s : Session) (task : Task) (run : Run) : Prop where
  mem : task ∈ s.tasks
  number : task.number = run.task
  claim : task.claim = ⟨task.document, false⟩
  guard : s.guard.contains task.document = true
  awaits : task.stage.Awaits run.index run.linter

/-! ### Settings -/

section Settings

variable (s : Session)

theorem settings_track (id : Nat) : (s.track id).settings = s.settings := by
  unfold track
  split <;> rfl

theorem settings_trigger (loop : Bool) (document : Document) :
    (s.trigger loop document).settings = s.settings := by
  unfold trigger
  split
  · rfl
  · split <;> rfl

theorem settings_get (loop : Bool) (id : Nat) : (s.get loop id).1.settings = s.settings := by
  unfold get
  split
  · rfl
  · split
    · rfl
    · dsimp only
      split
      · exact settings_track s id
      · exact (settings_trigger _ loop _).trans (settings_track s id)

theorem settings_tryCall (id tries : Nat) : (s.tryCall id tries).1.settings = s.settings := by
  cases tries with
  | zero => rfl
  | succ tries =>
    rw [session_tryCall]
    exact settings_get s true id

/-- Nothing that happens in a session changes its settings. -/
theorem settings_step (event : Event) : (s.step event).settings = s.settings := by
  cases event with
  | add document watched =>
    simp only [step, add]
    split <;> rfl
  | drop id => exact settings_collect _ id
  | query loop id question =>
    rw [step, query_eq_get]
    exact settings_get s loop id
  | call id =>
    simp only [step, call, beginCall]
    split
    · exact settings_tryCall s id attempts
    · rfl
  | wake index =>
    rw [step]
    obtain h | ⟨id, tries, hcall, hidle⟩ := wake_cases s index
    · rw [h]
    · rw [wake_of_idle hcall hidle, settings_collect]
      exact settings_tryCall s id tries
  | publish entry => exact settings_publish s entry
  | start number =>
    simp only [step, start]
    split
    · split
      · exact settings_takeTurn s _ _
      · rfl
    · rfl
  | launch run =>
    simp only [step, launch]
    split <;> rfl
  | finish run outcome =>
    simp only [step, finish]
    split
    · split
      · rfl
      · exact settings_takeTurn _ _ _
    · rfl
  | resume number =>
    simp only [step, resume]
    split
    · split
      · exact settings_takeTurn s _ _
      · rfl
    · rfl
  | _ => rfl

theorem settings_run (events : List Event) : (s.run events).settings = s.settings := by
  induction events generalizing s with
  | nil => rfl
  | cons event events ih => exact (ih (s.step event)).trans (settings_step s event)

end Settings

/-! ### Steps -/

section Steps

variable {s s' : Session} {event : Event} {task : Task} {stage : Stage} {run : Run}
  {more : List Run} {number : Nat}

/-- Without runs that go on at once, no step leads to any. -/
theorem inTurn_does (hdoes : Does s s' event) (hparallel : s.settings.parallel = false)
    (h : ∀ task ∈ s.tasks, task.stage.InTurn) : ∀ task ∈ s'.tasks, task.stage.InTurn := by
  have hturns {task : Task} {stage : Stage} {more : List Run} {before : Session}
      (hturn : Turns task stage more before s') (hbefore : before.tasks = s.tasks)
      (hstage : stage.InTurn) : ∀ task ∈ s'.tasks, task.stage.InTurn := by
    intro t ht
    obtain ⟨rfl, -⟩ | ⟨ht, -⟩ := hturn.mem_tasks ht
    · exact hstage
    · exact h t (hbefore ▸ ht)
  cases hdoes with
  | rest hsame => exact hsame.tasks ▸ h
  | schedules id hnew =>
    rw [hnew.tasks]
    refine List.forall_mem_append.mpr ⟨h, List.forall_mem_singleton.mpr nofun⟩
  | launches _ hsame => exact hsame.tasks ▸ h
  | starts _ _ _ hstage hturn =>
    exact hturns hturn rfl (hstage ▸ Refresh.inTurn_start hparallel)
  | ends _ _ _ hsame => exact hsame.tasks ▸ h
  | receives _ _ htask _ hstage hturn =>
    exact hturns hturn rfl (hstage ▸ Refresh.inTurn_receive _ (h _ htask) _ _)
  | resumes _ hparses hstage hturn =>
    exact hturns hturn rfl (hstage ▸ (Refresh.owed_resume _ _ hparses).1)

/-- After a turn a run still has its refresh, it had none before, or it is of the refresh that took
the turn and is over. -/
theorem Turns.mem_runs (h : Turns task stage more s s') (hm : task ∈ s.tasks)
    (hmore : ∀ run ∈ more, run.task = task.number) (hr : run ∈ s'.runs) :
    (∃ t ∈ s'.tasks, t.number = run.task) ∨
      run ∈ s.runs ∧ ((∀ t ∈ s.tasks, t.number ≠ run.task) ∨
        run.task = task.number ∧ isOver stage = true) := by
  by_cases hmine : run.task = task.number
  · obtain h | h := h
    · exact .inl ⟨_, h.mem_self hm, hmine.symm⟩
    · exact .inr ⟨h.runs ▸ hr, .inr ⟨hmine, h.stops⟩⟩
  · have hold : run ∈ s.runs := by
      obtain h | h := h
      · rw [h.runs] at hr
        exact (List.mem_append.mp hr).resolve_right fun hnew => hmine (hmore run hnew)
      · exact h.runs ▸ hr
    by_cases hlive : ∃ t ∈ s.tasks, t.number = run.task
    · obtain ⟨t, ht, hn⟩ := hlive
      exact .inl ⟨t, h.mem_of_ne ht (hn ▸ hmine), hn⟩
    · exact .inr ⟨hold, .inl fun t ht hn => hlive ⟨t, ht, hn⟩⟩

/-- A run loses its refresh when another run crashes that was waited for beside it, and at no other
step. -/
theorem run_does (h : Awaited s) (hdoes : Does s s' event) (hr : run ∈ s'.runs) :
    (∃ task ∈ s'.tasks, task.number = run.task) ∨
      (∃ old ∈ s.runs, old.task = run.task ∧ ∀ task ∈ s.tasks, task.number ≠ run.task) ∨
      Crashes run.task s event ∧ ∃ task ∈ s.tasks, ¬task.stage.InTurn := by
  have hkept {old : Run} (hold : old ∈ s.runs) (hn : old.task = run.task)
      (htasks : ∀ task ∈ s.tasks, task ∈ s'.tasks) :
      (∃ task ∈ s'.tasks, task.number = run.task) ∨
        ∃ old ∈ s.runs, old.task = run.task ∧ ∀ task ∈ s.tasks, task.number ≠ run.task := by
    by_cases hlive : ∃ task ∈ s.tasks, task.number = run.task
    · obtain ⟨task, hm, hnumber⟩ := hlive
      exact .inl ⟨task, htasks task hm, hnumber⟩
    · exact .inr ⟨old, hold, hn, fun task hm hnumber => hlive ⟨task, hm, hnumber⟩⟩
  cases hdoes with
  | rest hsame =>
    exact (hkept (hsame.runs ▸ hr) rfl (by rw [hsame.tasks]; exact fun _ => id)).imp_right .inl
  | schedules id hnew =>
    refine (hkept (hnew.runs ▸ hr) rfl fun task hm => ?_).imp_right .inl
    rw [hnew.tasks]
    exact List.mem_append_left _ hm
  | launches _ hsame hruns =>
    rw [hruns] at hr
    obtain ⟨old, hold, rfl⟩ := List.mem_map.mp hr
    refine (hkept hold (by split <;> rfl) (by rw [hsame.tasks]; exact fun _ => id)).imp_right .inl
  | @starts task document stage hm hwaits _ hstage hturn =>
    have hmore := (areFor_start s { task with stage } hstage).task
    obtain hlive | ⟨hold, hlost | ⟨hmine, -⟩⟩ := hturn.mem_runs hm hmore hr
    · exact .inl hlive
    · exact .inr (.inl ⟨run, hold, rfl, hlost⟩)
    · refine (h.no_runs hm (fun place linter hawaits => ?_) run hold hmine).elim
      exact hawaits.ne_waiting hwaits
  | ends _ _ _ hsame hruns =>
    rw [hruns] at hr
    exact (hkept (List.mem_filter.mp hr).1 rfl
      (by rw [hsame.tasks]; exact fun _ => id)).imp_right .inl
  | @receives ended outcome task stage hended hbegun hm hnumber hstage hturn =>
    have hmore := (areFor_callOf s { task with stage }).task
    obtain hlive | ⟨hold, hlost | ⟨hmine, hover⟩⟩ := hturn.mem_runs hm hmore hr
    · exact .inl hlive
    · exact .inr (.inl ⟨run, (List.mem_filter.mp hold).1, rfl, hlost⟩)
    · obtain ⟨hold, hne⟩ := List.mem_filter.mp hold
      have hindex : run.index ≠ ended.index := fun hi =>
        of_decide_eq_true hne (List.inj_on_of_nodup_map h.keys hold hended
          (Prod.ext (hmine.trans hnumber) hi))
      have hawaits := h.awaits run hold task hm hmine.symm
      have hends := h.awaits ended hended task hm hnumber
      obtain ⟨message, rfl⟩ | ⟨now, slots, hgather, -⟩ :=
        Refresh.awaits_receive s.settings hawaits hends hindex outcome
      · refine .inr (.inr ⟨⟨ended.index, ended.linter, message, ended, rfl, hended, hbegun,
          hnumber.symm.trans hmine.symm, rfl, rfl⟩, task, hm, fun hinTurn => hindex ?_⟩)
        obtain ⟨now, set, rest, hcalls, hplace⟩ := hinTurn.awaits hawaits
        rw [hcalls] at hends
        exact hplace.trans hends.1.symm
      · rw [hstage, hgather] at hover
        cases hover
  | @resumes task stage hm hparses hstage hturn =>
    have hmore := (areFor_callOf s { task with stage }).task
    obtain hlive | ⟨hold, hlost | ⟨hmine, -⟩⟩ := hturn.mem_runs hm hmore hr
    · exact .inl hlive
    · exact .inr (.inl ⟨run, hold, rfl, hlost⟩)
    · obtain ⟨now, set, paused, outputs, rest, hparses⟩ := hparses
      refine (h.no_runs hm (fun place linter hawaits => ?_) run hold hmine).elim
      rw [hparses] at hawaits
      exact hawaits

/-- Refreshes keep their numbers, and a new one has the next number. -/
theorem number_does (hdoes : Does s s' event) (hm : task ∈ s'.tasks) :
    (∃ old ∈ s.tasks, old.number = task.number) ∨ task.number = s.scheduled := by
  have hturns {turned : Task} {stage : Stage} {more : List Run} {before : Session}
      (hturn : Turns turned stage more before s') (hbefore : before.tasks = s.tasks)
      (hturned : turned ∈ s.tasks) : ∃ old ∈ s.tasks, old.number = task.number := by
    obtain ⟨rfl, -⟩ | ⟨hold, -⟩ := hturn.mem_tasks hm
    · exact ⟨turned, hturned, rfl⟩
    · exact ⟨task, hbefore ▸ hold, rfl⟩
  cases hdoes with
  | rest hsame => exact .inl ⟨task, hsame.tasks ▸ hm, rfl⟩
  | schedules id hnew =>
    rw [hnew.tasks] at hm
    obtain hm | hm := List.mem_append.mp hm
    · exact .inl ⟨task, hm, rfl⟩
    · rw [List.mem_singleton.mp hm]
      exact .inr rfl
  | launches _ hsame => exact .inl ⟨task, hsame.tasks ▸ hm, rfl⟩
  | starts hturned _ _ _ hturn => exact .inl (hturns hturn rfl hturned)
  | ends _ _ _ hsame => exact .inl ⟨task, hsame.tasks ▸ hm, rfl⟩
  | receives _ _ hturned _ _ hturn => exact .inl (hturns hturn rfl hturned)
  | resumes hturned _ _ hturn => exact .inl (hturns hturn rfl hturned)

theorem scheduled_does (hdoes : Does s s' event) : s.scheduled ≤ s'.scheduled := by
  unfold scheduled
  cases hdoes with
  | rest hsame => rw [hsame.requests]
  | schedules id hnew => simp [hnew.requests]
  | launches _ hsame => rw [hsame.requests]
  | starts _ _ _ _ hturn => rw [hturn.requests]
  | ends _ _ _ hsame => rw [hsame.requests]
  | receives _ _ _ _ _ hturn => exact (congrArg List.length hturn.requests).ge
  | resumes _ _ _ hturn => rw [hturn.requests]

/-- The refresh of a run that crashes is over. -/
theorem over_of_crashes (h : Awaited s) (hcrashes : Crashes number s event) :
    number < s.scheduled ∧ ∀ task ∈ (s.step event).tasks, task.number ≠ number := by
  obtain ⟨_, _, message, run, rfl, hr, hbegun, rfl, -, -⟩ := hcrashes
  refine ⟨h.below run hr, ?_⟩
  have hfits : (s.runs.contains run && run.begun) = true := by
    rw [List.contains_iff_mem.mpr hr, hbegun]
    rfl
  simp only [step, finish, hfits, if_true]
  split
  next hnone =>
    intro task hm hn
    have hall := List.find?_eq_none.mp hnone task hm
    simp [hn] at hall
  next task htask =>
    obtain ⟨hm, hn⟩ := task?_mem htask
    have hawaits := h.awaits run hr task hm hn
    intro other hother
    obtain ⟨-, hgoes⟩ | ⟨-, hne⟩ := (turns_takeTurn _ task _).mem_tasks hother
    · rw [Refresh.receive_crashed _ hawaits] at hgoes
      cases hgoes
    · exact hn ▸ hne

end Steps

/-! ### Histories -/

/-- What holds of refreshes and runs in the course of a session: a run without a refresh is one that
a crash has left. -/
structure Nested (first : Session) (events : List Event) : Prop where
  exclusive : Exclusive (first.run events)
  awaited : Awaited (first.run events)
  inTurn : first.settings.parallel = false →
    ∀ task ∈ (first.run events).tasks, task.stage.InTurn
  held : ∀ run ∈ (first.run events).runs,
    (∃ task ∈ (first.run events).tasks, task.number = run.task) ∨
      Happened (Crashes run.task) first events ∧ first.settings.parallel = true
  ended : ∀ number, Happened (Crashes number) first events →
    number < (first.run events).scheduled ∧
      ∀ task ∈ (first.run events).tasks, task.number ≠ number

namespace Nested

variable {first : Session} {events : List Event} {event : Event} {number : Nat}

theorem crashed_concat : Happened (Crashes number) first (events ++ [event]) ↔
    Happened (Crashes number) first events ∨ Crashes number (first.run events) event := by
  simp only [happened_append, Happened, or_false]

theorem open_ (settings : Settings) (base : Path.Base) (registry : Registry) :
    Nested (open_ settings base registry) [] where
  exclusive := .open_ settings base registry
  awaited := .open_ settings base registry
  inTurn := fun _ _ h => (List.not_mem_nil h).elim
  held := fun _ h => (List.not_mem_nil h).elim
  ended := fun _ h => h.elim

theorem step (h : Nested first events) (event : Event) : Nested first (events ++ [event]) := by
  have hdoes := does_step (first.run events) event
  have hsettings : (first.run events).settings = first.settings := settings_run first events
  have hrun : first.run (events ++ [event]) = (first.run events).step event := run_append _ _
  rw [← hrun] at hdoes
  constructor
  · exact h.exclusive.does hdoes
  · exact h.awaited.does h.exclusive hdoes
  · exact fun hparallel => inTurn_does hdoes (hsettings ▸ hparallel) (h.inTurn hparallel)
  · intro run hr
    rw [crashed_concat]
    obtain hlive | ⟨old, hold, hn, hlost⟩ | ⟨hcrashes, task, hm, hturn⟩ :=
      run_does h.awaited hdoes hr
    · exact .inl hlive
    · obtain ⟨task, hm, hnumber⟩ | ⟨hcrashed, hparallel⟩ := h.held old hold
      · exact (hlost task hm (hnumber.trans hn)).elim
      · exact .inr ⟨.inl (hn ▸ hcrashed), hparallel⟩
    · refine .inr ⟨.inr hcrashes, ?_⟩
      cases hparallel : first.settings.parallel with
      | true => rfl
      | false => exact (hturn (h.inTurn hparallel task hm)).elim
  · intro number hcrashed
    have hle := scheduled_does hdoes
    obtain hcrashed | hcrashes := crashed_concat.mp hcrashed
    · obtain ⟨hlt, hover⟩ := h.ended number hcrashed
      refine ⟨Nat.lt_of_lt_of_le hlt hle, fun task hm hn => ?_⟩
      obtain ⟨old, hold, hnumber⟩ | hnew := number_does hdoes hm
      · exact hover old hold (hnumber.trans hn)
      · omega
    · obtain ⟨hlt, hover⟩ := over_of_crashes h.awaited hcrashes
      rw [← hrun] at hover
      exact ⟨Nat.lt_of_lt_of_le hlt hle, hover⟩

theorem run (settings : Settings) (base : Path.Base) (registry : Registry) (events : List Event) :
    Nested (Session.open_ settings base registry) events := by
  induction events using List.reverseRecOn with
  | nil => exact open_ settings base registry
  | append_singleton events event ih => exact ih.step event

variable {run : Run}

/-- A run is held by the refresh that it is for, as long as there is one. -/
theorem holds (h : Nested first events) (hr : run ∈ (first.run events).runs) {task : Task}
    (hm : task ∈ (first.run events).tasks) (hn : task.number = run.task) :
    (first.run events).Holds task run where
  mem := hm
  number := hn
  claim := h.exclusive.claims task hm
  guard := Guard.contains_iff.mpr ((h.exclusive.guard _).mpr ⟨task, hm, rfl⟩)
  awaits := h.awaited.awaits run hr task hm hn

theorem holds_iff (h : Nested first events) (hr : run ∈ (first.run events).runs) :
    (∃ task, (first.run events).Holds task run) ↔ ¬Happened (Crashes run.task) first events := by
  constructor
  · rintro ⟨task, hholds⟩ hcrashed
    exact (h.ended run.task hcrashed).2 task hholds.mem hholds.number
  · intro hcalm
    obtain ⟨task, hm, hn⟩ | ⟨hcrashed, -⟩ := h.held run hr
    · exact ⟨task, h.holds hr hm hn⟩
    · exact (hcalm hcrashed).elim

/-- Runs that are held for one document are of different linters. -/
theorem eq_of_holds (h : Nested first events) {other : Run}
    (hr : run ∈ (first.run events).runs) (hother : other ∈ (first.run events).runs)
    {task task' : Task} (hholds : (first.run events).Holds task run)
    (hholds' : (first.run events).Holds task' other) (hdocument : task.document = task'.document)
    (hindex : run.index = other.index) : run = other := by
  obtain rfl := h.exclusive.eq_of_document hholds.mem hholds'.mem hdocument
  have hkey : key run = key other := Prod.ext (hholds.number.symm.trans hholds'.number) hindex
  exact List.inj_on_of_nodup_map h.awaited.keys hr hother hkey

end Nested

/-- In whatever order runs end and whatever they come to, a run is held by its refresh until it
ends, unless another run of that refresh crashes, which takes linters that run at once. So a
document has one run of each linter at most, and none is left when the session is idle, but for those
that a crash has left. -/
theorem runs_end_with_refreshes (settings : Settings) (base : Path.Base) (registry : Registry)
    (events : List Event) :
    let first := open_ settings base registry
    let s := first.run events
    (∀ run ∈ s.runs,
      ((∃ task, s.Holds task run) ↔ ¬Happened (Crashes run.task) first events) ∧
        (Happened (Crashes run.task) first events → settings.parallel = true)) ∧
      (∀ run ∈ s.runs, ∀ other ∈ s.runs, ∀ task task', s.Holds task run → s.Holds task' other →
        task.document = task'.document → run.index = other.index → run = other) ∧
      (s.isIdle = true → ∀ run ∈ s.runs, Happened (Crashes run.task) first events) := by
  intro first s
  have h : Nested first events := .run settings base registry events
  refine ⟨fun run hr => ⟨h.holds_iff hr, fun hcrashed => ?_⟩, ?_, fun hidle run hr => ?_⟩
  · obtain ⟨task, hm, hn⟩ | ⟨-, hparallel⟩ := h.held run hr
    · exact ((h.ended run.task hcrashed).2 task hm hn).elim
    · exact hparallel
  · exact fun run hr other hother task task' => h.eq_of_holds hr hother
  · obtain ⟨task, hm, -⟩ | ⟨hcrashed, -⟩ := h.held run hr
    · exact (List.not_mem_nil (tasks_of_idle hidle ▸ hm)).elim
    · exact hcrashed

section Crash

open Refresh (teller tellers bareBase pythonFile)

/-- The run of the linter `plain` for a refresh, which calls it beside another one. -/
def plainBeside (number : Nat) (begun : Bool) : Run :=
  ⟨number, 1, teller "plain", .call ["plain"], begun⟩

/-- A refresh whose two linters run at once ends when the first of them crashes. -/
def crashed : List Event :=
  [.add pythonFile true, .query true 0 .all, .start 0,
    .launch ⟨0, 0, teller "loud", .call ["loud"], false⟩, .launch (plainBeside 0 false),
    .finish ⟨0, 0, teller "loud", .call ["loud"], true⟩ (.crashed "boom"), .settle 0]

/-- The document is refreshed once more. -/
def refreshedAgain : List Event :=
  [.query true 0 .all, .start 1, .launch (plainBeside 1 false)]

/-- A crash leaves a run beside it that no refresh holds, and the next refresh runs the same linter
for the same document beside that. -/
theorem crash_leaves_run :
    let s := (open_ { parallel := true } bareBase tellers).run crashed
    let later := s.run refreshedAgain
    s.isIdle = true ∧ s.guard.contains 0 = false ∧ plainBeside 0 true ∈ s.runs ∧
      (¬∃ task, s.Holds task (plainBeside 0 true)) ∧
      plainBeside 0 true ∈ later.runs ∧ plainBeside 1 true ∈ later.runs := by
  intro s later
  have hidle : s.isIdle = true := by decide +kernel
  refine ⟨hidle, by decide +kernel, by decide +kernel, ?_, by decide +kernel, by decide +kernel⟩
  rintro ⟨task, hholds⟩
  exact List.not_mem_nil (tasks_of_idle hidle ▸ hholds.mem)

end Crash

end Gutter.Session
