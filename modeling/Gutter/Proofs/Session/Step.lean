import Gutter.Proofs.Session.Frame

/-! What an event does to the refreshes of a session, with everything that has to hold for it. -/

namespace Gutter.Session

open Refresh (Stage Turn)

/-- What an event does to refreshes, runs and entries. -/
inductive Does (s s' : Session) : Event → Prop
  | rest {event : Event} (same : SameWork s s')
    (entries : ∀ entry ∈ s'.entries, entry ∈ s.entries ∨ event = .publish entry) :
    Does s s' event
  | schedules {event : Event} (id : Nat) (new : Schedules id s s')
    (entries : ∀ entry ∈ s'.entries, entry ∈ s.entries) : Does s s' event
  | launches {run : Run} (hrun : run ∈ s.runs) (same : SameClaims s s')
    (runs : s'.runs = s.runs.map fun r => if r = run then { r with begun := true } else r)
    (entries : s'.entries = s.entries) : Does s s' (.launch run)
  | starts {task : Task} {document : Document} {stage : Stage} (htask : task ∈ s.tasks)
    (hwaits : task.stage = .waiting) (hdocument : s.document? task.document = some document)
    (hstage : stage = (Refresh.start s.settings s.base s.registry document).stage)
    (turns : Turns task stage (s.callOf { task with stage } ++ s.gatherOf { task with stage })
      s s') :
    Does s s' (.start task.number)
  | ends {run : Run} {outcome : Outcome} (hrun : run ∈ s.runs) (hbegun : run.begun = true)
    (hnone : ∀ task ∈ s.tasks, task.number ≠ run.task) (same : SameClaims s s')
    (runs : s'.runs = (s.without run).runs) (entries : s'.entries = s.entries) :
    Does s s' (.finish run outcome)
  | receives {run : Run} {outcome : Outcome} {task : Task} {stage : Stage} (hrun : run ∈ s.runs)
    (hbegun : run.begun = true) (htask : task ∈ s.tasks) (hnumber : task.number = run.task)
    (hstage : stage = (Refresh.receive s.settings run.index outcome task.stage).stage)
    (turns : Turns task stage (s.callOf { task with stage })
      (s.without run) s') : Does s s' (.finish run outcome)
  | resumes {task : Task} {stage : Stage} (htask : task ∈ s.tasks)
    (hparses : ∃ now set paused outputs rest, task.stage = .parsing now set paused outputs rest)
    (hstage : stage = (Refresh.resume s.settings task.stage).stage)
    (turns : Turns task stage (s.callOf { task with stage }) s s') :
    Does s s' (.resume task.number)

theorem entries_call (s : Session) (id : Nat) : (s.call id).entries = s.entries :=
  (sameStore_beginCall s id).entries

theorem entries_wake {s : Session} {index : Nat} {entry : Entry}
    (h : entry ∈ (s.wake index).entries) : entry ∈ s.entries := by
  obtain hw | ⟨id, tries, hcall, hidle⟩ := wake_cases s index
  · rwa [hw] at h
  · rw [wake_of_idle hcall hidle] at h
    have hm := entries_collect _ id h
    exact (sameStore_tryCall s id tries).entries ▸ hm

theorem task?_mem {s : Session} {number : Nat} {task : Task} (h : s.task? number = some task) :
    task ∈ s.tasks ∧ task.number = number :=
  ⟨List.mem_of_find?_eq_some h, by simpa using List.find?_some h⟩

theorem does_start (s : Session) (number : Nat) : Does s (s.start number) (.start number) := by
  have hrest : Does s s (.start number) := .rest (.refl s) fun entry h => .inl h
  unfold start
  split
  next task ht =>
    obtain ⟨hm, rfl⟩ := task?_mem ht
    split
    next document hw hd =>
      exact .starts hm hw hd rfl ((turns_takeTurn s task _).gather (settings_takeTurn s task _))
    · exact hrest
  · exact hrest

theorem does_launch (s : Session) (run : Run) : Does s (s.launch run) (.launch run) := by
  unfold launch
  split
  next h =>
    simp only [Bool.and_eq_true, List.contains_iff_mem] at h
    exact .launches h.1 ⟨rfl, rfl, rfl⟩ rfl rfl
  · exact .rest (.refl s) fun entry h => .inl h

theorem does_finish (s : Session) (run : Run) (outcome : Outcome) :
    Does s (s.finish run outcome) (.finish run outcome) := by
  unfold finish
  split
  next h =>
    simp only [Bool.and_eq_true, List.contains_iff_mem] at h
    simp only
    split
    next hnone =>
      refine .ends h.1 h.2 ?_ ⟨rfl, rfl, rfl⟩ rfl rfl
      intro task hm hn
      have hall := List.find?_eq_none.mp hnone task hm
      simp [hn] at hall
    next task ht =>
      obtain ⟨hm, hn⟩ := task?_mem ht
      have hturn := turns_takeTurn ((s.without run).say (outcome.log run.linter)) task
        (Refresh.receive s.settings run.index outcome task.stage)
      exact .receives h.1 h.2 hm hn rfl (hturn.of_same (sameWork_say _ _) rfl)
  · exact .rest (.refl s) fun entry h => .inl h

theorem does_resume (s : Session) (number : Nat) : Does s (s.resume number) (.resume number) := by
  unfold resume
  split
  next task ht =>
    obtain ⟨hm, rfl⟩ := task?_mem ht
    split
    next hstage => exact .resumes hm ⟨_, _, _, _, _, hstage⟩ rfl (turns_takeTurn s task _)
    · exact .rest (.refl s) fun entry h => .inl h
  · exact .rest (.refl s) fun entry h => .inl h

theorem does_query {s s' : Session} {event : Event} {id : Nat}
    (h : SameWork s s' ∨ Schedules id s s') (hentries : ∀ entry ∈ s'.entries, entry ∈ s.entries) :
    Does s s' event := by
  obtain hsame | hnew := h
  · exact .rest hsame fun entry hm => .inl (hentries entry hm)
  · exact .schedules id hnew hentries

/-- The steps of a session do what is said above. -/
theorem does_step (s : Session) (event : Event) : Does s (s.step event) event := by
  cases event with
  | add document watched =>
    refine .rest (sameWork_add s document watched) fun entry h => .inl ?_
    simp only [step, add] at h
    split at h <;> exact h
  | edit id change => exact .rest (sameWork_edit s id change) fun entry h => .inl h
  | drop id =>
    exact .rest (sameWork_drop s id) fun entry h => .inl (entries_collect (s.unhold id) id h)
  | query loop id question =>
    rw [step, query_eq_get]
    exact does_query ((get_work s loop id).imp_left And.left) fun entry h =>
      (sameStore_get s loop id).entries ▸ h
  | call id => exact does_query (call_work s id) fun entry h => entries_call s id ▸ h
  | wake index =>
    obtain h | ⟨id, h⟩ := wake_work s index
    · exact .rest h fun entry hm => .inl (entries_wake hm)
    · exact .schedules id h fun entry hm => entries_wake hm
  | close id =>
    exact .rest (sameWork_forget s id) fun entry h => .inl (List.mem_filter.mp h).1
  | clear => exact .rest ⟨⟨rfl, rfl, rfl⟩, rfl⟩ fun entry h => .inl (List.not_mem_nil h).elim
  | publish new =>
    refine .rest (sameWork_publish s new) fun entry h => ?_
    exact (entries_publish h).imp_right fun he => by rw [he]
  | start number => exact does_start s number
  | launch run => exact does_launch s run
  | finish run outcome => exact does_finish s run outcome
  | resume number => exact does_resume s number
  | _ => exact .rest ⟨⟨rfl, rfl, rfl⟩, rfl⟩ fun entry h => .inl h

end Gutter.Session
