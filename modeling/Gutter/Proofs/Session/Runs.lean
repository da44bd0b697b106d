import Gutter.Proofs.Refresh.Places
import Gutter.Proofs.Session.Claims

/-! The runs of a session: each is of a refresh that waits for it, or of one that has failed. -/

namespace Gutter.Session

open Refresh (Stage)

/-- The refresh of a run and the place of its linter. -/
def key (run : Run) : Nat × Nat := (run.task, run.index)

/-- No two runs are of one refresh and place, and refreshes wait for the runs that are theirs. -/
structure Awaited (s : Session) : Prop where
  keys : (s.runs.map key).Nodup
  below : ∀ run ∈ s.runs, run.task < s.scheduled
  awaits : ∀ run ∈ s.runs, ∀ task ∈ s.tasks, task.number = run.task →
    task.stage.Awaits run.index run.linter

/-- The runs are of the refresh, which waits for them at the stage. -/
structure AreFor (number : Nat) (stage : Stage) (runs : List Run) : Prop where
  keys : (runs.map key).Nodup
  task : ∀ run ∈ runs, run.task = number
  awaits : ∀ run ∈ runs, stage.Awaits run.index run.linter

theorem AreFor.nil (number : Nat) (stage : Stage) : AreFor number stage [] :=
  ⟨List.nodup_nil, fun _ h => (List.not_mem_nil h).elim, fun _ h => (List.not_mem_nil h).elim⟩

theorem areFor_callOf (s : Session) (task : Task) :
    AreFor task.number task.stage (s.callOf task) := by
  unfold callOf
  split
  next hstage =>
    rw [hstage]
    refine ⟨List.nodup_singleton _, fun run h => ?_, fun run h => ?_⟩
    · rw [List.mem_singleton.mp h]
    · rw [List.mem_singleton.mp h]
      exact ⟨rfl, rfl⟩
  · exact .nil _ _

/-- At the start of runs that go on at once no slot is filled. -/
theorem slots_start {settings : Settings} {base : Path.Base} {registry : Registry}
    {document : Document} {now : Refresh.Snapshot} {slots : List (Linter × Option (List Char))}
    (h : (Refresh.start settings base registry document).stage = .gathering now slots) :
    ∀ slot ∈ slots, slot.2 = none := by
  unfold Refresh.start at h
  split at h
  · cases h
  · split at h
    · cases h
      simp
    · unfold Refresh.callNext at h
      split at h <;> cases h

theorem areFor_gatherOf (s : Session) (task : Task)
    (hempty : ∀ now slots, task.stage = .gathering now slots → ∀ slot ∈ slots, slot.2 = none) :
    AreFor task.number task.stage (s.gatherOf task) := by
  unfold gatherOf
  split
  next now slots hstage =>
    have hrun : ∀ run ∈ slots.zipIdx.map fun place => (⟨task.number, place.2, place.1.1,
          Refresh.commandOf s.settings now place.1.1, false⟩ : Run),
        run.task = task.number ∧ slots[run.index]? = some (run.linter, none) := by
      intro run hm
      obtain ⟨⟨⟨linter, output⟩, index⟩, hz, rfl⟩ := List.mem_map.mp hm
      have hslot := List.mem_zipIdx_iff_getElem?.mp hz
      obtain rfl : output = none := hempty now slots hstage _ (List.mem_of_getElem? hslot)
      exact ⟨rfl, hslot⟩
    rw [hstage]
    refine ⟨?_, fun run hm => (hrun run hm).1, fun run hm => (hrun run hm).2⟩
    rw [List.map_map]
    have hkeys : (slots.zipIdx.map Prod.snd).Nodup := by
      rw [List.zipIdx_map_snd]
      exact List.nodup_range'
    refine List.Nodup.of_map Prod.snd ?_
    rw [List.map_map]
    exact hkeys
  · exact .nil _ _

/-- The runs of a refresh that has just started. -/
theorem areFor_start (s : Session) (task : Task) {settings : Settings} {base : Path.Base}
    {registry : Registry} {document : Document}
    (h : task.stage = (Refresh.start settings base registry document).stage) :
    AreFor task.number task.stage (s.callOf task ++ s.gatherOf task) := by
  have hgather : AreFor task.number task.stage (s.gatherOf task) :=
    areFor_gatherOf s task fun now slots hstage => slots_start (h.symm.trans hstage)
  have hnone : s.callOf task = [] ∨ s.gatherOf task = [] := by
    unfold callOf gatherOf
    cases task.stage <;> simp
  obtain hnone | hnone := hnone
  · rwa [hnone, List.nil_append]
  · rw [hnone, List.append_nil]
    exact areFor_callOf s task

namespace Awaited

variable {s s' : Session}

theorem open_ (settings : Settings) (base : Path.Base) (registry : Registry) :
    Awaited (open_ settings base registry) :=
  ⟨List.nodup_nil, fun _ h => (List.not_mem_nil h).elim, fun _ h => (List.not_mem_nil h).elim⟩

theorem same (h : Awaited s) (hsame : SameWork s s') : Awaited s' where
  keys := hsame.runs ▸ h.keys
  below := by
    rw [hsame.runs, scheduled, hsame.requests]
    exact h.below
  awaits := by
    rw [hsame.runs, hsame.tasks]
    exact h.awaits

/-- No run is of a refresh that was just scheduled. -/
theorem schedules (h : Awaited s) {id : Nat} (hnew : Schedules id s s') : Awaited s' where
  keys := hnew.runs ▸ h.keys
  below := by
    rw [hnew.runs, scheduled, hnew.requests, List.length_append]
    exact fun run hm => Nat.lt_add_right _ (h.below run hm)
  awaits := by
    intro run hm task ht hn
    rw [hnew.runs] at hm
    rw [hnew.tasks] at ht
    obtain ht | ht := List.mem_append.mp ht
    · exact h.awaits run hm task ht hn
    · rw [List.mem_singleton.mp ht] at hn
      have := h.below run hm
      simp only at hn
      omega

theorem launches (h : Awaited s) {run : Run} (hsame : SameClaims s s')
    (hruns : s'.runs = s.runs.map fun r => if r = run then { r with begun := true } else r) :
    Awaited s' := by
  have hback : ∀ r ∈ s'.runs, ∃ q ∈ s.runs, r.task = q.task ∧ r.index = q.index ∧
      r.linter = q.linter := by
    rw [hruns]
    intro r hr
    obtain ⟨q, hq, rfl⟩ := List.mem_map.mp hr
    refine ⟨q, hq, ?_⟩
    split <;> exact ⟨rfl, rfl, rfl⟩
  refine ⟨?_, fun r hr => ?_, fun r hr task ht hn => ?_⟩
  · rw [hruns, List.map_map]
    refine (List.map_congr_left fun r _ => ?_) ▸ h.keys
    simp only [Function.comp_apply, key]
    split <;> rfl
  · obtain ⟨q, hq, htask, -⟩ := hback r hr
    rw [htask, scheduled, hsame.requests]
    exact h.below q hq
  · obtain ⟨q, hq, htask, hindex, hlinter⟩ := hback r hr
    rw [hindex, hlinter]
    exact h.awaits q hq task (hsame.tasks ▸ ht) (hn.trans htask)

theorem without (h : Awaited s) (run : Run) : Awaited (s.without run) where
  keys := h.keys.sublist (List.filter_sublist.map key)
  below := fun r hr => h.below r (List.mem_filter.mp hr).1
  awaits := fun r hr => h.awaits r (List.mem_filter.mp hr).1

theorem retires (h : Awaited s) {task : Task} {stage : Stage} (hturn : Retires task stage s s') :
    Awaited s' where
  keys := hturn.runs ▸ h.keys
  below := by
    rw [hturn.runs, scheduled, hturn.requests]
    exact h.below
  awaits := by
    rw [hturn.runs, hturn.tasks]
    exact fun run hm t ht => h.awaits run hm t (List.mem_filter.mp ht).1

/-- A refresh that goes on waits for new runs only if it waits for no others any more. -/
theorem advances (h : Awaited s) (hexclusive : Exclusive s) {task : Task} (hm : task ∈ s.tasks)
    {stage : Stage} {more : List Run} (hmore : AreFor task.number stage more)
    (hold : ∀ run ∈ s.runs, run.task = task.number →
      more = [] ∧ stage.Awaits run.index run.linter)
    (hturn : Advances task stage more s s') : Awaited s' := by
  refine ⟨?_, fun run hr => ?_, fun run hr t ht hn => ?_⟩
  · rw [hturn.runs, List.map_append]
    refine h.keys.append hmore.keys fun k hk hk' => ?_
    obtain ⟨run, hr, rfl⟩ := List.mem_map.mp hk
    obtain ⟨new, hn, hkey⟩ := List.mem_map.mp hk'
    have htask : run.task = task.number := (congrArg Prod.fst hkey).symm.trans (hmore.task new hn)
    rw [(hold run hr htask).1] at hn
    exact List.not_mem_nil hn
  · rw [scheduled, hturn.requests]
    rw [hturn.runs] at hr
    obtain hr | hr := List.mem_append.mp hr
    · exact h.below run hr
    · rw [hmore.task run hr]
      exact hexclusive.below task hm
  · rw [hturn.runs] at hr
    obtain rfl | ⟨ht, hne⟩ := hturn.mem_tasks ht
    · obtain hr | hr := List.mem_append.mp hr
      · exact (hold run hr hn.symm).2
      · exact hmore.awaits run hr
    · obtain hr | hr := List.mem_append.mp hr
      · exact h.awaits run hr t ht hn
      · exact (hne (hn.trans (hmore.task run hr))).elim

theorem turns (h : Awaited s) (hexclusive : Exclusive s) {task : Task} (hm : task ∈ s.tasks)
    {stage : Stage} {more : List Run} (hmore : AreFor task.number stage more)
    (hold : isOver stage = false → ∀ run ∈ s.runs, run.task = task.number →
      more = [] ∧ stage.Awaits run.index run.linter)
    (hturn : Turns task stage more s s') : Awaited s' := by
  obtain hturn | hturn := hturn
  · exact h.advances hexclusive hm hmore (hold hturn.goes) hturn
  · exact h.retires hturn

/-- A refresh that has not started, or that reads, has no runs. -/
theorem no_runs (h : Awaited s) {task : Task} (hm : task ∈ s.tasks)
    (hstage : ∀ place linter, ¬task.stage.Awaits place linter) :
    ∀ run ∈ s.runs, run.task ≠ task.number :=
  fun run hr hn => hstage _ _ (h.awaits run hr task hm hn.symm)

theorem does (h : Awaited s) (hexclusive : Exclusive s) {event : Event} (hdoes : Does s s' event) :
    Awaited s' := by
  cases hdoes with
  | rest hsame => exact h.same hsame
  | schedules id hnew => exact h.schedules hnew
  | launches _ hsame hruns => exact h.launches hsame hruns
  | @starts task document stage htask hwaits hdocument hstage hturn =>
    have hnone := h.no_runs htask fun place linter hawaits => by
      rw [hwaits] at hawaits
      exact hawaits.elim
    have hmore := areFor_start s { task with stage } hstage
    exact h.turns hexclusive htask hmore (fun _ run hr hn => (hnone run hr hn).elim) hturn
  | ends _ _ _ hsame hruns =>
    exact (h.without _).same ⟨⟨hsame.guard, hsame.tasks, hsame.requests⟩, hruns⟩
  | @receives run outcome task stage hrun hbegun htask hnumber hstage hturn =>
    have hmine := h.awaits run hrun task htask hnumber
    have hold : isOver stage = false → ∀ r ∈ (s.without run).runs, r.task = task.number →
        s.callOf { task with stage } = [] ∧ stage.Awaits r.index r.linter := by
      intro hgoes r hr hn
      obtain ⟨hr, hne⟩ := List.mem_filter.mp hr
      have hindex : r.index ≠ run.index := by
        intro hi
        have hkey : key r = key run := Prod.ext (hn.trans hnumber) hi
        exact of_decide_eq_true hne (List.inj_on_of_nodup_map h.keys hr hrun hkey)
      obtain ⟨message, rfl⟩ | ⟨now, slots, hgather, hawaits⟩ :=
        Refresh.awaits_receive s.settings (h.awaits r hr task htask hn.symm) hmine
          hindex outcome
      · rw [hstage, Refresh.receive_crashed s.settings hmine] at hgoes
        cases hgoes
      · rw [hstage, hgather]
        exact ⟨rfl, hawaits⟩
    exact (h.without run).turns (hexclusive.without run) htask
      (areFor_callOf s { task with stage }) hold hturn
  | @resumes task stage htask hparses hstage hturn =>
    obtain ⟨now, set, paused, outputs, rest, hparses⟩ := hparses
    have hnone := h.no_runs htask fun place linter hawaits => by
      rw [hparses] at hawaits
      exact hawaits.elim
    exact h.turns hexclusive htask (areFor_callOf s { task with stage })
      (fun _ run hr hn => (hnone run hr hn).elim) hturn

end Awaited

end Gutter.Session
