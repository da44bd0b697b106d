import Gutter.Proofs.Session.Jobs
import Gutter.Session.Drain

/-! Sessions at work on a plan: what can happen next keeps to the plan, if runs end as foreseen, and
leaves less to be done. -/

namespace Gutter.Session

open Refresh (Forecast Snapshot Stage Turn commandOf)

/-! ### What is left to be done -/

theorem total_cons (part : Nat × Nat × Nat → Nat) (task : Task) (tasks : List Task) :
    total part (task :: tasks) = part task.stage.left + total part tasks := rfl

theorem total_perm (part : Nat × Nat × Nat → Nat) {tasks later : List Task}
    (h : tasks.Perm later) : total part tasks = total part later := by
  induction h with
  | nil => rfl
  | cons task _ ih => rw [total_cons, total_cons, ih]
  | swap task next tasks =>
    simp only [total_cons]
    omega
  | trans _ _ ih ih' => exact ih.trans ih'

theorem load_perm {tasks later : List Task} (h : tasks.Perm later) : load tasks = load later := by
  simp only [load, h.countP_eq, total_perm _ h]

theorem load_cons (task : Task) (tasks : List Task) :
    load (task :: tasks) = ((if task.stage = .waiting then 1 else 0) + (load tasks).1,
      task.stage.left.1 + (load tasks).2.1, task.stage.left.2.1 + (load tasks).2.2.1,
      task.stage.left.2.2 + (load tasks).2.2.2) := by
  simp [load, total_cons, List.countP_cons, Nat.add_comm]

section Less

variable {s s' : Session} {task : Task} {stage : Stage} {others : List Task}

theorem less_iff : Less s' s ↔
    (load s'.tasks).1 < (load s.tasks).1 ∨ (load s'.tasks).1 = (load s.tasks).1 ∧
      ((load s'.tasks).2.1 < (load s.tasks).2.1 ∨ (load s'.tasks).2.1 = (load s.tasks).2.1 ∧
        ((load s'.tasks).2.2.1 < (load s.tasks).2.2.1 ∨
          (load s'.tasks).2.2.1 = (load s.tasks).2.2.1 ∧
            ((load s'.tasks).2.2.2 < (load s.tasks).2.2.2 ∨
              (load s'.tasks).2.2.2 = (load s.tasks).2.2.2 ∧ s'.rest < s.rest))) := by
  simp [Less, toDo, Prod.lex_def]

theorem less_of_rest (htasks : s'.tasks = s.tasks) (h : s'.rest < s.rest) : Less s' s := by
  rw [less_iff, htasks]
  omega

/-- A turn of a refresh that waited, or that has less to do after it. -/
theorem less_of_turn (hbefore : s.tasks.Perm (task :: others))
    (hafter : load s'.tasks = load ({ task with stage } :: others)) (hgoes : stage ≠ .waiting)
    (hless : task.stage = .waiting ∨ stage.Less task.stage) : Less s' s := by
  have hsum := load_perm hbefore
  rw [load_cons] at hsum hafter
  rw [less_iff, hsum, hafter]
  simp only [if_neg hgoes]
  rw [Stage.less_iff] at hless
  by_cases hwaits : task.stage = .waiting
  · rw [if_pos hwaits]
    omega
  · have hless := hless.resolve_left hwaits
    rw [if_neg hwaits]
    omega

theorem load_of_turns {more : List Run} (hexclusive : Exclusive s) (hm : task ∈ s.tasks)
    (hturn : Turns task stage more s s') :
    load s'.tasks = load ({ task with stage } :: s.others task) := by
  obtain hturn | hturn := hturn
  · rw [hturn.tasks]
    exact load_perm (hexclusive.perm_replaced hm _)
  · rw [hturn.tasks, load_cons]
    have hover := hturn.stops
    cases stage with
    | completed entry => simp [Stage.left, others]
    | failed e => simp [Stage.left, others]
    | _ => cases hover

end Less

/-! ### Work on a plan -/

section CallOf

variable {s : Session} {task : Task} {stage : Stage} {now : Snapshot}

theorem map_command_callOf (s : Session) (task : Task) :
    (s.callOf task).map (·.command) = task.stage.called s.settings := by
  unfold callOf Stage.called
  cases task.stage <;> rfl

theorem unbegun_callOf (s : Session) (task : Task) : Plan.unbegun (s.callOf task) = [] := by
  unfold callOf
  cases task.stage <;> rfl

theorem command_of_mem_callOf (hfollows : task.stage.Follows now) {run : Run}
    (h : run ∈ s.callOf task) :
    run.task = task.number ∧ run.command = commandOf s.settings now run.linter := by
  unfold callOf at h
  split at h
  next noted set linter rest hstage =>
    rw [hstage] at hfollows
    obtain ⟨rfl, -⟩ := hfollows
    rw [List.mem_singleton.mp h]
    exact ⟨rfl, rfl⟩
  next => cases h

/-- The run that a stage waits for is begun with it, if its linters run one after another. -/
theorem exists_mem_callOf (s : Session) (task : Task) (h : task.stage.InTurn) {place : Nat}
    {linter : Linter} (hawaits : task.stage.Awaits place linter) :
    ∃ run ∈ s.callOf task, run.task = task.number ∧ run.index = place := by
  obtain ⟨now, set, rest, hstage, rfl⟩ := h.awaits hawaits
  unfold callOf
  rw [hstage]
  exact ⟨_, List.mem_cons_self, rfl, rfl⟩

end CallOf

/-- The session is at work on a plan: every run that a refresh waits for is there. -/
structure Busy (plan : Plan) (s : Session) : Prop extends Underway plan s where
  exclusive : Exclusive s
  awaited : Awaited s
  served : ∀ task ∈ s.tasks, ∀ place linter, task.stage.Awaits place linter →
    ∃ run ∈ s.runs, run.task = task.number ∧ run.index = place

section Turns

variable {plan : Plan} {s s' : Session} {task : Task} {job : Job plan.base plan.registry}

theorem served_of_turns {stage : Stage} {more : List Run} (hturn : Turns task stage more s s')
    (hothers : ∀ t ∈ s.tasks, t.number ≠ task.number → ∀ place linter,
      t.stage.Awaits place linter → ∃ run ∈ s.runs, run.task = t.number ∧ run.index = place)
    (hnew : ∀ place linter, stage.Awaits place linter →
      ∃ run ∈ s.runs ++ more, run.task = task.number ∧ run.index = place) :
    ∀ t ∈ s'.tasks, ∀ place linter, t.stage.Awaits place linter →
      ∃ run ∈ s'.runs, run.task = t.number ∧ run.index = place := by
  intro t ht place linter hawaits
  obtain hturn | hturn := hturn
  · rw [hturn.runs]
    obtain rfl | ⟨ht, hne⟩ := hturn.mem_tasks ht
    · exact hnew place linter hawaits
    · obtain ⟨run, hr, hrest⟩ := hothers t ht hne place linter hawaits
      exact ⟨run, List.mem_append_left _ hr, hrest⟩
  · rw [hturn.runs]
    obtain ⟨ht, hne⟩ := hturn.mem_tasks ht
    exact hothers t ht hne place linter hawaits

/-- The documents of the jobs are all referred to. -/
theorem Underway.held (h : Underway plan s) : ∀ m ∈ s.members, m.held = true := by
  rw [h.members]
  intro m hm
  obtain ⟨job, -, rfl⟩ := List.mem_map.mp hm
  rfl

/-- A refresh with the entry of its job in view takes a turn, with which it begins what it owed or
adds it to the runs that are to begin. -/
theorem Underway.takeTurn (h : Underway plan s) (hexclusive : Exclusive s) (hm : task ∈ s.tasks)
    (hjob : plan.jobs[task.number]? = some job) (hdocument : task.document = job.document.id)
    {turn : Turn} (hfollows : turn.stage.Follows job.now)
    (houtlook : turn.stage.outlook job.told = some job.entry) {more : List Run}
    (hmore : ∀ run ∈ more, run.task = task.number ∧ plan.Wants run)
    (hpaid : plan.owedBy task = turn.stage.called plan.settings ++
      (turn.stage.owed plan.settings ++ Plan.unbegun more))
    (hends : isOver turn.stage = true → more = [] ∧ ∀ run ∈ s.runs, run.task ≠ task.number) :
    Underway plan
      { s.takeTurn task turn with runs := (s.takeTurn task turn).runs ++ more } := by
  cases hover : isOver turn.stage with
  | false =>
    have hhas : job.Has { task with stage := turn.stage } :=
      ⟨hdocument, .inr ⟨hfollows, hover, houtlook⟩⟩
    have hall : ∀ run ∈ s.callOf { task with stage := turn.stage } ++ more,
        run.task = task.number ∧ plan.Wants run := by
      intro run hr
      obtain hr | hr := List.mem_append.mp hr
      · obtain ⟨hnumber, hcommand⟩ := command_of_mem_callOf hfollows hr
        exact ⟨hnumber, job, hnumber ▸ hjob, h.settings ▸ hcommand⟩
      · exact hmore run hr
    rw [takeTurn_of_goes hover, map_command_callOf]
    simp only [List.append_assoc]
    refine h.goes hexclusive hm hjob hhas hall ?_ _
    rw [h.settings, Plan.unbegun_append, unbegun_callOf, List.nil_append, hpaid]
    simp only [Plan.owedBy, if_neg hfollows.ne_waiting]
  | true =>
    obtain ⟨rfl, hnone⟩ := hends hover
    have hstage : turn.stage = .completed job.entry := by
      cases hstage : turn.stage with
      | completed entry =>
        rw [hstage] at houtlook
        cases houtlook
        rfl
      | failed e =>
        rw [hstage] at houtlook
        cases houtlook
      | _ =>
        rw [hstage] at hover
        cases hover
    have htracked : job.entry.document ∈ s.tracked := by
      rw [job.entry_document]
      exact h.tracked job (List.mem_of_getElem? hjob)
    rw [takeTurn_of_completed hstage h.held htracked]
    simp only [List.append_nil]
    refine h.completes hexclusive hm hjob hnone ?_ _ _ _
    rw [hpaid, hstage]
    rfl

end Turns

/-! ### Events -/

section GatherOf

variable {s : Session} {task : Task}

theorem unbegun_gatherOf (s : Session) (task : Task) {now : Snapshot}
    {slots : List (Linter × Option (List Char))} (h : task.stage = .gathering now slots) :
    Plan.unbegun (s.gatherOf task) = slots.map fun slot => commandOf s.settings now slot.1 := by
  unfold gatherOf Plan.unbegun
  rw [h]
  have hfilter (slots : List ((Linter × Option (List Char)) × Nat)) :
      ((slots.map fun slot => (⟨task.number, slot.2, slot.1.1,
          commandOf s.settings now slot.1.1, false⟩ : Run)).filter (!·.begun)) =
        slots.map fun slot => ⟨task.number, slot.2, slot.1.1,
          commandOf s.settings now slot.1.1, false⟩ :=
    List.filter_eq_self.mpr fun run hr => by
      obtain ⟨slot, -, rfl⟩ := List.mem_map.mp hr
      rfl
  have hcommands := congrArg (List.map fun slot : Linter × Option (List Char) =>
    commandOf s.settings now slot.1) (List.zipIdx_map_fst 0 slots)
  rw [List.map_map] at hcommands
  simp only [hfilter, List.map_map]
  exact hcommands

theorem gatherOf_congr {s' : Session} (h : s'.settings = s.settings) (task : Task) :
    s'.gatherOf task = s.gatherOf task := by
  simp only [gatherOf, h]

theorem gatherOf_of_inTurn (s : Session) (h : task.stage.InTurn) : s.gatherOf task = [] := by
  unfold gatherOf
  split
  next now slots hstage => exact (h now slots hstage).elim
  next => rfl

theorem command_of_mem_gatherOf {now : Snapshot} (hfollows : task.stage.Follows now) {run : Run}
    (h : run ∈ s.gatherOf task) :
    run.task = task.number ∧ run.command = commandOf s.settings now run.linter := by
  unfold gatherOf at h
  split at h
  next noted slots hstage =>
    rw [hstage] at hfollows
    obtain ⟨rfl, -⟩ := hfollows
    obtain ⟨slot, -, rfl⟩ := List.mem_map.mp h
    exact ⟨rfl, rfl⟩
  next => cases h

theorem exists_mem_gatherOf (s : Session) (task : Task) {now : Snapshot}
    {slots : List (Linter × Option (List Char))} (h : task.stage = .gathering now slots)
    {place : Nat} {linter : Linter}
    (hawaits : task.stage.Awaits place linter) :
    ∃ run ∈ s.gatherOf task, run.task = task.number ∧ run.index = place := by
  rw [h] at hawaits
  have hslot : slots[place]? = some (linter, none) := hawaits
  unfold gatherOf
  rw [h]
  exact ⟨_, List.mem_map.mpr ⟨((linter, none), place), List.mem_zipIdx_iff_getElem?.mpr hslot, rfl⟩,
    rfl, rfl⟩

end GatherOf

theorem Exclusive.task?_eq {s : Session} (h : Exclusive s) {task : Task} (hm : task ∈ s.tasks) :
    s.task? task.number = some task := by
  cases hfind : s.task? task.number with
  | none => simpa using List.find?_eq_none.mp hfind task hm
  | some found =>
    obtain ⟨hfound, hnumber⟩ := task?_mem hfind
    rw [h.eq_of_number hfound hm hnumber]

/-- A document of a session that holds documents with numbers of their own. -/
theorem document?_of_members {s : Session} {documents : List Document}
    (hmembers : s.members = documents.map fun document => ⟨document, true, true⟩)
    (hids : (documents.map (·.id)).Nodup) {document : Document} (hd : document ∈ documents) :
    s.document? document.id = some document := by
  have hm : (⟨document, true, true⟩ : Member) ∈ s.members := by
    rw [hmembers]
    exact List.mem_map.mpr ⟨document, hd, rfl⟩
  cases hfind : s.member? document.id with
  | none => simpa using List.find?_eq_none.mp hfind _ hm
  | some m =>
    have hid : m.document.id = document.id := by simpa using List.find?_some hfind
    have hmember := List.mem_of_find?_eq_some hfind
    rw [hmembers] at hmember
    obtain ⟨other, hother, rfl⟩ := List.mem_map.mp hmember
    obtain rfl := List.inj_on_of_nodup_map hids hother hd hid
    rw [document?, hfind]
    rfl

section Events

variable {plan : Plan} {s : Session} {task : Task}

theorem Underway.document? (h : Underway plan s) {job : Job plan.base plan.registry}
    (hj : job ∈ plan.jobs) : s.document? job.document.id = some job.document := by
  have hmembers : s.members = (plan.jobs.map (·.document)).map fun document =>
      ⟨document, true, true⟩ := by
    rw [h.members, List.map_map]
    rfl
  have hids := plan.ids
  rw [← Function.comp_def, ← List.map_map] at hids
  exact document?_of_members hmembers hids (List.mem_map.mpr ⟨job, hj, rfl⟩)

theorem Underway.noted (h : Underway plan s) (job : Job plan.base plan.registry) :
    Refresh.snapshot s.base s.registry job.document = .ok job.now := by
  rw [h.base, h.registry]
  exact job.noted

/-- What a refresh begins and adds when it starts is what it owed. -/
theorem Underway.paid_start (h : Underway plan s) (job : Job plan.base plan.registry)
    {stage : Stage}
    (hstage : stage = (Refresh.start s.settings s.base s.registry job.document).stage)
    (task : Task) :
    job.commands plan.settings = stage.called plan.settings ++
      (stage.owed plan.settings ++ Plan.unbegun (s.gatherOf { task with stage })) := by
  rw [← h.settings]
  obtain hgather | hcall := Refresh.start_cases s.settings (h.noted job)
  · rw [hgather] at hstage
    rw [unbegun_gatherOf s { task with stage } hstage, hstage, List.map_map]
    rfl
  · rw [hcall] at hstage
    have hturn := Refresh.inTurn_callNext s.settings job.now .empty job.now.linters
    rw [← hstage] at hturn
    have hnone : s.gatherOf { task with stage } = [] := gatherOf_of_inTurn s hturn
    rw [hnone, Plan.unbegun, List.filter_nil, List.map_nil, List.append_nil, hstage,
      Refresh.owed_callNext]
    rfl

theorem inTurn_of_isOver {stage : Stage} (h : isOver stage = true) : stage.InTurn := by
  rintro now slots rfl
  cases h

/-- A refresh starts. -/
theorem Busy.start (h : Busy plan s) (hm : task ∈ s.tasks) (hwaits : task.stage = .waiting) :
    Busy plan (s.start task.number) ∧ Less (s.start task.number) s := by
  obtain ⟨job, hjob, hhas⟩ := h.tasks task hm
  let turn := Refresh.start s.settings s.base s.registry job.document
  have hd : s.document? task.document = some job.document := by
    rw [hhas.document]
    exact h.toUnderway.document? (List.mem_of_getElem? hjob)
  have hgather := gatherOf_congr (settings_takeTurn s task turn) { task with stage := turn.stage }
  have heq : s.start task.number =
      { s.takeTurn task turn with
        runs := (s.takeTurn task turn).runs ++ s.gatherOf { task with stage := turn.stage } } := by
    simp only [Session.start, h.exclusive.task?_eq hm, hwaits, hd]
    rw [← hgather]
  have hturn := (turns_takeTurn s task turn).gather (settings_takeTurn s task turn)
  rw [hgather, ← heq] at hturn
  have hnoted := h.toUnderway.noted job
  have hfollows : turn.stage.Follows job.now := Refresh.follows_start hnoted
  have houtlook : turn.stage.outlook job.told = some job.entry := by
    rw [show turn.stage.outlook job.told = _ from Refresh.outlook_start job.told hnoted, job.comes]
    rfl
  have hnone : ∀ run ∈ s.runs, run.task ≠ task.number :=
    h.awaited.no_runs hm fun _ _ hawaits => hawaits.ne_waiting hwaits
  have hdoes := does_start s task.number
  refine ⟨⟨?_, h.exclusive.does hdoes, h.awaited.does h.exclusive hdoes, ?_⟩, ?_⟩
  · rw [heq]
    refine h.toUnderway.takeTurn h.exclusive hm hjob hhas.document hfollows houtlook ?_ ?_ ?_
    · intro run hr
      obtain ⟨hnumber, hcommand⟩ := command_of_mem_gatherOf hfollows hr
      exact ⟨hnumber, job, hnumber ▸ hjob, h.settings ▸ hcommand⟩
    · rw [← h.toUnderway.paid_start job rfl task, Plan.owedBy, if_pos hwaits, hjob]
      rfl
    · intro hover
      have hturn : ({ task with stage := turn.stage } : Task).stage.InTurn := inTurn_of_isOver hover
      exact ⟨gatherOf_of_inTurn s hturn, hnone⟩
  · refine served_of_turns hturn (fun t ht _ => h.served t ht) fun place linter hawaits => ?_
    obtain hgather | hcall := Refresh.start_cases s.settings hnoted
    · obtain ⟨run, hr, hrest⟩ := exists_mem_gatherOf s { task with stage := turn.stage } hgather
        hawaits
      exact ⟨run, List.mem_append_right _ (List.mem_append_right _ hr), hrest⟩
    · have hinTurn : turn.stage.InTurn :=
        hcall ▸ Refresh.inTurn_callNext s.settings job.now .empty job.now.linters
      obtain ⟨run, hr, hrest⟩ := exists_mem_callOf s { task with stage := turn.stage } hinTurn
        hawaits
      exact ⟨run, List.mem_append_right _ (List.mem_append_left _ hr), hrest⟩
  · exact less_of_turn (h.exclusive.perm_others hm) (load_of_turns h.exclusive hm hturn)
      hfollows.ne_waiting (.inl hwaits)

/-- A refresh that has started goes on. -/
theorem Underway.proceeds (h : Underway plan s) (hexclusive : Exclusive s) (hm : task ∈ s.tasks)
    {job : Job plan.base plan.registry} (hjob : plan.jobs[task.number]? = some job)
    (hhas : job.Has task) (hstarted : task.stage ≠ .waiting) {turn : Turn}
    (hfollows : turn.stage.Follows job.now)
    (houtlook : turn.stage.outlook job.told = some job.entry)
    (hpaid : (∃ e, turn.stage = .failed e) ∨
      turn.stage.called plan.settings ++ turn.stage.owed plan.settings =
        task.stage.owed plan.settings)
    (hnone : isOver turn.stage = true → ∀ run ∈ s.runs, run.task ≠ task.number) :
    Underway plan (s.takeTurn task turn) := by
  have hpaid := hpaid.resolve_left fun ⟨e, hfailed⟩ => by
    rw [hfailed] at houtlook
    cases houtlook
  have hresult := h.takeTurn hexclusive hm hjob hhas.document hfollows houtlook
    (fun _ hr => (List.not_mem_nil hr).elim) (by
      rw [Plan.owedBy, if_neg hstarted, ← hpaid]
      simp [Plan.unbegun]) fun hover => ⟨rfl, hnone hover⟩
  simpa only [List.append_nil] using hresult

/-- A refresh goes on after a pause. -/
theorem Busy.resume (h : Busy plan s) (hm : task ∈ s.tasks)
    (hparses : ∃ now set paused outputs rest, task.stage = .parsing now set paused outputs rest) :
    Busy plan (s.resume task.number) ∧ Less (s.resume task.number) s := by
  obtain ⟨job, hjob, hhas⟩ := h.tasks task hm
  have hsize : 0 < s.settings.batchSize := h.settings ▸ plan.size
  have hstarted : task.stage ≠ .waiting := by
    obtain ⟨now, set, paused, outputs, rest, hstage⟩ := hparses
    rw [hstage]
    nofun
  obtain ⟨hfollows, -, houtlook⟩ := hhas.stage.resolve_left hstarted
  let turn := Refresh.resume s.settings task.stage
  have heq : s.resume task.number = s.takeTurn task turn := by
    obtain ⟨now, set, paused, outputs, rest, hstage⟩ := hparses
    simp only [Session.resume, h.exclusive.task?_eq hm, hstage, turn]
  have hturn := turns_takeTurn s task turn
  rw [← heq] at hturn
  have hnone := h.awaited.no_runs hm fun place linter hawaits => by
    obtain ⟨now, set, paused, outputs, rest, hstage⟩ := hparses
    rw [hstage] at hawaits
    exact hawaits.elim
  obtain ⟨hinTurn, hpaid⟩ := Refresh.owed_resume s.settings task.stage hparses
  have hfollows' : turn.stage.Follows job.now := Refresh.follows_resume hfollows
  have hdoes := does_resume s task.number
  refine ⟨⟨?_, h.exclusive.does hdoes, h.awaited.does h.exclusive hdoes, ?_⟩, ?_⟩
  · rw [heq]
    refine h.toUnderway.proceeds h.exclusive hm hjob hhas hstarted hfollows' ?_ ?_ fun _ => hnone
    · exact (Refresh.outlook_resume hfollows).trans houtlook
    · rw [← h.settings]
      exact hpaid
  · refine served_of_turns hturn (fun t ht _ => h.served t ht) fun place linter hawaits => ?_
    obtain ⟨run, hr, hrest⟩ := exists_mem_callOf s { task with stage := turn.stage } hinTurn hawaits
    exact ⟨run, List.mem_append_right _ hr, hrest⟩
  · refine less_of_turn (h.exclusive.perm_others hm) (load_of_turns h.exclusive hm hturn)
      hfollows'.ne_waiting (.inr ?_)
    obtain ⟨now, set, paused, outputs, rest, hstage⟩ := hparses
    simp only [turn, hstage]
    exact Refresh.less_resume hsize set paused outputs rest

theorem unbegun_without {run : Run} (hbegun : run.begun = true) (runs : List Run) :
    Plan.unbegun (runs.filter (· ≠ run)) = Plan.unbegun runs := by
  unfold Plan.unbegun
  rw [List.filter_filter]
  congr 1
  refine List.filter_congr fun r _ => ?_
  by_cases hr : r = run
  · simp [hr, hbegun]
  · simp [hr]

/-- A run that has begun ends. -/
theorem Underway.without (h : Underway plan s) {run : Run} (hbegun : run.begun = true)
    (log : List LogLine) : Underway plan ((s.without run).say log) where
  settings := h.settings
  base := h.base
  registry := h.registry
  members := h.members
  tracked := h.tracked
  tasks := h.tasks
  wanted := fun r hr => h.wanted r (List.mem_filter.mp hr).1
  runs := fun r hr => h.runs r (List.mem_filter.mp hr).1
  results := h.results
  account := by
    have haccount := h.account
    unfold Plan.owed at haccount ⊢
    rw [← unbegun_without hbegun] at haccount
    exact haccount

/-- A run ends as foreseen, and its refresh goes on. -/
theorem Busy.finish (h : Busy plan s) {run : Run} (hr : run ∈ s.runs) (hbegun : run.begun = true)
    {outcome : Outcome}
    (houtcome : ∀ job, plan.jobs[run.task]? = some job → outcome = job.told run.index) :
    Busy plan (s.finish run outcome) ∧ Less (s.finish run outcome) s := by
  obtain ⟨task, hm, hnumber⟩ := h.runs run hr
  obtain ⟨job, hjob, hhas⟩ := h.tasks task hm
  obtain rfl := houtcome job (hnumber ▸ hjob)
  have hawaits := h.awaited.awaits run hr task hm hnumber
  have hstarted := hawaits.ne_waiting
  obtain ⟨hfollows, -, houtlook⟩ := hhas.stage.resolve_left hstarted
  let before := (s.without run).say ((job.told run.index).log run.linter)
  let turn := Refresh.receive s.settings run.index (job.told run.index) task.stage
  have hbefore : Underway plan before := h.toUnderway.without hbegun _
  have hexclusive : Exclusive before := h.exclusive.same ⟨rfl, rfl, rfl⟩
  have heq : s.finish run (job.told run.index) = before.takeTurn task turn := by
    have htask : before.task? run.task = some task := hnumber ▸ hexclusive.task?_eq hm
    simp only [Session.finish, List.contains_iff_mem.mpr hr, hbegun, Bool.and_true, if_true]
    simp only [before] at htask
    simp only [htask]
    rfl
  have hturn := turns_takeTurn before task turn
  rw [← heq] at hturn
  have hfollows' : turn.stage.Follows job.now := Refresh.follows_receive hfollows _ _
  have houtlook' : turn.stage.outlook job.told = some job.entry :=
    (Refresh.outlook_receive hfollows hawaits).trans houtlook
  -- The other runs of the refresh are of other places.
  have hother (r : Run) (hr' : r ∈ s.runs) (hne : r ≠ run) (hn : r.task = task.number) :
      r.index ≠ run.index := fun hi =>
    hne (List.inj_on_of_nodup_map h.awaited.keys hr' hr (Prod.ext (hn.trans hnumber) hi))
  have hdoes := does_finish s run (job.told run.index)
  refine ⟨⟨?_, h.exclusive.does hdoes, h.awaited.does h.exclusive hdoes, ?_⟩, ?_⟩
  · rw [heq]
    refine hbefore.proceeds hexclusive hm hjob hhas hstarted hfollows' houtlook' ?_ ?_
    · rw [← h.settings]
      exact Refresh.owed_receive s.settings hawaits _
    · intro hover r hr' hn
      obtain ⟨hr', hne⟩ := List.mem_filter.mp hr'
      have hne := of_decide_eq_true hne
      obtain ⟨message, hcrashed⟩ | ⟨now, slots, hgather, -⟩ :=
        Refresh.awaits_receive s.settings (h.awaited.awaits r hr' task hm hn.symm) hawaits
          (hother r hr' hne hn) (job.told run.index)
      · have hfailed := Refresh.receive_crashed s.settings hawaits message
        rw [← hcrashed] at hfailed
        rw [show turn.stage = _ from hfailed] at houtlook'
        cases houtlook'
      · rw [show turn.stage = _ from hgather] at hover
        cases hover
  · refine served_of_turns hturn (fun t ht hne place linter hawaits => ?_)
      fun place linter hnew => ?_
    · obtain ⟨r, hr', hn, hi⟩ := h.served t ht place linter hawaits
      refine ⟨r, List.mem_filter.mpr ⟨hr', decide_eq_true ?_⟩, hn, hi⟩
      rintro rfl
      exact hne (hn.symm.trans hnumber.symm)
    · obtain hinTurn | ⟨hold, hne⟩ := Refresh.awaits_of_receive s.settings hawaits _ hnew
      · obtain ⟨r, hr', hrest⟩ :=
          exists_mem_callOf before { task with stage := turn.stage } hinTurn hnew
        exact ⟨r, List.mem_append_right _ hr', hrest⟩
      · obtain ⟨r, hr', hn, hi⟩ := h.served task hm place linter hold
        refine ⟨r, List.mem_append_left _ (List.mem_filter.mpr ⟨hr', decide_eq_true ?_⟩), hn, hi⟩
        rintro rfl
        exact hne hi.symm
  · have hload := load_of_turns hexclusive hm hturn
    exact less_of_turn (h.exclusive.perm_others hm) hload hfollows'.ne_waiting
      (.inr (Refresh.less_receive hawaits _))

theorem Busy.settle (h : Busy plan s) (he : task ∈ s.ended) :
    Busy plan (s.settle task.number) ∧ Less (s.settle task.number) s := by
  have hlength : (s.ended.filter (·.number ≠ task.number)).length < s.ended.length :=
    List.length_filter_lt_length_iff_exists.mpr ⟨task, he, by simp⟩
  refine ⟨⟨⟨h.settings, h.base, h.registry, h.members, h.tracked, h.tasks, h.wanted, h.runs,
    h.results, h.account⟩, h.exclusive.same ⟨rfl, rfl, rfl⟩, h.awaited.same ⟨⟨rfl, rfl, rfl⟩, rfl⟩,
    h.served⟩, less_of_rest rfl ?_⟩
  simp only [rest, Session.settle]
  omega

/-- A run begins. -/
theorem Busy.launch (h : Busy plan s) {run : Run} (hr : run ∈ s.runs) (hbegun : run.begun = false) :
    Busy plan (s.launch run) ∧ Less (s.launch run) s := by
  have hnodup : (s.runs.map id).Nodup := by
    rw [List.map_id]
    exact List.Nodup.of_map key h.awaited.keys
  let runs := s.runs.map fun r => if r = run then { r with begun := true } else r
  have hbefore : s.runs.Perm (run :: s.runs.filter fun r => id r ≠ id run) :=
    perm_cons_filter hnodup hr
  have hafter : runs.Perm ({ run with begun := true } :: s.runs.filter fun r => id r ≠ id run) := by
    refine .trans (.of_eq (List.map_congr_left fun r _ => ?_))
      (perm_replaced hnodup hr { run with begun := true })
    by_cases he : r = run <;> simp [he]
  have heq : s.launch run =
      { s with
        runs
        commands := s.commands ++ [run.command]
        log := s.log ++ [run.linter.runningLine run.command] } := by
    simp only [Session.launch, List.contains_iff_mem.mpr hr, hbegun]
    rfl
  have hback (r : Run) (hr : r ∈ runs) : ∃ q ∈ s.runs,
      r.task = q.task ∧ r.index = q.index ∧ r.linter = q.linter ∧ r.command = q.command := by
    obtain ⟨q, hq, rfl⟩ := List.mem_map.mp hr
    refine ⟨q, hq, ?_⟩
    split <;> exact ⟨rfl, rfl, rfl, rfl⟩
  have hdoes := does_launch s run
  refine ⟨⟨?_, h.exclusive.does hdoes, h.awaited.does h.exclusive hdoes, ?_⟩, ?_⟩
  · rw [heq]
    refine ⟨h.settings, h.base, h.registry, h.members, h.tracked, h.tasks, fun r hr => ?_,
      fun r hr => ?_, h.results, ?_⟩
    · obtain ⟨q, hq, htask, -, hlinter, hcommand⟩ := hback r hr
      obtain ⟨job, hjob, hwanted⟩ := h.wanted q hq
      exact ⟨job, htask ▸ hjob, by rw [hcommand, hlinter, hwanted]⟩
    · obtain ⟨q, hq, htask, -⟩ := hback r hr
      exact htask ▸ h.runs q hq
    · refine .trans ?_ h.account
      refine List.perm_iff_count.mpr fun command => ?_
      have hb := ((hbefore.filter (!·.begun)).map (·.command)).count_eq command
      have ha := ((hafter.filter (!·.begun)).map (·.command)).count_eq command
      rw [List.filter_cons_of_pos (by simp [hbegun]), List.map_cons, List.count_cons] at hb
      rw [List.filter_cons_of_neg (by simp)] at ha
      simp only [Plan.owed, Plan.unbegun, List.count_append, List.count_singleton] at hb ha ⊢
      omega
  · rw [heq]
    intro t ht place linter hawaits
    obtain ⟨q, hq, hn, hi⟩ := h.served t ht place linter hawaits
    refine ⟨_, List.mem_map.mpr ⟨q, hq, rfl⟩, ?_⟩
    split <;> exact ⟨hn, hi⟩
  · rw [heq]
    refine less_of_rest rfl ?_
    have hb := hbefore.countP_eq (!·.begun)
    have ha := hafter.countP_eq (!·.begun)
    rw [List.countP_cons_of_pos (by simp [hbegun])] at hb
    rw [List.countP_cons_of_neg (by simp)] at ha
    have hlength : runs.length = s.runs.length := List.length_map _
    simp only [rest]
    omega

end Events

end Gutter.Session
