import Gutter.Proofs.Refresh.Places
import Gutter.Proofs.Session.Keeping
import Gutter.Proofs.Session.Noting
import Gutter.Proofs.Session.Runs

/-! Jobs: documents that are to be refreshed once each, with what the runs for them come to. As long
as refreshes are under way, what has begun and what is still owed are together the commands of all
jobs, and every job has a refresh or its entry. -/

namespace Gutter.Session

open Refresh (Forecast Snapshot Stage Turn absorbRuns? commandOf)

/-- A document with a name, what is foreseen for the runs of its linters, and the set that they come
to. -/
structure Job (base : Path.Base) (registry : Registry) where
  document : Document
  told : Forecast
  now : Snapshot
  set : WarningSet
  named : isNamed document = true
  noted : Refresh.snapshot base registry document = .ok now
  comes : absorbRuns? told 0 now.linters .empty = some set

/-- What a session has to do: its refreshes have the numbers of the jobs. -/
structure Plan where
  settings : Settings
  base : Path.Base
  registry : Registry
  jobs : List (Job base registry)
  size : 0 < settings.batchSize
  ids : (jobs.map (·.document.id)).Nodup

namespace Job

variable {base : Path.Base} {registry : Registry} (job : Job base registry)

/-- The entry that the refresh comes to. -/
def entry : Entry := job.now.entry job.set

theorem entry_document : job.entry.document = job.document.id :=
  (Refresh.snapshot_document job.noted).1

/-- The commands of the linters for the document. -/
def commands (settings : Settings) : List Command :=
  job.now.linters.map (commandOf settings job.now)

/-- The refresh is of the document. It has not started, or has the entry in view. -/
structure Has (task : Task) : Prop where
  document : task.document = job.document.id
  stage : task.stage = .waiting ∨ task.stage.Follows job.now ∧ isOver task.stage = false ∧
    task.stage.outlook job.told = some job.entry

end Job

namespace Plan

variable (plan : Plan)

/-- All commands, each as often as a linter is for a document. -/
def commands : List Command := plan.jobs.flatMap (·.commands plan.settings)

/-- The commands that a refresh has still to begin. -/
def owedBy (task : Task) : List Command :=
  if task.stage = .waiting then ((plan.jobs[task.number]?).map (·.commands plan.settings)).getD []
  else task.stage.owed plan.settings

/-- The commands of runs that have not begun. -/
def unbegun (runs : List Run) : List Command := (runs.filter (!·.begun)).map (·.command)

/-- The commands that have still to begin. -/
def owed (s : Session) : List Command := s.tasks.flatMap plan.owedBy ++ unbegun s.runs

end Plan

/-- The run is of a job, with its command. -/
def Plan.Wants (plan : Plan) (run : Run) : Prop :=
  ∃ job, plan.jobs[run.task]? = some job ∧ run.command = commandOf plan.settings job.now run.linter

/-- The session is at the jobs of a plan. -/
structure Underway (plan : Plan) (s : Session) : Prop where
  settings : s.settings = plan.settings
  base : s.base = plan.base
  registry : s.registry = plan.registry
  members : s.members = plan.jobs.map fun job => ⟨job.document, true, true⟩
  tracked : ∀ job ∈ plan.jobs, job.document.id ∈ s.tracked
  tasks : ∀ task ∈ s.tasks, ∃ job, plan.jobs[task.number]? = some job ∧ job.Has task
  wanted : ∀ run ∈ s.runs, plan.Wants run
  runs : ∀ run ∈ s.runs, ∃ task ∈ s.tasks, task.number = run.task
  results : ∀ number job, plan.jobs[number]? = some job →
    (∃ task ∈ s.tasks, task.number = number) ∨ s.entry? job.document.id = some job.entry
  account : (s.commands ++ plan.owed s).Perm plan.commands

/-! ### Turns -/

section Keys

variable {α β : Type} [DecidableEq β] {key : α → β} {list : List α}

/-- An element takes the place of the one that has its key. -/
theorem perm_replaced (h : (list.map key).Nodup) {x : α} (hx : x ∈ list) (y : α) :
    (list.map fun z => if key z = key x then y else z).Perm
      (y :: list.filter fun z => key z ≠ key x) := by
  induction list with
  | nil => cases hx
  | cons z rest ih =>
    obtain ⟨hz, hrest⟩ := List.nodup_cons.mp h
    obtain rfl | hx := List.mem_cons.mp hx
    · have hkey (w : α) (hw : w ∈ rest) : key w ≠ key x := fun he =>
        hz (List.mem_map.mpr ⟨w, hw, he⟩)
      have hmap : (rest.map fun w => if key w = key x then y else w) = rest :=
        (List.map_congr_left fun w hw => if_neg (hkey w hw)).trans (List.map_id rest)
      have hfilter : (x :: rest).filter (fun w => key w ≠ key x) = rest :=
        (List.filter_cons_of_neg (by simp)).trans
          (List.filter_eq_self.mpr fun w hw => decide_eq_true (hkey w hw))
      rw [List.map_cons, if_pos rfl, hmap, hfilter]
    · have hne : key z ≠ key x := fun he => hz (List.mem_map.mpr ⟨x, hx, he.symm⟩)
      have hfilter : (z :: rest).filter (fun w => key w ≠ key x) =
          z :: rest.filter fun w => key w ≠ key x := List.filter_cons_of_pos (by simp [hne])
      rw [List.map_cons, if_neg hne, hfilter]
      exact ((ih hrest hx).cons z).trans (.swap y z _)

theorem perm_cons_filter (h : (list.map key).Nodup) {x : α} (hx : x ∈ list) :
    list.Perm (x :: list.filter fun z => key z ≠ key x) := by
  have hsame : (list.map fun z => if key z = key x then x else z) = list := by
    refine (List.map_congr_left fun z hz => ?_).trans (List.map_id list)
    split
    next hkey => exact List.inj_on_of_nodup_map h hx hz hkey.symm
    next => rfl
  have hperm := perm_replaced h hx x
  rwa [hsame] at hperm

end Keys

section Turns

variable {plan : Plan} {s : Session} {task : Task} {turn : Turn}

/-- The refreshes but for one. -/
def others (s : Session) (task : Task) : List Task := s.tasks.filter (·.number ≠ task.number)

theorem Exclusive.perm_replaced (h : Exclusive s) (hm : task ∈ s.tasks) (later : Task) :
    (s.tasks.map fun t => if t.number = task.number then later else t).Perm
      (later :: s.others task) :=
  Session.perm_replaced h.numbers hm later

theorem Exclusive.perm_others (h : Exclusive s) (hm : task ∈ s.tasks) :
    s.tasks.Perm (task :: s.others task) :=
  perm_cons_filter h.numbers hm

/-- The session after a turn of a refresh that goes on. -/
theorem takeTurn_of_goes (h : isOver turn.stage = false) :
    s.takeTurn task turn =
      { s with
        log := s.log ++ turn.log
        tasks := s.tasks.map fun t =>
          if t.number = task.number then { task with stage := turn.stage } else t
        runs := s.runs ++ s.callOf { task with stage := turn.stage }
        commands := s.commands ++ (s.callOf { task with stage := turn.stage }).map (·.command) } := by
  obtain ⟨stage, log⟩ := turn
  cases stage with
  | completed entry => cases h
  | failed e => cases h
  | _ => rfl

theorem collect_of_held (h : ∀ m ∈ s.members, m.held = true) (id : Nat) : s.collect id = s := by
  unfold collect
  cases hm : s.member? id with
  | none => rfl
  | some m => simp [h m (List.mem_of_find?_eq_some hm)]

/-- The session after the turn with which a refresh is complete. -/
theorem takeTurn_of_completed {entry : Entry} (h : turn.stage = .completed entry)
    (hheld : ∀ m ∈ s.members, m.held = true) (htracked : entry.document ∈ s.tracked) :
    s.takeTurn task turn =
      { s with
        log := s.log ++ turn.log
        entries := putEntry entry s.entries
        guard := (s.guard.release task.claim).1
        tasks := s.others task
        ended := s.ended ++
          [{ task with stage := .completed entry, claim := (s.guard.release task.claim).2 }] } := by
  obtain ⟨stage, log⟩ := turn
  obtain rfl : stage = .completed entry := h
  have hpublish : (s.say log).publish entry =
      { s.say log with entries := putEntry entry s.entries } :=
    if_pos (List.contains_iff_mem.mpr htracked)
  simp only [takeTurn, hpublish, retire]
  rw [collect_of_held]
  · rfl
  · exact hheld

end Turns

namespace Plan

variable {plan : Plan} {number other : Nat} {job job' : Job plan.base plan.registry}

/-- Jobs are of different documents. -/
theorem eq_of_document (h : plan.jobs[number]? = some job) (h' : plan.jobs[other]? = some job')
    (hd : job.document.id = job'.document.id) : number = other := by
  have hnodup := plan.ids
  have hlength := (List.getElem?_eq_some_iff.mp h).1
  refine (List.getElem?_inj (by simpa using hlength) hnodup).mp ?_
  rw [List.getElem?_map, List.getElem?_map, h, h', Option.map_some, Option.map_some, hd]

@[simp] theorem unbegun_append (first second : List Run) :
    unbegun (first ++ second) = unbegun first ++ unbegun second := by
  simp [unbegun]

end Plan

namespace Underway

variable {plan : Plan} {s : Session} {task : Task} {job : Job plan.base plan.registry}

/-- A refresh goes on, and begins what it owed. -/
theorem goes (h : Underway plan s) (hexclusive : Exclusive s) (hm : task ∈ s.tasks)
    (hjob : plan.jobs[task.number]? = some job) {stage : Stage}
    (hhas : job.Has { task with stage }) {more : List Run}
    (hmore : ∀ run ∈ more, run.task = task.number ∧ plan.Wants run) {called : List Command}
    (hpaid : plan.owedBy task = called ++ (plan.owedBy { task with stage } ++ Plan.unbegun more))
    (log : List LogLine) :
    Underway plan
      { s with
        log
        tasks := s.tasks.map fun t => if t.number = task.number then { task with stage } else t
        runs := s.runs ++ more
        commands := s.commands ++ called } := by
  have hkeep (number : Nat) (hn : ∃ t ∈ s.tasks, t.number = number) :
      ∃ t ∈ s.tasks.map fun t => if t.number = task.number then { task with stage } else t,
        t.number = number := by
    obtain ⟨t, ht, rfl⟩ := hn
    refine ⟨_, List.mem_map.mpr ⟨t, ht, rfl⟩, ?_⟩
    split
    next he => exact he.symm
    next => rfl
  refine ⟨h.settings, h.base, h.registry, h.members, h.tracked, fun t ht => ?_, fun run hr => ?_,
    fun run hr => ?_, fun number job hn => ?_, ?_⟩
  · obtain ⟨u, hu, rfl⟩ := List.mem_map.mp ht
    split
    · exact ⟨job, hjob, hhas⟩
    · exact h.tasks u hu
  · exact (List.mem_append.mp hr).elim (h.wanted run) fun hr => (hmore run hr).2
  · refine hkeep run.task ?_
    obtain hr | hr := List.mem_append.mp hr
    · exact h.runs run hr
    · exact ⟨task, hm, (hmore run hr).1.symm⟩
  · exact (h.results number job hn).imp_left (hkeep number)
  · refine .trans ?_ h.account
    have hbefore := (hexclusive.perm_others hm).flatMap_right plan.owedBy
    have hafter := (hexclusive.perm_replaced hm { task with stage }).flatMap_right plan.owedBy
    refine List.perm_iff_count.mpr fun command => ?_
    have hb := hbefore.count_eq command
    have ha := hafter.count_eq command
    rw [List.flatMap_cons, List.count_append] at hb ha
    rw [hpaid] at hb
    simp only [Plan.owed, Plan.unbegun_append, List.count_append] at hb ⊢
    omega

/-- A refresh is complete that owed nothing more. -/
theorem completes (h : Underway plan s) (hexclusive : Exclusive s) (hm : task ∈ s.tasks)
    (hjob : plan.jobs[task.number]? = some job)
    (hnone : ∀ run ∈ s.runs, run.task ≠ task.number) (howed : plan.owedBy task = [])
    (log : List LogLine) (guard : Guard Nat) (ended : List Task) :
    Underway plan
      { s with
        log
        entries := putEntry job.entry s.entries
        guard
        tasks := s.others task
        ended } := by
  have hothers (t : Task) (ht : t ∈ s.tasks) (hn : t.number ≠ task.number) : t ∈ s.others task :=
    List.mem_filter.mpr ⟨ht, decide_eq_true hn⟩
  refine ⟨h.settings, h.base, h.registry, h.members, h.tracked, fun t ht => ?_, h.wanted,
    fun run hr => ?_, fun number other hn => ?_, ?_⟩
  · exact h.tasks t (List.mem_filter.mp ht).1
  · obtain ⟨t, ht, hn⟩ := h.runs run hr
    exact ⟨t, hothers t ht (hn ▸ hnone run hr), hn⟩
  · by_cases hnumber : number = task.number
    · subst hnumber
      obtain rfl : job = other := by
        rw [hjob] at hn
        exact Option.some.inj hn
      right
      have hfound := find?_putEntry job.entry s.entries
      rwa [job.entry_document] at hfound
    · refine (h.results number other hn).imp ?_ fun hentry => ?_
      · rintro ⟨t, ht, rfl⟩
        exact ⟨t, hothers t ht hnumber, rfl⟩
      · have hne : job.entry.document ≠ other.document.id := by
          rw [job.entry_document]
          exact fun hd => hnumber (plan.eq_of_document hjob hn hd).symm
        exact (find?_putEntry_ne hne s.entries).trans hentry
  · refine .trans ?_ h.account
    have hbefore := (hexclusive.perm_others hm).flatMap_right plan.owedBy
    rw [List.flatMap_cons, howed, List.nil_append] at hbefore
    exact (hbefore.symm.append_right _).append_left _

end Underway

end Gutter.Session
