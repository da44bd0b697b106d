import Gutter.Proofs.Session.Current
import Gutter.Proofs.Session.Draining

/-! Documents that are linted in turn: all are asked for first, the call for the first one waits for
all refreshes, and the calls for the others are answered at once. -/

namespace Gutter.Session

/-! ### Refreshes that are scheduled first -/

/-- The session with refreshes of documents that have been asked for. -/
def primed (s : Session) (documents : List Document) : Session :=
  { s with
    tracked := documents.map (·.id)
    guard := ⟨documents.map (·.id)⟩
    tasks := documents.zipIdx.map fun (document, number) =>
      ⟨number, document.id, ⟨document.id, false⟩, .waiting⟩
    requests := documents.map (·.id)
    log := documents.map scheduledLine }

/-- A document without an entry or a refresh has one scheduled when it is asked for. -/
theorem get_schedules {s : Session} {document : Document}
    (hd : s.document? document.id = some document) (hnamed : isNamed document = true)
    (hnone : s.entry? document.id = none) (hfree : s.guard.contains document.id = false) :
    (s.get true document.id).1 = (s.track document.id).trigger true document := by
  have hstale : (s.track document.id).hasCurrent document = false := by
    rw [(sameStore_track s document.id).hasCurrent, hasCurrent, hnone]
    rfl
  have hfree' : (s.track document.id).guard.contains document.id = false := by
    rw [(sameWork_track s document.id).guard, hfree]
  simp [get, hd, hnamed, hstale, hfree']

/-- A document that is asked for is refreshed after those before it. -/
theorem get_primed {s : Session} (hentries : s.entries = []) {before : List Document}
    {document : Document} (hd : s.document? document.id = some document)
    (hnamed : isNamed document = true) (hnew : document.id ∉ before.map (·.id)) :
    ((s.primed before).get true document.id).1 = s.primed (before ++ [document]) := by
  have hdocument : (s.primed before).document? document.id = some document := hd
  have hfree : Guard.contains ⟨before.map (·.id)⟩ document.id = false := by
    simpa [Guard.contains] using hnew
  have hnone : Session.entry? (s.primed before) document.id = none := by
    simp [Session.entry?, primed, hentries]
  have htrack : (s.primed before).track document.id =
      { s.primed before with tracked := before.map (·.id) ++ [document.id] } :=
    if_neg (by rwa [List.contains_iff_mem])
  rw [get_schedules hdocument hnamed hnone hfree, htrack]
  simp [trigger, Guard.acquire?, Guard.mark, hfree, primed, say, scheduled, List.zipIdx_append]

theorem foldl_get_eq_primed {s : Session} (hentries : s.entries = []) {documents : List Document}
    (hmembers : ∀ document ∈ documents, s.document? document.id = some document)
    (hnamed : ∀ document ∈ documents, isNamed document = true)
    (hids : (documents.map (·.id)).Nodup)
    (hempty : s.primed [] = s) :
    documents.foldl (fun s document => (s.get true document.id).1) s = s.primed documents := by
  induction documents using List.reverseRecOn with
  | nil => exact hempty.symm
  | append_singleton before document ih =>
    rw [List.map_append, List.map_singleton, List.nodup_append] at hids
    obtain ⟨hbefore, -, hnew⟩ := hids
    rw [List.foldl_append, List.foldl_cons, List.foldl_nil,
      ih (fun d hd => hmembers d (List.mem_append_left _ hd))
        (fun d hd => hnamed d (List.mem_append_left _ hd)) hbefore]
    have hlast : document ∈ before ++ [document] :=
      List.mem_append_right _ (List.mem_singleton_self _)
    exact get_primed hentries (hmembers document hlast) (hnamed document hlast) fun hm =>
      hnew _ hm _ (List.mem_singleton_self _) rfl

theorem map_number_primed (s : Session) (documents : List Document) :
    (s.primed documents).tasks.map (·.number) = List.range' 0 documents.length :=
  List.map_map.trans (List.zipIdx_map_snd 0 documents)

theorem map_document_primed (s : Session) (documents : List Document) :
    (s.primed documents).tasks.map (·.document) = documents.map (·.id) := by
  have hfirst := congrArg (List.map (·.id)) (List.zipIdx_map_fst 0 documents)
  rw [List.map_map] at hfirst
  exact List.map_map.trans hfirst

theorem exclusive_primed (s : Session) {documents : List Document}
    (hids : (documents.map (·.id)).Nodup) : Exclusive (s.primed documents) where
  numbers := by
    rw [map_number_primed]
    exact List.nodup_range' 1
  below := fun task ht => by
    have hnumber := List.mem_map_of_mem (f := (·.number)) ht
    rw [map_number_primed] at hnumber
    simpa [scheduled, primed] using hnumber
  documents := by rwa [map_document_primed]
  claims := fun task ht => by
    obtain ⟨⟨document, number⟩, -, rfl⟩ := List.mem_map.mp ht
    rfl
  guard := fun id => by
    rw [← List.mem_map, map_document_primed]
    rfl

namespace Plan

variable (plan : Plan)

/-- The documents of the jobs. -/
def documents : List Document := plan.jobs.map (·.document)

/-- A session with the documents, before any of them was asked for. -/
def opened : Session :=
  { open_ plan.settings plan.base plan.registry with
    issued := plan.documents.map (·.id)
    members := plan.documents.map fun document => ⟨document, true, true⟩ }

theorem nodup_documents : (plan.documents.map (·.id)).Nodup := by
  have hids := plan.ids
  rwa [documents, List.map_map]

/-- The session in which all documents of the plan have been asked for. -/
def begun : Session := plan.opened.primed plan.documents

theorem mem_tasks_begun {task : Task} (h : task ∈ plan.begun.tasks) :
    task.stage = .waiting ∧ ∃ job, plan.jobs[task.number]? = some job ∧
      task.document = job.document.id := by
  obtain ⟨⟨document, number⟩, hm, rfl⟩ := List.mem_map.mp h
  have hnumber := List.mem_zipIdx_iff_getElem?.mp hm
  rw [documents, List.getElem?_map, Option.map_eq_some_iff] at hnumber
  obtain ⟨job, hjob, rfl⟩ := hnumber
  exact ⟨rfl, job, hjob, rfl⟩

/-- Nothing has begun: all commands are owed. -/
theorem owed_begun : plan.owed plan.begun = plan.commands := by
  have hjob (job : Job plan.base plan.registry × Nat) (h : job ∈ plan.jobs.zipIdx) :
      plan.owedBy ⟨job.2, job.1.document.id, ⟨job.1.document.id, false⟩, .waiting⟩ =
        job.1.commands plan.settings := by
    rw [owedBy, if_pos rfl, List.mem_zipIdx_iff_getElem?.mp h]
    rfl
  have htasks : plan.begun.tasks = plan.jobs.zipIdx.map fun job =>
      ⟨job.2, job.1.document.id, ⟨job.1.document.id, false⟩, .waiting⟩ := by
    simp [begun, primed, documents, List.zipIdx_map]
  calc plan.owed plan.begun
      = plan.begun.tasks.flatMap plan.owedBy := List.append_nil _
    _ = plan.jobs.zipIdx.flatMap fun job => job.1.commands plan.settings := by
        rw [htasks, List.flatMap_map]
        exact List.flatMap_congr hjob
    _ = (plan.jobs.zipIdx.map Prod.fst).flatMap (·.commands plan.settings) := by
        rw [List.flatMap_map]
    _ = plan.commands := by rw [List.zipIdx_map_fst, commands]

/-- The jobs are under way once all documents were asked for. -/
theorem busy_begun : Busy plan plan.begun := by
  refine ⟨⟨rfl, rfl, rfl, List.map_map, fun job hj => ?_, fun task ht => ?_, nofun, nofun,
    fun number job hjob => .inl ?_, ?_⟩, exclusive_primed _ plan.nodup_documents,
    ⟨List.nodup_nil, nofun, nofun⟩, fun task ht place linter hawaits => ?_⟩
  · exact List.mem_map.mpr ⟨job.document, List.mem_map.mpr ⟨job, hj, rfl⟩, rfl⟩
  · obtain ⟨hwaits, job, hjob, hdocument⟩ := plan.mem_tasks_begun ht
    exact ⟨job, hjob, hdocument, .inl hwaits⟩
  · refine ⟨_, List.mem_map.mpr ⟨(job.document, number), List.mem_zipIdx_iff_getElem?.mpr ?_, rfl⟩,
      rfl⟩
    exact (List.getElem?_map ..).trans (congrArg _ hjob)
  · exact .of_eq plan.owed_begun
  · exact (hawaits.ne_waiting (plan.mem_tasks_begun ht).1).elim

theorem foldl_get_documents :
    plan.documents.foldl (fun s document => (s.get true document.id).1) plan.opened =
      plan.begun := by
  refine foldl_get_eq_primed rfl (fun document hd => ?_) (fun document hd => ?_)
    plan.nodup_documents rfl
  · exact document?_of_members rfl plan.nodup_documents hd
  · obtain ⟨job, -, rfl⟩ := List.mem_map.mp hd
    exact job.named

end Plan

/-! ### Calls -/

/-- The jobs are done: no refresh is left. -/
structure Settled (plan : Plan) (s : Session) : Prop extends Underway plan s where
  idle : s.isIdle = true

section Calls

variable {s : Session} {document : Document} {found : Option Entry}

/-- What is asked for again changes nothing, if there is an entry or a refresh. -/
theorem get_of_attended (hd : s.document? document.id = some document)
    (hnamed : isNamed document = true) (htracked : document.id ∈ s.tracked)
    (h : s.hasCurrent document = true ∨ s.guard.contains document.id = true) :
    s.get true document.id = (s, s.entry? document.id) := by
  have htrack : s.track document.id = s := if_pos (List.contains_iff_mem.mpr htracked)
  simp [get, hd, hnamed, htrack, Bool.or_eq_true_iff.mpr h]

theorem tryCall_of_found {entry : Entry} (hd : s.document? document.id = some document)
    (h : s.get true document.id = (s, some entry)) (hcurrent : entry.isCurrent document = true)
    (tries : Nat) : s.tryCall document.id (tries + 1) = (s, .answered entry.warnings) := by
  simp [tryCall, h, hd, Option.filter_some, hcurrent]

theorem tryCall_of_missing (h : s.get true document.id = (s, none)) (tries : Nat) :
    s.tryCall document.id (tries + 1) = (s, .waiting document.id tries) := by
  simp [tryCall, h]

theorem call_of_tryCall {call : Call} (hd : s.document? document.id = some document)
    (hnamed : isNamed document = true)
    (h : s.tryCall document.id attempts = (s, call)) : s.call document.id = s.addCall call := by
  simp [Session.call, beginCall, hd, hnamed, h]

@[simp] theorem answer?_addCall (s : Session) (call : Call) :
    (s.addCall call).answer? s.calls.length =
      match call with
      | .answered set => some set
      | .waiting _ _ => none := by
  cases call <;> simp [answer?, addCall]

theorem follow_of_answered {σ : Type} (wait : σ → Session → σ × Session) {index : Nat}
    {set : WarningSet} (h : s.answer? index = some set) (tries : Nat) (state : σ) :
    follow wait index tries state s = (state, s) := by
  cases tries with
  | zero => rfl
  | succ tries => simp [follow, h]

theorem follow_of_waiting {σ : Type} (wait : σ → Session → σ × Session) {index : Nat}
    (h : s.answer? index = none) (tries : Nat) (state : σ) :
    follow wait index (tries + 1) state s =
      follow wait index tries (wait state s).1 ((wait state s).2.wake index) := by
  simp [follow, h]

end Calls

section Jobs

variable {plan : Plan} {s : Session} {job : Job plan.base plan.registry}

namespace Underway

theorem addCall (h : Underway plan s) (call : Call) : Underway plan (s.addCall call) :=
  ⟨h.settings, h.base, h.registry, h.members, h.tracked, h.tasks, h.wanted, h.runs, h.results,
    h.account⟩

theorem setCall (h : Underway plan s) (index : Nat) (call : Call) :
    Underway plan (s.setCall index call) :=
  ⟨h.settings, h.base, h.registry, h.members, h.tracked, h.tasks, h.wanted, h.runs, h.results,
    h.account⟩

end Underway

namespace Settled

theorem tasks_eq (h : Settled plan s) : s.tasks = [] := tasks_of_idle h.idle

theorem runs_eq (h : Settled plan s) : s.runs = [] :=
  List.eq_nil_iff_forall_not_mem.mpr fun run hr => by
    obtain ⟨task, hm, -⟩ := h.runs run hr
    rw [h.tasks_eq] at hm
    cases hm

/-- Each linter of each job has run once. -/
theorem commands (h : Settled plan s) : s.commands.Perm plan.commands := by
  have haccount := h.account
  rwa [Plan.owed, h.tasks_eq, h.runs_eq, List.flatMap_nil, List.nil_append, Plan.unbegun,
    List.filter_nil, List.map_nil, List.append_nil] at haccount

theorem entry (h : Settled plan s) (hj : job ∈ plan.jobs) :
    s.entry? job.document.id = some job.entry := by
  obtain ⟨number, hjob⟩ := List.mem_iff_getElem?.mp hj
  refine (h.results number job hjob).resolve_left ?_
  rintro ⟨task, hm, -⟩
  rw [h.tasks_eq] at hm
  cases hm

theorem tryCall (h : Settled plan s) (hj : job ∈ plan.jobs) (tries : Nat) :
    s.tryCall job.document.id (tries + 1) = (s, .answered job.set) := by
  have hd := h.toUnderway.document? hj
  have hcurrent : job.entry.isCurrent job.document = true :=
    decide_eq_true (Refresh.snapshot_document job.noted).2
  have hpresent : s.hasCurrent job.document = true := by
    rw [hasCurrent, h.entry hj, Option.any_some, hcurrent]
  have hget := get_of_attended hd job.named (h.tracked job hj) (.inl hpresent)
  rw [h.entry hj] at hget
  exact tryCall_of_found hd hget hcurrent tries

/-- A call for a job that is done is answered at once. -/
theorem lint {σ : Type} (wait : σ → Session → σ × Session) (state : σ) (h : Settled plan s)
    (hj : job ∈ plan.jobs) :
    Session.lint wait job.document.id state s =
      (state, s.addCall (.answered job.set), job.set) := by
  have hcall : s.call job.document.id = s.addCall (.answered job.set) :=
    call_of_tryCall (h.toUnderway.document? hj) job.named (h.tryCall hj 2)
  have hanswer : (s.addCall (.answered job.set)).answer? s.calls.length = some job.set :=
    answer?_addCall s _
  simp only [Session.lint, hcall, follow_of_answered wait hanswer, hanswer, Option.getD_some]

theorem addCall (h : Settled plan s) (call : Call) : Settled plan (s.addCall call) :=
  ⟨h.toUnderway.addCall call, h.idle⟩

end Settled

section Busy

variable {σ : Type} {tools : Tools σ} {state : σ} {fit : σ → List Run → Prop}

namespace Busy

theorem addCall (h : Busy plan s) (call : Call) : Busy plan (s.addCall call) :=
  ⟨h.toUnderway.addCall call, h.exclusive.same ⟨rfl, rfl, rfl⟩,
    h.awaited.same ⟨⟨rfl, rfl, rfl⟩, rfl⟩, h.served⟩

/-- A job without an entry has a refresh, which claims its document. -/
theorem claimed (h : Busy plan s) (hj : job ∈ plan.jobs)
    (hnone : s.entry? job.document.id = none) : s.guard.contains job.document.id = true := by
  obtain ⟨number, hjob⟩ := List.mem_iff_getElem?.mp hj
  obtain ⟨task, hm, rfl⟩ | hentry := h.results number job hjob
  · obtain ⟨other, hother, hhas⟩ := h.tasks task hm
    obtain rfl : job = other := Option.some.inj (hjob.symm.trans hother)
    exact Guard.contains_iff.mpr ((h.exclusive.guard _).mpr ⟨task, hm, hhas.document⟩)
  · rw [hnone] at hentry
    cases hentry

/-- A call for a job without an entry waits. -/
theorem call (h : Busy plan s) (hj : job ∈ plan.jobs) (hnone : s.entry? job.document.id = none) :
    s.call job.document.id = s.addCall (.waiting job.document.id 2) := by
  have hd := h.toUnderway.document? hj
  have hget := get_of_attended hd job.named (h.tracked job hj) (.inr (h.claimed hj hnone))
  rw [hnone] at hget
  exact call_of_tryCall hd job.named (tryCall_of_missing hget 2)

/-- A call for a job without an entry has its answer when the work is done. -/
theorem lint (h : Busy plan s) (hobeyed : plan.Obeyed tools fit) (hfit : fit state s.begunRuns)
    (hj : job ∈ plan.jobs) (hnone : s.entry? job.document.id = none) :
    ∃ later s', Session.lint (Session.work tools) job.document.id state s = (later, s', job.set) ∧
      Settled plan s' := by
  let waiting := s.addCall (.waiting job.document.id 2)
  obtain ⟨hbusy, hidle, hcalls⟩ :=
    (h.addCall (.waiting job.document.id 2)).work hobeyed hfit
  let after := (Session.work tools state waiting).2
  have hsettled : Settled plan after := ⟨hbusy.toUnderway, hidle⟩
  have hwaits : after.calls[s.calls.length]? = some (.waiting job.document.id 2) := by
    rw [hcalls]
    exact List.getElem?_concat_length
  have hwake : after.wake s.calls.length = after.setCall s.calls.length (.answered job.set) := by
    rw [wake_of_idle hwaits hidle, hsettled.tryCall hj]
    exact collect_of_held (hsettled.toUnderway.setCall _ _).held _
  have hanswer : (after.wake s.calls.length).answer? s.calls.length = some job.set := by
    rw [answer?_eq_some, hwake]
    exact List.getElem?_set_self (List.getElem?_eq_some_iff.mp hwaits).1
  refine ⟨(Session.work tools state waiting).1, after.wake s.calls.length, ?_, ?_⟩
  · have hfollow : follow (Session.work tools) s.calls.length attempts state waiting =
        ((Session.work tools state waiting).1, after.wake s.calls.length) := by
      rw [attempts, follow_of_waiting _ (answer?_addCall s _)]
      exact follow_of_answered _ hanswer 2 _
    simp only [Session.lint, h.call hj hnone]
    rw [hfollow, hanswer]
    rfl
  · rw [hwake]
    exact ⟨hsettled.toUnderway.setCall _ _, hidle⟩

end Busy

end Busy

end Jobs

end Gutter.Session
