import Gutter.Proofs.Claim
import Gutter.Session.Work

/-! What the steps of a session leave alone: documents, entries and what is logged can change
without a change of the refreshes, and a query schedules one refresh at most. -/

namespace Gutter

namespace Session

open Refresh (Stage Turn)

/-- Both sessions have the same refreshes, and the same claims are held. -/
structure SameClaims (s s' : Session) : Prop where
  guard : s'.guard = s.guard
  tasks : s'.tasks = s.tasks
  requests : s'.requests = s.requests

/-- Both sessions have the same refreshes, which wait for the same runs. -/
structure SameWork (s s' : Session) : Prop extends SameClaims s s' where
  runs : s'.runs = s.runs

namespace SameWork

variable {s s' s'' : Session}

theorem refl (s : Session) : SameWork s s := ⟨⟨rfl, rfl, rfl⟩, rfl⟩

theorem trans (h : SameWork s s') (h' : SameWork s' s'') : SameWork s s'' :=
  ⟨⟨h'.guard.trans h.guard, h'.tasks.trans h.tasks,
    h'.requests.trans h.requests⟩, h'.runs.trans h.runs⟩

end SameWork

section SameWork

variable (s : Session) (id : Nat)

/-- When a document goes, so may its entry. -/
theorem collect_eq : ∃ members entries tracked,
    s.collect id = { s with members, entries, tracked } := by
  unfold collect
  split
  · exact ⟨_, _, _, rfl⟩
  · split
    · exact ⟨_, _, _, rfl⟩
    · simp only
      split <;> exact ⟨_, _, _, rfl⟩

theorem publish_eq (entry : Entry) : ∃ entries log, s.publish entry = { s with entries, log } := by
  unfold publish
  split <;> exact ⟨_, _, rfl⟩

theorem sameWork_say (lines : List LogLine) : SameWork s (s.say lines) :=
  ⟨⟨rfl, rfl, rfl⟩, rfl⟩

theorem sameWork_forget : SameWork s (s.forget id) := ⟨⟨rfl, rfl, rfl⟩, rfl⟩

theorem sameWork_edit (change : Document.Change) : SameWork s (s.edit id change) :=
  ⟨⟨rfl, rfl, rfl⟩, rfl⟩

theorem sameWork_add (document : Document) (watched : Bool) :
    SameWork s (s.add document watched) := by
  unfold add
  split <;> exact ⟨⟨rfl, rfl, rfl⟩, rfl⟩

theorem sameWork_track : SameWork s (s.track id) := by
  unfold track
  split <;> exact ⟨⟨rfl, rfl, rfl⟩, rfl⟩

theorem sameWork_publish (entry : Entry) : SameWork s (s.publish entry) := by
  obtain ⟨entries, log, h⟩ := publish_eq s entry
  rw [h]
  exact ⟨⟨rfl, rfl, rfl⟩, rfl⟩

theorem sameWork_collect : SameWork s (s.collect id) := by
  obtain ⟨members, entries, tracked, h⟩ := collect_eq s id
  rw [h]
  exact ⟨⟨rfl, rfl, rfl⟩, rfl⟩

theorem sameWork_unhold : SameWork s (s.unhold id) := ⟨⟨rfl, rfl, rfl⟩, rfl⟩

theorem sameWork_drop : SameWork s (s.drop id) :=
  (sameWork_unhold s id).trans (sameWork_collect _ id)

end SameWork

/-- Both sessions have the same documents, entries and calls. -/
structure SameStore (s s' : Session) : Prop where
  members : s'.members = s.members
  entries : s'.entries = s.entries
  calls : s'.calls = s.calls

theorem SameStore.trans {s s' s'' : Session} (h : SameStore s s') (h' : SameStore s' s'') :
    SameStore s s'' :=
  ⟨h'.members.trans h.members, h'.entries.trans h.entries, h'.calls.trans h.calls⟩

namespace SameStore

variable {s s' : Session} (h : SameStore s s') (id : Nat)

include h

theorem document? : s'.document? id = s.document? id := by
  rw [Session.document?, member?, h.members, Session.document?, member?]

theorem entry_eq : Session.entry? s' id = s.entry? id := by
  unfold Session.entry?
  rw [h.entries]

theorem hasCurrent (document : Document) : s'.hasCurrent document = s.hasCurrent document := by
  rw [Session.hasCurrent, h.entry_eq, Session.hasCurrent]

end SameStore

theorem sameStore_track (s : Session) (id : Nat) : SameStore s (s.track id) := by
  unfold track
  split <;> exact ⟨rfl, rfl, rfl⟩

/-! ### Queries -/

/-- The session `s'` has one refresh more than `s`, of the document `id`, that has not started.
There was none, and no entry that is current. -/
structure Schedules (id : Nat) (s s' : Session) : Prop where
  free : s.guard.contains id = false
  stale : ∀ document, s.document? id = some document → s.hasCurrent document = false
  guard : s'.guard = s.guard.mark id
  tasks : s'.tasks = s.tasks ++ [⟨s.scheduled, id, ⟨id, false⟩, .waiting⟩]
  requests : s'.requests = s.requests ++ [id]
  runs : s'.runs = s.runs

theorem Schedules.of_same {s s' s'' : Session} {id : Nat} (h : Schedules id s' s'')
    (hwork : SameWork s s') (hstore : SameStore s s') : Schedules id s s'' where
  free := hwork.guard ▸ h.free
  stale := fun document hd => by
    rw [← hstore.hasCurrent]
    exact h.stale document (hstore.document? id ▸ hd)
  guard := hwork.guard ▸ h.guard
  tasks := by rw [h.tasks, hwork.tasks, scheduled, scheduled, hwork.requests]
  requests := hwork.requests ▸ h.requests
  runs := h.runs.trans hwork.runs

theorem Schedules.same {s s' s'' : Session} {id : Nat} (h : Schedules id s s')
    (h' : SameWork s' s'') : Schedules id s s'' where
  free := h.free
  stale := h.stale
  guard := h'.guard.trans h.guard
  tasks := h'.tasks.trans h.tasks
  requests := h'.requests.trans h.requests
  runs := h'.runs.trans h.runs

theorem Schedules.count_self {s s' : Session} {id : Nat} (h : Schedules id s s') :
    s'.requests.count id = s.requests.count id + 1 := by
  rw [h.requests, List.count_append, List.count_singleton_self]

theorem Schedules.count_of_ne {s s' : Session} {id other : Nat} (h : Schedules other s s')
    (hne : other ≠ id) : s'.requests.count id = s.requests.count id := by
  rw [h.requests, List.count_append, List.count_singleton, beq_eq_false_iff_ne.mpr hne]
  rfl

theorem document?_id {s : Session} {id : Nat} {document : Document}
    (h : s.document? id = some document) : document.id = id := by
  simp only [document?, member?, Option.map_eq_some_iff] at h
  obtain ⟨m, hm, rfl⟩ := h
  simpa using List.find?_some hm

/-- With a loop a refresh is scheduled unless there is one; without one none is. -/
theorem trigger_work {s : Session} {document : Document}
    (hstale : ∀ other, s.document? document.id = some other → s.hasCurrent other = false)
    (loop : Bool) :
    SameWork s (s.trigger loop document) ∧ (loop = true → s.guard.contains document.id = true) ∨
      Schedules document.id s (s.trigger loop document) := by
  unfold trigger Guard.acquire?
  cases hc : s.guard.contains document.id with
  | true => exact .inl ⟨.refl s, fun _ => rfl⟩
  | false =>
    cases loop with
    | true => exact .inr ⟨hc, hstale, rfl, rfl, rfl, rfl⟩
    | false => exact .inl ⟨⟨⟨Guard.erase_mark hc, rfl, rfl⟩, rfl⟩, fun h => by cases h⟩

/-- A query for the document does not have to schedule a refresh. -/
def Attended (id : Nat) (s : Session) : Prop :=
  ∀ document, s.document? id = some document → isNamed document = true →
    s.hasCurrent document = true ∨ s.guard.contains id = true

theorem get_work (s : Session) (loop : Bool) (id : Nat) :
    SameWork s (s.get loop id).1 ∧ (loop = true → Attended id s) ∨
      Schedules id s (s.get loop id).1 := by
  unfold get Attended
  split
  next hnone => exact .inl ⟨.refl s, fun _ document hd => by rw [hnone] at hd; cases hd⟩
  next document hd =>
    have hid := document?_id hd
    have hstore := sameStore_track s id
    have hwork := sameWork_track s id
    split
    next hunnamed =>
      refine .inl ⟨.refl s, fun _ other ho hnamed => ?_⟩
      rw [hd] at ho
      cases ho
      simp [hnamed] at hunnamed
    next =>
      simp only [hstore.hasCurrent, hwork.guard]
      split
      next hasked =>
        refine .inl ⟨hwork, fun _ other ho _ => ?_⟩
        rw [hd] at ho
        cases ho
        exact Bool.or_eq_true_iff.mp hasked
      next hasked =>
        simp only [Bool.or_eq_true, not_or, Bool.not_eq_true] at hasked
        have hstale : ∀ other, (s.track id).document? document.id = some other →
            (s.track id).hasCurrent other = false := by
          intro other ho
          rw [hid, hstore.document?, hd] at ho
          cases ho
          rw [hstore.hasCurrent]
          exact hasked.1
        obtain ⟨hsame, hclaimed⟩ | hnew := trigger_work hstale loop
        · refine .inl ⟨hwork.trans hsame, fun hloop other ho _ => .inr ?_⟩
          have hguard := hclaimed hloop
          rwa [hid, hwork.guard] at hguard
        · exact .inr ((hid ▸ hnew).of_same hwork hstore)

theorem sameStore_trigger (s : Session) (loop : Bool) (document : Document) :
    SameStore s (s.trigger loop document) := by
  unfold trigger
  split
  · exact ⟨rfl, rfl, rfl⟩
  · split <;> exact ⟨rfl, rfl, rfl⟩

theorem sameStore_get (s : Session) (loop : Bool) (id : Nat) :
    SameStore s (s.get loop id).1 := by
  unfold get
  split
  · exact ⟨rfl, rfl, rfl⟩
  · split
    · exact ⟨rfl, rfl, rfl⟩
    · simp only
      split
      · exact sameStore_track s id
      · exact (sameStore_track s id).trans (sameStore_trigger _ loop _)

/-- To try a call changes a session as a query does. -/
theorem session_tryCall (s : Session) (id tries : Nat) :
    (s.tryCall id (tries + 1)).1 = (s.get true id).1 := by
  simp only [tryCall]
  split <;> rfl

theorem sameStore_tryCall (s : Session) (id tries : Nat) :
    SameStore s (s.tryCall id tries).1 := by
  cases tries with
  | zero => exact ⟨rfl, rfl, rfl⟩
  | succ tries =>
    rw [session_tryCall]
    exact sameStore_get s true id

theorem sameStore_beginCall (s : Session) (id : Nat) : SameStore s (s.beginCall id).1 := by
  unfold beginCall
  split
  · exact sameStore_tryCall s id attempts
  · exact ⟨rfl, rfl, rfl⟩

theorem query_eq_get (s : Session) (loop : Bool) (id : Nat) (question : Question) :
    s.query loop id question = (s.get loop id).1 := by
  cases question <;> rfl

theorem tryCall_work (s : Session) (id tries : Nat) :
    SameWork s (s.tryCall id tries).1 ∨ Schedules id s (s.tryCall id tries).1 := by
  cases tries with
  | zero => exact .inl (.refl s)
  | succ tries =>
    rw [session_tryCall]
    exact (get_work s true id).imp_left And.left

theorem beginCall_work (s : Session) (id : Nat) :
    SameWork s (s.beginCall id).1 ∨ Schedules id s (s.beginCall id).1 := by
  unfold beginCall
  split
  · exact tryCall_work s id attempts
  · exact .inl (.refl s)

theorem sameWork_addCall (s : Session) (call : Call) : SameWork s (s.addCall call) :=
  ⟨⟨rfl, rfl, rfl⟩, rfl⟩

theorem sameWork_setCall (s : Session) (index : Nat) (call : Call) :
    SameWork s (s.setCall index call) :=
  ⟨⟨rfl, rfl, rfl⟩, rfl⟩

theorem call_work (s : Session) (id : Nat) :
    SameWork s (s.call id) ∨ Schedules id s (s.call id) :=
  (beginCall_work s id).imp (fun h => h.trans (sameWork_addCall _ _))
    fun h => h.same (sameWork_addCall _ _)

/-- A call that waits while no refresh is under way tries again. -/
theorem wake_of_idle {s : Session} {index id tries : Nat}
    (hcall : s.calls[index]? = some (.waiting id tries)) (hidle : s.isIdle = true) :
    s.wake index = ((s.tryCall id tries).1.setCall index (s.tryCall id tries).2).collect id := by
  simp [wake, hcall, hidle]

/-- A call that does not wait, or that waits for a refresh, stays as it is. -/
theorem wake_cases (s : Session) (index : Nat) :
    s.wake index = s ∨ ∃ id tries, s.calls[index]? = some (.waiting id tries) ∧
      s.isIdle = true := by
  unfold wake
  split
  next id tries hcall =>
    cases hidle : s.isIdle with
    | true => exact .inr ⟨id, tries, hcall, rfl⟩
    | false => exact .inl rfl
  · exact .inl rfl

theorem wake_work (s : Session) (index : Nat) :
    SameWork s (s.wake index) ∨ ∃ id, Schedules id s (s.wake index) := by
  obtain h | ⟨id, tries, hcall, hidle⟩ := wake_cases s index
  · rw [h]
    exact .inl (.refl s)
  · rw [wake_of_idle hcall hidle]
    have hend := (sameWork_setCall (s.tryCall id tries).1 index (s.tryCall id tries).2).trans
      (sameWork_collect _ id)
    exact (tryCall_work s id tries).imp (·.trans hend) fun h => ⟨id, h.same hend⟩

/-! ### Turns -/

/-- Nothing is left to be done. -/
def isOver : Stage → Bool
  | .completed _ => true
  | .failed _ => true
  | _ => false

/-- A refresh that is not over goes on with another stage, and waits for more runs. -/
structure Advances (task : Task) (stage : Stage) (more : List Run) (s s' : Session) : Prop where
  goes : isOver stage = false
  guard : s'.guard = s.guard
  tasks : s'.tasks = s.tasks.map fun t =>
    if t.number = task.number then { task with stage } else t
  requests : s'.requests = s.requests
  runs : s'.runs = s.runs ++ more
  entries : s'.entries = s.entries

/-- A refresh that is over has released its claim; one that is complete may have published its
entry. -/
structure Retires (task : Task) (stage : Stage) (s s' : Session) : Prop where
  stops : isOver stage = true
  guard : s'.guard = (s.guard.release task.claim).1
  tasks : s'.tasks = s.tasks.filter (·.number ≠ task.number)
  requests : s'.requests = s.requests
  runs : s'.runs = s.runs
  entries : ∀ entry ∈ s'.entries, entry ∈ s.entries ∨ stage = .completed entry

/-- A refresh takes a turn. -/
def Turns (task : Task) (stage : Stage) (more : List Run) (s s' : Session) : Prop :=
  Advances task stage more s s' ∨ Retires task stage s s'

section Turns

variable {task t : Task} {stage : Stage} {more : List Run} {s s' : Session}

theorem Advances.mem_tasks (h : Advances task stage more s s') (ht : t ∈ s'.tasks) :
    t = { task with stage } ∨ t ∈ s.tasks ∧ t.number ≠ task.number := by
  rw [h.tasks] at ht
  obtain ⟨u, hu, rfl⟩ := List.mem_map.mp ht
  split
  · exact .inl rfl
  next hne => exact .inr ⟨hu, hne⟩

theorem Retires.mem_tasks (h : Retires task stage s s') (ht : t ∈ s'.tasks) :
    t ∈ s.tasks ∧ t.number ≠ task.number := by
  rw [h.tasks] at ht
  simpa using ht

/-- After a turn there are the other refreshes, and the one that took it if it is not over. -/
theorem Turns.mem_tasks (h : Turns task stage more s s') (ht : t ∈ s'.tasks) :
    t = { task with stage } ∧ isOver stage = false ∨ t ∈ s.tasks ∧ t.number ≠ task.number := by
  obtain h | h := h
  · exact (h.mem_tasks ht).imp_left fun he => ⟨he, h.goes⟩
  · exact .inr (h.mem_tasks ht)

theorem Turns.requests (h : Turns task stage more s s') : s'.requests = s.requests :=
  h.elim (fun h => h.requests) fun h => h.requests

/-- The refreshes that do not take the turn stay as they are. -/
theorem Turns.mem_of_ne (h : Turns task stage more s s') (ht : t ∈ s.tasks)
    (hne : t.number ≠ task.number) : t ∈ s'.tasks := by
  obtain h | h := h
  · rw [h.tasks]
    exact List.mem_map.mpr ⟨t, ht, if_neg hne⟩
  · rw [h.tasks]
    exact List.mem_filter.mpr ⟨ht, decide_eq_true hne⟩

theorem Advances.mem_self (h : Advances task stage more s s') (hm : task ∈ s.tasks) :
    { task with stage } ∈ s'.tasks := by
  rw [h.tasks]
  exact List.mem_map.mpr ⟨task, hm, if_pos rfl⟩

theorem Turns.mem_entries (h : Turns task stage more s s') {entry : Entry}
    (hentry : entry ∈ s'.entries) : entry ∈ s.entries ∨ stage = .completed entry := by
  obtain h | h := h
  · exact .inl (h.entries ▸ hentry)
  · exact h.entries entry hentry

end Turns

theorem mem_putEntry {entry new : Entry} {entries : List Entry}
    (h : entry ∈ putEntry new entries) : entry ∈ entries ∨ entry = new := by
  induction entries with
  | nil => simpa [putEntry] using h
  | cons old rest ih =>
    unfold putEntry at h
    split at h
    · obtain rfl | hm := List.mem_cons.mp h
      · exact .inr rfl
      · exact .inl (List.mem_cons_of_mem _ hm)
    · obtain rfl | hm := List.mem_cons.mp h
      · exact .inl List.mem_cons_self
      · exact (ih hm).imp (List.mem_cons_of_mem _) id

theorem entries_publish {s : Session} {entry new : Entry} (h : entry ∈ (s.publish new).entries) :
    entry ∈ s.entries ∨ entry = new := by
  unfold publish at h
  split at h
  · exact mem_putEntry h
  · exact .inl h

theorem entries_collect (s : Session) (id : Nat) {entry : Entry}
    (h : entry ∈ (s.collect id).entries) : entry ∈ s.entries := by
  unfold collect at h
  split at h
  · exact h
  · split at h
    · exact h
    · simp only at h
      split at h
      · exact (List.mem_filter.mp h).1
      · exact h

theorem retires_retire {task : Task} {stage : Stage} {s s' : Session} (hover : isOver stage = true)
    (hsame : SameWork s s')
    (hentries : ∀ entry ∈ s'.entries, entry ∈ s.entries ∨ stage = .completed entry) :
    Retires task stage s (s'.retire { task with stage }) := by
  have hc := sameWork_collect (s'.release { task with stage }) task.document
  refine ⟨hover, ?_, ?_, ?_, ?_, fun entry h => ?_⟩
  · exact hc.guard.trans (by rw [release, hsame.guard])
  · exact hc.tasks.trans (by rw [release, hsame.tasks])
  · exact hc.requests.trans hsame.requests
  · exact hc.runs.trans hsame.runs
  · exact hentries entry (entries_collect (s'.release { task with stage }) _ h)

theorem turns_takeTurn (s : Session) (task : Task) (turn : Turn) :
    Turns task turn.stage (s.callOf { task with stage := turn.stage }) s
      (s.takeTurn task turn) := by
  obtain ⟨stage, log⟩ := turn
  cases stage with
  | completed entry =>
    refine .inr (retires_retire rfl ((sameWork_say s log).trans (sameWork_publish _ entry)) ?_)
    intro other h
    exact (entries_publish h).imp_right fun he => by rw [he]
  | failed e =>
    exact .inr (retires_retire rfl ((sameWork_say s log).trans (sameWork_say _ _))
      fun entry h => .inl h)
  | _ => exact .inl ⟨rfl, rfl, rfl, rfl, rfl, rfl⟩

theorem Turns.of_same {task : Task} {stage : Stage} {more : List Run} {s s' s'' : Session}
    (h : Turns task stage more s' s'') (hsame : SameWork s s')
    (hentries : s'.entries = s.entries) : Turns task stage more s s'' := by
  obtain h | h := h
  · exact .inl ⟨h.goes, hsame.guard ▸ h.guard, hsame.tasks ▸ h.tasks,
      hsame.requests ▸ h.requests, hsame.runs ▸ h.runs, hentries ▸ h.entries⟩
  · exact .inr ⟨h.stops, hsame.guard ▸ h.guard, hsame.tasks ▸ h.tasks,
      hsame.requests ▸ h.requests, hsame.runs ▸ h.runs, hentries ▸ h.entries⟩

theorem settings_collect (s : Session) (id : Nat) : (s.collect id).settings = s.settings := by
  obtain ⟨members, entries, tracked, h⟩ := collect_eq s id
  rw [h]

theorem settings_publish (s : Session) (entry : Entry) :
    (s.publish entry).settings = s.settings := by
  obtain ⟨entries, log, h⟩ := publish_eq s entry
  rw [h]

theorem settings_takeTurn (s : Session) (task : Task) (turn : Turn) :
    (s.takeTurn task turn).settings = s.settings := by
  obtain ⟨stage, log⟩ := turn
  cases stage with
  | completed entry => exact (settings_collect _ _).trans (settings_publish _ entry)
  | failed e => exact settings_collect _ _
  | _ => rfl

/-- Runs that go on at once are added when their refresh has taken its turn. -/
theorem Turns.gather {task : Task} {stage : Stage} {more : List Run} {s s' : Session}
    (h : Turns task stage more s s') (hsettings : s'.settings = s.settings) :
    Turns task stage (more ++ s.gatherOf { task with stage }) s
      { s' with runs := s'.runs ++ s'.gatherOf { task with stage } } := by
  have hgather : s'.gatherOf { task with stage } = s.gatherOf { task with stage } := by
    simp only [gatherOf, hsettings]
  obtain h | h := h
  · exact .inl ⟨h.goes, h.guard, h.tasks, h.requests, by
      simp only [hgather, h.runs, List.append_assoc], h.entries⟩
  · have hnone : s'.gatherOf { task with stage } = [] := by
      have hover := h.stops
      cases stage with
      | completed entry => rfl
      | failed e => rfl
      | _ => cases hover
    exact .inr ⟨h.stops, h.guard, h.tasks, h.requests, by
      simp only [hnone, h.runs, List.append_nil], h.entries⟩

end Session

end Gutter
