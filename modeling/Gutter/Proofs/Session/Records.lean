import Gutter.Proofs.Session.Waiting

/-! What an event records of documents, entries and of which documents are tracked. It has one
effect on these, and after that a document that nothing refers to may go. -/

namespace Gutter

/-- The entry of a refresh that is complete. -/
def Refresh.Stage.entry? : Refresh.Stage → Option Entry
  | .completed entry => some entry
  | _ => none

namespace Session

open Refresh (Stage Turn)

/-- The document that an event makes a query for: one that is asked about, or one that a call is
for that begins or goes on. -/
def addressed? (s : Session) : Event → Option Nat
  | .query _ id _ => some id
  | .call id => some id
  | .wake index =>
    match s.calls[index]? with
    | some (.waiting id (_ + 1)) => if s.isIdle then some id else none
    | _ => none
  | _ => none

/-- The document that is queried with an event, if it has a name. -/
def asked? (s : Session) (event : Event) : Option Nat :=
  (s.addressed? event).filter fun id => (s.document? id).any isNamed

/-- The entry of the refresh that ends with an event, if that is complete. -/
def completed? (s : Session) (event : Event) : Option Entry :=
  (s.endings event).findSome? fun task => task.stage.entry?

/-- The session with the effect that an event has on its records. Events that are not named here
record the entry of the refresh that ends with them, if any does. -/
def recorded (s : Session) : Event → Session
  | .add document watched => s.add document watched
  | .edit id change => s.edit id change
  | .drop id => s.unhold id
  | .query loop id question => (s.asked? (.query loop id question)).elim s s.track
  | .call id => (s.asked? (.call id)).elim s s.track
  | .wake index => (s.asked? (.wake index)).elim s s.track
  | .close id => s.forget id
  | .clear => s.clear
  | .publish entry => s.publish entry
  | event => (s.completed? event).elim s s.publish

/-- The session without a member. The entry of a document that was watched goes with it. -/
def lose (s : Session) (m : Member) : Session :=
  let left : Session := { s with members := s.members.filter (·.document.id ≠ m.document.id) }
  if m.watched then left.forget m.document.id else left

/-- Both sessions have the same documents. -/
structure SameDocuments (s s' : Session) : Prop where
  issued : s'.issued = s.issued
  members : s'.members = s.members

theorem SameDocuments.member? {s s' : Session} (h : SameDocuments s s') (id : Nat) :
    s'.member? id = s.member? id := by
  unfold Session.member?
  rw [h.members]

theorem SameDocuments.document? {s s' : Session} (h : SameDocuments s s') (id : Nat) :
    s'.document? id = s.document? id :=
  congrArg (Option.map _) (h.member? id)

/-- Both sessions have the same documents and entries, and track the same documents. -/
structure SameRecords (s s' : Session) : Prop extends SameDocuments s s' where
  entries : s'.entries = s.entries
  tracked : s'.tracked = s.tracked

namespace SameRecords

variable {s s' s'' : Session}

theorem refl (s : Session) : SameRecords s s := ⟨⟨rfl, rfl⟩, rfl, rfl⟩

theorem trans (h : SameRecords s s') (h' : SameRecords s' s'') : SameRecords s s'' :=
  ⟨⟨h'.issued.trans h.issued, h'.members.trans h.members⟩, h'.entries.trans h.entries,
    h'.tracked.trans h.tracked⟩

theorem publish (h : SameRecords s s') (entry : Entry) :
    SameRecords (s.publish entry) (s'.publish entry) := by
  have htracked : s'.tracked.contains entry.document = s.tracked.contains entry.document := by
    rw [h.tracked]
  unfold Session.publish
  rw [htracked]
  split
  · exact ⟨⟨h.issued, h.members⟩, congrArg (putEntry entry) h.entries, h.tracked⟩
  · exact ⟨⟨h.issued, h.members⟩, h.entries, h.tracked⟩

theorem lose (h : SameRecords s s') (m : Member) : SameRecords (s.lose m) (s'.lose m) := by
  unfold Session.lose
  simp only
  split
  · exact ⟨⟨h.issued, congrArg (List.filter _) h.members⟩, congrArg (List.filter _) h.entries,
      congrArg (List.filter _) h.tracked⟩
  · exact ⟨⟨h.issued, congrArg (List.filter _) h.members⟩, h.entries, h.tracked⟩

end SameRecords

/-- The records are the same, except that a document may be gone. -/
inductive LetsGo (s s' : Session) : Prop
  | nothing (same : SameRecords s s')
  | gone {m : Member} (hm : s.member? m.document.id = some m) (same : SameRecords (s.lose m) s')

namespace LetsGo

variable {s s' s'' : Session}

theorem of_same (h : LetsGo s' s'') (hsame : SameRecords s s') : LetsGo s s'' := by
  cases h with
  | nothing same => exact .nothing (hsame.trans same)
  | gone hm same => exact .gone ((hsame.member? _).symm.trans hm) ((hsame.lose _).trans same)

theorem same (h : LetsGo s s') (hsame : SameRecords s' s'') : LetsGo s s'' := by
  cases h with
  | nothing same => exact .nothing (same.trans hsame)
  | gone hm same => exact .gone hm (same.trans hsame)

end LetsGo

theorem member?_id {s : Session} {id : Nat} {m : Member} (h : s.member? id = some m) :
    m.document.id = id := by
  simpa using List.find?_some h

theorem letsGo_collect (s : Session) (id : Nat) : LetsGo s (s.collect id) := by
  unfold collect
  cases hm : s.member? id with
  | none => exact .nothing (.refl s)
  | some m =>
    obtain rfl := member?_id hm
    simp only
    split
    · exact .nothing (.refl s)
    · exact .gone hm (.refl _)

theorem entry?_forget (s : Session) (other id : Nat) :
    Session.entry? (s.forget other) id = if id = other then none else s.entry? id := by
  split
  next h =>
    subst h
    refine List.find?_eq_none.mpr fun entry hm => ?_
    simpa using (List.mem_filter.mp hm).2
  next h => exact (keeps_forget s (Ne.symm h)).entry

/-- A document that is watched goes: in `s` it is there, and in `s'` it is not. -/
def Lost (id : Nat) (s s' : Session) : Prop :=
  (s.member? id).any (·.watched) = true ∧ s'.member? id = none

section Lost

variable {s s' : Session} {id : Nat}

theorem member?_lose (s : Session) (m : Member) (id : Nat) :
    (s.lose m).member? id = if id = m.document.id then none else s.member? id := by
  have hmembers : (s.lose m).members = s.members.filter (·.document.id ≠ m.document.id) := by
    unfold lose
    simp only
    split <;> rfl
  unfold member?
  rw [hmembers]
  split
  next hid =>
    subst hid
    simp
  next hne =>
    refine find?_filter_of_imp (fun other hother => ?_) s.members
    simp only [decide_eq_true_eq] at hother ⊢
    omega

theorem SameRecords.not_lost (h : SameRecords s s') : ¬Lost id s s' := by
  rintro ⟨hwatched, hnone⟩
  rw [← h.member?, hnone] at hwatched
  cases hwatched

theorem lost_of_gone {m : Member} (hm : s.member? m.document.id = some m)
    (hsame : SameRecords (s.lose m) s') : Lost id s s' ↔ id = m.document.id ∧ m.watched = true := by
  unfold Lost
  rw [hsame.member?, member?_lose]
  by_cases hid : id = m.document.id
  · simp [hid, hm]
  · simp only [hid, if_false, false_and, iff_false, not_and]
    intro hwatched hnone
    rw [hnone] at hwatched
    cases hwatched

namespace LetsGo

theorem issued (h : LetsGo s s') : s'.issued = s.issued := by
  cases h with
  | nothing same => exact same.issued
  | @gone m hm same =>
    rw [same.issued, lose]
    split <;> rfl

theorem document? (h : LetsGo s s') {document : Document} (hd : s'.document? id = some document) :
    s.document? id = some document := by
  unfold Session.document? at hd ⊢
  cases h with
  | nothing same => rwa [same.member?] at hd
  | @gone m hm same =>
    rw [same.member?, member?_lose] at hd
    split at hd
    · cases hd
    · exact hd

theorem mem_tracked (h : LetsGo s s') : id ∈ s'.tracked ↔ id ∈ s.tracked ∧ ¬Lost id s s' := by
  cases h with
  | nothing same => simp [same.tracked, same.not_lost]
  | @gone m hm same =>
    rw [lost_of_gone hm same, same.tracked, lose]
    cases hwatched : m.watched <;> simp [forget]

/-- Of a document that goes the entry is forgotten. -/
theorem entry?_eq_some (h : LetsGo s s') {entry : Entry} :
    Session.entry? s' id = some entry ↔ s.entry? id = some entry ∧ ¬Lost id s s' := by
  cases h with
  | nothing same => simp [Session.entry?, same.entries, same.not_lost]
  | @gone m hm same =>
    have hentry : Session.entry? s' id = Session.entry? (s.lose m) id := by
      rw [Session.entry?, same.entries, Session.entry?]
    rw [lost_of_gone hm same, hentry, lose]
    cases hwatched : m.watched with
    | false => simp [Session.entry?]
    | true =>
      rw [if_pos rfl, entry?_forget]
      by_cases hid : id = m.document.id
      · simp [hid]
      · simp [hid, Session.entry?]

end LetsGo

end Lost

/-! ### Queries -/

section Queries

variable (s : Session)

theorem sameRecords_trigger (loop : Bool) (document : Document) :
    SameRecords s (s.trigger loop document) := by
  unfold trigger
  split
  · exact .refl s
  · split <;> exact ⟨⟨rfl, rfl⟩, rfl, rfl⟩

/-- A query tracks a document that has a name. -/
theorem sameRecords_get (loop : Bool) (id : Nat) :
    SameRecords (if (s.document? id).any isNamed then s.track id else s) (s.get loop id).1 := by
  unfold get
  cases hd : s.document? id with
  | none => exact .refl s
  | some document =>
    cases hnamed : isNamed document with
    | false =>
      simp only [hnamed, Option.any_some, Bool.false_eq_true, if_false, Bool.not_false, if_true]
      exact .refl s
    | true =>
      simp only [hnamed, Option.any_some, if_true, Bool.not_true, Bool.false_eq_true, if_false]
      split
      · exact .refl _
      · exact sameRecords_trigger _ loop document

theorem asked?_of_addressed {event : Event} (id : Nat) (h : s.addressed? event = some id) :
    (s.asked? event).elim s s.track =
      if (s.document? id).any isNamed then s.track id else s := by
  rw [asked?, h, Option.filter_some]
  split <;> rfl

theorem letsGo_query (loop : Bool) (id : Nat) (question : Question) :
    LetsGo (s.recorded (.query loop id question)) (s.step (.query loop id question)) := by
  rw [step, query_eq_get, recorded, asked?_of_addressed s id rfl]
  exact .nothing (sameRecords_get s loop id)

theorem letsGo_call (id : Nat) : LetsGo (s.recorded (.call id)) (s.step (.call id)) := by
  have hbegin : SameRecords (if (s.document? id).any isNamed then s.track id else s)
      (s.beginCall id).1 := by
    unfold beginCall
    split
    next hnamed =>
      have hget := sameRecords_get s true id
      rw [if_pos hnamed] at hget
      rw [attempts, session_tryCall]
      exact hget
    · exact .refl s
  rw [recorded, asked?_of_addressed s id rfl]
  exact .nothing (hbegin.trans ⟨⟨rfl, rfl⟩, rfl, rfl⟩)

theorem letsGo_wake (index : Nat) : LetsGo (s.recorded (.wake index)) (s.step (.wake index)) := by
  by_cases hwaits : ∃ id tries, s.calls[index]? = some (.waiting id tries) ∧ s.isIdle = true
  · obtain ⟨id, tries, hcall, hidle⟩ := hwaits
    rw [step, wake_of_idle hcall hidle]
    have hset : SameRecords (s.tryCall id tries).1
        ((s.tryCall id tries).1.setCall index (s.tryCall id tries).2) := ⟨⟨rfl, rfl⟩, rfl, rfl⟩
    refine ((letsGo_collect _ id).of_same hset).of_same ?_
    cases tries with
    | zero =>
      -- Without a try left, the call takes what there is and makes no query.
      have hnone : s.addressed? (.wake index) = none := by simp [addressed?, hcall]
      rw [recorded, asked?, hnone]
      exact .refl s
    | succ tries =>
      have hsome : s.addressed? (.wake index) = some id := by simp [addressed?, hcall, hidle]
      rw [recorded, asked?_of_addressed s id hsome, session_tryCall]
      exact sameRecords_get s true id
  · have hnone : s.addressed? (.wake index) = none := by
      simp only [addressed?]
      split
      next id tries hcall => exact if_neg fun hidle => hwaits ⟨id, _, hcall, hidle⟩
      · rfl
    rw [step, (wake_cases s index).resolve_right hwaits, recorded, asked?, hnone]
    exact .nothing (.refl s)

end Queries

/-! ### Turns -/

/-- How a refresh moves with an event: not at all, or it takes a turn. The turn is taken in `before`,
where a run that has ended is waited for no longer. -/
inductive Moves (s : Session) (event : Event) : Prop
  | rests (same : SameRecords s (s.step event)) (ended : (s.step event).ended = s.ended)
  | turns {before : Session} {task : Task} {turn : Turn} (same : SameRecords s before)
    (tasks : before.tasks = s.tasks) (ended : before.ended = s.ended) (htask : task ∈ s.tasks)
    (htakes : Takes s task turn.stage)
    (hstep : ∃ runs, s.step event = { before.takeTurn task turn with runs }) : Moves s event

section Turns

variable (s : Session)

theorem Moves.of_eq {event : Event} (h : s.step event = s) : Moves s event :=
  .rests (h.symm ▸ .refl s) (congrArg Session.ended h)

theorem moves_start (number : Nat) : Moves s (.start number) := by
  cases htask : s.task? number with
  | none => exact .of_eq s (by simp only [step, start, htask])
  | some task =>
    by_cases hgoes : ∃ document, task.stage = .waiting ∧ s.document? task.document = some document
    · obtain ⟨document, hwaits, hdocument⟩ := hgoes
      exact .turns (.refl s) rfl rfl (task?_mem htask).1 (.start hdocument) (by
        simp only [step, start, htask, hwaits, hdocument]
        exact ⟨_, rfl⟩)
    · have hstep : s.step (.start number) = s := by
        simp only [step, start, htask]
        split
        next document hwaits hdocument => exact (hgoes ⟨document, hwaits, hdocument⟩).elim
        · rfl
      exact .of_eq s hstep

theorem moves_finish (run : Run) (outcome : Outcome) : Moves s (.finish run outcome) := by
  have hbefore : SameRecords s ((s.without run).say (outcome.log run.linter)) :=
    ⟨⟨rfl, rfl⟩, rfl, rfl⟩
  by_cases hrun : (s.runs.contains run && run.begun) = true
  · cases htask : ((s.without run).say (outcome.log run.linter)).task? run.task with
    | none =>
      have hstep : s.step (.finish run outcome) =
          (s.without run).say (outcome.log run.linter) := by
        simp only [step, finish, hrun, if_true, htask]
      exact .rests (hstep.symm ▸ hbefore) (by rw [hstep]; rfl)
    | some task =>
      exact .turns hbefore rfl rfl (task?_mem htask).1 (.receive run.index outcome) (by
        simp only [step, finish, hrun, if_true, htask]
        exact ⟨_, rfl⟩)
  · have hstep : s.step (.finish run outcome) = s := by
      simp only [step, finish]
      exact if_neg hrun
    exact .of_eq s hstep

theorem moves_resume (number : Nat) : Moves s (.resume number) := by
  cases htask : s.task? number with
  | none => exact .of_eq s (by simp only [step, resume, htask])
  | some task =>
    by_cases hparses : ∃ now set paused outputs rest,
        task.stage = .parsing now set paused outputs rest
    · have hstep : s.step (.resume number) =
          s.takeTurn task (Refresh.resume s.settings task.stage) := by
        obtain ⟨now, set, paused, outputs, rest, hparses⟩ := hparses
        simp only [step, resume, htask, hparses]
      exact .turns (.refl s) rfl rfl (task?_mem htask).1 .resume ⟨_, hstep⟩
    · have hstep : s.step (.resume number) = s := by
        simp only [step, resume, htask]
        split
        next now set paused outputs rest hstage =>
          exact (hparses ⟨now, set, paused, outputs, rest, hstage⟩).elim
        · rfl
      exact .of_eq s hstep

theorem ended_publish (entry : Entry) : (s.publish entry).ended = s.ended := by
  obtain ⟨entries, log, h⟩ := publish_eq s entry
  rw [h]

theorem ended_takeTurn_cases (task : Task) (turn : Turn) :
    turn.stage.entry? = none ∧ (s.takeTurn task turn).ended = s.ended ∨
      ∃ claim, (s.takeTurn task turn).ended =
        s.ended ++ [⟨task.number, task.document, claim, turn.stage⟩] := by
  obtain ⟨stage, log⟩ := turn
  cases stage with
  | completed entry =>
    have hended := ended_publish (s.say log) entry
    exact .inr ⟨_, (ended_collect _ _).trans (congrArg (· ++ [_]) hended)⟩
  | failed e => exact .inr ⟨_, ended_collect _ _⟩
  | _ => exact .inl ⟨rfl, rfl⟩

/-- What a turn records is the entry that is complete with it. -/
theorem letsGo_takeTurn (task : Task) (turn : Turn) :
    LetsGo (turn.stage.entry?.elim s s.publish) (s.takeTurn task turn) := by
  obtain ⟨stage, log⟩ := turn
  cases stage with
  | completed entry =>
    have hsay : SameRecords s (s.say log) := ⟨⟨rfl, rfl⟩, rfl, rfl⟩
    have hpublish := hsay.publish entry
    exact (letsGo_collect _ task.document).of_same (hpublish.trans ⟨⟨rfl, rfl⟩, rfl, rfl⟩)
  | failed e => exact (letsGo_collect _ task.document).of_same ⟨⟨rfl, rfl⟩, rfl, rfl⟩
  | _ => exact .nothing ⟨⟨rfl, rfl⟩, rfl, rfl⟩

variable {s} {event : Event}

theorem completed?_of_le (h : (s.step event).ended.length ≤ s.ended.length) :
    s.completed? event = none := by
  rw [completed?, endings, List.drop_eq_nil_of_le h]
  rfl

theorem completed?_of_turn {before : Session} {task : Task} {turn : Turn}
    (hended : before.ended = s.ended)
    (hlater : (s.step event).ended = (before.takeTurn task turn).ended) :
    s.completed? event = turn.stage.entry? := by
  obtain ⟨hnone, hsame⟩ | ⟨claim, hends⟩ := ended_takeTurn_cases before task turn
  · rw [hnone]
    exact completed?_of_le (by rw [hlater, hsame, hended])
  · rw [completed?, endings, hlater, hends, hended, List.drop_left]
    cases hentry : turn.stage.entry? <;> simp [hentry]

theorem Moves.letsGo (h : Moves s event) :
    LetsGo ((s.completed? event).elim s s.publish) (s.step event) := by
  cases h with
  | rests same ended =>
    rw [completed?_of_le (by rw [ended])]
    exact .nothing same
  | @turns before task turn same tasks ended htask htakes hstep =>
    obtain ⟨runs, hstep⟩ := hstep
    rw [completed?_of_turn ended (by rw [hstep]), hstep]
    have hgoes : LetsGo (turn.stage.entry?.elim s s.publish) (before.takeTurn task turn) := by
      refine (letsGo_takeTurn before task turn).of_same ?_
      cases turn.stage.entry? with
      | none => exact same
      | some entry => exact same.publish entry
    exact hgoes.same ⟨⟨rfl, rfl⟩, rfl, rfl⟩

/-- A refresh of a document is complete in `s'`, and is no longer under way there. -/
structure Completes (s s' : Session) (task : Task) (entry : Entry) : Prop where
  mem : task ∈ s.tasks
  takes : Takes s task (.completed entry)
  tasks : s'.tasks = s.tasks.filter (·.number ≠ task.number)

theorem Moves.completes (h : Moves s event) {entry : Entry}
    (hcompleted : s.completed? event = some entry) :
    ∃ task, Completes s (s.step event) task entry := by
  cases h with
  | rests same ended =>
    rw [completed?_of_le (by rw [ended])] at hcompleted
    cases hcompleted
  | @turns before task turn same tasks ended htask htakes hstep =>
    obtain ⟨runs, hstep⟩ := hstep
    rw [completed?_of_turn ended (by rw [hstep])] at hcompleted
    have hstage : turn.stage = .completed entry := by
      cases hstage : turn.stage <;> rw [hstage] at hcompleted <;> cases hcompleted
      rfl
    refine ⟨task, htask, hstage ▸ htakes, ?_⟩
    rw [hstep]
    obtain hgoes | hstops := turns_takeTurn before task turn
    · have hover := hgoes.goes
      rw [hstage] at hover
      cases hover
    · exact hstops.tasks.trans (by rw [tasks])

end Turns

/-! ### Steps -/

section Step

variable (s : Session)

theorem ended_get (loop : Bool) (id : Nat) : (s.get loop id).1.ended = s.ended := by
  have htrack : (s.track id).ended = s.ended := by
    unfold track
    split <;> rfl
  have htrigger (s : Session) (document : Document) :
      (s.trigger loop document).ended = s.ended := by
    unfold trigger
    split
    · rfl
    · split <;> rfl
  unfold get
  split
  · rfl
  · split
    · rfl
    · simp only
      split
      · exact htrack
      · exact (htrigger _ _).trans htrack

theorem ended_tryCall (id tries : Nat) : (s.tryCall id tries).1.ended = s.ended := by
  cases tries with
  | zero => rfl
  | succ tries =>
    rw [session_tryCall]
    exact ended_get s true id

theorem ended_call (id : Nat) : (s.call id).ended = s.ended := by
  have hbegin : (s.beginCall id).1.ended = s.ended := by
    unfold beginCall
    split
    · exact ended_tryCall s id attempts
    · rfl
  exact hbegin

theorem ended_wake (index : Nat) : (s.wake index).ended = s.ended := by
  obtain hsame | ⟨id, tries, hcall, hidle⟩ := wake_cases s index
  · rw [hsame]
  · rw [wake_of_idle hcall hidle, ended_collect]
    exact ended_tryCall s id tries

/-- Refreshes end only where they move, and then only an entry is recorded. -/
theorem moves_step (event : Event) : s.completed? event = none ∨
    Moves s event ∧ s.recorded event = (s.completed? event).elim s s.publish := by
  have hsame (h : (s.step event).ended = s.ended) : s.completed? event = none :=
    completed?_of_le (by rw [h])
  cases event with
  | add document watched =>
    refine .inl (hsame ?_)
    simp only [step, add]
    split <;> rfl
  | drop id => exact .inl (hsame (ended_collect (s.unhold id) id))
  | query loop id question =>
    refine .inl (hsame ?_)
    rw [step, query_eq_get]
    exact ended_get s loop id
  | call id => exact .inl (hsame (ended_call s id))
  | wake index => exact .inl (hsame (ended_wake s index))
  | publish entry => exact .inl (hsame (ended_publish s entry))
  | start number => exact .inr ⟨moves_start s number, rfl⟩
  | launch run =>
    refine .inl (hsame ?_)
    simp only [step, launch]
    split <;> rfl
  | finish run outcome => exact .inr ⟨moves_finish s run outcome, rfl⟩
  | resume number => exact .inr ⟨moves_resume s number, rfl⟩
  | settle number => exact .inl (completed?_of_le (List.length_filter_le _ _))
  | _ => exact .inl (hsame rfl)

theorem completes_of_completed? {event : Event} {entry : Entry}
    (h : s.completed? event = some entry) :
    (∃ task, Completes s (s.step event) task entry) ∧ s.recorded event = s.publish entry := by
  obtain hnone | ⟨hmoves, hrecorded⟩ := moves_step s event
  · rw [hnone] at h
    cases h
  · exact ⟨hmoves.completes h, by rw [hrecorded, h]; rfl⟩

/-- An event has the effect that is said above, and then a document may go. -/
theorem letsGo_step (event : Event) : LetsGo (s.recorded event) (s.step event) := by
  have hsame (h : SameRecords s (s.step event)) (hended : s.completed? event = none) :
      LetsGo ((s.completed? event).elim s s.publish) (s.step event) := by
    rw [hended]
    exact .nothing h
  cases event with
  | drop id => exact letsGo_collect (s.unhold id) id
  | query loop id question => exact letsGo_query s loop id question
  | call id => exact letsGo_call s id
  | wake index => exact letsGo_wake s index
  | register linter => exact hsame ⟨⟨rfl, rfl⟩, rfl, rfl⟩ (completed?_of_le le_rfl)
  | reset => exact hsame ⟨⟨rfl, rfl⟩, rfl, rfl⟩ (completed?_of_le le_rfl)
  | move base => exact hsame ⟨⟨rfl, rfl⟩, rfl, rfl⟩ (completed?_of_le le_rfl)
  | start number => exact (moves_start s number).letsGo
  | launch run =>
    have hlaunch : SameRecords s (s.launch run) := by
      unfold launch
      split <;> exact ⟨⟨rfl, rfl⟩, rfl, rfl⟩
    refine hsame hlaunch (completed?_of_le ?_)
    simp only [step, launch]
    split <;> rfl
  | finish run outcome => exact (moves_finish s run outcome).letsGo
  | resume number => exact (moves_resume s number).letsGo
  | settle number =>
    exact hsame ⟨⟨rfl, rfl⟩, rfl, rfl⟩ (completed?_of_le (List.length_filter_le _ _))
  | _ => exact .nothing (.refl _)

end Step

/-! ### Documents -/

/-- A document is added, edited or dropped with the event. -/
def Event.touches : Event → Bool
  | .add .. => true
  | .edit .. => true
  | .drop .. => true
  | _ => false

/-- The changes of a document among events. -/
def changesOf (id : Nat) (events : List Event) : List Document.Change :=
  events.filterMap fun
    | .edit other change => if other = id then some change else none
    | _ => none

section Documents

variable {s : Session} {event : Event} {id : Nat} {document : Document}

theorem sameDocuments_track (asked : Option Nat) : SameDocuments s (asked.elim s s.track) := by
  cases asked with
  | none => exact ⟨rfl, rfl⟩
  | some id =>
    rw [Option.elim_some, track]
    split <;> exact ⟨rfl, rfl⟩

theorem sameDocuments_publish (completed : Option Entry) :
    SameDocuments s (completed.elim s s.publish) := by
  cases completed with
  | none => exact ⟨rfl, rfl⟩
  | some entry =>
    obtain ⟨entries, log, h⟩ := publish_eq s entry
    rw [Option.elim_some, h]
    exact ⟨rfl, rfl⟩

theorem sameDocuments_recorded (h : event.touches = false) :
    SameDocuments s (s.recorded event) := by
  cases event with
  | add document watched => cases h
  | edit id change => cases h
  | drop id => cases h
  | query loop id question => exact sameDocuments_track _
  | call id => exact sameDocuments_track _
  | wake index => exact sameDocuments_track _
  | close id => exact ⟨rfl, rfl⟩
  | clear => exact ⟨rfl, rfl⟩
  | publish entry => exact sameDocuments_publish (some entry)
  | _ => exact sameDocuments_publish _

/-- A number that was issued before adds nothing, so that a document that has gone stays away. -/
theorem document?_add {new : Document} {watched : Bool}
    (h : (s.add new watched).document? id = some document) :
    s.document? id = some document ∨ id ∉ s.issued ∧ id ∈ (s.add new watched).issued := by
  unfold add at h ⊢
  split at h
  · exact .inl h
  next hnew =>
    rw [if_neg hnew]
    simp only [Session.document?, member?, List.find?_append] at h ⊢
    cases hm : s.members.find? fun m => m.document.id = id with
    | some m =>
      rw [hm] at h
      exact .inl h
    | none =>
      rw [hm] at h
      by_cases hid : new.id = id
      · subst hid
        rw [List.contains_iff_mem] at hnew
        exact .inr ⟨hnew, List.mem_append_right _ List.mem_cons_self⟩
      · simp [hid] at h

/-- A document that is there after an event was there before, or it is new. -/
theorem document?_recorded (h : (s.recorded event).document? id = some document) :
    (∃ old, s.document? id = some old ∧ document = old.after (changesOf id [event])) ∨
      id ∉ s.issued ∧ id ∈ (s.recorded event).issued := by
  have hsame := @sameDocuments_recorded s event
  cases event with
  | add new watched =>
    exact (document?_add h).imp_left fun hold => ⟨document, hold, rfl⟩
  | edit other change =>
    rw [recorded, document?_edit, Option.map_eq_some_iff] at h
    obtain ⟨old, hold, rfl⟩ := h
    refine .inl ⟨old, hold, ?_⟩
    obtain rfl := document?_id hold
    by_cases hid : old.id = other
    · subst hid
      simp [changesOf, Document.after]
    · simp [changesOf, Document.after, hid, Ne.symm hid]
  | drop other =>
    rw [recorded, (keeps_unhold s).document] at h
    exact .inl ⟨document, h, rfl⟩
  | _ =>
    rw [(hsame rfl).document?] at h
    exact .inl ⟨document, h, rfl⟩

theorem document?_step (h : (s.step event).document? id = some document) :
    (∃ old, s.document? id = some old ∧ document = old.after (changesOf id [event])) ∨
      id ∉ s.issued ∧ id ∈ (s.step event).issued := by
  have hgoes := letsGo_step s event
  rw [hgoes.issued]
  exact document?_recorded (hgoes.document? h)

/-- A number is not issued twice. -/
theorem issued_step (h : id ∈ s.issued) : id ∈ (s.step event).issued := by
  have hsame := @sameDocuments_recorded s event
  rw [(letsGo_step s event).issued]
  cases event with
  | add new watched =>
    simp only [recorded, add]
    split
    · exact h
    · exact List.mem_append_left _ h
  | edit other change => exact h
  | drop other => exact h
  | _ => rwa [(hsame rfl).issued]

end Documents

/-! ### Entries -/

section Entries

variable {s : Session} {event : Event} {id : Nat} {entry : Entry}

/-- An entry is kept if its document is tracked. -/
theorem entry?_publish (entry : Entry) : Session.entry? (s.publish entry) id =
    if entry.document = id ∧ id ∈ s.tracked then some entry else s.entry? id := by
  split
  next h =>
    obtain ⟨rfl, htracked⟩ := h
    exact entry_publish s htracked
  next h =>
    by_cases hid : entry.document = id
    · have hnot : ¬s.tracked.contains entry.document = true := by
        rw [List.contains_iff_mem, hid]
        exact fun hm => h ⟨hid, hm⟩
      rw [publish, if_neg hnot]
      rfl
    · exact (keeps_publish s hid).entry

/-- An entry that is there after an event was there before, or it is new. -/
theorem entry?_recorded (h : Session.entry? (s.recorded event) id = some entry) :
    s.entry? id = some entry ∨ event = .publish entry ∨ s.completed? event = some entry := by
  have htrack (asked : Option Nat) :
      Session.entry? (asked.elim s s.track) id = s.entry? id := by
    cases asked with
    | none => rfl
    | some other => exact (sameStore_track s other).entry_eq id
  have hpublish {new : Entry} (h : Session.entry? (s.publish new) id = some entry) :
      s.entry? id = some entry ∨ entry = new := by
    rw [entry?_publish] at h
    split at h
    · exact .inr (Option.some.inj h).symm
    · exact .inl h
  have hcompleted (h : Session.entry? ((s.completed? event).elim s s.publish) id = some entry) :
      s.entry? id = some entry ∨ s.completed? event = some entry := by
    cases hc : s.completed? event with
    | none => exact .inl (by rwa [hc] at h)
    | some new =>
      rw [hc] at h
      exact (hpublish h).imp_right fun he => by rw [he]
  cases event with
  | add document watched =>
    simp only [recorded, add] at h
    split at h <;> exact .inl h
  | edit other change => exact .inl h
  | drop other => exact .inl h
  | query loop other question => exact .inl ((htrack _).symm.trans h)
  | call other => exact .inl ((htrack _).symm.trans h)
  | wake index => exact .inl ((htrack _).symm.trans h)
  | close other =>
    rw [recorded, entry?_forget] at h
    split at h
    · cases h
    · exact .inl h
  | clear => cases h
  | publish new => exact (hpublish h).imp_right fun he => .inl (by rw [he])
  | _ => exact (hcompleted h).imp_right .inr

theorem entry?_step (h : Session.entry? (s.step event) id = some entry) :
    s.entry? id = some entry ∨ event = .publish entry ∨ s.completed? event = some entry :=
  entry?_recorded ((letsGo_step s event).entry?_eq_some.mp h).1

end Entries

end Session

end Gutter
