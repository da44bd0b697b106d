import Gutter.Proofs.Session.Settling

/-! A call that waits while its document is left alone: one refresh may be under way that is for an
older revision, and at most one more is scheduled before the call has its answer. -/

namespace Gutter.Session

open Refresh (Stage Turn)

/-- The event neither makes the session forget the document, nor puts an entry of another revision
in the place of its entry. -/
def spares (id revision : Nat) : Event → Bool
  | .close other => other ≠ id
  | .clear => false
  | .publish entry => entry.document ≠ id || entry.revision = revision
  | _ => true

def isFailed : Stage → Bool
  | .failed _ => true
  | _ => false

/-- The refreshes that end with an event. -/
def endings (s : Session) (event : Event) : List Task := (s.step event).ended.drop s.ended.length

/-- With the event the session does not forget the document, the document keeps its revision, and no
refresh of it fails. -/
structure Undisturbed (id revision : Nat) (s : Session) (event : Event) : Prop where
  spared : spares id revision event = true
  unchanged : ∀ document ∈ (s.step event).document? id, document.revision = revision
  succeeds : ∀ task ∈ s.endings event, task.document = id → isFailed task.stage = false

instance (id revision : Nat) (s : Session) (event : Event) :
    Decidable (Undisturbed id revision s event) :=
  decidable_of_iff (spares id revision event = true ∧
    (∀ document ∈ (s.step event).document? id, document.revision = revision) ∧
    ∀ task ∈ s.endings event, task.document = id → isFailed task.stage = false)
    ⟨fun h => ⟨h.1, h.2.1, h.2.2⟩, fun h => ⟨h.spared, h.unchanged, h.succeeds⟩⟩

/-- The document can be asked about, and each refresh is of a document of its own. -/
structure Ready (id revision : Nat) (s : Session) : Prop where
  exclusive : Exclusive s
  noting : Noting Own s
  named : Named id revision s

/-- Where a call stands that found `start` refreshes of its document scheduled so far. Either none
has been scheduled since, or one has and the document settles. -/
inductive Phase (id revision start index : Nat) (s : Session) : Prop
  | early (call : s.calls[index]? = some (.waiting id 2)) (count : s.requests.count id = start)
  | late {tries : Nat} (call : s.calls[index]? = some (.waiting id (tries + 1)))
    (count : s.requests.count id = start + 1) (settling : Settling id revision s)

/-- The call of number `index` waits for the document. -/
structure Pending (id revision start index : Nat) (s : Session) : Prop
    extends Ready id revision s where
  tracked : id ∈ s.tracked
  phase : Phase id revision start index s

/-- With the answer that it has in `s'`, the call returns what the entry in `s` holds, which is for
the revision. -/
def Answered (id revision start index : Nat) (s s' : Session) : Prop :=
  ∃ entry, s.entry? id = some entry ∧ entry.revision = revision ∧
    s'.answer? index = some entry.warnings ∧ s'.requests.count id ≤ start + 1

section Ended

variable {s : Session}

theorem ended_collect (s : Session) (id : Nat) : (s.collect id).ended = s.ended := by
  obtain ⟨members, entries, tracked, h⟩ := collect_eq s id
  rw [h]

theorem ended_takeTurn (s : Session) (task : Task) {turn : Turn} {e : Refresh.Failure}
    (h : turn.stage = .failed e) :
    ∃ claim, (s.takeTurn task turn).ended =
      s.ended ++ [⟨task.number, task.document, claim, .failed e⟩] := by
  obtain ⟨stage, log⟩ := turn
  cases h
  exact ⟨_, ended_collect _ _⟩

/-- A turn that belongs to an event without disturbance does not fail. -/
theorem Undisturbed.goes {id revision : Nat} {event : Event} (h : Undisturbed id revision s event)
    (before : Session) {task : Task} {turn : Turn} (hbefore : before.ended = s.ended)
    (hstep : (s.step event).ended = (before.takeTurn task turn).ended) (hd : task.document = id) :
    ∀ e, turn.stage ≠ .failed e := by
  intro e hstage
  obtain ⟨claim, hended⟩ := ended_takeTurn before task hstage
  have hfails := h.succeeds ⟨task.number, task.document, claim, .failed e⟩ (by
    rw [endings, hstep, hended, hbefore, List.drop_left]
    exact List.mem_cons_self) hd
  cases hfails

end Ended

namespace Ready

variable {id revision other : Nat} {s s' : Session}

theorem same (h : Ready id revision s) (hsame : SameClaims s s') (hnamed : Named id revision s') :
    Ready id revision s' :=
  ⟨h.exclusive.same hsame, h.noting.same hsame, hnamed⟩

theorem after (h : Ready id revision s) (hnew : Schedules other s s') (hkeeps : Keeps id s s') :
    Ready id revision s' :=
  ⟨h.exclusive.schedules hnew, h.noting.schedules hnew, hkeeps.named h.named⟩

/-- A call that waits after a refresh of its document was scheduled. -/
theorem schedules {start index tries : Nat} (h : Ready id revision s) (hnew : Schedules id s s')
    (hkeeps : Keeps id s s') (htracked : id ∈ s'.tracked)
    (hcall : s'.calls[index]? = some (.waiting id (tries + 1)))
    (hcount : s.requests.count id = start) : Pending id revision start index s' where
  toReady := h.after hnew hkeeps
  tracked := htracked
  phase := .late hcall (by rw [hnew.count_self, hcount]) (.of_schedules h.exclusive h.noting hnew)

end Ready

namespace Pending

variable {id revision start index other : Nat} {s s' : Session}

theorem call (h : Pending id revision start index s) :
    ∃ tries, s.calls[index]? = some (.waiting id (tries + 1)) := by
  cases h.phase with
  | early hcall => exact ⟨1, hcall⟩
  | late hcall => exact ⟨_, hcall⟩

theorem waits (h : Pending id revision start index s) : Waits id s := by
  obtain ⟨tries, hcall⟩ := h.call
  exact ⟨_, List.mem_of_getElem? hcall⟩

theorem same (h : Pending id revision start index s) (hsame : SameClaims s s')
    (hnamed : Named id revision s') (htracked : id ∈ s'.tracked)
    (hentry : HasEntry id revision s → HasEntry id revision s')
    (hcalls : s'.calls[index]? = s.calls[index]?) : Pending id revision start index s' where
  toReady := h.toReady.same hsame hnamed
  tracked := htracked
  phase := by
    cases h.phase with
    | early hcall hcount => exact .early (hcalls.trans hcall) (hsame.requests ▸ hcount)
    | late hcall hcount hsettling =>
      exact .late (hcalls.trans hcall) (hsame.requests ▸ hcount) (hsettling.same hsame hentry)

theorem keeps (h : Pending id revision start index s) (hsame : SameClaims s s')
    (hkeeps : Keeps id s s') (hcalls : s'.calls[index]? = s.calls[index]?) :
    Pending id revision start index s' :=
  h.same hsame (hkeeps.named h.named) (hkeeps.tracked h.tracked) hkeeps.hasEntry hcalls

theorem schedules (h : Pending id revision start index s) (hnew : Schedules other s s')
    (hkeeps : Keeps id s s') (hcalls : s'.calls[index]? = s.calls[index]?) :
    Pending id revision start index s' := by
  have htracked := hkeeps.tracked h.tracked
  have hready := h.toReady.after hnew hkeeps
  cases h.phase with
  | early hcall hcount =>
    by_cases hother : other = id
    · subst hother
      exact h.toReady.schedules hnew hkeeps htracked (hcalls.trans hcall) hcount
    · exact ⟨hready, htracked,
        .early (hcalls.trans hcall) ((hnew.count_of_ne hother).trans hcount)⟩
  | late hcall hcount hsettling =>
    have hother : other ≠ id := by
      rintro rfl
      exact hsettling.not_schedules h.exclusive h.named hnew
    exact ⟨hready, htracked, .late (hcalls.trans hcall) ((hnew.count_of_ne hother).trans hcount)
      (hsettling.schedules hnew hkeeps.hasEntry)⟩

theorem get (h : Pending id revision start index s) (loop : Bool) (other : Nat) :
    Pending id revision start index (s.get loop other).1 := by
  have hcalls := congrArg (fun calls => calls[index]?) (sameStore_get s loop other).calls
  obtain ⟨hsame, -⟩ | hnew := get_work s loop other
  · exact h.keeps hsame.toSameClaims (keeps_get s loop) hcalls
  · exact h.schedules hnew (keeps_get s loop) hcalls

theorem tryCall (h : Pending id revision start index s) (other tries : Nat) :
    Pending id revision start index (s.tryCall other tries).1 := by
  cases tries with
  | zero => exact h
  | succ tries =>
    rw [session_tryCall]
    exact h.get true other

/-- The turn of any refresh, if none of the document fails. -/
theorem takeTurn (h : Pending id revision start index s) {task : Task} (hm : task ∈ s.tasks)
    {turn : Turn} (htakes : Takes s task turn.stage)
    (hgoes : task.document = id → ∀ e, turn.stage ≠ .failed e) :
    Pending id revision start index (s.takeTurn task turn) := by
  have hturn := turns_takeTurn s task turn
  have hcalls : (s.takeTurn task turn).calls[index]? = s.calls[index]? := by rw [calls_takeTurn]
  have hstore : Named id revision (s.takeTurn task turn) ∧ id ∈ (s.takeTurn task turn).tracked := by
    by_cases hentry : ∃ entry, turn.stage = .completed entry ∧ entry.document = id
    · obtain ⟨entry, hstage, hd⟩ := hentry
      obtain ⟨hdocument, -, htracked⟩ := entry_takeTurn h.waits task hstage hd h.tracked
      obtain ⟨document, hold, hrest⟩ := h.named
      exact ⟨⟨document, hdocument.trans hold, hrest⟩, htracked⟩
    · have hkeeps := keeps_takeTurn h.waits task fun entry hs hd => hentry ⟨entry, hs, hd⟩
      exact ⟨hkeeps.named h.named, hkeeps.tracked h.tracked⟩
  refine ⟨⟨h.exclusive.turns hm hturn, h.noting.turns (heeds_own s) hm htakes hturn, hstore.1⟩,
    hstore.2, ?_⟩
  cases h.phase with
  | early hcall hcount => exact .early (hcalls.trans hcall) (hturn.requests ▸ hcount)
  | late hcall hcount hsettling =>
    exact .late (hcalls.trans hcall) (hturn.requests ▸ hcount) (hsettling.takeTurn h.exclusive
      h.noting h.named h.waits h.tracked hm htakes hgoes)

end Pending

/-! ### Steps -/

namespace Pending

variable {id revision start index : Nat} {s : Session}

theorem of_start (h : Pending id revision start index s) {number : Nat}
    (hquiet : Undisturbed id revision s (.start number)) :
    Pending id revision start index (s.start number) := by
  unfold Session.start
  split
  next task ht =>
    obtain ⟨hm, -⟩ := task?_mem ht
    split
    next document hw hd =>
      have hturn := h.takeTurn hm (.start hd) (hquiet.goes s rfl (by
        simp only [step, Session.start, ht, hw, hd]))
      exact hturn.keeps ⟨rfl, rfl, rfl⟩ ⟨rfl, rfl, fun hm => hm⟩ rfl
    · exact h
  · exact h

theorem of_launch (h : Pending id revision start index s) (run : Run) :
    Pending id revision start index (s.launch run) := by
  unfold Session.launch
  split
  · exact h.keeps ⟨rfl, rfl, rfl⟩ ⟨rfl, rfl, fun hm => hm⟩ rfl
  · exact h

theorem of_finish (h : Pending id revision start index s) {run : Run} {outcome : Outcome}
    (hquiet : Undisturbed id revision s (.finish run outcome)) :
    Pending id revision start index (s.finish run outcome) := by
  unfold Session.finish
  split
  next hrun =>
    have hrest : Pending id revision start index
        ((s.without run).say (outcome.log run.linter)) :=
      h.keeps ⟨rfl, rfl, rfl⟩ ⟨rfl, rfl, fun hm => hm⟩ rfl
    simp only
    split
    · exact hrest
    next task ht =>
      obtain ⟨hm, -⟩ := task?_mem ht
      refine hrest.takeTurn hm (.receive run.index outcome)
        (hquiet.goes ((s.without run).say (outcome.log run.linter)) rfl ?_)
      simp only [step, Session.finish, hrun, if_true, ht]
  · exact h

theorem of_resume (h : Pending id revision start index s) {number : Nat}
    (hquiet : Undisturbed id revision s (.resume number)) :
    Pending id revision start index (s.resume number) := by
  unfold Session.resume
  split
  next task ht =>
    obtain ⟨hm, -⟩ := task?_mem ht
    split
    next hstage =>
      refine h.takeTurn hm .resume (hquiet.goes s rfl ?_)
      simp only [step, Session.resume, ht, hstage]
    · exact h
  · exact h

/-- A change of some document. If it is this one, it keeps its revision. -/
theorem of_edit (h : Pending id revision start index s) {other : Nat} {change : Document.Change}
    (hquiet : Undisturbed id revision s (.edit other change)) :
    Pending id revision start index (s.edit other change) := by
  refine h.same (sameWork_edit s other change).toSameClaims ?_ h.tracked (fun hentry => hentry) rfl
  obtain ⟨document, hd, hnamed, -⟩ := h.named
  have hchanged : (s.edit other change).document? id = _ := document?_edit s change
  rw [hd, Option.map_some] at hchanged
  refine ⟨_, hchanged, ?_, hquiet.unchanged _ hchanged⟩
  split
  · exact Document.named_changed change hnamed
  · exact hnamed

theorem of_publish (h : Pending id revision start index s) {entry : Entry}
    (hquiet : Undisturbed id revision s (.publish entry)) :
    Pending id revision start index (s.publish entry) := by
  have hsame := (sameWork_publish s entry).toSameClaims
  have hcalls : (s.publish entry).calls[index]? = s.calls[index]? := by rw [calls_publish]
  by_cases hentry : entry.document = id
  · subst hentry
    have hrevision : entry.revision = revision := by
      have hspared := hquiet.spared
      simpa [spares] using hspared
    obtain ⟨document, hd, hrest⟩ := h.named
    refine h.same hsame ⟨document, (document?_publish s entry).trans hd, hrest⟩ ?_
      (fun _ => ⟨entry, entry_publish s h.tracked, hrevision⟩) hcalls
    rw [tracked_publish]
    exact h.tracked
  · exact h.keeps hsame (keeps_publish s hentry) hcalls

theorem of_call (h : Pending id revision start index s) (other : Nat) :
    Pending id revision start index (s.call other) := by
  have hbegin : Pending id revision start index (s.beginCall other).1 := by
    unfold beginCall
    split
    · exact h.tryCall other attempts
    · exact h
  refine hbegin.keeps ⟨rfl, rfl, rfl⟩ ⟨rfl, rfl, fun hm => hm⟩ ?_
  obtain ⟨tries, hcall⟩ := hbegin.call
  exact List.getElem?_append_left (List.getElem?_eq_some_iff.mp hcall).1

/-- Another call goes on. -/
theorem of_wake (h : Pending id revision start index s) {place : Nat} (hother : place ≠ index) :
    Pending id revision start index (s.wake place) := by
  obtain hsame | ⟨other, tries, hcall, hidle⟩ := wake_cases s place
  · rwa [hsame]
  · rw [wake_of_idle hcall hidle]
    have hset : Pending id revision start index
        ((s.tryCall other tries).1.setCall place (s.tryCall other tries).2) :=
      (h.tryCall other tries).keeps ⟨rfl, rfl, rfl⟩ ⟨rfl, rfl, fun hm => hm⟩
        (List.getElem?_set_ne hother)
    exact hset.keeps (sameWork_collect _ other).toSameClaims
      (keeps_collect _ fun _ => hset.waits.isUsed) (by rw [calls_collect])

/-- A call goes on waiting with every event that is not a step of its own. -/
theorem of_step (h : Pending id revision start index s) {event : Event}
    (hquiet : Undisturbed id revision s event) (hother : event ≠ .wake index) :
    Pending id revision start index (s.step event) := by
  have hcalls (hcall : ∀ id, event ≠ .call id) (hwake : ∀ index, event ≠ .wake index) :
      (s.step event).calls[index]? = s.calls[index]? := by rw [calls_step s hcall hwake]
  cases event with
  | add document watched =>
    obtain ⟨named, hd, -⟩ := h.named
    exact h.keeps (sameWork_add s document watched).toSameClaims
      (keeps_add s hd document watched) (hcalls nofun nofun)
  | edit other change => exact h.of_edit hquiet
  | drop other =>
    exact h.keeps (sameWork_drop s other).toSameClaims
      (keeps_drop s fun _ => h.waits.isUsed) (hcalls nofun nofun)
  | query loop other question =>
    rw [step, query_eq_get]
    exact h.get loop other
  | call other => exact h.of_call other
  | wake place => exact h.of_wake fun he => hother (by rw [he])
  | close other =>
    exact h.keeps (sameWork_forget s other).toSameClaims
      (keeps_forget s (of_decide_eq_true hquiet.spared)) rfl
  | clear => exact (Bool.false_ne_true hquiet.spared).elim
  | publish entry => exact h.of_publish hquiet
  | start number => exact h.of_start hquiet
  | launch run => exact h.of_launch run
  | finish run outcome => exact h.of_finish hquiet
  | resume number => exact h.of_resume hquiet
  | _ => exact h.keeps ⟨rfl, rfl, rfl⟩ ⟨rfl, rfl, fun hm => hm⟩ rfl

end Pending

end Gutter.Session
