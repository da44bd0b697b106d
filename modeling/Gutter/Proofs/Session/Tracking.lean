import Gutter.Proofs.Session.Current
import Gutter.Proofs.Session.History
import Gutter.Proofs.Session.Records
import Mathlib.Data.List.Induction

/-! Which documents are tracked: those that were queried and have not been closed or gone since.
Only of these are entries kept, whenever the refreshes end that were under way. -/

namespace Gutter.Session

/-- With the event, a document that is watched goes. When another goes it is not noticed. -/
def Goes (id : Nat) (s : Session) (event : Event) : Prop := Lost id s (s.step event)

/-- With the event, the document is closed, all documents are, or it goes. -/
def Leaves (id : Nat) (s : Session) (event : Event) : Prop :=
  event = .close id ∨ event = .clear ∨ Goes id s event

/-- One of the events is a query for the document, and from then on the document does not leave. -/
def Opened (id : Nat) (first : Session) (events : List Event) : Prop :=
  ∃ before event after, events = before ++ event :: after ∧
    (first.run before).asked? event = some id ∧
    Throughout (fun s event => ¬Leaves id s event) (first.run before) (event :: after)

section Opened

variable {id : Nat} {first : Session} {events : List Event} {event : Event}

theorem not_opened_nil : ¬Opened id first [] := by
  rintro ⟨before, event, after, hevents, -⟩
  exact List.append_ne_nil_of_right_ne_nil _ (List.cons_ne_nil _ _) hevents.symm

theorem opened_append_singleton : Opened id first (events ++ [event]) ↔
    (Opened id first events ∨ (first.run events).asked? event = some id) ∧
      ¬Leaves id (first.run events) event := by
  constructor
  · rintro ⟨before, asking, after, hevents, hasked, hstays⟩
    cases after using List.reverseRecOn with
    | nil =>
      obtain ⟨rfl, hlast⟩ := List.append_inj' hevents rfl
      cases hlast
      exact ⟨.inr hasked, hstays.1⟩
    | append_singleton after last =>
      rw [← List.cons_append, ← List.append_assoc] at hevents
      obtain ⟨rfl, hlast⟩ := List.append_inj' hevents rfl
      cases hlast
      rw [← List.cons_append, throughout_append, ← run_append] at hstays
      exact ⟨.inl ⟨before, asking, after, rfl, hasked, hstays.1⟩, hstays.2.1⟩
  · rintro ⟨⟨before, asking, after, rfl, hasked, hstays⟩ | hasked, hleaves⟩
    · refine ⟨before, asking, after ++ [event], by simp, hasked, ?_⟩
      rw [← List.cons_append, throughout_append, ← run_append]
      exact ⟨hstays, hleaves, trivial⟩
    · exact ⟨events, event, [], rfl, hasked, hleaves, trivial⟩

end Opened

/-! ### Steps -/

section Step

variable {s : Session} {event : Event} {id : Nat}

theorem mem_tracked_track_iff {other : Nat} :
    id ∈ (s.track other).tracked ↔ id ∈ s.tracked ∨ other = id := by
  refine ⟨fun hm => ?_, mem_tracked_track s⟩
  unfold track at hm
  split at hm
  · exact .inl hm
  · exact (List.mem_append.mp hm).imp_right fun h => (List.mem_singleton.mp h).symm

theorem mem_tracked_recorded : id ∈ (s.recorded event).tracked ↔
    (id ∈ s.tracked ∨ s.asked? event = some id) ∧ event ≠ .close id ∧ event ≠ .clear := by
  have htrack (asked : Option Nat) :
      id ∈ (asked.elim s s.track).tracked ↔ id ∈ s.tracked ∨ asked = some id := by
    cases asked with
    | none => simp
    | some other => simp [mem_tracked_track_iff]
  have hpublish (completed : Option Entry) :
      (completed.elim s s.publish).tracked = s.tracked := by
    cases completed with
    | none => rfl
    | some entry => exact tracked_publish s entry
  have hsame (h : (s.recorded event).tracked = s.tracked) (hnone : s.asked? event = none)
      (hstays : event ≠ .close id ∧ event ≠ .clear) :
      id ∈ (s.recorded event).tracked ↔
        (id ∈ s.tracked ∨ s.asked? event = some id) ∧ event ≠ .close id ∧ event ≠ .clear := by
    simp [h, hnone, hstays]
  cases event with
  | add document watched =>
    refine hsame ?_ rfl (by simp)
    simp only [recorded, add]
    split <;> rfl
  | edit other change => exact hsame rfl rfl (by simp)
  | drop other => exact hsame rfl rfl (by simp)
  | query loop other question => simp [recorded, htrack]
  | call other => simp [recorded, htrack]
  | wake index => simp [recorded, htrack]
  | close other =>
    have hnone : s.asked? (.close other) = none := rfl
    simp [recorded, forget, hnone, @eq_comm _ id]
  | clear => simp [recorded, clear]
  | publish entry => exact hsame (tracked_publish s entry) rfl (by simp)
  | _ => exact hsame (hpublish _) rfl (by simp)

/-- A change of members that leaves their numbers and whether they are watched. -/
theorem watched_map {f : Member → Member} (hid : ∀ m, (f m).document.id = m.document.id)
    (hwatched : ∀ m, (f m).watched = m.watched) :
    (member? { s with members := s.members.map f } id).any (·.watched) =
      (s.member? id).any (·.watched) := by
  rw [member?_map s hid, Option.any_map]
  congr 1
  funext m
  exact hwatched m

theorem member?_of_add {document : Document} {watched : Bool}
    (h : (s.add document watched).member? id = none) : s.member? id = none := by
  unfold add at h
  split at h
  · exact h
  · simp only [member?, List.find?_append, Option.or_eq_none_iff] at h
    exact h.1

/-- What an event records does not let a document go, and leaves it watched if it was. -/
theorem lost_recorded : Lost id (s.recorded event) (s.step event) ↔ Goes id s event := by
  have hsame := @sameDocuments_recorded s event
  refine and_congr_left fun hgone => ?_
  cases event with
  | add document watched =>
    have hnone : (s.recorded (.add document watched)).member? id = none := hgone
    rw [hnone, member?_of_add hgone]
  | edit other change =>
    refine iff_of_eq (congrArg (· = true) (watched_map (fun m => ?_) fun m => ?_))
    · split
      · exact Document.id_changed m.document change
      · rfl
    · split <;> rfl
  | drop other =>
    refine iff_of_eq (congrArg (· = true) (watched_map (fun m => ?_) fun m => ?_))
    · split <;> rfl
    · split <;> rfl
  | _ => rw [(hsame rfl).member?]

/-- A document is tracked after an event if it was tracked before or is queried, and does not
leave. -/
theorem mem_tracked_step : id ∈ (s.step event).tracked ↔
    (id ∈ s.tracked ∨ s.asked? event = some id) ∧ ¬Leaves id s event := by
  rw [(letsGo_step s event).mem_tracked, mem_tracked_recorded, lost_recorded, Leaves]
  simp only [not_or, and_assoc]

end Step

/-- A document is tracked exactly if it was queried and has not left since. -/
theorem mem_tracked_run (settings : Settings) (base : Path.Base) (registry : Registry)
    (events : List Event) (id : Nat) :
    id ∈ ((open_ settings base registry).run events).tracked ↔
      Opened id (open_ settings base registry) events := by
  induction events using List.reverseRecOn with
  | nil => exact iff_of_false (List.not_mem_nil) not_opened_nil
  | append_singleton events event ih =>
    rw [run_append, opened_append_singleton, ← ih]
    exact mem_tracked_step

/-- A document that is not tracked stays so until it is queried. -/
theorem not_tracked_run {s : Session} {id : Nat} {events : List Event} (h : id ∉ s.tracked)
    (hasked : Throughout (fun s event => s.asked? event ≠ some id) s events) :
    id ∉ (s.run events).tracked := by
  induction events generalizing s with
  | nil => exact h
  | cons event events ih =>
    obtain ⟨hfirst, hrest⟩ := hasked
    refine ih (fun hm => ?_) hrest
    exact (mem_tracked_step.mp hm).1.elim h hfirst

/-! ### Entries -/

/-- Documents that have an entry are tracked. -/
def Kept (s : Session) : Prop := ∀ id entry, s.entry? id = some entry → id ∈ s.tracked

namespace Kept

variable {s : Session} {event : Event}

theorem publish (h : Kept s) (new : Entry) : Kept (s.publish new) := by
  intro id entry hentry
  rw [tracked_publish]
  rw [entry?_publish] at hentry
  split at hentry
  next hnew => exact hnew.2
  next => exact h id entry hentry

theorem recorded (h : Kept s) (event : Event) : Kept (s.recorded event) := by
  intro id entry hentry
  obtain hold | rfl | hcompleted := entry?_recorded hentry
  · refine mem_tracked_recorded.mpr ⟨.inl (h id entry hold), ?_, ?_⟩
    · rintro rfl
      rw [Session.recorded, entry?_forget, if_pos rfl] at hentry
      cases hentry
    · rintro rfl
      cases hentry
  · exact h.publish entry id entry hentry
  · rw [(completes_of_completed? s hcompleted).2] at hentry ⊢
    exact h.publish entry id entry hentry

theorem step (h : Kept s) (event : Event) : Kept (s.step event) := by
  intro id entry hentry
  have hgoes := letsGo_step s event
  obtain ⟨hrecorded, hlost⟩ := hgoes.entry?_eq_some.mp hentry
  exact hgoes.mem_tracked.mpr ⟨h.recorded event id entry hrecorded, hlost⟩

theorem run (h : Kept s) (events : List Event) : Kept (s.run events) := by
  induction events generalizing s with
  | nil => exact h
  | cons event events ih => exact ih (h.step event)

theorem open_ (settings : Settings) (base : Path.Base) (registry : Registry) :
    Kept (open_ settings base registry) := nofun

theorem tracked (h : Kept s) {entry : Entry} (hm : entry ∈ s.entries) :
    entry.document ∈ s.tracked := by
  cases hfound : s.entry? entry.document with
  | some other => exact h entry.document other hfound
  | none => exact (List.find?_eq_none.mp hfound entry hm (decide_eq_true rfl)).elim

/-- The entry of a refresh that is complete is stored if its document is tracked. -/
theorem stored_iff (h : Kept s) {entry : Entry} (hcompleted : s.completed? event = some entry) :
    Session.entry? (s.step event) entry.document = some entry ↔
      entry.document ∈ s.tracked ∧ ¬Goes entry.document s event := by
  rw [(letsGo_step s event).entry?_eq_some, lost_recorded,
    (completes_of_completed? s hcompleted).2, entry?_publish]
  refine and_congr_left fun _ => ?_
  split
  next hnew => exact iff_of_true rfl hnew.2
  next hnot =>
    have hfree : entry.document ∉ s.tracked := fun hm => hnot ⟨rfl, hm⟩
    exact iff_of_false (fun hold => hfree (h _ _ hold)) hfree

end Kept

/-- Closed documents stay closed. A document that is closed, or all of which are, has no entry until
it is queried again, whatever refresh of it ends meanwhile; only documents that are tracked have
entries, those are tracked that were queried and have not been closed or gone since, and the entry
of a refresh that is complete is stored exactly if its document is tracked and does not go with
that refresh. -/
theorem closed_documents_stay_closed (settings : Settings) (base : Path.Base) (registry : Registry)
    (events : List Event) :
    let first := open_ settings base registry
    let s := first.run events
    (∀ id event later, event = .close id ∨ event = .clear →
      Throughout (fun s event => s.asked? event ≠ some id) (s.step event) later →
      Session.entry? ((s.step event).run later) id = none) ∧
    (∀ entry ∈ s.entries, entry.document ∈ s.tracked) ∧
    (∀ id, id ∈ s.tracked ↔ Opened id first events) ∧
    ∀ event entry, s.completed? event = some entry →
      (Session.entry? (s.step event) entry.document = some entry ↔
        entry.document ∈ s.tracked ∧ ¬Goes entry.document s event) := by
  intro first s
  have hkept : Kept s := (Kept.open_ settings base registry).run events
  refine ⟨fun id event later hleaves hasked => ?_, fun entry hm => hkept.tracked hm,
    mem_tracked_run settings base registry events, fun event entry => hkept.stored_iff⟩
  have hfree : id ∉ (s.step event).tracked := fun hm =>
    (mem_tracked_step.mp hm).2 (hleaves.imp_right .inl)
  refine Option.eq_none_iff_forall_ne_some.mpr fun entry hentry => ?_
  exact not_tracked_run hfree hasked (((hkept.step event).run later) id entry hentry)

section Closed

open Refresh (teller bareBase pythonFile)

/-- A refresh of a document runs. -/
def refreshing : List Event := [.add pythonFile true, .query true 0 .all, .start 0]

/-- The refresh ends after its document was closed, and would have stored its entry. -/
theorem closed_while_refreshing :
    let s := (open_ {} bareBase ⟨[teller "plain"]⟩).run refreshing
    Throughout (fun s event => s.asked? event ≠ some 0) (s.step (.close 0))
      [plainEnds 0, .settle 0] ∧
    ((s.step (.close 0)).completed? (plainEnds 0)).isSome = true ∧
    Session.entry? ((s.step (.close 0)).run [plainEnds 0, .settle 0]) 0 = none ∧
    (Session.entry? (s.run [plainEnds 0, .settle 0]) 0).isSome = true := by
  intro s
  have hasked : Throughout (fun s event => s.asked? event ≠ some 0) (s.step (.close 0))
      [plainEnds 0, .settle 0] := by decide +kernel
  exact ⟨hasked, by decide +kernel,
    (closed_documents_stay_closed {} bareBase ⟨[teller "plain"]⟩ refreshing).1 0 (.close 0) _
      (.inl rfl) hasked, by decide +kernel⟩

/-- A document that cannot be watched is asked about, and its refresh ends. -/
def unwatched : List Event :=
  [.add pythonFile false, .query true 0 .all, .start 0, plainEnds 0, .settle 0]

/-- It is tracked and has its entry after it has gone, though no query for it follows. -/
theorem unwatched_document_stays_tracked :
    let s := (open_ {} bareBase ⟨[teller "plain"]⟩).run unwatched
    (s.document? 0).isSome = true ∧ s.asked? (.drop 0) = none ∧
    (s.step (.drop 0)).document? 0 = none ∧ 0 ∈ (s.step (.drop 0)).tracked ∧
    (Session.entry? (s.step (.drop 0)) 0).isSome = true := by
  decide +kernel

end Closed

end Gutter.Session
