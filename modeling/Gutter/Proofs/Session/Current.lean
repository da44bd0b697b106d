import Gutter.Proofs.Refresh.Batch
import Gutter.Proofs.Session.Waiting

/-! Calls for current warnings: three tries are enough, whatever refresh was under way when the call
began. -/

namespace Gutter.Session

/-- `P` holds of each event and of the session in which it happens. -/
def Throughout (P : Session → Event → Prop) (s : Session) : List Event → Prop
  | [] => True
  | event :: events => P s event ∧ Throughout P (s.step event) events

section Throughout

variable {P : Session → Event → Prop}

instance decidableThroughout [∀ s event, Decidable (P s event)] (s : Session) :
    (events : List Event) → Decidable (Throughout P s events)
  | [] => .isTrue trivial
  | event :: events =>
    have := decidableThroughout (s.step event) events
    inferInstanceAs (Decidable (_ ∧ _))

theorem throughout_append {s : Session} {first second : List Event} :
    Throughout P s (first ++ second) ↔
      Throughout P s first ∧ Throughout P (s.run first) second := by
  induction first generalizing s with
  | nil => simp [Throughout, run]
  | cons event first ih =>
    rw [List.cons_append, Throughout, Throughout, ih, and_assoc]
    rfl

end Throughout

/-! ### Tries -/

section Tries

variable {s : Session} {id revision : Nat} {document : Document}

/-- A try that finds a current entry answers the call. -/
theorem tryCall_current (hd : s.document? id = some document) (hnamed : isNamed document = true)
    {entry : Entry} (hentry : s.entry? id = some entry)
    (hcurrent : entry.revision = document.revision) (tries : Nat) :
    (s.tryCall id (tries + 1)).2 = .answered entry.warnings := by
  have hget := get_entry hd hnamed true
  have hdocument := (sameStore_get s true id).document? id
  simp [tryCall, hget, hentry, hdocument, hd, Option.filter_some, Entry.isCurrent, hcurrent]

theorem tryCall_waits (hd : s.document? id = some document) (hnamed : isNamed document = true)
    (hnone : ¬HasEntry id document.revision s) (tries : Nat) :
    (s.tryCall id (tries + 1)).2 = .waiting id tries := by
  have hget := get_entry hd hnamed true
  have hdocument := (sameStore_get s true id).document? id
  cases hentry : s.entry? id with
  | none => simp [tryCall, hget, hentry]
  | some entry =>
    have hstale : entry.revision ≠ document.revision := fun he => hnone ⟨entry, hentry, he⟩
    simp [tryCall, hget, hentry, hdocument, hd, Option.filter_some, Entry.isCurrent, hstale]

/-- No refresh is scheduled while the entry is current. -/
theorem tryCall_same (hd : s.document? id = some document)
    (hentry : HasEntry id document.revision s) (tries : Nat) :
    SameWork s (s.tryCall id tries).1 := by
  refine (tryCall_work s id tries).resolve_right fun hnew => ?_
  have hstale := hnew.stale document hd
  rw [(hasCurrent_iff hd rfl).mpr hentry] at hstale
  cases hstale

/-- While nothing is under way, a try that does not find a current entry schedules a refresh. -/
theorem tryCall_schedules (hd : s.document? id = some document) (hnamed : isNamed document = true)
    (hnone : ¬HasEntry id document.revision s) (hfree : s.guard.contains id = false) (tries : Nat) :
    Schedules id s (s.tryCall id (tries + 1)).1 := by
  rw [session_tryCall]
  refine (get_work s true id).resolve_left ?_
  rintro ⟨-, hattended⟩
  obtain hcurrent | hclaimed := hattended rfl document hd hnamed
  · exact hnone ((hasCurrent_iff hd rfl).mp hcurrent)
  · rw [hfree] at hclaimed
    cases hclaimed

theorem tracked_tryCall (hd : s.document? id = some document) (hnamed : isNamed document = true)
    (tries : Nat) : id ∈ (s.tryCall id (tries + 1)).1.tracked := by
  rw [session_tryCall]
  exact mem_tracked_get s (.inr ⟨rfl, by simp [hd, hnamed]⟩)

end Tries

section Pending

variable {id revision start index : Nat} {s : Session}

/-- What a call that goes on comes to. -/
theorem calls_wake {tries : Nat} (hcall : s.calls[index]? = some (.waiting id tries))
    (hidle : s.isIdle = true) :
    (s.wake index).calls[index]? = some (s.tryCall id tries).2 := by
  rw [wake_of_idle hcall hidle, calls_collect, setCall, (sameStore_tryCall s id tries).calls]
  exact List.getElem?_set_self (List.getElem?_eq_some_iff.mp hcall).1

theorem sameWork_wake {tries : Nat} (hcall : s.calls[index]? = some (.waiting id tries))
    (hidle : s.isIdle = true) : SameWork (s.tryCall id tries).1 (s.wake index) := by
  rw [wake_of_idle hcall hidle]
  exact (sameWork_setCall _ index _).trans (sameWork_collect _ id)

/-- Of a document that the call still waits for nothing is collected. -/
theorem keeps_wake {tries left : Nat} (hcall : s.calls[index]? = some (.waiting id tries))
    (hidle : s.isIdle = true) (hwaits : (s.tryCall id tries).2 = .waiting id left) :
    Keeps id (s.tryCall id tries).1 (s.wake index) := by
  have hlater := calls_wake hcall hidle
  rw [wake_of_idle hcall hidle, calls_collect, hwaits] at hlater
  rw [wake_of_idle hcall hidle, hwaits]
  have hused : Waits id ((s.tryCall id tries).1.setCall index (.waiting id left)) :=
    ⟨left, List.mem_of_getElem? hlater⟩
  have hset : Keeps id (s.tryCall id tries).1
      ((s.tryCall id tries).1.setCall index (.waiting id left)) := ⟨rfl, rfl, fun hm => hm⟩
  exact hset.trans (keeps_collect _ fun _ => hused.isUsed)

theorem Pending.count_le (h : Pending id revision start index s) :
    s.requests.count id ≤ start + 1 := by
  cases h.phase with
  | early _ hcount => omega
  | late _ hcount => omega

/-- With a current entry the call has its answer. -/
theorem Pending.wake_answers (h : Pending id revision start index s) (hidle : s.isIdle = true)
    (hentry : HasEntry id revision s) : Answered id revision start index s (s.wake index) := by
  obtain ⟨tries, hcall⟩ := h.call
  obtain ⟨document, hd, hnamed, rfl⟩ := h.named
  have hsame := (tryCall_same hd hentry (tries + 1)).trans (sameWork_wake hcall hidle)
  obtain ⟨entry, hfound, hcurrent⟩ := hentry
  refine ⟨entry, hfound, hcurrent, ?_, ?_⟩
  · rw [answer?_eq_some, calls_wake hcall hidle, tryCall_current hd hnamed hfound hcurrent]
  · rw [hsame.requests]
    exact h.count_le

/-- Without one, no refresh of the document was scheduled since the call began, and now one is. -/
theorem Pending.wake_schedules (h : Pending id revision start index s) (hidle : s.isIdle = true)
    (hnone : ¬HasEntry id revision s) : Pending id revision start index (s.wake index) := by
  obtain ⟨document, hd, hnamed, rfl⟩ := h.named
  have htasks := tasks_of_idle hidle
  cases h.phase with
  | late _ _ hsettling =>
    obtain ⟨task, hm, -⟩ | hold := hsettling.present
    · rw [htasks] at hm
      cases hm
    · exact (hnone hold).elim
  | early hcall hcount =>
    have hfree : s.guard.contains id = false := by
      rw [Bool.eq_false_iff]
      intro hclaimed
      obtain ⟨task, hm, -⟩ := (h.exclusive.guard id).mp (Guard.contains_iff.mp hclaimed)
      rw [htasks] at hm
      cases hm
    have hwaits := tryCall_waits hd hnamed hnone 1
    have hkeeps := keeps_wake hcall hidle hwaits
    have hlater := calls_wake hcall hidle
    rw [hwaits] at hlater
    exact h.toReady.schedules
      ((tryCall_schedules hd hnamed hnone hfree 1).same (sameWork_wake hcall hidle))
      ((keeps_tryCall s 2).trans hkeeps) (hkeeps.tracked (tracked_tryCall hd hnamed 1)) hlater
      hcount

/-- The call itself goes on: it has its answer, or the one refresh that it needs is scheduled. -/
theorem Pending.of_own_wake (h : Pending id revision start index s) :
    Pending id revision start index (s.wake index) ∨
      Answered id revision start index s (s.wake index) := by
  obtain hsame | ⟨other, left, hwaits, hidle⟩ := wake_cases s index
  · rw [hsame]
    exact .inl h
  · by_cases hentry : HasEntry id revision s
    · exact .inr (h.wake_answers hidle hentry)
    · exact .inl (h.wake_schedules hidle hentry)

/-- The first step of a call for a document that has a name. -/
theorem Ready.call (h : Ready id revision s) :
    Pending id revision (s.requests.count id) s.calls.length (s.call id) ∨
      Answered id revision (s.requests.count id) s.calls.length s (s.call id) := by
  obtain ⟨document, hd, hnamed, rfl⟩ := h.named
  have hbegin : s.call id = (s.tryCall id 3).1.addCall (s.tryCall id 3).2 := by
    unfold Session.call beginCall
    simp [hd, hnamed, attempts]
  have hcalls : (s.call id).calls[s.calls.length]? = some (s.tryCall id 3).2 := by
    rw [hbegin, addCall, (sameStore_tryCall s id 3).calls]
    exact List.getElem?_concat_length
  by_cases hentry : HasEntry id document.revision s
  · right
    have hsame := tryCall_same hd hentry 3
    obtain ⟨entry, hfound, hcurrent⟩ := hentry
    refine ⟨entry, hfound, hcurrent, ?_, ?_⟩
    · rw [answer?_eq_some, hcalls, tryCall_current hd hnamed hfound hcurrent]
    · rw [hbegin, addCall, hsame.requests]
      omega
  · left
    rw [tryCall_waits hd hnamed hentry 2] at hcalls
    have hkeeps : Keeps id s (s.call id) := by
      rw [hbegin]
      exact (keeps_tryCall s 3).trans ⟨rfl, rfl, fun hm => hm⟩
    have htracked : id ∈ (s.call id).tracked := by
      rw [hbegin]
      exact tracked_tryCall hd hnamed 2
    obtain hsame | hnew := call_work s id
    · exact ⟨h.same hsame.toSameClaims (hkeeps.named h.named), htracked,
        .early hcalls (by rw [hsame.requests])⟩
    · exact h.schedules hnew hkeeps htracked hcalls rfl

/-- An answer stays. -/
theorem answered_step {set : WarningSet} (h : s.answer? index = some set) (event : Event) :
    (s.step event).answer? index = some set := by
  rw [answer?_eq_some] at h ⊢
  by_cases hcall : ∃ id, event = .call id
  · obtain ⟨id, rfl⟩ := hcall
    simp only [step, Session.call, addCall, (sameStore_beginCall s id).calls]
    exact (List.getElem?_append_left (List.getElem?_eq_some_iff.mp h).1).trans h
  by_cases hwake : ∃ place, event = .wake place
  · obtain ⟨place, rfl⟩ := hwake
    obtain hsame | ⟨id, tries, hwaits, hidle⟩ := wake_cases s place
    · rwa [step, hsame]
    · have hne : place ≠ index := by
        rintro rfl
        rw [h] at hwaits
        cases hwaits
      rw [step, wake_of_idle hwaits hidle, calls_collect, setCall,
        (sameStore_tryCall s id tries).calls, List.getElem?_set_ne hne]
      exact h
  rwa [calls_step s (fun id he => hcall ⟨id, he⟩) fun place he => hwake ⟨place, he⟩]

theorem answered_run {set : WarningSet} (h : s.answer? index = some set) (events : List Event) :
    (s.run events).answer? index = some set := by
  induction events generalizing s with
  | nil => exact h
  | cons event events ih => exact ih (answered_step h event)

/-- While the document is left alone, a call without an answer still waits. -/
theorem Pending.run {events : List Event} (h : Pending id revision start index s)
    (hquiet : Throughout (Undisturbed id revision) s events)
    (hnone : (s.run events).answer? index = none) :
    Pending id revision start index (s.run events) := by
  induction events generalizing s with
  | nil => exact h
  | cons event events ih =>
    obtain ⟨hfirst, hrest⟩ := hquiet
    by_cases hown : event = .wake index
    · subst hown
      obtain hpending | ⟨entry, -, -, hanswer, -⟩ := h.of_own_wake
      · exact ih hpending hrest hnone
      · have hlater := answered_run hanswer events
        rw [Session.run, List.foldl_cons, ← Session.run] at hnone
        exact (Option.some_ne_none _ (hlater.symm.trans hnone)).elim
    · exact ih (h.of_step hfirst hown) hrest hnone

theorem Pending.not_answered (h : Pending id revision start index s) :
    s.answer? index = none := by
  obtain ⟨tries, hcall⟩ := h.call
  simp [answer?, hcall]

/-- The event with which a call for a document that is left alone has its answer. -/
theorem Ready.answered (h : Ready id revision s) {during before : List Event} {last : Event}
    (hcall : .call id :: during = before ++ [last])
    (hquiet : Throughout (Undisturbed id revision) s (before ++ [last]))
    (hwaits : (s.run before).answer? s.calls.length = none) {set : WarningSet}
    (hanswer : ((s.run before).step last).answer? s.calls.length = some set) :
    Answered id revision (s.requests.count id) s.calls.length (s.run before)
      ((s.run before).step last) := by
  rw [throughout_append] at hquiet
  cases before with
  | nil =>
    cases hcall
    refine h.call.resolve_left fun hpending => ?_
    cases hpending.not_answered.symm.trans hanswer
  | cons first rest =>
    cases hcall
    have hpending : Pending id revision (s.requests.count id) s.calls.length
        ((s.call id).run rest) := by
      obtain hpending | ⟨entry, -, -, hfirst, -⟩ := h.call
      · exact hpending.run hquiet.1.2 hwaits
      · cases (answered_run hfirst rest).symm.trans hwaits
    by_cases hown : last = .wake s.calls.length
    · subst hown
      refine hpending.of_own_wake.resolve_left fun hlater => ?_
      cases hlater.not_answered.symm.trans hanswer
    · cases (hpending.of_step hquiet.2.1 hown).not_answered.symm.trans hanswer

end Pending

/-- Whatever state a session has come to, and whatever happens to other documents meanwhile: a call
for a document that is left alone returns the warnings of an entry for the document's revision, and
at most one refresh of the document is scheduled before it does. -/
theorem answers_are_current {settings : Settings} {base : Path.Base} {registry : Registry}
    {past : List Event} {s : Session} (hreached : s = (open_ settings base registry).run past)
    {id : Nat} {document : Document} (hdocument : s.document? id = some document)
    (hnamed : isNamed document = true) {during before : List Event} {last : Event}
    (hcall : .call id :: during = before ++ [last])
    (hquiet : Throughout (Undisturbed id document.revision) s (.call id :: during))
    (hwaits : (s.run before).answer? s.calls.length = none) {set : WarningSet}
    (hanswer : (s.run (before ++ [last])).answer? s.calls.length = some set) :
    ∃ entry, Session.entry? (s.run before) id = some entry ∧
      entry.revision = document.revision ∧ set = entry.warnings ∧
      (s.run (before ++ [last])).requests.count id ≤ s.requests.count id + 1 := by
  have hready : Ready id document.revision s := by
    subst hreached
    exact ⟨(Exclusive.open_ settings base registry).run past,
      noting_own settings base registry past, document, hdocument, hnamed, rfl⟩
  have hlast : s.run (before ++ [last]) = (s.run before).step last := List.foldl_append
  rw [hlast] at hanswer ⊢
  rw [hcall] at hquiet
  obtain ⟨entry, hfound, hrevision, hset, hcount⟩ :=
    hready.answered hcall hquiet hwaits hanswer
  rw [hset] at hanswer
  cases hanswer
  exact ⟨entry, hfound, hrevision, rfl, hcount⟩

section Stale

open Refresh (teller bareBase pythonFile)

/-- A refresh of a document runs when the document is edited. -/
def overtaken : List Event :=
  [.add pythonFile true, .query true 0 .all, .start 0, .edit 0 (.setText ['x'])]

/-- The linter `plain` ends its run for a refresh. -/
def plainEnds (task : Nat) : Event :=
  .finish ⟨task, 0, teller "plain", .call ["plain"], true⟩ (.ended 1 "3:1:unused" none)

/-- A call outlives the refresh for the older revision, and the one that it needs itself. -/
def outlived : List Event :=
  [.call 0, plainEnds 0, .settle 0, .wake 0, .start 1, plainEnds 1, .settle 1]

theorem call_outlives_stale_refresh :
    let s := (open_ {} bareBase ⟨[teller "plain"]⟩).run overtaken
    let document := (pythonFile.setText ['x'])
    s.document? 0 = some document ∧ isNamed document = true ∧
    Throughout (Undisturbed 0 document.revision) s (outlived ++ [.wake 0]) ∧
    (s.run outlived).answer? s.calls.length = none ∧
    (s.run (outlived ++ [.wake 0])).answer? s.calls.length =
      some ⟨[(3, [⟨3, 1, "unused", some "plain"⟩])]⟩ ∧
    ∃ entry, Session.entry? (s.run outlived) 0 = some entry ∧
      entry.revision = document.revision ∧
      ⟨[(3, [⟨3, 1, "unused", some "plain"⟩])]⟩ = entry.warnings ∧
      (s.run (outlived ++ [.wake 0])).requests.count 0 ≤ s.requests.count 0 + 1 := by
  intro s document
  have hdocument : s.document? 0 = some document := by decide +kernel
  have hnamed : isNamed document = true := by decide +kernel
  have hquiet : Throughout (Undisturbed 0 document.revision) s (outlived ++ [.wake 0]) := by
    decide +kernel
  have hwaits : (s.run outlived).answer? s.calls.length = none := by decide +kernel
  have hanswer : (s.run (outlived ++ [.wake 0])).answer? s.calls.length =
      some ⟨[(3, [⟨3, 1, "unused", some "plain"⟩])]⟩ := by decide +kernel
  exact ⟨hdocument, hnamed, hquiet, hwaits, hanswer,
    answers_are_current rfl hdocument hnamed rfl hquiet hwaits hanswer⟩

end Stale

end Gutter.Session
