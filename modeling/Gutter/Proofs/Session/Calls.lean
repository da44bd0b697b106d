import Gutter.Proofs.Session.Step

/-! Calls that wait: which events change them, and what they are answered with. -/

namespace Gutter.Session

open Refresh (Turn)

section Calls

variable (s : Session)

theorem calls_collect (id : Nat) : (s.collect id).calls = s.calls := by
  obtain ⟨members, entries, tracked, h⟩ := collect_eq s id
  rw [h]

theorem calls_publish (entry : Entry) : (s.publish entry).calls = s.calls := by
  obtain ⟨entries, log, h⟩ := publish_eq s entry
  rw [h]

theorem calls_takeTurn (task : Task) (turn : Turn) : (s.takeTurn task turn).calls = s.calls := by
  obtain ⟨stage, log⟩ := turn
  cases stage with
  | completed entry => exact (calls_collect _ _).trans (calls_publish _ entry)
  | failed e => exact calls_collect _ _
  | _ => rfl

theorem calls_start (number : Nat) : (s.start number).calls = s.calls := by
  unfold start
  split
  · split
    · exact calls_takeTurn s _ _
    · rfl
  · rfl

theorem calls_launch (run : Run) : (s.launch run).calls = s.calls := by
  unfold launch
  split <;> rfl

theorem calls_finish (run : Run) (outcome : Outcome) : (s.finish run outcome).calls = s.calls := by
  unfold finish
  split
  · simp only
    split
    · rfl
    · exact calls_takeTurn _ _ _
  · rfl

theorem calls_resume (number : Nat) : (s.resume number).calls = s.calls := by
  unfold resume
  split
  · split
    · exact calls_takeTurn s _ _
    · rfl
  · rfl

theorem answer?_eq_some {s : Session} {index : Nat} {set : WarningSet} :
    s.answer? index = some set ↔ s.calls[index]? = some (.answered set) := by
  unfold answer?
  split
  next hcall => simp [hcall]
  next hnone => exact ⟨nofun, fun hcall => (hnone set hcall).elim⟩

/-- Only calls change calls. -/
theorem calls_step {event : Event} (hcall : ∀ id, event ≠ .call id)
    (hwake : ∀ index, event ≠ .wake index) : (s.step event).calls = s.calls := by
  cases event with
  | add document watched =>
    simp only [step, add]
    split <;> rfl
  | drop id => exact calls_collect (s.unhold id) id
  | query loop id question =>
    rw [step, query_eq_get]
    exact (sameStore_get s loop id).calls
  | call id => exact (hcall id rfl).elim
  | wake index => exact (hwake index rfl).elim
  | publish entry => exact calls_publish s entry
  | start number => exact calls_start s number
  | launch run => exact calls_launch s run
  | finish run outcome => exact calls_finish s run outcome
  | resume number => exact calls_resume s number
  | _ => rfl

end Calls

/-! ### Answers -/

section Answers

variable {s : Session} {id : Nat}

theorem mem_of_found {entry : Entry} (h : s.entry? id = some entry) :
    entry ∈ s.entries ∧ entry.document = id :=
  ⟨List.mem_of_find?_eq_some h, by simpa using List.find?_some h⟩

/-- A query for a document that has a name finds its entry. -/
theorem get_entry {document : Document} (hd : s.document? id = some document)
    (hnamed : isNamed document = true) (loop : Bool) : (s.get loop id).2 = s.entry? id := by
  rw [← (sameStore_get s loop id).entry_eq id]
  unfold get
  simp [hd, hnamed]

theorem mem_of_get {loop : Bool} {entry : Entry} (h : (s.get loop id).2 = some entry) :
    entry ∈ s.entries := by
  have hget := h
  unfold get at h
  split at h
  · cases h
  next document hd =>
    split at h
    · cases h
    next hnamed =>
      rw [Bool.not_eq_true, Bool.not_eq_false'] at hnamed
      rw [get_entry hd hnamed] at hget
      exact (mem_of_found hget).1

/-- A set that is served has nothing in it, or is that of an entry. -/
def Served (s : Session) (set : WarningSet) : Prop :=
  set = .empty ∨ ∃ entry ∈ s.entries, set = entry.warnings

theorem served_allWarnings (s : Session) (loop : Bool) (id : Nat) :
    Served s (s.allWarnings loop id).2 := by
  cases h : (s.get loop id).2 with
  | none => exact .inl (by simp [allWarnings, h])
  | some entry => exact .inr ⟨entry, mem_of_get h, by simp [allWarnings, h]⟩

theorem served_known (s : Session) (id : Nat) : Served s (s.known id) := by
  unfold known
  cases h : s.entry? id with
  | none => exact .inl rfl
  | some entry => exact .inr ⟨entry, (mem_of_found h).1, rfl⟩

theorem served_tryCall {tries : Nat} {set : WarningSet}
    (h : (s.tryCall id tries).2 = .answered set) : Served s set := by
  cases tries with
  | zero =>
    cases h
    exact served_known s id
  | succ tries =>
    simp only [tryCall] at h
    split at h
    next entry hentry =>
      cases h
      rw [Option.filter_eq_some_iff] at hentry
      exact .inr ⟨entry, mem_of_get hentry.1, rfl⟩
    next => cases h

theorem served_beginCall {set : WarningSet} (h : (s.beginCall id).2 = .answered set) :
    Served s set := by
  unfold beginCall at h
  split at h
  · exact served_tryCall h
  · cases h
    exact .inl rfl

/-- An answer that is new with an event was served by the session before. -/
theorem served_step {event : Event} {set : WarningSet}
    (h : .answered set ∈ (s.step event).calls) : .answered set ∈ s.calls ∨ Served s set := by
  by_cases hcall : ∃ id, event = .call id
  · obtain ⟨id, rfl⟩ := hcall
    simp only [step, call, addCall, (sameStore_beginCall s id).calls] at h
    obtain h | h := List.mem_append.mp h
    · exact .inl h
    · exact .inr (served_beginCall (List.mem_singleton.mp h).symm)
  by_cases hwake : ∃ index, event = .wake index
  · obtain ⟨index, rfl⟩ := hwake
    obtain hsame | ⟨id, tries, hwaits, hidle⟩ := wake_cases s index
    · rw [step, hsame] at h
      exact .inl h
    · rw [step, wake_of_idle hwaits hidle, calls_collect, setCall,
        (sameStore_tryCall s id tries).calls] at h
      obtain h | h := List.mem_or_eq_of_mem_set h
      · exact .inl h
      · exact .inr (served_tryCall h.symm)
  rw [calls_step s (fun id he => hcall ⟨id, he⟩) fun index he => hwake ⟨index, he⟩] at h
  exact .inl h

end Answers

end Gutter.Session
