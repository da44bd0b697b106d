import Gutter.Proofs.Session.Step
import Mathlib.Data.List.Nodup

/-! At most one refresh of a document is under way. The guard is taken where a refresh is scheduled
and left where it ends, and between the two the refreshes and the claims tell the same. -/

namespace Gutter.Session

open Refresh (Stage)

/-- Each refresh has a number and a document of its own, and the guard names their documents. -/
structure Exclusive (s : Session) : Prop where
  numbers : (s.tasks.map (·.number)).Nodup
  below : ∀ task ∈ s.tasks, task.number < s.scheduled
  documents : (s.tasks.map (·.document)).Nodup
  claims : ∀ task ∈ s.tasks, task.claim = ⟨task.document, false⟩
  guard : ∀ id, id ∈ s.guard.names ↔ ∃ task ∈ s.tasks, task.document = id

namespace Exclusive

variable {s s' : Session}

theorem open_ (settings : Settings) (base : Path.Base) (registry : Registry) :
    Exclusive (open_ settings base registry) where
  numbers := List.nodup_nil
  below := fun _ h => (List.not_mem_nil h).elim
  documents := List.nodup_nil
  claims := fun _ h => (List.not_mem_nil h).elim
  guard := fun _ => by simp [Session.open_, Guard.empty]

theorem eq_of_number (h : Exclusive s) {t u : Task} (ht : t ∈ s.tasks) (hu : u ∈ s.tasks)
    (hn : t.number = u.number) : t = u :=
  List.inj_on_of_nodup_map h.numbers ht hu hn

theorem eq_of_document (h : Exclusive s) {t u : Task} (ht : t ∈ s.tasks) (hu : u ∈ s.tasks)
    (hd : t.document = u.document) : t = u :=
  List.inj_on_of_nodup_map h.documents ht hu hd

theorem same (h : Exclusive s) (hsame : SameClaims s s') : Exclusive s' where
  numbers := hsame.tasks ▸ h.numbers
  below := by
    rw [hsame.tasks, scheduled, hsame.requests]
    exact h.below
  documents := hsame.tasks ▸ h.documents
  claims := hsame.tasks ▸ h.claims
  guard := by
    rw [hsame.tasks, hsame.guard]
    exact h.guard

theorem without (h : Exclusive s) (run : Run) : Exclusive (s.without run) := h.same ⟨rfl, rfl, rfl⟩

/-- A refresh is scheduled of a document that is not in the guard, and so of one without any. -/
theorem schedules (h : Exclusive s) {id : Nat} (hnew : Schedules id s s') : Exclusive s' where
  numbers := by
    rw [hnew.tasks, List.map_append]
    refine h.numbers.append (List.nodup_singleton _) ?_
    simp only [List.map_cons, List.map_nil, List.disjoint_singleton, List.mem_map, not_exists,
      not_and]
    intro task hm hn
    have := h.below task hm
    omega
  below := by
    intro task hm
    rw [scheduled, hnew.requests, List.length_append, List.length_singleton]
    rw [hnew.tasks] at hm
    obtain hm | hm := List.mem_append.mp hm
    · have := h.below task hm
      unfold scheduled at this
      omega
    · rw [List.mem_singleton.mp hm]
      unfold scheduled
      simp only
      omega
  documents := by
    rw [hnew.tasks, List.map_append]
    refine h.documents.append (List.nodup_singleton _) ?_
    simp only [List.map_cons, List.map_nil, List.disjoint_singleton, List.mem_map]
    intro hm
    have hguard := Guard.contains_iff.mpr ((h.guard id).mpr hm)
    rw [hnew.free] at hguard
    cases hguard
  claims := by
    intro task hm
    rw [hnew.tasks] at hm
    obtain hm | hm := List.mem_append.mp hm
    · exact h.claims task hm
    · rw [List.mem_singleton.mp hm]
  guard := by
    intro other
    rw [hnew.guard, hnew.tasks, Guard.mem_mark, h.guard]
    simp only [List.mem_append, List.mem_singleton, or_and_right, exists_or, exists_eq_left]
    exact or_congr_right eq_comm

/-- A turn leaves the numbers and documents of refreshes as they are. -/
theorem advances (h : Exclusive s) {task : Task} (hm : task ∈ s.tasks) {stage : Stage}
    {more : List Run} (hturn : Advances task stage more s s') : Exclusive s' := by
  have hkeep : ∀ t ∈ s.tasks, (if t.number = task.number then { task with stage } else t) =
      { t with stage := if t.number = task.number then stage else t.stage } := by
    intro t ht
    split
    next hn => rw [h.eq_of_number ht hm hn]
    next => rfl
  have htasks : s'.tasks = s.tasks.map fun t =>
      { t with stage := if t.number = task.number then stage else t.stage } := by
    rw [hturn.tasks]
    exact List.map_congr_left hkeep
  constructor
  · rw [htasks, List.map_map]
    exact h.numbers
  · rw [htasks, scheduled, hturn.requests]
    intro t ht
    obtain ⟨u, hu, rfl⟩ := List.mem_map.mp ht
    exact h.below u hu
  · rw [htasks, List.map_map]
    exact h.documents
  · rw [htasks]
    intro t ht
    obtain ⟨u, hu, rfl⟩ := List.mem_map.mp ht
    exact h.claims u hu
  · intro id
    rw [htasks, hturn.guard, h.guard]
    simp only [List.mem_map, exists_exists_and_eq_and]

/-- A refresh that ends takes its own document from the guard, and no other. -/
theorem retires (h : Exclusive s) {task : Task} (hm : task ∈ s.tasks) {stage : Stage}
    (hturn : Retires task stage s s') : Exclusive s' := by
  have hsub : ∀ t ∈ s'.tasks, t ∈ s.tasks := by
    rw [hturn.tasks]
    exact fun t ht => (List.mem_filter.mp ht).1
  have hfilter : s'.tasks.Sublist s.tasks := hturn.tasks ▸ List.filter_sublist
  constructor
  · exact h.numbers.sublist (hfilter.map _)
  · rw [scheduled, hturn.requests]
    exact fun t ht => h.below t (hsub t ht)
  · exact h.documents.sublist (hfilter.map _)
  · exact fun t ht => h.claims t (hsub t ht)
  · intro id
    rw [hturn.guard, h.claims task hm]
    simp only [Guard.release, Bool.false_eq_true, if_false, Guard.mem_erase, h.guard, hturn.tasks,
      List.mem_filter, decide_eq_true_eq]
    constructor
    · rintro ⟨⟨t, ht, rfl⟩, hne⟩
      exact ⟨t, ⟨ht, fun hn => hne (by rw [h.eq_of_number ht hm hn])⟩, rfl⟩
    · rintro ⟨t, ⟨ht, hne⟩, rfl⟩
      exact ⟨⟨t, ht, rfl⟩, fun hd => hne (by rw [h.eq_of_document ht hm hd])⟩

theorem turns (h : Exclusive s) {task : Task} (hm : task ∈ s.tasks) {stage : Stage}
    {more : List Run} (hturn : Turns task stage more s s') : Exclusive s' :=
  hturn.elim (h.advances hm) (h.retires hm)

theorem does (h : Exclusive s) {event : Event} (hdoes : Does s s' event) : Exclusive s' := by
  cases hdoes with
  | rest hsame => exact h.same hsame.toSameClaims
  | schedules id hnew => exact h.schedules hnew
  | launches _ hsame => exact h.same hsame
  | starts htask _ _ _ hturn => exact h.turns htask hturn
  | ends _ _ _ hsame => exact h.same hsame
  | receives _ _ htask _ _ hturn =>
    exact (h.without _).turns htask hturn
  | resumes htask _ _ hturn => exact h.turns htask hturn

theorem run (h : Exclusive s) (events : List Event) : Exclusive (s.run events) := by
  induction events generalizing s with
  | nil => exact h
  | cons event events ih => exact ih (h.does (does_step s event))

end Exclusive

theorem tasks_of_idle {s : Session} (h : s.isIdle = true) : s.tasks = [] := by
  have hnone : s.tasks.length + s.ended.length = 0 := of_decide_eq_true h
  exact List.length_eq_zero_iff.mp (by omega)

/-- The refreshes of a document that hold a claim. -/
def refreshesOf (s : Session) (id : Nat) : List Task := s.tasks.filter (·.document = id)

theorem length_refreshesOf (s : Session) (id : Nat) :
    (s.refreshesOf id).length = (s.tasks.map (·.document)).count id := by
  rw [refreshesOf, List.count, List.countP_map, List.countP_eq_length_filter]
  rfl

/-- Whatever happens in a session, a document has one refresh at most, it has one exactly if the
guard names it, and the guard is empty once no refresh is in flight. -/
theorem one_refresh_per_document (settings : Settings) (base : Path.Base) (registry : Registry)
    (events : List Event) (id : Nat) :
    let s := (open_ settings base registry).run events
    (s.guard.contains id = true ↔ (s.refreshesOf id).length = 1) ∧
      (s.refreshesOf id).length ≤ 1 ∧ (s.inFlight = 0 → s.guard.names = []) := by
  intro s
  have h : Exclusive s := (Exclusive.open_ settings base registry).run events
  have hle := List.nodup_iff_count_le_one.mp h.documents id
  refine ⟨?_, by rwa [length_refreshesOf], ?_⟩
  · rw [Guard.contains_iff, h.guard, length_refreshesOf, ← List.mem_map]
    constructor
    · exact List.count_eq_one_of_mem h.documents
    · intro hcount
      exact List.count_pos_iff.mp (Nat.lt_of_lt_of_eq Nat.one_pos hcount.symm)
  · intro hidle
    have htasks : s.tasks = [] := by
      unfold inFlight at hidle
      exact List.length_eq_zero_iff.mp (by omega)
    refine List.eq_nil_iff_forall_not_mem.mpr fun other hm => ?_
    obtain ⟨task, ht, -⟩ := (h.guard other).mp hm
    rw [htasks] at ht
    exact List.not_mem_nil ht

end Gutter.Session
