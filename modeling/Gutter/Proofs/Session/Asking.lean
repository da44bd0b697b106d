import Gutter.Proofs.Refresh.Batch
import Gutter.Proofs.Session.Keeping

/-! Documents that are asked about again and again. The first query schedules the refresh that is
wanted, and those that follow change nothing. Without a loop no query leaves anything behind, except
that the document is tracked and that the log tells of each refresh that was not scheduled. -/

namespace Gutter.Session

variable {s : Session} {id : Nat} {document : Document} {loop : Bool}

/-- A refresh of the document is wanted: the document has a name, its entry is missing or of another
revision, and no refresh holds its claim. -/
structure Wants (s : Session) (document : Document) : Prop where
  named : isNamed document = true
  stale : ∀ entry, s.entry? document.id = some entry → entry.revision ≠ document.revision
  free : s.guard.contains document.id = false

theorem hasCurrent_eq_false_iff : s.hasCurrent document = false ↔
    ∀ entry, s.entry? document.id = some entry → entry.revision ≠ document.revision := by
  unfold hasCurrent
  cases s.entry? document.id with
  | none => simp
  | some entry => simp [Entry.isCurrent]

/-! ### One query -/

theorem get_unnamed (hdocument : s.document? id = some document)
    (hunnamed : isNamed document = false) : s.get loop id = (s, none) := by
  simp [get, hdocument, hunnamed]

theorem get_settled (hdocument : s.document? id = some document) (hnamed : isNamed document = true)
    (hsettled : ¬Wants s document) : s.get loop id = (s.track id, s.entry? id) := by
  have hstore := sameStore_track s id
  have hasked : (s.hasCurrent document || s.guard.contains id) = true := by
    by_contra hnot
    simp only [Bool.or_eq_true, not_or, Bool.not_eq_true] at hnot
    exact hsettled ⟨hnamed, hasCurrent_eq_false_iff.mp hnot.1, document?_id hdocument ▸ hnot.2⟩
  simp [get, hdocument, hnamed, hstore.hasCurrent, (sameWork_track s id).guard, hasked,
    hstore.entry_eq]

theorem get_wanted (hdocument : s.document? id = some document) (h : Wants s document) :
    s.get loop id = ((s.track id).trigger loop document, s.entry? id) := by
  have hstore := sameStore_track s id
  have hstale : s.hasCurrent document = false := hasCurrent_eq_false_iff.mpr h.stale
  have hfree : s.guard.contains id = false := document?_id hdocument ▸ h.free
  simp [get, hdocument, h.named, hstore.hasCurrent, (sameWork_track s id).guard, hstale, hfree,
    (sameStore_trigger (s.track id) loop document).entry_eq, hstore.entry_eq]

theorem sameStore_say (s : Session) (lines : List LogLine) : SameStore s (s.say lines) :=
  ⟨rfl, rfl, rfl⟩

/-- Without a loop the claim is given back, and the log tells so. -/
theorem trigger_without_loop (hfree : s.guard.contains document.id = false) :
    s.trigger false document = s.say [unscheduledLine document "no running event loop"] := by
  have hguard := Guard.erase_mark hfree
  simp only [trigger, Guard.acquire?, hfree, Guard.release, hguard, Bool.false_eq_true, if_false]

/-- A query with a loop schedules a refresh exactly if one is wanted. -/
theorem get_schedules_iff (hdocument : s.document? id = some document) :
    (Wants s document → Schedules id s (s.get true id).1) ∧
      (¬Wants s document → SameWork s (s.get true id).1) := by
  refine ⟨fun hwants => ?_, fun hsettled => ?_⟩
  · refine (get_work s true id).resolve_left fun ⟨_, hattended⟩ => ?_
    obtain hcurrent | hclaimed := hattended rfl document hdocument hwants.named
    · rw [hasCurrent_eq_false_iff.mpr hwants.stale] at hcurrent
      cases hcurrent
    · rw [← document?_id hdocument, hwants.free] at hclaimed
      cases hclaimed
  · cases hnamed : isNamed document with
    | false =>
      rw [get_unnamed hdocument hnamed]
      exact .refl s
    | true =>
      rw [get_settled hdocument hnamed hsettled]
      exact sameWork_track s id

/-! ### Queries one after another -/

/-- The session after as many queries for the entry of a document. -/
def asked (s : Session) (loop : Bool) (id times : Nat) : Session :=
  s.run (List.replicate times (.query loop id .entry))

@[simp] theorem asked_zero : s.asked loop id 0 = s := rfl

theorem asked_succ (times : Nat) :
    s.asked loop id (times + 1) = (s.get loop id).1.asked loop id times := rfl

theorem sameStore_asked (s : Session) (loop : Bool) (id times : Nat) :
    SameStore s (s.asked loop id times) := by
  induction times generalizing s with
  | zero => exact ⟨rfl, rfl, rfl⟩
  | succ times ih => exact (sameStore_get s loop id).trans (ih (s.get loop id).1)

theorem get_found (hdocument : s.document? id = some document) :
    (s.get loop id).2 = if isNamed document then s.entry? id else none := by
  cases hnamed : isNamed document with
  | false => rw [get_unnamed hdocument hnamed, if_neg Bool.false_ne_true]
  | true => rw [get_entry hdocument hnamed, if_pos rfl]

theorem track_of_mem (h : id ∈ s.tracked) : s.track id = s :=
  if_pos (List.contains_iff_mem.mpr h)

theorem wants_congr {s' : Session} (hstore : SameStore s s') (hguard : s'.guard = s.guard) :
    Wants s' document ↔ Wants s document := by
  have hentry := hstore.entry_eq document.id
  constructor
  · rintro ⟨hnamed, hstale, hfree⟩
    exact ⟨hnamed, hentry ▸ hstale, hguard ▸ hfree⟩
  · rintro ⟨hnamed, hstale, hfree⟩
    exact ⟨hnamed, hentry ▸ hstale, hguard ▸ hfree⟩

/-- After a query with a loop no refresh is wanted any more. -/
theorem not_wants_get (hdocument : s.document? id = some document) :
    ¬Wants (s.get true id).1 document := by
  intro hwants
  obtain ⟨hschedules, hsame⟩ := get_schedules_iff hdocument
  by_cases hbefore : Wants s document
  · have hclaimed : (s.get true id).1.guard.contains document.id = true := by
      rw [document?_id hdocument, (hschedules hbefore).guard]
      exact Guard.contains_iff.mpr (Guard.mem_mark.mpr (.inr rfl))
    rw [hwants.free] at hclaimed
    cases hclaimed
  · exact hbefore ((wants_congr (sameStore_get s true id) (hsame hbefore).guard).mp hwants)

/-- A document that is tracked and of which no refresh is wanted can be asked about with no
effect. -/
theorem asked_of_settled (hdocument : s.document? id = some document)
    (htracked : id ∈ s.tracked) (hsettled : ¬Wants s document) (times : Nat) :
    s.asked loop id times = s := by
  have hget : (s.get loop id).1 = s := by
    cases hnamed : isNamed document with
    | false => rw [get_unnamed hdocument hnamed]
    | true => rw [get_settled hdocument hnamed hsettled, track_of_mem htracked]
  induction times with
  | zero => rfl
  | succ times ih => rw [asked_succ, hget, ih]

theorem asked_of_unnamed (hdocument : s.document? id = some document)
    (hunnamed : isNamed document = false) (times : Nat) : s.asked loop id times = s := by
  induction times with
  | zero => rfl
  | succ times ih => rw [asked_succ, get_unnamed hdocument hunnamed, ih]

/-- With a loop the queries after the first have no effect. -/
theorem asked_with_loop (hdocument : s.document? id = some document) (times : Nat) :
    s.asked true id (times + 1) = (s.get true id).1 := by
  cases hnamed : isNamed document with
  | false => rw [asked_of_unnamed hdocument hnamed, get_unnamed hdocument hnamed]
  | true =>
    have hlater : (s.get true id).1.document? id = some document :=
      ((sameStore_get s true id).document? id).trans hdocument
    have htracked : id ∈ (s.get true id).1.tracked :=
      mem_tracked_get s (.inr ⟨rfl, by rw [hdocument, Option.any_some, hnamed]⟩)
    exact asked_of_settled hlater htracked (not_wants_get hdocument) _

/-- The first query tracks the document, if it has a name. -/
theorem get_track (hdocument : s.document? id = some document) (hnamed : isNamed document = true) :
    (s.track id).get loop id = s.get loop id := by
  have hstore := sameStore_track s id
  have htrack : (s.track id).document? id = some document := (hstore.document? id).trans hdocument
  have hsame : (s.track id).track id = s.track id := track_of_mem (mem_tracked_track s (.inr rfl))
  have hiff : Wants (s.track id) document ↔ Wants s document :=
    wants_congr hstore (sameWork_track s id).guard
  by_cases hwants : Wants s document
  · rw [get_wanted htrack (hiff.mpr hwants), get_wanted hdocument hwants, hsame,
      hstore.entry_eq]
  · rw [get_settled htrack hnamed (mt hiff.mp hwants), get_settled hdocument hnamed hwants, hsame,
      hstore.entry_eq]

theorem asked_track (hdocument : s.document? id = some document) (hnamed : isNamed document = true)
    (times : Nat) : (s.track id).asked loop id (times + 1) = s.asked loop id (times + 1) := by
  rw [asked_succ, asked_succ, get_track hdocument hnamed]

/-- Without a loop each query for a document that is tracked and wants a refresh tells so. -/
theorem asked_without_loop (hdocument : s.document? id = some document) (h : Wants s document)
    (htracked : id ∈ s.tracked) (times : Nat) :
    s.asked false id times =
      s.say (List.replicate times (unscheduledLine document "no running event loop")) := by
  induction times generalizing s with
  | zero => simp [say]
  | succ times ih =>
    have hget : (s.get false id).1 = s.say [unscheduledLine document "no running event loop"] := by
      rw [get_wanted hdocument h, track_of_mem htracked, trigger_without_loop h.free]
    have hlater : Wants (s.say [unscheduledLine document "no running event loop"]) document :=
      (wants_congr (sameStore_say s _) (sameWork_say s _).guard).mpr h
    rw [asked_succ, hget, ih (s := s.say _) hdocument hlater htracked]
    simp [say, List.replicate_succ]

/-- Without a loop queries leave refreshes as they are. -/
theorem sameWork_asked (hdocument : s.document? id = some document) (times : Nat) :
    SameWork s (s.asked false id times) := by
  induction times generalizing s with
  | zero => exact .refl s
  | succ times ih =>
    have hget : SameWork s (s.get false id).1 := by
      cases hnamed : isNamed document with
      | false =>
        rw [get_unnamed hdocument hnamed]
        exact .refl s
      | true =>
        by_cases hwants : Wants s document
        · have htrack := sameWork_track s id
          have hfree : (s.track id).guard.contains document.id = false :=
            htrack.guard ▸ hwants.free
          rw [get_wanted hdocument hwants, trigger_without_loop hfree]
          exact htrack.trans (sameWork_say _ _)
        · rw [get_settled hdocument hnamed hwants]
          exact sameWork_track s id
    exact hget.trans (ih (((sameStore_get s false id).document? id).trans hdocument))

/-- Queries for one document, one after another, are all answered with the same entry. With a loop
the first leaves what all of them leave, and it schedules a refresh exactly if one is wanted. Without
a loop entries and refreshes stay as they are: the document is tracked, and each time that a refresh
is wanted the log tells of it. For a document without a name nothing changes at all. -/
theorem asking_again_changes_nothing (s : Session) {id : Nat} {document : Document}
    (hdocument : s.document? id = some document) (times : Nat) :
    (∀ loop, ((s.asked loop id times).get loop id).2 =
      if isNamed document then s.entry? id else none) ∧
    s.asked true id (times + 1) = (s.get true id).1 ∧
    (Wants s document → Schedules id s (s.get true id).1) ∧
    (¬Wants s document → SameWork s (s.get true id).1) ∧
    (∀ loop, SameStore s (s.asked loop id times)) ∧ SameWork s (s.asked false id times) ∧
    (Wants s document → s.asked false id (times + 1) = (s.track id).say
      (List.replicate (times + 1) (unscheduledLine document "no running event loop"))) ∧
    (isNamed document = true → ¬Wants s document →
      s.asked false id (times + 1) = s.track id) ∧
    (isNamed document = false → ∀ loop, s.asked loop id times = s) := by
  obtain ⟨hschedules, hsame⟩ := get_schedules_iff hdocument
  have hstore (loop : Bool) := sameStore_asked s loop id times
  have htrack : (s.track id).document? id = some document :=
    ((sameStore_track s id).document? id).trans hdocument
  have htracked : id ∈ (s.track id).tracked := mem_tracked_track s (.inr rfl)
  have hiff : Wants (s.track id) document ↔ Wants s document :=
    wants_congr (sameStore_track s id) (sameWork_track s id).guard
  refine ⟨fun loop => ?_, asked_with_loop hdocument times, hschedules, hsame, hstore,
    sameWork_asked hdocument times, fun hwants => ?_, fun hnamed hsettled => ?_,
    fun hunnamed _ => asked_of_unnamed hdocument hunnamed times⟩
  · rw [get_found (((hstore loop).document? id).trans hdocument), (hstore loop).entry_eq]
  · rw [← asked_track hdocument hwants.named,
      asked_without_loop htrack (hiff.mpr hwants) htracked]
  · rw [← asked_track hdocument hnamed, asked_of_settled htrack htracked (mt hiff.mp hsettled)]

section Stale

open Refresh (bareBase pythonFile)

/-- A document with an entry that is no longer current. -/
def outdated : Session :=
  (open_ {} bareBase .empty).run [.add pythonFile true, .query false 0 .entry,
    .publish ⟨0, some "/w/a.py", "/w/a.py", 0, .empty⟩, .edit 0 (.setText ['x'])]

theorem outdated_document_is_scheduled_once :
    outdated.document? 0 = some { pythonFile with lines := [['x']], revision := 1 } ∧
    (outdated.asked true 0 3).requests = [0] ∧ (outdated.asked false 0 2).requests = [] ∧
    ((outdated.asked false 0 2).get false 0).2 =
      some ⟨0, some "/w/a.py", "/w/a.py", 0, .empty⟩ := by
  have hdocument : outdated.document? 0 =
      some { pythonFile with lines := [['x']], revision := 1 } := by decide +kernel
  have hwants : Wants outdated { pythonFile with lines := [['x']], revision := 1 } :=
    ⟨by decide +kernel, by decide +kernel, by decide +kernel⟩
  obtain ⟨-, hloop, hschedules, -⟩ := asking_again_changes_nothing outdated hdocument 2
  obtain ⟨hfound, -, -, -, -, hwork, -⟩ := asking_again_changes_nothing outdated hdocument 2
  refine ⟨hdocument, ?_, hwork.requests.trans (by decide +kernel), ?_⟩
  · rw [hloop, (hschedules hwants).requests]
    decide +kernel
  · rw [hfound]
    decide +kernel

end Stale

end Gutter.Session
