import Gutter.Proofs.Session.Keeping
import Gutter.Proofs.Session.Noting

/-! Documents that settle: once each refresh of a document is for its revision, and there is one or
its entry is current, no refresh of it is scheduled any more, and the entry that is there in the end
is current. -/

namespace Gutter.Session

open Refresh (Stage Snapshot Turn)

/-- The document is there with a name and with the revision. -/
def Named (id revision : Nat) (s : Session) : Prop :=
  ∃ document, s.document? id = some document ∧ isNamed document = true ∧
    document.revision = revision

/-- There is an entry of the document for the revision. -/
def HasEntry (id revision : Nat) (s : Session) : Prop :=
  ∃ entry, s.entry? id = some entry ∧ entry.revision = revision

/-- A refresh of the document `id` notes the revision. -/
def Fresh (id revision other : Nat) (now : Snapshot) : Prop := other = id → now.revision = revision

/-- Refreshes of the document are for the revision, and without one its entry is. -/
structure Settling (id revision : Nat) (s : Session) : Prop where
  fresh : Noting (Fresh id revision) s
  present : (∃ task ∈ s.tasks, task.document = id) ∨ HasEntry id revision s

section Settling

variable {id revision other : Nat} {s s' : Session}

theorem heeds_fresh (h : Named id revision s) : Heeds (Fresh id revision) s := by
  rintro other document base registry now hdocument hnow rfl
  obtain ⟨named, hd, -, hrevision⟩ := h
  rw [hdocument] at hd
  cases hd
  exact (Refresh.snapshot_document hnow).2.trans hrevision

theorem Keeps.named (h : Keeps id s s') (hnamed : Named id revision s) : Named id revision s' := by
  obtain ⟨document, hd, hrest⟩ := hnamed
  exact ⟨document, h.document.trans hd, hrest⟩

theorem Keeps.hasEntry (h : Keeps id s s') (hentry : HasEntry id revision s) :
    HasEntry id revision s' := by
  obtain ⟨entry, he, hrevision⟩ := hentry
  exact ⟨entry, h.entry.trans he, hrevision⟩

theorem hasCurrent_iff {document : Document} (hd : s.document? id = some document)
    (hrevision : document.revision = revision) :
    s.hasCurrent document = true ↔ HasEntry id revision s := by
  unfold hasCurrent HasEntry
  rw [document?_id hd, Option.any_eq_true]
  simp only [Entry.isCurrent, decide_eq_true_eq, hrevision]

theorem Exclusive.free (h : Exclusive s) (hfree : s.guard.contains id = false) {task : Task}
    (hm : task ∈ s.tasks) : task.document ≠ id := by
  rintro rfl
  have hguard := Guard.contains_iff.mpr ((h.guard task.document).mpr ⟨task, hm, rfl⟩)
  rw [hfree] at hguard
  cases hguard

namespace Settling

theorem same (h : Settling id revision s) (hsame : SameClaims s s')
    (hentry : HasEntry id revision s → HasEntry id revision s') : Settling id revision s' where
  fresh := h.fresh.same hsame
  present := by
    rw [hsame.tasks]
    exact h.present.imp_right hentry

/-- A refresh of another document changes nothing. -/
theorem schedules (h : Settling id revision s) (hnew : Schedules other s s')
    (hentry : HasEntry id revision s → HasEntry id revision s') : Settling id revision s' where
  fresh := h.fresh.schedules hnew
  present := by
    rw [hnew.tasks]
    refine h.present.imp ?_ hentry
    rintro ⟨task, hm, hd⟩
    exact ⟨task, List.mem_append_left _ hm, hd⟩

/-- One of the document itself is not scheduled: it is refreshed already, or its entry is
current. -/
theorem not_schedules (h : Settling id revision s) (hexclusive : Exclusive s)
    (hnamed : Named id revision s) : ¬Schedules id s s' := by
  intro hnew
  obtain ⟨task, hm, hd⟩ | hentry := h.present
  · exact hexclusive.free hnew.free hm hd
  · obtain ⟨document, hd, -, hrevision⟩ := hnamed
    have hcurrent := (hasCurrent_iff hd hrevision).mpr hentry
    rw [hnew.stale document hd] at hcurrent
    cases hcurrent

/-- A document settles when a refresh of it is scheduled. -/
theorem of_schedules (hexclusive : Exclusive s) (hnoting : Noting Own s)
    (hnew : Schedules id s s') : Settling id revision s' where
  fresh := by
    refine Noting.schedules (fun task hm => ?_) hnew
    refine (hnoting task hm).imp_right ?_
    rintro ⟨now, hfollows, -⟩
    exact ⟨now, hfollows, fun he => (hexclusive.free hnew.free hm he).elim⟩
  present := .inl ⟨_, hnew.tasks ▸ List.mem_append_right _ List.mem_cons_self, rfl⟩

/-- A turn of a refresh of the document leads on, or to an entry for the revision. -/
theorem takeTurn (h : Settling id revision s) (hexclusive : Exclusive s) (hnoting : Noting Own s)
    (hnamed : Named id revision s) (hwaits : Waits id s) (htracked : id ∈ s.tracked) {task : Task}
    (hm : task ∈ s.tasks) {turn : Turn} (htakes : Takes s task turn.stage)
    (hgoes : task.document = id → ∀ e, turn.stage ≠ .failed e) :
    Settling id revision (s.takeTurn task turn) := by
  have hturn := turns_takeTurn s task turn
  refine ⟨h.fresh.turns (heeds_fresh hnamed) hm htakes hturn, ?_⟩
  by_cases hentry : ∃ entry, turn.stage = .completed entry ∧ entry.document = id
  · obtain ⟨entry, hstage, hd⟩ := hentry
    have htask := (hnoting.document_eq hm htakes hstage).symm.trans hd
    have hnotes := h.fresh.takes (heeds_fresh hnamed) hm htakes (hgoes htask)
    rw [hstage] at hnotes
    obtain ⟨now, set, hnow, hrest⟩ := Refresh.entry_of_notes hnotes
    refine .inr ⟨entry, (entry_takeTurn hwaits task hstage hd htracked).2.1, ?_⟩
    rw [hrest]
    exact hnow htask
  · have hkeeps := keeps_takeTurn hwaits task fun entry hstage hd => hentry ⟨entry, hstage, hd⟩
    obtain ⟨t, ht, hd⟩ | hold := h.present
    · left
      by_cases hn : t.number = task.number
      · obtain rfl := hexclusive.eq_of_number ht hm hn
        obtain hgo | hend := hturn
        · exact ⟨_, hgo.mem_self hm, hd⟩
        · have hover := hend.stops
          cases hstage : turn.stage with
          | completed entry =>
            exact (hentry ⟨entry, hstage, (hnoting.document_eq hm htakes hstage).trans hd⟩).elim
          | failed e => exact (hgoes hd e hstage).elim
          | _ =>
            rw [hstage] at hover
            cases hover
      · exact ⟨t, hturn.mem_of_ne ht hn, hd⟩
    · exact .inr (hkeeps.hasEntry hold)

end Settling

end Settling

end Gutter.Session
