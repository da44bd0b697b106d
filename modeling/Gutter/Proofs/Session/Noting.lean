import Gutter.Proofs.Refresh.Course
import Gutter.Proofs.Session.Claims

/-! What refreshes note: once started, a refresh holds on to what it noted of its document, and the
entry that it comes to is of that. -/

namespace Gutter

namespace Refresh

/-- The refresh has not started, or `P` holds of what it noted. -/
def Stage.Notes (P : Snapshot → Prop) (stage : Stage) : Prop :=
  stage = .waiting ∨ ∃ now, stage.Follows now ∧ P now

section Notes

variable {P : Snapshot → Prop} {settings : Settings} {stage : Stage}

theorem notes_receive (h : stage.Notes P) (index : Nat) (outcome : Outcome) :
    (receive settings index outcome stage).stage.Notes P := by
  obtain rfl | ⟨now, hfollows, hnow⟩ := h
  · exact .inl rfl
  · exact .inr ⟨now, follows_receive hfollows index outcome, hnow⟩

theorem notes_resume (h : stage.Notes P) : (resume settings stage).stage.Notes P := by
  obtain rfl | ⟨now, hfollows, hnow⟩ := h
  · exact .inl rfl
  · exact .inr ⟨now, follows_resume hfollows, hnow⟩

theorem notes_start {base : Path.Base} {registry : Registry} {document : Document}
    (hnow : ∀ now, snapshot base registry document = .ok now → P now)
    (hgoes : ∀ e, (start settings base registry document).stage ≠ .failed e) :
    (start settings base registry document).stage.Notes P := by
  cases h : snapshot base registry document with
  | error e => exact (hgoes e (start_of_error h)).elim
  | ok now => exact .inr ⟨now, follows_start h, hnow now h⟩

theorem entry_of_notes {entry : Entry} (h : (Stage.completed entry).Notes P) :
    ∃ now set, P now ∧ entry = now.entry set := by
  obtain h | ⟨now, ⟨set, hentry⟩, hnow⟩ := h
  · cases h
  · exact ⟨now, set, hnow, hentry⟩

end Notes

end Refresh

namespace Session

open Refresh (Stage Snapshot)

/-- How a refresh comes to its next stage: it starts, a run for it ends, or a pause does. -/
inductive Takes (s : Session) (task : Task) : Stage → Prop
  | start {document : Document} (hdocument : s.document? task.document = some document) :
    Takes s task (Refresh.start s.settings s.base s.registry document).stage
  | receive (index : Nat) (outcome : Outcome) :
    Takes s task (Refresh.receive s.settings index outcome task.stage).stage
  | resume : Takes s task (Refresh.resume s.settings task.stage).stage

/-- What a refresh notes of a document that is there satisfies `P` together with its number. -/
def Heeds (P : Nat → Snapshot → Prop) (s : Session) : Prop :=
  ∀ id document base registry now, s.document? id = some document →
    Refresh.snapshot base registry document = .ok now → P id now

/-- What refreshes have noted satisfies `P` together with the numbers of their documents. -/
def Noting (P : Nat → Snapshot → Prop) (s : Session) : Prop :=
  ∀ task ∈ s.tasks, task.stage.Notes (P task.document)

namespace Noting

variable {P : Nat → Snapshot → Prop} {s s' : Session}

theorem same (h : Noting P s) (hsame : SameClaims s s') : Noting P s' :=
  fun task hm => h task (hsame.tasks ▸ hm)

theorem imp {Q : Nat → Snapshot → Prop} (h : Noting P s)
    (himp : ∀ task ∈ s.tasks, ∀ now, P task.document now → Q task.document now) : Noting Q s := by
  intro task hm
  refine (h task hm).imp_right ?_
  rintro ⟨now, hfollows, hnow⟩
  exact ⟨now, hfollows, himp task hm now hnow⟩

theorem schedules (h : Noting P s) {id : Nat} (hnew : Schedules id s s') : Noting P s' := by
  intro task hm
  rw [hnew.tasks] at hm
  obtain hm | hm := List.mem_append.mp hm
  · exact h task hm
  · rw [List.mem_singleton.mp hm]
    exact .inl rfl

theorem takes (h : Noting P s) (hheeds : Heeds P s) {task : Task} (hm : task ∈ s.tasks)
    {stage : Stage} (htakes : Takes s task stage) (hgoes : ∀ e, stage ≠ .failed e) :
    stage.Notes (P task.document) := by
  cases htakes with
  | start hdocument =>
    exact Refresh.notes_start (fun now hnow => hheeds _ _ _ _ now hdocument hnow) hgoes
  | receive index outcome => exact Refresh.notes_receive (h task hm) index outcome
  | resume => exact Refresh.notes_resume (h task hm)

theorem turns (h : Noting P s) (hheeds : Heeds P s) {task : Task} (hm : task ∈ s.tasks)
    {stage : Stage} (htakes : Takes s task stage) {more : List Run}
    (hturn : Turns task stage more s s') : Noting P s' := by
  intro t ht
  obtain ⟨rfl, hgoes⟩ | ⟨ht, -⟩ := hturn.mem_tasks ht
  · refine h.takes hheeds hm htakes ?_
    rintro e rfl
    cases hgoes
  · exact h t ht

theorem does (h : Noting P s) (hheeds : Heeds P s) {event : Event} (hdoes : Does s s' event) :
    Noting P s' := by
  cases hdoes with
  | rest hsame => exact h.same hsame.toSameClaims
  | schedules id hnew => exact h.schedules hnew
  | launches _ hsame => exact h.same hsame
  | starts htask _ hdocument hstage hturn =>
    exact h.turns hheeds htask (hstage ▸ .start hdocument) hturn
  | ends _ _ _ hsame => exact h.same hsame
  | @receives run outcome task stage _ _ htask _ hstage hturn =>
    have hwithout : Noting P (s.without run) := h
    exact hwithout.turns hheeds htask (hstage ▸ .receive run.index outcome) hturn
  | resumes htask _ hstage hturn => exact h.turns hheeds htask (hstage ▸ .resume) hturn

end Noting

/-- A refresh notes the number of its own document. -/
def Own (id : Nat) (now : Snapshot) : Prop := now.document = id

section Own

theorem heeds_own (s : Session) : Heeds Own s :=
  fun _ _ _ _ _ hdocument hnow => (Refresh.snapshot_document hnow).1.trans (document?_id hdocument)

/-- What a refresh comes to is an entry of its own document. -/
theorem Noting.document_eq {s : Session} (h : Noting Own s) {task : Task} (hm : task ∈ s.tasks)
    {stage : Stage} (htakes : Takes s task stage) {entry : Entry}
    (hstage : stage = .completed entry) : entry.document = task.document := by
  subst hstage
  have hnotes := h.takes (heeds_own s) hm htakes fun e he => by cases he
  obtain ⟨now, set, hnow, rfl⟩ := Refresh.entry_of_notes hnotes
  exact hnow

theorem noting_own (settings : Settings) (base : Path.Base) (registry : Registry)
    (events : List Event) : Noting Own ((open_ settings base registry).run events) := by
  suffices h : ∀ s, Noting Own s → Noting Own (s.run events) from
    h _ fun _ hm => (List.not_mem_nil hm).elim
  induction events with
  | nil => exact fun _ h => h
  | cons event events ih =>
    exact fun s h => ih (s.step event) (h.does (heeds_own s) (does_step s event))

end Own

end Session

end Gutter
