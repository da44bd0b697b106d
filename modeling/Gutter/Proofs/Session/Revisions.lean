import Gutter.Proofs.Session.Current
import Gutter.Proofs.Session.Entries
import Gutter.Proofs.Session.Records

/-! Revisions of entries: they never fall, and they never pass those of the documents. An entry for
the revision that its document has is of the text that the document has, and of the name that it had
when the refresh started. -/

namespace Gutter.Session

open Refresh (Snapshot Told)

/-- The documents that are there have been issued. -/
def Issued (s : Session) : Prop :=
  ∀ id document, s.document? id = some document → id ∈ s.issued

/-- The document has come to the revision. It may have gone since. -/
structure Reached (id revision : Nat) (s : Session) : Prop where
  issued : id ∈ s.issued
  least : ∀ document, s.document? id = some document → revision ≤ document.revision

section Reached

variable {id revision : Nat} {s : Session} {document : Document}

theorem Issued.open_ (settings : Settings) (base : Path.Base) (registry : Registry) :
    Issued (open_ settings base registry) := nofun

theorem Issued.step (h : Issued s) (event : Event) : Issued (s.step event) := by
  intro id document hdocument
  obtain ⟨old, hold, -⟩ | ⟨-, hnew⟩ := document?_step hdocument
  · exact issued_step (h id old hold)
  · exact hnew

theorem Issued.run (h : Issued s) (events : List Event) : Issued (s.run events) := by
  induction events generalizing s with
  | nil => exact h
  | cons event events ih => exact ih (h.step event)

theorem Issued.reached (h : Issued s) (hdocument : s.document? id = some document) :
    Reached id document.revision s where
  issued := h id document hdocument
  least := by
    intro other hother
    rw [hdocument] at hother
    cases hother
    exact le_rfl

theorem Reached.step (h : Reached id revision s) (event : Event) :
    Reached id revision (s.step event) where
  issued := issued_step h.issued
  least := by
    intro document hdocument
    obtain ⟨old, hold, rfl⟩ | ⟨hnot, -⟩ := document?_step hdocument
    · exact (h.least old hold).trans (old.revision_le_after _)
    · exact (hnot h.issued).elim

/-- A document that was issued is changed only by its own changes. -/
theorem document?_run {events : List Event} (hissued : id ∈ s.issued)
    (h : (s.run events).document? id = some document) :
    ∃ old, s.document? id = some old ∧ document = old.after (changesOf id events) := by
  induction events generalizing s with
  | nil => exact ⟨document, h, rfl⟩
  | cons event events ih =>
    obtain ⟨mid, hmid, rfl⟩ := ih (issued_step hissued) h
    obtain ⟨old, hold, rfl⟩ | ⟨hnot, -⟩ := document?_step hmid
    · refine ⟨old, hold, ?_⟩
      rw [← Document.after_append, changesOf, changesOf, ← List.filterMap_append]
      rfl
    · exact (hnot hissued).elim

end Reached

/-! ### Revisions that never fall -/

/-- A refresh of the document `id` notes no revision below. -/
def AtLeast (id revision other : Nat) (now : Snapshot) : Prop :=
  other = id → revision ≤ now.revision

/-- The document, its entry and the refreshes of it are for no revision below. -/
structure Floor (id revision : Nat) (s : Session) : Prop where
  reached : Reached id revision s
  noting : Noting (AtLeast id revision) s
  entry : ∀ entry, s.entry? id = some entry → revision ≤ entry.revision

namespace Floor

variable {id revision : Nat} {s : Session} {event : Event}

theorem heeds (h : Floor id revision s) : Heeds (AtLeast id revision) s := by
  rintro other document base registry now hdocument hnow rfl
  rw [(Refresh.snapshot_document hnow).2]
  exact h.reached.least document hdocument

theorem completes (h : Floor id revision s) (hown : Noting Own s) {s' : Session} {task : Task}
    {entry : Entry} (hcompletes : Completes s s' task entry) (hid : entry.document = id) :
    revision ≤ entry.revision := by
  have htask := hown.document_eq hcompletes.mem hcompletes.takes rfl
  have hnotes := h.noting.takes h.heeds hcompletes.mem hcompletes.takes nofun
  obtain ⟨now, set, hnow, rfl⟩ := Refresh.entry_of_notes hnotes
  exact hnow (htask.symm.trans hid)

theorem step (h : Floor id revision s) (hown : Noting Own s)
    (hpublish : ∀ entry, event ≠ .publish entry) : Floor id revision (s.step event) where
  reached := h.reached.step event
  noting := h.noting.does h.heeds (does_step s event)
  entry := by
    intro entry hentry
    obtain hold | hevent | hcompleted := entry?_step hentry
    · exact h.entry entry hold
    · exact (hpublish entry hevent).elim
    · obtain ⟨⟨task, hcompletes⟩, -⟩ := completes_of_completed? s hcompleted
      exact h.completes hown hcompletes (mem_of_found hentry).2

theorem run {events : List Event} (h : Floor id revision s) (hown : Noting Own s)
    (hpublish : ∀ entry, .publish entry ∉ events) : Floor id revision (s.run events) := by
  induction events generalizing s with
  | nil => exact h
  | cons event events ih =>
    refine ih (h.step hown ?_) (hown.does (heeds_own s) (does_step s event)) ?_
    · rintro entry rfl
      exact hpublish entry List.mem_cons_self
    · exact fun entry hm => hpublish entry (List.mem_cons_of_mem _ hm)

end Floor

/-- Refreshes note revisions that their documents have come to, and the revision of every entry is a
floor for what comes after it. -/
structure Forward (s : Session) : Prop where
  exclusive : Exclusive s
  own : Noting Own s
  issued : Issued s
  noting : Noting (fun id now => Reached id now.revision s) s
  floor : ∀ id entry, s.entry? id = some entry → Floor id entry.revision s

namespace Forward

variable {s : Session} {event : Event}

theorem open_ (settings : Settings) (base : Path.Base) (registry : Registry) :
    Forward (open_ settings base registry) where
  exclusive := .open_ settings base registry
  own := nofun
  issued := nofun
  noting := nofun
  floor := nofun

theorem heeds (h : Forward s) : Heeds (fun id now => Reached id now.revision s) s := by
  intro id document base registry now hdocument hnow
  rw [(Refresh.snapshot_document hnow).2]
  exact h.issued.reached hdocument

/-- The one refresh of the document has ended with its entry, so that none is left that could be for
a revision below. -/
theorem completes (h : Forward s) {task : Task} {entry : Entry}
    (hcompletes : Completes s (s.step event) task entry)
    (hentry : Session.entry? (s.step event) entry.document = some entry) :
    Floor entry.document entry.revision (s.step event) where
  reached := by
    have htask := h.own.document_eq hcompletes.mem hcompletes.takes rfl
    have hnotes := h.noting.takes h.heeds hcompletes.mem hcompletes.takes nofun
    obtain ⟨now, set, hnow, rfl⟩ := Refresh.entry_of_notes hnotes
    rw [htask]
    exact hnow.step event
  noting := by
    have hown := h.own.does (heeds_own s) (does_step s event)
    refine hown.imp fun other hm now _ hother => ?_
    rw [hcompletes.tasks] at hm
    obtain ⟨hm, hne⟩ := List.mem_filter.mp hm
    have htask := h.own.document_eq hcompletes.mem hcompletes.takes rfl
    have hsame := h.exclusive.eq_of_document hm hcompletes.mem (hother.trans htask)
    rw [hsame] at hne
    exact (of_decide_eq_true hne rfl).elim
  entry := by
    intro other hother
    rw [hentry] at hother
    cases hother
    exact le_rfl

theorem step (h : Forward s) (hpublish : ∀ entry, event ≠ .publish entry) :
    Forward (s.step event) where
  exclusive := h.exclusive.does (does_step s event)
  own := h.own.does (heeds_own s) (does_step s event)
  issued := h.issued.step event
  noting := (h.noting.does h.heeds (does_step s event)).imp fun _ _ _ hnow => hnow.step event
  floor := by
    intro id entry hentry
    obtain hold | hevent | hcompleted := entry?_step hentry
    · exact (h.floor id entry hold).step h.own hpublish
    · exact (hpublish entry hevent).elim
    · obtain ⟨⟨task, hcompletes⟩, -⟩ := completes_of_completed? s hcompleted
      obtain rfl := (mem_of_found hentry).2
      exact h.completes hcompletes hentry

theorem run {events : List Event} (h : Forward s) (hpublish : ∀ entry, .publish entry ∉ events) :
    Forward (s.run events) := by
  induction events generalizing s with
  | nil => exact h
  | cons event events ih =>
    refine ih (h.step ?_) fun entry hm => hpublish entry (List.mem_cons_of_mem _ hm)
    rintro entry rfl
    exact hpublish entry List.mem_cons_self

end Forward

/-- In a session in which only refreshes publish entries, the revision of an entry is never above
that of its document, and no entry of the document that is there later is for a revision below. -/
theorem revisions_never_fall (settings : Settings) (base : Path.Base) (registry : Registry)
    {events later : List Event} (hpublish : ∀ entry, .publish entry ∉ events ++ later) {id : Nat}
    {entry : Entry}
    (hentry : Session.entry? ((open_ settings base registry).run events) id = some entry) :
    (∀ document, ((open_ settings base registry).run events).document? id = some document →
      entry.revision ≤ document.revision) ∧
    ∀ newer, Session.entry? ((open_ settings base registry).run (events ++ later)) id =
      some newer → entry.revision ≤ newer.revision := by
  have hforward : Forward ((open_ settings base registry).run events) :=
    (Forward.open_ settings base registry).run fun other hm =>
      hpublish other (List.mem_append_left _ hm)
  have hfloor := hforward.floor id entry hentry
  refine ⟨hfloor.reached.least, fun newer hnewer => ?_⟩
  rw [run_append] at hnewer
  exact (hfloor.run hforward.own fun other hm =>
    hpublish other (List.mem_append_right _ hm)).entry newer hnewer

section Reopened

open Refresh (teller bareBase pythonFile)

/-- A document is asked about, and its refresh ends. -/
def answered : List Event :=
  [.add pythonFile true, .query true 0 .all, .start 0, plainEnds 0, .settle 0]

/-- The document is edited and asked about again. While the refresh for that runs, it is edited,
closed and asked about once more. -/
def reopened : List Event :=
  [.edit 0 (.setText ['x']), .query true 0 .all, .start 1, .edit 0 (.setText ['y']), .close 0,
    .query true 0 .all, plainEnds 1, .settle 1]

theorem reopened_document_goes_on :
    let s := (open_ {} bareBase ⟨[teller "plain"]⟩).run answered
    let later := (open_ {} bareBase ⟨[teller "plain"]⟩).run (answered ++ reopened)
    (∀ entry, .publish entry ∉ answered ++ reopened) ∧
    (later.document? 0).map (·.revision) = some 2 ∧
    ∃ entry newer, Session.entry? s 0 = some entry ∧ Session.entry? later 0 = some newer ∧
      newer.revision = 1 ∧ entry.revision ≤ newer.revision := by
  intro s later
  have hpublish : ∀ entry, .publish entry ∉ answered ++ reopened := by
    intro entry hm
    simp [answered, reopened, plainEnds] at hm
  have hentry : Session.entry? s 0 = some
      ⟨0, some "/w/a.py", "/w/a.py", 0, ⟨[(3, [⟨3, 1, "unused", some "plain"⟩])]⟩⟩ := by
    decide +kernel
  have hnewer : Session.entry? later 0 = some
      ⟨0, some "/w/a.py", "/w/a.py", 1, ⟨[(3, [⟨3, 1, "unused", some "plain"⟩])]⟩⟩ := by
    decide +kernel
  exact ⟨hpublish, by decide +kernel, _, _, hentry, hnewer, rfl,
    (revisions_never_fall {} bareBase ⟨[teller "plain"]⟩ hpublish hentry).2 _ hnewer⟩

end Reopened

/-! ### Entries that are current -/

section Current

variable {s : Session} {id : Nat} {document : Document} {entry : Entry}

/-- A query that finds an entry finds that of the document. -/
theorem entry?_of_get {loop : Bool} (hdocument : s.document? id = some document)
    (h : (s.get loop id).2 = some entry) : s.entry? id = some entry := by
  cases hnamed : isNamed document with
  | true => rwa [get_entry hdocument hnamed] at h
  | false =>
    unfold get at h
    simp [hdocument, hnamed] at h

/-- A query that finds an entry that is current schedules no refresh. -/
theorem requests_of_current {loop : Bool} (hdocument : s.document? id = some document)
    (hentry : s.entry? id = some entry) (hcurrent : entry.isCurrent document = true) :
    (s.get loop id).1.requests = s.requests := by
  obtain ⟨hsame, -⟩ | hnew := get_work s loop id
  · exact hsame.requests
  · have hstale := hnew.stale document hdocument
    unfold hasCurrent at hstale
    rw [document?_id hdocument, hentry, Option.any_some, hcurrent] at hstale
    cases hstale

end Current

/-- No save among the events gives the document another name than its entry has. -/
def KeepsName (entry : Entry) (events : List Event) : Prop :=
  ∀ path, .rename path ∈ changesOf entry.document events →
    entry.filename = some (Path.normal path)

/-- The document is as it was when the refresh started that its entry comes from, except for its
name. If that is the same too, the warnings come from the linters for the name that it has. -/
structure OfPresent {first : Session} {events : List Event} {entry : Entry}
    (origin : Origin first events entry) (document : Document) : Prop where
  text : document = { origin.document with
    filename := (Document.nameGiven? (changesOf entry.document origin.after)).or entry.filename }
  filename : KeepsName entry origin.after → entry.filename = document.filename
  told : KeepsName entry origin.after →
    Told (Printed origin.number (first.run (origin.before ++ [.start origin.number])) origin.after)
      0 ((first.run origin.before).registry.matching document.filename) origin.lists

theorem Origin.ofPresent {first : Session} {events : List Event} {entry : Entry}
    {document : Document} (origin : Origin first events entry)
    (hissued : Issued (first.run origin.before))
    (hdocument : (first.run events).document? entry.document = some document)
    (hcurrent : entry.isCurrent document = true) : OfPresent origin document := by
  have hchanged : document = origin.document.after (changesOf entry.document origin.after) := by
    rw [origin.history, run_append] at hdocument
    obtain ⟨old, hold, hafter⟩ := document?_run (hissued _ _ origin.present) hdocument
    rw [origin.present] at hold
    cases hold
    exact hafter
  have hrevision : (origin.document.after (changesOf entry.document origin.after)).revision =
      origin.document.revision := by
    rw [← hchanged, ← origin.revision]
    exact (of_decide_eq_true hcurrent).symm
  have htext := hchanged.trans (origin.document.after_eq hrevision)
  rw [← origin.filename] at htext
  have hname (hkeeps : KeepsName entry origin.after) : entry.filename = document.filename := by
    rw [htext]
    cases hgiven : Document.nameGiven? (changesOf entry.document origin.after) with
    | none => rfl
    | some name =>
      obtain ⟨change, hmem, hname⟩ := List.mem_filterMap.mp (List.mem_of_getLast? hgiven)
      cases change with
      | rename path =>
        rw [hkeeps path hmem]
        exact hname
      | _ => cases hname
  refine ⟨htext, hname, fun hkeeps => ?_⟩
  rw [← hname hkeeps, origin.filename]
  exact origin.told

/-- Whenever a query finds an entry that is current, it schedules nothing, and the entry is of the
text that the document has, and of its name unless the document was saved under another since the
refresh started that the entry comes from. -/
theorem current_entries_are_of_present (settings : Settings) (base : Path.Base)
    (registry : Registry) {events : List Event} (hpublish : ∀ entry, .publish entry ∉ events)
    {loop : Bool} {id : Nat} {document : Document} {entry : Entry}
    (hdocument : ((open_ settings base registry).run events).document? id = some document)
    (hentry : (((open_ settings base registry).run events).get loop id).2 = some entry)
    (hcurrent : entry.isCurrent document = true) :
    let first := open_ settings base registry
    let s := first.run events
    (s.get loop id).1.requests = s.requests ∧ entry.document = id ∧
      ∃ origin : Origin first events entry, OfPresent origin document := by
  intro first s
  have hfound : s.entry? id = some entry := entry?_of_get hdocument hentry
  obtain ⟨hm, rfl⟩ := mem_of_found hfound
  obtain ⟨origin⟩ := (served_sets_are_whole settings base registry events hpublish).1 entry hm
  have hissued : Issued (first.run origin.before) :=
    (Issued.open_ settings base registry).run origin.before
  exact ⟨requests_of_current hdocument hfound hcurrent, rfl, origin,
    origin.ofPresent hissued hdocument hcurrent⟩

section Renamed

open Refresh (teller bareBase pythonFile)

/-- A document is asked about and then saved. -/
def saved (path : String) : List Event := answered ++ [.edit 0 (.rename path)]

/-- The entry of a document that is saved where it was. -/
theorem saved_document_is_current :
    let first := open_ {} bareBase ⟨[teller "plain"]⟩
    let s := first.run (saved "/w/a.py")
    (∀ entry, .publish entry ∉ saved "/w/a.py") ∧ s.document? 0 = some pythonFile ∧
    ∃ entry, (s.get true 0).2 = some entry ∧ entry.isCurrent pythonFile = true ∧
      (s.get true 0).1.requests = s.requests ∧ entry.document = 0 ∧
      ∃ origin : Origin first (saved "/w/a.py") entry, OfPresent origin pythonFile := by
  intro first s
  have hpublish : ∀ entry, .publish entry ∉ saved "/w/a.py" := by
    intro entry hm
    simp [saved, answered, plainEnds] at hm
  have hdocument : s.document? 0 = some pythonFile := by decide +kernel
  have hentry : (s.get true 0).2 = some
      ⟨0, some "/w/a.py", "/w/a.py", 0, ⟨[(3, [⟨3, 1, "unused", some "plain"⟩])]⟩⟩ := by
    decide +kernel
  subst s first
  exact ⟨hpublish, hdocument, _, hentry, rfl,
    current_entries_are_of_present {} bareBase ⟨[teller "plain"]⟩ hpublish hdocument hentry rfl⟩

/-- The entry of a document that is saved under another name stays current, with the warnings of a
linter that is not for that name. -/
theorem renamed_document_keeps_entry :
    let s := (open_ {} bareBase ⟨[teller "plain"]⟩).run (saved "/w/a.txt")
    s.inFlight = 0 ∧ (s.get true 0).1.requests = s.requests ∧ s.lintersFor 0 = .ok [] ∧
    ∃ document entry, s.document? 0 = some document ∧ (s.get true 0).2 = some entry ∧
      entry.isCurrent document = true ∧ entry.warnings ≠ .empty ∧
      entry.filename = some "/w/a.py" ∧ document.filename = some "/w/a.txt" := by
  intro s
  have hdocument : s.document? 0 = some { pythonFile with filename := some "/w/a.txt" } := by
    decide +kernel
  have hentry : (s.get true 0).2 = some
      ⟨0, some "/w/a.py", "/w/a.py", 0, ⟨[(3, [⟨3, 1, "unused", some "plain"⟩])]⟩⟩ := by
    decide +kernel
  exact ⟨by decide +kernel, by decide +kernel, by decide +kernel, _, _, hdocument, hentry, rfl,
    by decide +kernel, rfl, rfl⟩

end Renamed

end Gutter.Session
