import Gutter.Proofs.Refresh.Batch
import Gutter.Proofs.Session.Calls
import Gutter.Proofs.Session.History
import Mathlib.Data.List.Induction

/-! Every entry is the result of one refresh as a whole: of the name, path, revision and linters
that the refresh noted when it started, and of what the runs for it printed. -/

namespace Gutter

namespace Refresh

/-- The warnings in what was printed for linters, each list in its turn; `place` is that of the
first linter. -/
inductive Told (printed : Nat → Linter → List Char → Prop) :
    Nat → List Linter → List (List Warning) → Prop
  | nil (place : Nat) : Told printed place [] []
  | cons {place : Nat} {linter : Linter} {rest : List Linter} {raw : List Char}
    {warnings : List Warning} {later : List (List Warning)} (hprinted : printed place linter raw)
    (hwarnings : linter.warnings raw = .ok warnings) (htold : Told printed (place + 1) rest later) :
    Told printed place (linter :: rest) (warnings :: later)

theorem told_of_absorbRuns (printed : Nat → Linter → List Char → Prop) {forecast : Forecast}
    {linters : List Linter} {place : Nat} {set result : WarningSet}
    (hprinted : ∀ index linter raw, linters[index]? = some linter →
      (forecast (place + index)).output = .ok raw → printed (place + index) linter raw)
    (h : absorbRuns? forecast place linters set = some result) :
    ∃ lists, Told printed place linters lists ∧ result = set.addAll lists.flatten := by
  induction linters generalizing place set with
  | nil =>
    cases h
    exact ⟨[], .nil place, rfl⟩
  | cons linter rest ih =>
    unfold absorbRuns? at h
    split at h
    · cases h
    next raw hraw =>
      rw [Option.bind_eq_some_iff] at h
      obtain ⟨next, hfirst, hrest⟩ := h
      obtain ⟨warnings, hwarnings, rfl⟩ := Linter.absorb?_findAll.mp hfirst
      obtain ⟨lists, htold, rfl⟩ := ih (fun index other text hindex houtput => by
        rw [show place + 1 + index = place + (index + 1) by omega] at houtput ⊢
        exact hprinted (index + 1) other text hindex houtput) hrest
      have hfirst := hprinted 0 linter raw rfl hraw
      exact ⟨warnings :: lists, .cons hfirst hwarnings htold, by
        rw [List.flatten_cons, WarningSet.addAll_append]⟩

end Refresh

namespace Session

open Refresh (Stage Snapshot Forecast Told)

/-- The refresh `number` of a document came to the stage in the course of events. -/
def ComesFrom (first : Session) (events : List Event) (number document : Nat) (stage : Stage) :
    Prop :=
  ∃ before after now outcomes, events = before ++ .start number :: after ∧
    now.document = document ∧ Traced first before number after now outcomes stage

namespace ComesFrom

variable {first : Session} {events : List Event} {number document : Nat} {stage : Stage}

theorem later (h : ComesFrom first events number document stage) (event : Event) :
    ComesFrom first (events ++ [event]) number document stage := by
  obtain ⟨before, after, now, outcomes, rfl, hdocument, htraced⟩ := h
  exact ⟨before, after ++ [event], now, outcomes, by simp, hdocument, htraced.later event⟩

/-- A refresh that is completed has an entry of its document. -/
theorem document_eq {entry : Entry}
    (h : ComesFrom first events number document (.completed entry)) :
    entry.document = document := by
  obtain ⟨before, after, now, outcomes, -, rfl, htraced⟩ := h
  obtain ⟨set, rfl⟩ := htraced.follows
  rfl

theorem start {task : Task} {document : Document} (hm : task ∈ (first.run events).tasks)
    (hwaits : task.stage = .waiting)
    (hdocument : (first.run events).document? task.document = some document)
    (hstage : stage = (Refresh.start (first.run events).settings (first.run events).base
      (first.run events).registry document).stage)
    (hgoes : ∀ e, stage ≠ .failed e) :
    ComesFrom first (events ++ [.start task.number]) task.number task.document stage := by
  cases hsnapshot :
      Refresh.snapshot (first.run events).base (first.run events).registry document with
  | error e => exact (hgoes e (hstage.trans (Refresh.start_of_error hsnapshot))).elim
  | ok now =>
    have hnow : now.document = task.document :=
      (Refresh.snapshot_document hsnapshot).1.trans (document?_id hdocument)
    refine ⟨events, [], now, fun _ => .refused "", rfl, hnow, ?_⟩
    rw [hstage]
    exact Traced.start ⟨task, document, hm, rfl, hnow.symm, hwaits, hnow ▸ hdocument, hsnapshot⟩
      hsnapshot

theorem receive {run : Run} {outcome : Outcome} (settings : Settings)
    (h : ComesFrom first events number document stage) (hrun : run ∈ (first.run events).runs)
    (hbegun : run.begun = true) (hnumber : run.task = number)
    (hawaits : stage.Awaits run.index run.linter)
    (hgoes : ∀ e, (Refresh.receive settings run.index outcome stage).stage ≠ .failed e) :
    ComesFrom first (events ++ [.finish run outcome]) number document
      (Refresh.receive settings run.index outcome stage).stage := by
  obtain ⟨before, after, now, outcomes, rfl, hdocument, htraced⟩ := h
  exact ⟨before, after ++ [.finish run outcome], now, _, by simp, hdocument,
    htraced.receive settings hawaits hrun hbegun hnumber hgoes⟩

theorem resume (settings : Settings) (h : ComesFrom first events number document stage)
    (event : Event) (hgoes : ∀ e, (Refresh.resume settings stage).stage ≠ .failed e) :
    ComesFrom first (events ++ [event]) number document (Refresh.resume settings stage).stage := by
  obtain ⟨before, after, now, outcomes, rfl, hdocument, htraced⟩ := h
  exact ⟨before, after ++ [event], now, outcomes, by simp, hdocument,
    htraced.resume settings event hgoes⟩

end ComesFrom

/-- Refreshes that have started have come to their stages, and entries are those of refreshes that
were completed. -/
structure Accounted (first : Session) (events : List Event) (s : Session) : Prop where
  tasks : ∀ task ∈ s.tasks, task.stage = .waiting ∨
    ComesFrom first events task.number task.document task.stage
  entries : ∀ entry ∈ s.entries, ∃ number,
    ComesFrom first events number entry.document (.completed entry)

namespace Accounted

variable {first s s' : Session} {events : List Event}

theorem later (h : Accounted first events s) (event : Event) :
    Accounted first (events ++ [event]) s where
  tasks := fun task hm => (h.tasks task hm).imp_right fun hc => hc.later event
  entries := fun entry hm => (h.entries entry hm).imp fun _ hc => hc.later event

theorem of_subset (h : Accounted first events s)
    (htasks : ∀ task ∈ s'.tasks, task ∈ s.tasks ∨ task.stage = .waiting)
    (hentries : ∀ entry ∈ s'.entries, entry ∈ s.entries) : Accounted first events s' where
  tasks := fun task hm => (htasks task hm).elim (h.tasks task) .inl
  entries := fun entry hm => h.entries entry (hentries entry hm)

theorem turns (h : Accounted first events s) {task : Task} {stage : Stage} {more : List Run}
    (hcomes : (∀ e, stage ≠ .failed e) →
      ComesFrom first events task.number task.document stage)
    (hturn : Turns task stage more s s') : Accounted first events s' := by
  refine ⟨fun t ht => ?_, fun entry he => ?_⟩
  · obtain ⟨rfl, hgoes⟩ | ⟨ht, -⟩ := hturn.mem_tasks ht
    · refine .inr (hcomes ?_)
      rintro e rfl
      cases hgoes
    · exact h.tasks t ht
  · obtain he | rfl := hturn.mem_entries he
    · exact h.entries entry he
    · have hc := hcomes fun e => by simp
      exact ⟨task.number, hc.document_eq ▸ hc⟩

theorem does (h : Accounted first events (first.run events))
    (hawaited : Awaited (first.run events)) {event : Event}
    (hpublish : ∀ entry, event ≠ .publish entry)
    (hdoes : Does (first.run events) s' event) :
    Accounted first (events ++ [event]) s' := by
  have hlater := h.later event
  cases hdoes with
  | rest hsame hentries =>
    refine hlater.of_subset (fun task hm => .inl (hsame.tasks ▸ hm)) fun entry hm => ?_
    exact (hentries entry hm).resolve_right (hpublish entry)
  | schedules id hnew hentries =>
    refine hlater.of_subset (fun task hm => ?_) hentries
    rw [hnew.tasks] at hm
    obtain hm | hm := List.mem_append.mp hm
    · exact .inl hm
    · exact .inr (by rw [List.mem_singleton.mp hm])
  | launches _ hsame _ hentries =>
    exact hlater.of_subset (fun task hm => .inl (hsame.tasks ▸ hm)) fun entry hm => hentries ▸ hm
  | ends _ _ _ hsame _ hentries =>
    exact hlater.of_subset (fun task hm => .inl (hsame.tasks ▸ hm)) fun entry hm => hentries ▸ hm
  | starts htask hwaits hdocument hstage hturn =>
    exact hlater.turns (ComesFrom.start htask hwaits hdocument hstage) hturn
  | @receives run outcome task stage hrun hbegun htask hnumber hstage hturn =>
    have hawaits := hawaited.awaits run hrun task htask hnumber
    have hwithout : Accounted first (events ++ [.finish run outcome])
        ((first.run events).without run) := hlater.of_subset (fun _ => .inl) fun _ => id
    refine hwithout.turns (fun hgoes => ?_) hturn
    obtain hwaits | hcomes := h.tasks task htask
    · rw [hwaits] at hawaits
      exact hawaits.elim
    · rw [hstage] at hgoes ⊢
      exact hcomes.receive _ hrun hbegun hnumber.symm hawaits hgoes
  | @resumes task stage htask hparses hstage hturn =>
    obtain ⟨now, set, paused, outputs, rest, hparses⟩ := hparses
    refine hlater.turns (fun hgoes => ?_) hturn
    obtain hwaits | hcomes := h.tasks task htask
    · rw [hwaits] at hparses
      cases hparses
    · rw [hstage] at hgoes ⊢
      exact hcomes.resume _ _ hgoes

end Accounted

/-- The run for the refresh `number` of the linter at `place` printed `raw`. -/
def Printed (number : Nat) (s : Session) (events : List Event) (place : Nat) (linter : Linter)
    (raw : List Char) : Prop :=
  ∃ outcome, outcome.output = .ok raw ∧ Happened (Ends number place linter outcome) s events

/-- How an entry came about: the refresh that started at one instant, the document as it was at that
instant, and the warnings in what each linter printed that was registered then. -/
structure Origin (first : Session) (events : List Event) (entry : Entry) where
  before : List Event
  number : Nat
  after : List Event
  document : Document
  lists : List (List Warning)
  history : events = before ++ .start number :: after
  waits : ∃ task ∈ (first.run before).tasks, task.number = number ∧
    task.document = entry.document ∧ task.stage = .waiting
  present : (first.run before).document? entry.document = some document
  filename : entry.filename = document.filename
  revision : entry.revision = document.revision
  path : Path.ofName (first.run before).base document.filename = .ok entry.path
  told : Told (Printed number (first.run (before ++ [.start number])) after) 0
    ((first.run before).registry.matching document.filename) lists
  warnings : entry.warnings = .ofList lists.flatten

section Origin

variable {first : Session} {events : List Event} {entry : Entry}

theorem origin_of_comesFrom {number : Nat}
    (h : ComesFrom first events number entry.document (.completed entry)) :
    Nonempty (Origin first events entry) := by
  obtain ⟨before, after, now, outcomes, hevents, hdocument, htraced⟩ := h
  obtain ⟨task, document, hm, hnumber, htask, hwaits, hpresent, hsnapshot⟩ := htraced.starts
  have houtlook := htraced.outlook outcomes fun place _ => rfl
  rw [Refresh.outlook_completed, eq_comm, Option.map_eq_some_iff] at houtlook
  obtain ⟨set, hset, rfl⟩ := houtlook
  obtain ⟨lists, htold, rfl⟩ := Refresh.told_of_absorbRuns
    (Printed number (first.run (before ++ [.start number])) after)
    (fun place linter raw hl hraw => ⟨_, hraw, by
      rw [Nat.zero_add]
      exact htraced.ended place linter hl id⟩) hset
  obtain ⟨path, linters, hpath, hlinters, rfl⟩ := Refresh.snapshot_eq_ok.mp hsnapshot
  exact ⟨before, number, after, document, lists, hevents, ⟨task, hm, hnumber, htask, hwaits⟩,
    hpresent, rfl, rfl, hpath, Registry.matching?_eq_ok hlinters ▸ htold, rfl⟩

end Origin

/-- The set has nothing in it, or is that of an entry that came about as a whole. -/
def Sound (first : Session) (events : List Event) (set : WarningSet) : Prop :=
  set = .empty ∨ ∃ entry number, set = entry.warnings ∧
    ComesFrom first events number entry.document (.completed entry)

theorem Accounted.sound {first s : Session} {events : List Event} (h : Accounted first events s)
    {set : WarningSet} (hserved : Served s set) : Sound first events set := by
  obtain hempty | ⟨entry, hm, hset⟩ := hserved
  · exact .inl hempty
  · obtain ⟨number, hcomes⟩ := h.entries entry hm
    exact .inr ⟨entry, number, hset, hcomes⟩

/-- What holds in the course of a session in which only refreshes publish entries. -/
structure Whole (first : Session) (events : List Event) : Prop where
  exclusive : Exclusive (first.run events)
  awaited : Awaited (first.run events)
  accounted : Accounted first events (first.run events)
  answers : ∀ set, .answered set ∈ (first.run events).calls → Sound first events set

namespace Whole

variable {first : Session} {events : List Event}

theorem step (h : Whole first events) {event : Event}
    (hpublish : ∀ entry, event ≠ .publish entry) : Whole first (events ++ [event]) := by
  have hrun : first.run (events ++ [event]) = (first.run events).step event := run_append _ _
  have hdoes := does_step (first.run events) event
  constructor
  · rw [hrun]
    exact h.exclusive.does hdoes
  · rw [hrun]
    exact h.awaited.does h.exclusive hdoes
  · rw [hrun]
    exact h.accounted.does h.awaited hpublish hdoes
  · intro set hm
    rw [hrun] at hm
    have hsound : Sound first events set := (served_step hm).elim (h.answers set) h.accounted.sound
    refine hsound.imp_right ?_
    rintro ⟨entry, number, hset, hcomes⟩
    exact ⟨entry, number, hset, hcomes.later event⟩

theorem run (settings : Settings) (base : Path.Base) (registry : Registry) {events : List Event}
    (hpublish : ∀ entry, .publish entry ∉ events) :
    Whole (open_ settings base registry) events := by
  induction events using List.reverseRecOn with
  | nil =>
    exact ⟨.open_ settings base registry, .open_ settings base registry,
      ⟨fun _ hm => (List.not_mem_nil hm).elim, fun _ hm => (List.not_mem_nil hm).elim⟩,
      fun _ hm => (List.not_mem_nil hm).elim⟩
  | append_singleton events event ih =>
    refine (ih fun entry hm => hpublish entry (List.mem_append_left _ hm)).step ?_
    rintro entry rfl
    exact hpublish entry (List.mem_append_right _ List.mem_cons_self)

end Whole

/-- The set has nothing in it, or is that of an entry that came about as `Origin` tells. -/
def HasOrigin (first : Session) (events : List Event) (set : WarningSet) : Prop :=
  set = .empty ∨ ∃ entry, set = entry.warnings ∧ Nonempty (Origin first events entry)

theorem Sound.hasOrigin {first : Session} {events : List Event} {set : WarningSet}
    (h : Sound first events set) : HasOrigin first events set := by
  obtain hempty | ⟨entry, number, hset, hcomes⟩ := h
  · exact .inl hempty
  · exact .inr ⟨entry, hset, origin_of_comesFrom hcomes⟩

/-- In a session in which only refreshes publish entries, every entry is the result of one refresh
as a whole, and whatever is asked, what is served is the set of such an entry or has nothing
in it. -/
theorem served_sets_are_whole (settings : Settings) (base : Path.Base) (registry : Registry)
    (events : List Event) (hpublish : ∀ entry, .publish entry ∉ events) :
    let first := open_ settings base registry
    let s := first.run events
    (∀ entry ∈ s.entries, Nonempty (Origin first events entry)) ∧
    (∀ loop id entry, (s.get loop id).2 = some entry → Nonempty (Origin first events entry)) ∧
    (∀ loop id, HasOrigin first events (s.allWarnings loop id).2) ∧
    ∀ index set, s.answer? index = some set → HasOrigin first events set := by
  intro first s
  have h : Whole first events := .run settings base registry hpublish
  have hentries : ∀ entry ∈ s.entries, Nonempty (Origin first events entry) := by
    intro entry hm
    obtain ⟨number, hcomes⟩ := h.accounted.entries entry hm
    exact origin_of_comesFrom hcomes
  refine ⟨hentries, fun loop id entry hget => hentries entry (mem_of_get hget), ?_, ?_⟩
  · exact fun loop id => (h.accounted.sound (served_allWarnings s loop id)).hasOrigin
  · intro index set hanswer
    exact (h.answers set (List.mem_of_getElem? (answer?_eq_some.mp hanswer))).hasOrigin

section Visit

open Refresh (teller bareBase pythonFile)

/-- A document is asked about. It is edited and a linter is registered while the one linter for it
runs. -/
def visit : List Event :=
  [.add pythonFile true, .query true 0 .all, .start 0, .edit 0 (.setText ['x']),
    .register (teller "loud"),
    .finish ⟨0, 0, teller "plain", .call ["plain"], true⟩ (.ended 1 "3:1:unused" none)]

theorem visit_has_origin :
    (∀ entry, .publish entry ∉ visit) ∧
    ((open_ {} bareBase ⟨[teller "plain"]⟩).run visit).entries =
      [⟨0, some "/w/a.py", "/w/a.py", 0, ⟨[(3, [⟨3, 1, "unused", some "plain"⟩])]⟩⟩] ∧
    ∀ entry ∈ ((open_ {} bareBase ⟨[teller "plain"]⟩).run visit).entries,
      Nonempty (Origin (open_ {} bareBase ⟨[teller "plain"]⟩) visit entry) := by
  have hpublish : ∀ entry, .publish entry ∉ visit := by
    intro entry hm
    simp [visit] at hm
  exact ⟨hpublish, by decide +kernel,
    (served_sets_are_whole {} bareBase ⟨[teller "plain"]⟩ visit hpublish).1⟩

end Visit

end Session

end Gutter
