import Gutter.Proofs.Refresh.Outlook
import Mathlib.Data.Prod.Lex

/-! The course of a refresh: every stage holds what was noted at the start, and each step makes what
is left to be done less, so that a refresh ends in whatever order its runs do. -/

namespace Gutter.Refresh

/-- The stage belongs to a refresh that noted `now`. Linters that are still to be called end the
list of its linters, and runs that go on at once are of all of them. -/
def Stage.Follows (now : Snapshot) : Stage → Prop
  | .waiting => False
  | .calling noted _ linter rest => noted = now ∧ linter :: rest <:+ now.linters
  | .gathering noted slots =>
    noted = now ∧ slots.map (·.1) = now.linters ∧ ∃ slot ∈ slots, slot.2 = none
  | .parsing noted _ _ _ rest => noted = now ∧ rest <:+ now.linters
  | .completed entry => ∃ set, entry = now.entry set
  | .failed _ => True

section Follows

variable {settings : Settings} {now : Snapshot}

theorem follows_callNext {rest : List Linter} (set : WarningSet) (h : rest <:+ now.linters) :
    (callNext settings now set rest).stage.Follows now := by
  cases rest with
  | nil => exact ⟨set, rfl⟩
  | cons linter rest => exact ⟨rfl, h⟩

theorem follows_readBatch {rest : List Linter} (hrest : rest <:+ now.linters) (set : WarningSet)
    (paused : Paused) (outputs : List (Linter × List Char)) (next : WarningSet → Turn)
    (h : ∀ set, (next set).stage.Follows now) :
    (readBatch settings now set paused outputs rest next).stage.Follows now := by
  obtain ⟨e, hs, -⟩ | ⟨after, hs, -⟩ | ⟨after, hs, -⟩ :=
    readBatch_cases settings now set paused outputs rest next
  · rw [hs]; trivial
  · rw [hs]; exact ⟨rfl, hrest⟩
  · rw [hs]; exact h after

theorem follows_readOutputs {rest : List Linter} (hrest : rest <:+ now.linters)
    (outputs : List (Linter × List Char)) (set : WarningSet) :
    (readOutputs settings now rest outputs set).stage.Follows now := by
  induction outputs generalizing set with
  | nil => exact follows_callNext set hrest
  | cons output outputs ih => exact follows_readBatch hrest _ _ _ _ ih

theorem follows_receive {stage : Stage} (h : stage.Follows now) (index : Nat)
    (outcome : Outcome) : (receive settings index outcome stage).stage.Follows now := by
  cases stage with
  | calling noted set linter rest =>
    obtain ⟨rfl, hsuffix⟩ := h
    simp only [receive]
    cases outcome.output with
    | error message => trivial
    | ok raw => exact follows_readOutputs ((List.suffix_cons linter rest).trans hsuffix) _ _
  | gathering noted slots =>
    obtain ⟨rfl, hall, -⟩ := h
    simp only [receive]
    cases outcome.output with
    | error message => trivial
    | ok raw =>
      cases hg : gathered? (fill slots index raw) with
      | none =>
        simp only [hg]
        exact ⟨rfl, (map_fst_fill slots index raw).trans hall, exists_open_slot hg⟩
      | some outputs =>
        simp only [hg]
        exact follows_readOutputs List.nil_suffix _ _
  | _ => exact h

theorem follows_resume {stage : Stage} (h : stage.Follows now) :
    (resume settings stage).stage.Follows now := by
  cases stage with
  | parsing noted set paused outputs rest =>
    obtain ⟨rfl, hsuffix⟩ := h
    exact follows_readBatch hsuffix _ _ _ _ (follows_readOutputs hsuffix outputs)
  | _ => exact h

end Follows

section Start

variable {settings : Settings} {base : Path.Base} {registry : Registry} {document : Document}
  {now : Snapshot}

/-- A refresh notes its document as it is, if the document has a path and it can be told which
linters are for it. -/
theorem snapshot_eq_ok : snapshot base registry document = .ok now ↔
    ∃ path linters, Path.ofName base document.filename = .ok path ∧
      registry.matching? document.filename = .ok linters ∧
      now = ⟨document.id, document.filename, path, document.revision, linters⟩ := by
  unfold snapshot
  constructor
  · intro h
    split at h
    · cases h
    next path hpath =>
      split at h
      · cases h
      next linters hlinters =>
        cases h
        exact ⟨path, linters, hpath, hlinters, rfl⟩
  · rintro ⟨path, linters, hpath, hlinters, rfl⟩
    rw [hpath]
    simp only [hlinters]

theorem snapshot_document (h : snapshot base registry document = .ok now) :
    now.document = document.id ∧ now.revision = document.revision := by
  obtain ⟨_, _, -, -, rfl⟩ := snapshot_eq_ok.mp h
  exact ⟨rfl, rfl⟩

theorem snapshot_path (h : snapshot base registry document = .ok now) :
    Path.ofName base document.filename = .ok now.path := by
  obtain ⟨_, _, hpath, -, rfl⟩ := snapshot_eq_ok.mp h
  exact hpath

theorem snapshot_linters (h : snapshot base registry document = .ok now) :
    now.linters = registry.matching document.filename := by
  obtain ⟨_, _, -, hlinters, rfl⟩ := snapshot_eq_ok.mp h
  exact Registry.matching?_eq_ok hlinters

theorem follows_start (h : snapshot base registry document = .ok now) :
    (start settings base registry document).stage.Follows now := by
  simp only [start, h]
  split
  next hp =>
    refine ⟨rfl, by simp [Function.comp_def], ?_⟩
    simp only [Bool.and_eq_true, decide_eq_true_eq] at hp
    obtain ⟨linter, hl⟩ := List.exists_mem_of_length_pos (Nat.lt_of_succ_lt hp.2)
    exact ⟨(linter, none), List.mem_map.mpr ⟨linter, hl, rfl⟩, rfl⟩
  next => exact follows_callNext _ (List.suffix_refl _)

theorem start_of_error {e : Failure} (h : snapshot base registry document = .error e) :
    (start settings base registry document).stage = .failed e := by
  simp [start, h]

/-- Both ways of running linters have the same outlook at their start. -/
theorem outlook_start (forecast : Forecast) (h : snapshot base registry document = .ok now) :
    (start settings base registry document).stage.outlook forecast =
      (absorbRuns? forecast 0 now.linters .empty).map now.entry := by
  simp only [start, h]
  split
  · rw [outlook_gathering, foreseen?_bind_absorb]
  · rw [outlook_callNext _ (List.suffix_refl _), Nat.sub_self]

end Start

/-! ### What is left to be done -/

/-- Less is left to be done. -/
def Stage.Less (later earlier : Stage) : Prop :=
  Prod.Lex (· < ·) (Prod.Lex (· < ·) (· < ·)) later.left earlier.left

theorem less_wellFounded : WellFounded Stage.Less :=
  InvImage.wf Stage.left
    (Prod.lex Nat.lt_wfRel (Prod.lex Nat.lt_wfRel Nat.lt_wfRel)).wf

theorem Stage.less_iff {later earlier : Stage} :
    later.Less earlier ↔ later.left.1 < earlier.left.1 ∨ later.left.1 = earlier.left.1 ∧
      (later.left.2.1 < earlier.left.2.1 ∨ later.left.2.1 = earlier.left.2.1 ∧
        later.left.2.2 < earlier.left.2.2) := by
  simp [Stage.Less, Prod.lex_def]

theorem openSlots_fill {slots : List (Linter × Option (List Char))} {index : Nat}
    {linter : Linter} (hs : slots[index]? = some (linter, none)) (raw : List Char) :
    openSlots (fill slots index raw) + 1 = openSlots slots := by
  induction slots generalizing index with
  | nil => simp at hs
  | cons slot rest ih =>
    cases index with
    | zero =>
      obtain rfl : slot = (linter, none) := by simpa using hs
      simp [openSlots, fill]
    | succ index =>
      have ih' := ih (show rest[index]? = some (linter, none) by simpa using hs)
      simp only [openSlots, fill] at ih' ⊢
      simp only [List.modify_succ_cons, List.countP_cons]
      omega

section Left

variable {settings : Settings} {now : Snapshot}

theorem left_readOutputs (settings : Settings) (now : Snapshot) (rest : List Linter)
    (outputs : List (Linter × List Char)) (set : WarningSet) :
    (readOutputs settings now rest outputs set).stage.left.1 < rest.length ∨
      (readOutputs settings now rest outputs set).stage.left.1 = rest.length ∧
        (readOutputs settings now rest outputs set).stage.left.2.1 ≤ outputs.length := by
  induction outputs generalizing set with
  | nil => cases rest <;> simp [readOutputs, callNext, Stage.left]
  | cons output outputs ih =>
    obtain ⟨linter, raw⟩ := output
    rw [readOutputs]
    obtain ⟨e, hs, -⟩ | ⟨after, hs, -⟩ | ⟨after, hs, -⟩ :=
      readBatch_cases settings now set
        ⟨linter, raw, linter.pattern.findAll raw⟩ outputs rest
        (readOutputs settings now rest outputs)
    · rw [hs]
      cases rest <;> simp [Stage.left]
    · simp [hs, Stage.left]
    · rw [hs]
      have := ih after
      simp only [List.length_cons]
      omega

theorem less_receive_call (set : WarningSet) (linter : Linter) (rest : List Linter)
    (index : Nat) (outcome : Outcome) :
    (receive settings index outcome (.calling now set linter rest)).stage.Less
      (.calling now set linter rest) := by
  rw [Stage.less_iff]
  simp only [receive]
  cases outcome.output with
  | error message => simp [Stage.left]
  | ok raw =>
    have := left_readOutputs settings now rest [(linter, raw)] set
    simp only [Stage.left] at this ⊢
    omega

theorem less_receive_gather {slots : List (Linter × Option (List Char))} {index : Nat}
    {linter : Linter} (hs : slots[index]? = some (linter, none)) (outcome : Outcome) :
    (receive settings index outcome (.gathering now slots)).stage.Less
      (.gathering now slots) := by
  rw [Stage.less_iff]
  simp only [receive]
  cases outcome.output with
  | error message =>
    have := openSlots_fill hs []
    simp only [Stage.left]
    omega
  | ok raw =>
    have hopen := openSlots_fill hs raw
    cases hg : gathered? (fill slots index raw) with
    | none =>
      simp only [hg, Stage.left]
      omega
    | some outputs =>
      have := left_readOutputs settings now [] outputs .empty
      simp only [hg, Stage.left, List.length_nil] at this ⊢
      omega

theorem less_resume (hsize : 0 < settings.batchSize) (set : WarningSet) (paused : Paused)
    (outputs : List (Linter × List Char)) (rest : List Linter) :
    (resume settings (.parsing now set paused outputs rest)).stage.Less
      (.parsing now set paused outputs rest) := by
  rw [Stage.less_iff, resume]
  obtain ⟨e, hs, -⟩ | ⟨after, hs, hle, -⟩ | ⟨after, hs, -⟩ :=
    readBatch_cases settings now set paused outputs rest
      (readOutputs settings now rest outputs)
  · rw [hs]
    simp only [Stage.left]
    omega
  · rw [hs]
    refine .inr ⟨rfl, .inr ⟨rfl, ?_⟩⟩
    simp only [Stage.left, List.length_drop]
    omega
  · rw [hs]
    have := left_readOutputs settings now rest outputs after
    simp only [Stage.left] at this ⊢
    omega

end Left

end Gutter.Refresh
