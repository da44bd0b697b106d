import Gutter.Machine.Bench
import Gutter.Proofs.Session.Draining

/-! The bench as the tools of a session: if the commands of a plan end as foreseen whatever ran
before them, then every run of the plan ends as foreseen. -/

namespace Gutter.Machine

open Session (Plan)

namespace Bench

/-- The files are fit for more runs, and each run that is busy is one of `runs` and has the outcome
that is told. -/
structure Fits (Fit : Files → Prop) (Told : Run → Outcome → Prop) (bench : Bench)
    (runs : List Run) : Prop where
  files : Fit bench.files
  busy : ∀ busy ∈ bench.busy, busy.run ∈ runs ∧ Told busy.run busy.outcome

/-- A run's command has the outcome that is told wherever the files are fit, and leaves them fit. -/
def Steady (setting : Setting) (Fit : Files → Prop) (Told : Run → Outcome → Prop) (run : Run) :
    Prop :=
  ∀ files, Fit files →
    Fit (outcomeOf files setting run.command).1 ∧ Told run (outcomeOf files setting run.command).2

section Runs

variable {setting : Setting} {Fit : Files → Prop} {Told : Run → Outcome → Prop} {bench : Bench}
  {run : Run} {runs : List Run}

theorem outcomeOf_of_refused {files : Files} {command : Command} {refusal : Refusal}
    (h : prepare files setting command = .error refusal) :
    outcomeOf files setting command = (files, .refused refusal.message) := by
  simp [outcomeOf, launch, h, Except.map]

/-- A run is busy once it was started. -/
theorem start_eq (setting : Setting) (bench : Bench) (run : Run) :
    (∃ busy ∈ bench.busy, busy.run = run) ∧ start setting bench run = bench ∨
      ∃ ends, start setting bench run =
        { bench with
          files := (outcomeOf bench.files setting run.command).1
          busy := bench.busy ++ [⟨run, ends, (outcomeOf bench.files setting run.command).2⟩] } := by
  unfold start outcomeOf
  split
  next hbusy => exact .inl ⟨by simpa using hbusy, rfl⟩
  next =>
    right
    cases launch bench.files setting run.command with
    | ok launched => exact ⟨_, rfl⟩
    | error refusal => exact ⟨_, rfl⟩

theorem Fits.start (h : Fits Fit Told bench runs) (hr : run ∈ runs)
    (hsteady : Steady setting Fit Told run) :
    Fits Fit Told (start setting bench run) runs ∧
      (∃ busy ∈ (Bench.start setting bench run).busy, busy.run = run) ∧
      ∀ busy ∈ bench.busy, busy ∈ (Bench.start setting bench run).busy := by
  obtain ⟨hbusy, heq⟩ | ⟨ends, heq⟩ := start_eq setting bench run
  · rw [heq]
    exact ⟨h, hbusy, fun busy hb => hb⟩
  · obtain ⟨hfit, htold⟩ := hsteady bench.files h.files
    rw [heq]
    refine ⟨⟨hfit, fun busy hb => ?_⟩, ?_, fun busy hb => List.mem_append_left _ hb⟩
    · obtain hb | hb := List.mem_append.mp hb
      · exact h.busy busy hb
      · rw [List.mem_singleton.mp hb]
        exact ⟨hr, htold⟩
    · exact ⟨_, List.mem_append_right _ (List.mem_singleton_self _), rfl⟩

/-- All runs that are asked for are busy once they were started. -/
theorem Fits.foldl_start (h : Fits Fit Told bench runs) {asked : List Run}
    (hasked : ∀ run ∈ asked, run ∈ runs ∧ Steady setting Fit Told run) :
    Fits Fit Told (asked.foldl (Bench.start setting) bench) runs ∧
      (∀ run ∈ asked, ∃ busy ∈ (asked.foldl (Bench.start setting) bench).busy, busy.run = run) ∧
      ∀ busy ∈ bench.busy, busy ∈ (asked.foldl (Bench.start setting) bench).busy := by
  induction asked generalizing bench with
  | nil => exact ⟨h, nofun, fun busy hb => hb⟩
  | cons run rest ih =>
    obtain ⟨hr, hsteady⟩ := hasked run List.mem_cons_self
    obtain ⟨hfits, ⟨busy, hbusy, hrun⟩, hkept⟩ := h.start hr hsteady
    obtain ⟨hlast, hall, hkept'⟩ := ih hfits fun run hr => hasked run (List.mem_cons_of_mem _ hr)
    refine ⟨hlast, fun other ho => ?_, fun busy hb => hkept' busy (hkept busy hb)⟩
    obtain rfl | ho := List.mem_cons.mp ho
    · exact ⟨busy, hkept' busy hbusy, hrun⟩
    · exact hall other ho

theorem soonest_mem {all : List Busy} {busy : Busy} (h : soonest all = some busy) :
    busy ∈ all := by
  induction all generalizing busy with
  | nil => cases h
  | cons first rest ih =>
    unfold soonest at h
    split at h
    next other hother =>
      cases h
      split
      · exact List.mem_cons_self
      · exact List.mem_cons_of_mem _ (ih hother)
    next =>
      cases h
      exact List.mem_cons_self

theorem exists_soonest {all : List Busy} (h : all ≠ []) : ∃ busy, soonest all = some busy := by
  cases all with
  | nil => exact (h rfl).elim
  | cons first rest =>
    unfold soonest
    split
    · exact ⟨_, rfl⟩
    · exact ⟨_, rfl⟩

/-- Of runs that were asked for one ends, as it is told. -/
theorem Fits.next (h : Fits Fit Told bench runs)
    (hsteady : ∀ run ∈ runs, Steady setting Fit Told run) (hruns : runs ≠ []) :
    ∃ later run outcome, Bench.next setting bench runs = (later, some (run, outcome)) ∧
      run ∈ runs ∧ Told run outcome ∧ Fits Fit Told later (runs.filter (· ≠ run)) := by
  obtain ⟨hfits, hall, -⟩ := h.foldl_start fun run hr => ⟨hr, hsteady run hr⟩
  obtain ⟨first, hfirst⟩ := List.exists_mem_of_ne_nil runs hruns
  obtain ⟨started, hstarted, -⟩ := hall first hfirst
  obtain ⟨busy, hsoonest⟩ := exists_soonest (List.ne_nil_of_mem hstarted)
  obtain ⟨hr, htold⟩ := hfits.busy busy (soonest_mem hsoonest)
  have hnext : Bench.next setting bench runs =
      ({ runs.foldl (Bench.start setting) bench with
          clock := max (runs.foldl (Bench.start setting) bench).clock busy.ends
          busy := (runs.foldl (Bench.start setting) bench).busy.filter (·.run ≠ busy.run) },
        some (busy.run, busy.outcome)) := by
    simp only [Bench.next, hsoonest]
  refine ⟨_, _, _, hnext, hr, htold, hfits.files, fun other ho => ?_⟩
  obtain ⟨ho, hne⟩ := List.mem_filter.mp ho
  obtain ⟨hr', htold'⟩ := hfits.busy other ho
  exact ⟨List.mem_filter.mpr ⟨hr', hne⟩, htold'⟩

end Runs

/-- With a bench, the runs of a plan end as foreseen if their commands do. -/
theorem obeyed {plan : Plan} {setting : Setting} {Fit : Files → Prop}
    (h : ∀ run, plan.Expects run → Steady setting Fit plan.Tells run) :
    plan.Obeyed (tools setting) (Fits Fit plan.Tells) where
  atOnce := fun {bench runs run outcome} hfits _ hexpects houtcome => by
    simp only [tools] at houtcome
    split at houtcome
    · cases houtcome
    next hfree =>
      split at houtcome
      · cases houtcome
      next refusal hrefused =>
        cases houtcome
        have htold := (h run hexpects bench.files hfits.files).2
        rw [outcomeOf_of_refused hrefused] at htold
        refine ⟨htold, hfits.files, fun busy hb => ?_⟩
        obtain ⟨hr, hbusy⟩ := hfits.busy busy hb
        refine ⟨List.mem_filter.mpr ⟨hr, decide_eq_true ?_⟩, hbusy⟩
        rintro rfl
        exact hfree (List.any_eq_true.mpr ⟨busy, hb, decide_eq_true rfl⟩)
  next := fun hfits hexpects hruns => hfits.next (fun run hr => h run (hexpects run hr)) hruns
  more := fun hfits hmore =>
    ⟨hfits.files, fun busy hb => (hfits.busy busy hb).imp_left (hmore busy.run)⟩

end Bench

end Gutter.Machine
