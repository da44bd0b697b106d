import Gutter.Proofs.Grouping
import Gutter.Proofs.Refresh.Completion
import Gutter.Proofs.Session.Draining

/-! What the runs of linters for files come to, taken as given: the warnings about each file, and
the jobs that have them in view. -/

namespace Gutter

namespace Refresh

/-- The warnings in what linters print, one linter after another, if all of it can be read. -/
def told? (given : Linter → Outcome) : List Linter → Option (List Warning)
  | [] => some []
  | linter :: rest =>
    match (given linter).output with
    | .error _ => none
    | .ok raw =>
      match linter.warnings raw with
      | .error _ => none
      | .ok warnings => (told? given rest).map (warnings ++ ·)

/-- Runs that come to what is given add the warnings that it tells. -/
theorem absorbRuns?_eq_told {given : Linter → Outcome} {forecast : Forecast}
    {linters : List Linter} {place : Nat} (set : WarningSet)
    (hforecast : ∀ index linter, linters[index]? = some linter →
      forecast (place + index) = given linter) :
    absorbRuns? forecast place linters set = (told? given linters).map set.addAll := by
  induction linters generalizing place set with
  | nil => rfl
  | cons linter rest ih =>
    have hfirst : forecast place = given linter := hforecast 0 linter rfl
    have hrest (set : WarningSet) : absorbRuns? forecast (place + 1) rest set =
        (told? given rest).map set.addAll := ih set fun index other hindex => by
      rw [Nat.add_assoc, Nat.add_comm 1]
      exact hforecast (index + 1) other hindex
    rw [absorbRuns?, told?, hfirst]
    cases (given linter).output with
    | error message => rfl
    | ok raw =>
      simp only
      cases hwarnings : linter.warnings raw with
      | error e =>
        have hnone : linter.absorb? raw (linter.pattern.findAll raw) set = none := by
          cases habsorb : linter.absorb? raw (linter.pattern.findAll raw) set with
          | none => rfl
          | some after =>
            obtain ⟨found, hfound, -⟩ := Linter.absorb?_findAll.mp habsorb
            rw [hwarnings] at hfound
            cases hfound
        rw [hnone]
        rfl
      | ok found =>
        rw [Linter.absorb?_findAll.mpr ⟨found, hwarnings, rfl⟩, Option.bind_some, hrest,
          Option.map_map]
        exact congrArg (Option.map · _) (funext fun later =>
          (WarningSet.addAll_append set found later).symm)

end Refresh

namespace CommandLine

open Refresh (told? commandOf)
open Session (Job Plan nameText)

/-- What the runs of linters for files come to, by the name of the file. -/
abbrev Given := String → Linter → Outcome

section Files

variable (base : Path.Base) (settings : Settings) (registry : Registry) (given : Given)
  (name : String)

/-- The linters for a file. -/
def lintersOf : List Linter := registry.matching (some name)

/-- The command of a linter for a file. -/
def commandFor (linter : Linter) : Gutter.Command :=
  linter.commandFor settings.placeholder ((Path.ofName base (some name)).toOption.getD "")

/-- The warnings about a file, in ascending order of their lines; those of a line are in the order
in which linters give them. -/
def warningsOf : List Warning :=
  WarningSet.sorted ((told? (given name) (lintersOf registry name)).getD [])

/-- A refresh for the file does not fail: its path is found, the linters for it can be told, and what
they print can be read. -/
structure Refreshes : Prop where
  path : ∃ path, Path.ofName base (some name) = .ok path
  linters : ∃ linters, registry.matching? (some name) = .ok linters
  told : ∃ warnings, told? (given name) (lintersOf registry name) = some warnings

end Files

section Starts

variable {base : Path.Base} {settings : Settings} {registry : Registry} {given : Given}
  {name path : String} {document : Document} {forecast : Refresh.Forecast}

theorem snapshot_of_path (hname : document.filename = some name)
    (hpath : Path.ofName base (some name) = .ok path)
    (hlinters : ∃ linters, registry.matching? (some name) = .ok linters) :
    Refresh.snapshot base registry document =
      .ok ⟨document.id, some name, path, document.revision, lintersOf registry name⟩ := by
  obtain ⟨linters, hlinters⟩ := hlinters
  rw [lintersOf, ← Registry.matching?_eq_ok hlinters, ← hname]
  exact Refresh.snapshot_eq_ok.mpr ⟨path, linters, hname ▸ hpath, hname ▸ hlinters, rfl⟩

theorem absorbRuns?_given
    (hforecast : ∀ place linter, (lintersOf registry name)[place]? = some linter →
      forecast place = given name linter) :
    Refresh.absorbRuns? forecast 0 (lintersOf registry name) .empty =
      (told? (given name) (lintersOf registry name)).map .ofList :=
  Refresh.absorbRuns?_eq_told .empty fun index linter hindex => by
    rw [Nat.zero_add]
    exact hforecast index linter hindex

/-- A file's refresh does not fail exactly if there is an entry in view when it starts. -/
theorem refreshes_iff (hname : document.filename = some name)
    (hforecast : ∀ place linter, (lintersOf registry name)[place]? = some linter →
      forecast place = given name linter) :
    Refreshes base registry given name ↔ ∃ entry,
      (Refresh.start settings base registry document).stage.outlook forecast = some entry := by
  cases hsnapshot : Refresh.snapshot base registry document with
  | error e =>
    refine iff_of_false (fun h => ?_) ?_
    · obtain ⟨path, hpath⟩ := h.path
      rw [snapshot_of_path hname hpath h.linters] at hsnapshot
      cases hsnapshot
    · rintro ⟨entry, hentry⟩
      rw [Refresh.start_of_error hsnapshot] at hentry
      cases hentry
  | ok now =>
    have hlinters : now.linters = lintersOf registry name := by
      rw [Refresh.snapshot_linters hsnapshot, hname]
      rfl
    obtain ⟨path, linters, hpath, htold, -⟩ := Refresh.snapshot_eq_ok.mp hsnapshot
    rw [Refresh.outlook_start forecast hsnapshot, hlinters, absorbRuns?_given hforecast,
      Option.map_map]
    constructor
    · intro h
      obtain ⟨warnings, hwarnings⟩ := h.told
      exact ⟨_, by rw [hwarnings]; rfl⟩
    · rintro ⟨entry, hentry⟩
      obtain ⟨warnings, hwarnings, -⟩ := Option.map_eq_some_iff.mp hentry
      exact ⟨⟨path, hname ▸ hpath⟩, ⟨linters, hname ▸ htold⟩, warnings, hwarnings⟩

end Starts

/-! ### Jobs -/

section Jobs

variable {base : Path.Base} {settings : Settings} {registry : Registry} {given : Given}

/-- The job is of the file and has what is given for it in view. -/
structure IsFor (given : Given) (name : String) (job : Job base registry) : Prop where
  filename : job.document.filename = some name
  told : ∀ place linter, job.now.linters[place]? = some linter →
    job.told place = given name linter
  set : ∃ warnings, told? (given name) (lintersOf registry name) = some warnings ∧
    job.set = .ofList warnings

namespace IsFor

variable {name : String} {job : Job base registry} (h : IsFor given name job)

include h

theorem linters : job.now.linters = lintersOf registry name := by
  rw [Refresh.snapshot_linters job.noted, h.filename]
  rfl

theorem path : (Path.ofName base (some name)).toOption.getD "" = job.now.path := by
  rw [← h.filename, Refresh.snapshot_path job.noted]
  rfl

theorem commandOf_eq (linter : Linter) :
    commandOf settings job.now linter = commandFor base settings name linter := by
  rw [commandFor, h.path]
  rfl

theorem toList_set : job.set.toList = warningsOf registry given name := by
  obtain ⟨warnings, htold, hset⟩ := h.set
  rw [hset, WarningSet.toList_ofList, warningsOf, htold]
  rfl

theorem count_set : job.set.count = (warningsOf registry given name).length := by
  obtain ⟨warnings, htold, hset⟩ := h.set
  rw [hset, WarningSet.count_ofList, warningsOf, htold]
  exact (WarningSet.sorted_perm warnings).length_eq.symm

end IsFor

theorem exists_job {document : Document} {name : String} (hname : document.filename = some name)
    (hne : name ≠ "") (h : Refreshes base registry given name) :
    ∃ job : Job base registry, job.document = document ∧ IsFor given name job := by
  obtain ⟨path, hpath⟩ := h.path
  obtain ⟨warnings, hwarnings⟩ := h.told
  let told : Refresh.Forecast := fun place =>
    ((lintersOf registry name)[place]?).elim (.crashed "") (given name)
  have htold (place : Nat) (linter : Linter)
      (hplace : (lintersOf registry name)[place]? = some linter) :
      told place = given name linter := by
    simp only [told, hplace, Option.elim_some]
  have hcomes : Refresh.absorbRuns? told 0 (lintersOf registry name) .empty =
      some (.ofList warnings) := by
    rw [absorbRuns?_given htold, hwarnings]
    rfl
  have hnamed : Session.isNamed document = true := by
    simp [Session.isNamed, hname, hne]
  exact ⟨⟨document, told, _, _, hnamed, snapshot_of_path hname hpath h.linters, hcomes⟩, rfl, hname,
    htold, warnings, hwarnings, rfl⟩

/-- There is a job for each document. -/
theorem exists_jobs {documents : List Document}
    (h : ∀ document ∈ documents, ∃ name, document.filename = some name ∧ name ≠ "" ∧
      Refreshes base registry given name) :
    ∃ jobs : List (Job base registry), jobs.map (·.document) = documents ∧
      ∀ job ∈ jobs, IsFor given (nameText job.document) job := by
  induction documents with
  | nil => exact ⟨[], rfl, nofun⟩
  | cons document rest ih =>
    obtain ⟨name, hname, hne, hrefreshes⟩ := h document List.mem_cons_self
    obtain ⟨job, rfl, hjob⟩ := exists_job hname hne hrefreshes
    obtain ⟨jobs, rfl, hjobs⟩ := ih fun d hd => h d (List.mem_cons_of_mem _ hd)
    have htext : nameText job.document = name := by
      rw [nameText, hname]
      rfl
    exact ⟨job :: jobs, rfl, List.forall_mem_cons.mpr ⟨htext ▸ hjob, hjobs⟩⟩

/-- The jobs are known by what is given for them. -/
theorem expects_given {plan : Plan}
    (hjobs : ∀ job ∈ plan.jobs, IsFor given (nameText job.document) job) {run : Run}
    (h : plan.Expects run) :
    ∃ name ∈ plan.jobs.map fun job => nameText job.document,
      run.linter ∈ lintersOf plan.registry name ∧
      run.command = commandFor plan.base plan.settings name run.linter ∧
      plan.Tells run (given name run.linter) := by
  obtain ⟨job, hjob, hlinter, hcommand⟩ := h
  have hmem := List.mem_of_getElem? hjob
  have hfor := hjobs job hmem
  refine ⟨nameText job.document, List.mem_map.mpr ⟨job, hmem, rfl⟩, ?_, ?_, fun other hother => ?_⟩
  · rw [← hfor.linters]
    exact List.mem_of_getElem? hlinter
  · rw [hcommand, hfor.commandOf_eq]
  · obtain rfl : job = other := Option.some.inj (hjob.symm.trans hother)
    exact (hfor.told run.index run.linter hlinter).symm

end Jobs

end CommandLine

end Gutter
