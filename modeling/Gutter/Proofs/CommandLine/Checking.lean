import Gutter.Proofs.CommandLine.Given
import Gutter.Proofs.CommandLine.Opening
import Gutter.Proofs.Machine.Bench
import Gutter.Proofs.Refresh.Batch
import Gutter.Proofs.Session.Linting

/-! Checks: what a check writes for each file, with which status it ends, and which commands it
runs, told from what the runs of linters for the files come to. -/

namespace Gutter.CommandLine

open Console (Logger)
open Machine (Bench Setting outcomeOf)
open Session (Job Plan Settled Underway nameText)

/-! ### Documents in turn -/

/-- What is found for a job. -/
def findingOf {base : Path.Base} {registry : Registry} (job : Job base registry) : Finding :=
  ⟨nameText job.document, some !job.now.linters.isEmpty, job.set⟩

section Turns

variable {σ : Type} {tools : Session.Tools σ} {plan : Plan} {s : Session}
  {job : Job plan.base plan.registry}

theorem lintersFor_eq (h : Underway plan s) (hj : job ∈ plan.jobs) :
    s.lintersFor job.document.id = .ok job.now.linters := by
  obtain ⟨_, linters, -, hlinters, hnow⟩ := Refresh.snapshot_eq_ok.mp job.noted
  rw [Session.lintersFor, h.document? hj, h.registry, Option.bind_some, hlinters, hnow]

theorem lintNext_of_settled (h : Settled plan s) (hj : job ∈ plan.jobs) (state : σ)
    (findings : List Finding) :
    lintNext tools (state, s, findings) job.document =
      (state, s.addCall (.answered job.set), findings ++ [findingOf job]) := by
  have hlinters := lintersFor_eq (h.addCall (.answered job.set)).toUnderway hj
  simp only [lintNext, h.lint _ state hj, hlinters, findingOf, Except.toOption, Option.map_some]

/-- Documents whose jobs are done are reported in their order. -/
theorem foldl_lintNext (tools : Session.Tools σ) (h : Settled plan s) (state : σ)
    (findings : List Finding) {jobs : List (Job plan.base plan.registry)}
    (hjobs : ∀ job ∈ jobs, job ∈ plan.jobs) :
    ∃ s', (jobs.map (·.document)).foldl (lintNext tools) (state, s, findings) =
      (state, s', findings ++ jobs.map findingOf) ∧ Settled plan s' := by
  induction jobs generalizing s findings with
  | nil => exact ⟨s, by simp, h⟩
  | cons job rest ih =>
    have hj := hjobs job List.mem_cons_self
    obtain ⟨s', hrest, hsettled⟩ := ih (h.addCall (.answered job.set))
      (findings ++ [findingOf job]) fun job hj => hjobs job (List.mem_cons_of_mem _ hj)
    refine ⟨s', ?_, hsettled⟩
    rw [List.map_cons, List.foldl_cons, lintNext_of_settled h hj, hrest]
    simp

/-- All jobs of a plan are reported, and every linter for them has run once. -/
theorem lintAll_opened {fit : σ → List Run → Prop} (hobeyed : plan.Obeyed tools fit) {state : σ}
    (hfit : fit state []) :
    ∃ s, lintAll tools state plan.opened = (s, plan.jobs.map findingOf) ∧ Settled plan s := by
  have hdocuments : plan.opened.members.map (·.document) = plan.documents := by
    simp [Plan.opened, Function.comp_def]
  have hall : lintAll tools state plan.opened =
      ((plan.documents.foldl (lintNext tools) (state, plan.begun, [])).2.1,
        (plan.documents.foldl (lintNext tools) (state, plan.begun, [])).2.2) := by
    rw [lintAll, hdocuments, plan.foldl_get_documents]
  have hbusy := plan.busy_begun
  rw [hall]
  cases hjobs : plan.jobs with
  | nil =>
    have hnone : plan.documents = [] := by rw [Plan.documents, hjobs, List.map_nil]
    have hidle : plan.begun.isIdle = true := by
      simp [Session.isIdle, Session.inFlight, Plan.begun, Session.primed, hnone, Plan.opened,
        Session.open_]
    rw [hnone]
    exact ⟨plan.begun, rfl, hbusy.toUnderway, hidle⟩
  | cons job rest =>
    have hj : job ∈ plan.jobs := hjobs ▸ List.mem_cons_self
    obtain ⟨later, s, hlint, hsettled⟩ := hbusy.lint hobeyed hfit hj rfl
    have hfirst : lintNext tools (state, plan.begun, []) job.document =
        (later, s, [findingOf job]) := by
      have hlinters := lintersFor_eq hsettled.toUnderway hj
      simp only [lintNext, hlint, hlinters, findingOf, List.nil_append, Except.toOption,
        Option.map_some]
    have hothers : ∀ other ∈ rest, other ∈ plan.jobs := fun other ho =>
      hjobs ▸ List.mem_cons_of_mem _ ho
    obtain ⟨s', hrest, hsettled'⟩ :=
      foldl_lintNext tools hsettled later [findingOf job] hothers
    rw [Plan.documents, hjobs, List.map_cons, List.foldl_cons, hfirst, hrest]
    exact ⟨s', rfl, hsettled'⟩

end Turns

/-! ### Reports -/

section Reports

variable (logger : Logger) (width : Nat) (registry : Registry) (given : Given)

/-- What is written for a file: a header for each warning, with the lines of its message below
it. -/
def fileText (name : String) : String :=
  if (lintersOf registry name).isEmpty then
    logger.status .warn s!"No linters apply to {name}"
  else
    writtenLines ((warningsOf registry given name).flatMap fun warning =>
      headerOf name warning :: (Text.wrap warning.message width).map (indent ++ ·))

/-- The headers for files, one for each warning. -/
def headersOf (names : List String) : List String :=
  names.flatMap fun name => (warningsOf registry given name).map (headerOf name)

/-- The last line of a report on files for which there are as many headers. -/
def totalText (files headers : Nat) : String :=
  if headers = 0 then logger.status .ok s!"No warnings in {files} file(s)"
  else logger.status .fail s!"{headers} warning(s) across {files} file(s)"

theorem summary_eq (findings : List Finding) :
    summary logger findings =
      ⟨if total findings = 0 then 0 else 1,
        totalText logger findings.length (total findings)⟩ := by
  unfold summary totalText
  cases total findings with
  | zero => rfl
  | succ count => rfl

variable {base : Path.Base} {logger width registry given} {job : Job base registry}

theorem report_findingOf (h : IsFor given (nameText job.document) job) :
    (findingOf job).report logger width =
      fileText logger width registry given (nameText job.document) := by
  unfold Finding.report fileText
  cases hlinters : (lintersOf registry (nameText job.document)).isEmpty with
  | true => simp [findingOf, h.linters, hlinters]
  | false =>
    simp only [findingOf, h.linters, hlinters, Finding.lines, h.toList_set]
    rfl

/-- No linters come to no warnings. -/
theorem warningsOf_of_isEmpty {name : String} (h : (lintersOf registry name).isEmpty = true) :
    warningsOf registry given name = [] := by
  rw [warningsOf, List.isEmpty_iff.mp h]
  exact List.mergeSort_nil

theorem count_findingOf (h : IsFor given (nameText job.document) job) :
    (findingOf job).count = (warningsOf registry given (nameText job.document)).length := by
  cases hlinters : (lintersOf registry (nameText job.document)).isEmpty with
  | true => simp [Finding.count, findingOf, h.linters, hlinters, warningsOf_of_isEmpty]
  | false => simp [Finding.count, findingOf, h.linters, hlinters, h.count_set]

theorem total_findings {jobs : List (Job base registry)}
    (h : ∀ job ∈ jobs, IsFor given (nameText job.document) job) :
    total (jobs.map findingOf) =
      (headersOf registry given (jobs.map fun job => nameText job.document)).length := by
  induction jobs with
  | nil => rfl
  | cons job rest ih =>
    obtain ⟨hjob, hrest⟩ := List.forall_mem_cons.mp h
    have htotal : total (findingOf job :: rest.map findingOf) =
        (findingOf job).count + total (rest.map findingOf) := rfl
    rw [List.map_cons, htotal, ih hrest, count_findingOf hjob]
    simp [headersOf]

theorem report_findings {jobs : List (Job base registry)}
    (h : ∀ job ∈ jobs, IsFor given (nameText job.document) job) :
    let names := jobs.map fun job => nameText job.document
    let headers := headersOf registry given names
    report logger width (jobs.map findingOf) =
      ⟨if headers = [] then 0 else 1,
        String.join (names.map (fileText logger width registry given)) ++
          totalText logger names.length headers.length⟩ := by
  intro names headers
  have htexts : (jobs.map findingOf).map (Finding.report logger width) =
      names.map (fileText logger width registry given) := by
    rw [List.map_map, List.map_map]
    exact List.map_congr_left fun job hj => report_findingOf (h job hj)
  have htold : (jobs.map findingOf).takeWhile (·.applies.isSome) = jobs.map findingOf :=
    List.takeWhile_eq_self_iff.mpr fun finding hf => by
      obtain ⟨job, -, rfl⟩ := List.mem_map.mp hf
      rfl
  simp only [report, htold, if_true, htexts, summary_eq, total_findings h]
  simp [headers, names]

end Reports

/-! ### Checks -/

section Checks

variable {world : World} {o : Options} {width : Option Nat} {loaded : LogLine}
  {settings : Settings} {registry : Registry} {given : Given} {Fit : Files → Prop}

/-- The commands of linters for files come to what is given wherever the files are fit, and leave
them fit. -/
def Gives (setting : Setting) (base : Path.Base) (settings : Settings) (registry : Registry)
    (given : Given) (Fit : Files → Prop) (name : String) : Prop :=
  ∀ linter ∈ lintersOf registry name, ∀ files, Fit files →
    Fit (outcomeOf files setting (commandFor base settings name linter)).1 ∧
      (outcomeOf files setting (commandFor base settings name linter)).2 = given name linter

theorem check_eq {documents : List Document} {session : Session} {findings : List Finding}
    (hprepared : prepare world o width = .ok (loaded, .ok (settings, registry)))
    (hopened : openFrom world.files 1 o.files = .ok documents)
    (hlinted : lintAll (Bench.tools { env := world.env, timeout := settings.timeout })
      ⟨world.files, 0, []⟩ (sessionOf world settings registry documents) = (session, findings)) :
    check world o width =
      { report (loggerOf world o) settings.boxWidth findings with
        output := logText (loggerOf world o) loaded ++ logTexts (loggerOf world o) session.log ++
          (report (loggerOf world o) settings.boxWidth findings).output } := by
  simp only [check, hprepared, hopened, bind, Except.bind, pure, Except.pure, hlinted]

theorem commands_eq {plan : Plan}
    (hjobs : ∀ job ∈ plan.jobs, IsFor given (nameText job.document) job) :
    plan.commands = (plan.jobs.map fun job => nameText job.document).flatMap fun name =>
      (lintersOf plan.registry name).map (commandFor plan.base plan.settings name) := by
  rw [Plan.commands, List.flatMap_map]
  refine List.flatMap_congr fun job hj => ?_
  have hfor := hjobs job hj
  rw [Job.commands, hfor.linters]
  exact List.map_congr_left fun linter _ => hfor.commandOf_eq linter

end Checks

section Notes

/-- A tool that prints two notes about a file. -/
def notesLinter : Linter :=
  { Refresh.teller "notes" with
    command := "echo -e '3:1:late\\n1:2:early'"
    template := .words ["echo".toList, "-e".toList, "3:1:late\\n1:2:early".toList] }

def notesCommand : Gutter.Command := .call ["echo", "-e", "3:1:late\\n1:2:early"]

def notesText : String :=
  "[[linters]]\nname = 'notes'\ncommand = \"echo -e '3:1:late\\\\n1:2:early'\"\n" ++
    "warning_pattern = '(\\d+):(\\d+):(.*)'\nfile_patterns = ['py']\n"

/-- A directory with a file and settings that ask for the tool. -/
def notesFiles : Files :=
  (((Files.empty [['w']]).install [['w'], "a.py".toList] (.file [] false)).install
    [['b'], "echo".toList] (.tool "echo")).install [['w'], Settings.fileName.toList]
      (.file (Text.Utf8.encode notesText.toList) false)

def notesWorld : World := ⟨notesFiles, ⟨[("PATH", "/b")]⟩, []⟩

def notesSettings : Settings := { linters := [notesLinter] }

def notesSetting : Setting := { env := notesWorld.env, timeout := notesSettings.timeout }

/-- The same file is named twice. -/
def notesOptions : Options := { files := ["a.py", "a.py"] }

def notesGiven : Given := fun _ _ => .ended 0 "3:1:late\n1:2:early\n" none

/-- With a run the present time moves on, and then stays. -/
def NotesFit (files : Files) : Prop :=
  files ∈ [notesFiles, (outcomeOf notesFiles notesSetting notesCommand).1]

end Notes

end Gutter.CommandLine
