import Gutter.Refresh.Stage

/-! Refreshes as a whole, for tools whose outcome depends on the command alone. -/

namespace Gutter.Refresh

/-- What a refresh comes to: an entry or a failure, what it logs, and the commands that it runs. -/
structure Report where
  result : Except Failure Entry
  log : List LogLine
  commands : List Command

/-- A report after lines were logged and commands were run. -/
def Report.after (log : List LogLine) (commands : List Command) (report : Report) : Report :=
  ⟨report.result, log ++ report.log, commands ++ report.commands⟩

def finish (now : Snapshot) (set : WarningSet) : Report :=
  ⟨.ok (now.entry set), [refreshedLine now set], []⟩

/-- Parses outputs one after another, and goes on with `next`. -/
def parseAll (next : WarningSet → Report) : List (Linter × List Char) → WarningSet → Report
  | [], set => next set
  | (linter, raw) :: outputs, set =>
    let parsed := linter.parse raw set
    match parsed.failure with
    | some e => ⟨.error (.reading e), parsed.log, []⟩
    | none => (parseAll next outputs parsed.set).after parsed.log []

/-- What is logged about a run. -/
def runLog (linter : Linter) (command : Command) (outcome : Outcome) : List LogLine :=
  linter.runningLine command :: outcome.log linter

/-- Runs linters one after another, and parses what each printed before the next runs. -/
def sequential (settings : Settings) (tool : Command → Outcome) (now : Snapshot) :
    List Linter → WarningSet → Report
  | [], set => finish now set
  | linter :: rest, set =>
    let command := commandOf settings now linter
    let outcome := tool command
    let report : Report := match outcome.output with
      | .error message => ⟨.error (.crash message), [], []⟩
      | .ok raw => parseAll (sequential settings tool now rest) [(linter, raw)] set
    report.after (runLog linter command outcome) [command]

/-- The outputs of linters that all run, or the message of the first that crashes. -/
def outputs (tool : Command → Outcome) :
    List (Linter × Command) → Except String (List (Linter × List Char))
  | [] => .ok []
  | (linter, command) :: rest =>
    match (tool command).output with
    | .error message => .error message
    | .ok raw => (outputs tool rest).map ((linter, raw) :: ·)

/-- Runs all linters, and then parses what they printed in the order of their registration. -/
def concurrent (settings : Settings) (tool : Command → Outcome) (now : Snapshot) : Report :=
  let runs : List (Linter × Command) :=
    now.linters.map fun linter => (linter, commandOf settings now linter)
  let log := runs.flatMap fun (linter, command) => runLog linter command (tool command)
  let report : Report := match outputs tool runs with
    | .error message => ⟨.error (.crash message), [], []⟩
    | .ok outputs => parseAll (finish now) outputs .empty
  report.after log (runs.map (·.2))

/-- A refresh of a document. -/
def whole (settings : Settings) (base : Path.Base) (registry : Registry) (tool : Command → Outcome)
    (document : Document) : Report :=
  match snapshot base registry document with
  | .error e => ⟨.error e, [], []⟩
  | .ok now =>
    if settings.parallel && 1 < now.linters.length then concurrent settings tool now
    else sequential settings tool now now.linters .empty

end Gutter.Refresh
