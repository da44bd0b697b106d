import Gutter.Linter.Basic
import Gutter.Log

/-! Outcomes: how the run of a linter's command ends, what is logged about it, and the output that
is parsed. -/

namespace Gutter

/-- A command that was executed ends with a status, with what it printed, and with a notice if it
was stopped. One that cannot be executed is refused. A crash is no fault of the command. -/
inductive Outcome
  | ended (status : Int) (printed : String) (notice : Option String)
  | refused (message : String)
  | crashed (message : String)
deriving DecidableEq, Repr

namespace Outcome

/-- The status of a command that was stopped because it took too long. -/
def stoppedStatus : Int := 124

/-- A text without one newline at its end. -/
def trimNewline (text : List Char) : List Char :=
  if text.getLast? = some '\n' then text.dropLast else text

/-- What is parsed. There is nothing of a command that was refused, and after a crash nothing is
parsed. -/
def output : Outcome → Except String (List Char)
  | .ended _ printed _ => .ok (trimNewline printed.toList)
  | .refused _ => .ok []
  | .crashed message => .error message

/-- The command ended well. -/
def succeeded : Outcome → Bool
  | .ended status .. => status = 0
  | _ => false

/-- What is logged when the run of a linter ends. -/
def log (linter : Linter) : Outcome → List LogLine
  | .ended status _ notice =>
    let notice := notice.getD ""
    if status = stoppedStatus ∧ notice ≠ "" then
      [.warn s!"Linter '{linter.name}' stopped: {notice}"]
    else if status = 0 then []
    else [.debug s!"linter={linter.name} returncode={status}"]
  | .refused message => [.warn s!"Linter '{linter.name}' could not be executed: {message}"]
  | .crashed _ => []

end Outcome

/-- What is logged when a linter's command is about to run. -/
def Linter.runningLine (linter : Linter) (command : Command) : LogLine :=
  .debug s!"running linter={linter.name} command={command.describe}"

end Gutter
