import Gutter.Tools.Awk
import Gutter.Tools.Columns
import Gutter.Tools.Copying
import Gutter.Tools.Counting
import Gutter.Tools.Difference
import Gutter.Tools.Dumping
import Gutter.Tools.Encoding
import Gutter.Tools.Expression
import Gutter.Tools.Finding
import Gutter.Tools.Gathering
import Gutter.Tools.Grep
import Gutter.Tools.Listing
import Gutter.Tools.Matching
import Gutter.Tools.Numbering
import Gutter.Tools.Reading
import Gutter.Tools.Sed
import Gutter.Tools.Surrounding
import Gutter.Tools.Telling
import Gutter.Tools.Translating
import Gutter.Tools.Turning

/-! All tools by their names. -/

namespace Gutter.Tools

open Machine

/-- Tools that run no other program. -/
def plainTools : List (String × Tool) :=
  [("cat", cat), ("tac", tac), ("rev", rev), ("nl", nl), ("head", head), ("tail", tail),
    ("wc", wc), ("cut", cut), ("paste", paste), ("fold", fold), ("expand", expand),
    ("unexpand", unexpand), ("sort", sort), ("uniq", uniq), ("comm", comm), ("join", join),
    ("true", succeed), ("false", fails), ("echo", echo), ("printf", printFormat), ("yes", yes),
    ("test", test false), ("[", test true), ("basename", basename), ("dirname", dirname),
    ("printenv", printVariables), ("pwd", printPlace), ("sleep", sleep), ("touch", touch),
    ("chmod", chmod), ("chown", chown), ("chgrp", chown), ("install", install), ("link", link), ("users", nobodyThere), ("who", nobodyThere), ("mkdir", mkdir), ("rmdir", rmdir), ("rm", rm), ("unlink", unlink),
    ("cp", cp), ("mv", mv), ("ln", ln), ("tee", tee), ("truncate", truncate), ("ls", ls),
    ("readlink", readlink), ("realpath", realpath), ("stat", stat), ("mktemp", mktemp),
    ("which", which), ("tr", tr), ("base64", base64), ("base32", base32), ("od", od),
    ("seq", seq), ("factor", factor), ("cmp", cmp), ("diff", diff), ("whoami", whoami),
    ("arch", arch), ("nproc", nproc), ("uname", uname), ("hostname", hostname), ("tty", tty),
    ("groups", groups), ("logname", logname), ("id", identity), ("date", date), ("sync", succeed),
    ("expr", expr), ("grep", grep), ("egrep", olderGrep .extended), ("fgrep", olderGrep .fixed)]
  ++ digestTools

/-- Tools that run other programs. -/
def runningTools (worker : Worker) : List (String × Tool) :=
  [("env", env worker), ("nohup", nohup worker), ("nice", nice worker),
    ("stdbuf", stdbuf worker), ("setsid", setsid worker), ("timeout", timeout worker), ("xargs", xargs worker), ("find", find worker),
    ("sed", sed worker), ("awk", awk worker), ("mawk", awk worker)]

def toolNames : List String :=
  plainTools.map (·.1) ++ ["env", "nohup", "nice", "stdbuf", "setsid", "timeout", "xargs", "find", "sed", "awk",
    "mawk"]

/-- Tools that write while they read. -/
def streamingTools : List String :=
  ["cat", "rev", "nl", "cut", "paste", "fold", "expand", "unexpand", "uniq", "tee", "tr", "od",
    "grep", "egrep", "fgrep", "sed", "base64", "awk", "mawk"]

/-- Lets a tool write while it reads. If it could go on without end, it goes on until nobody reads
what it writes. -/
def streaming (tool : Tool) : Tool := fun arguments => do
  updateSelf fun p => { p with streams := true, starved := false }
  let status ← tool arguments
  if (← self).starved then
    match ← channel? 1 with
    | some (.pipe index) =>
      modify fun s => { s with pipes := s.pipes.modify index fun pipe => { pipe with closes := none } }
      throw (.ends brokenPipe)
    | _ => throw .overdue
  return status

def tool? (worker : Worker) (name : String) : Option Tool :=
  let found := plainTools.lookup name <|> (runningTools worker).lookup name
  if streamingTools.contains name then found.map streaming else found

end Gutter.Tools
