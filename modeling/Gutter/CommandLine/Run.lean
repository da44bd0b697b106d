import Gutter.CommandLine.Options
import Gutter.CommandLine.Report
import Gutter.Machine.Bench
import Gutter.Machine.Launch
import Gutter.Settings.Discovery

/-! Running the program in what surrounds it, which are files with the current place, variables, and
homes: settings are found, files are read and linted, and what is found is written. -/

namespace Gutter.CommandLine

open Console (Logger)

/-! ### What surrounds the program -/

/-- Files, variables, and where users are at home. -/
structure World where
  files : Files
  env : Environment
  homes : List (String × String)

namespace World

def base (world : World) : Path.Base := ⟨world.env, world.homes, world.files.place⟩

/-- The paths of the files that arguments ask for, and of those that may hold settings. -/
def paths (arguments : List String) : List String :=
  let asked := match Request.read arguments with
    | .ok (.run _ o) => o.files ++ o.config.toList
    | _ => []
  asked ++ [Settings.fileName, Settings.projectName]

/-- The variables that a machine's own commands use, and those about terminals. -/
def commonVariables : List String :=
  ["PATH", "HOME", "PWD", "LC_ALL", "IFS", "USER", "LANG", "TERM", "FORCE_COLOR", "TTY_COMPATIBLE"]

/-- The names that are referred to in a text; its length bounds the number of steps. -/
def namesWithin : Nat → List Char → List String
  | 0, _ => []
  | _, [] => []
  | steps + 1, c :: rest =>
    match c, rest with
    | '$', '\x7b' :: inner =>
      match Environment.reference? inner with
      | some (name, after) => String.ofList name :: namesWithin steps after
      | none => namesWithin steps rest
    | _, _ => namesWithin steps rest

/-- The variables that settings in these bytes refer to. -/
def variableNames (bytes : List UInt8) : List String :=
  match Text.Utf8.decode bytes with
  | .ok text => namesWithin text.length text
  | .error _ => []

/-- Puts what stands at a path among the files. -/
def put (files : Files) (path : String) (node : Node) : Files :=
  let path := Path.ofText path.toList
  let start := if path.isAbsolute then [] else files.place
  files.install (Path.follow start path.parts) node

/-- A machine with its tools, and nothing else in the current place. -/
def start (place : String) : Files :=
  let place := (Path.ofText place.toList).parts
  Machine.equip ((Files.empty place).install place .directory)

end World

/-! ### Requests -/

/-- Why a command fails. A crash is not told. -/
inductive Failure
  | told (message : String)
  | crashed
deriving DecidableEq, Repr

def invalidOption (message : String) : Failure := .told s!"Invalid option: {message}"

/-- How a failure to find settings is told: what the files' format allows, but cannot be converted,
counts as an option. -/
def ofDiscovery (e : Settings.DiscoveryError) : Failure :=
  match e with
  | .bytes _ => invalidOption e.message
  | .numeralTooLong _ => invalidOption e.message
  | .file _ => .crashed
  | _ => .told e.message

def loadedLine (source : String) (settings : Settings) : LogLine :=
  .debug <| s!"loaded config source={Text.quote source} linters={settings.linters.length} " ++
    s!"presets={Text.quoteList settings.presets}"

/-- Finds settings and adds the options to them. The log tells of settings even if a preset is
unknown. -/
def prepare (world : World) (o : Options) (width : Option Nat) :
    Except Failure (LogLine × Except Failure (Settings × Registry)) :=
  let directory := String.ofList (Path.placeText world.files.place)
  match Settings.discover world.files directory o.config with
  | .error e => .error (ofDiscovery e)
  | .ok found =>
    match Settings.build world.env (.table found.payload) with
    | .invalid e => .error (.told e.report)
    | .countTooLarge => .error .crashed
    | .accepted settings =>
      let settings := { settings with
        presets := settings.presets ++ o.presets
        boxWidth := width.getD settings.boxWidth }
      let registry : Except Failure (Settings × Registry) :=
        match settings.prepare with
        | .ok registry => .ok (settings, registry)
        | .error (.preset e) => .error (.told e.message)
        | .error (.batch e) => .error (invalidOption e.message)
      .ok (loadedLine found.source settings, registry)

/-- Reads the files in order, up to the first that cannot be read. -/
def openFrom (files : Files) : Nat → List String → Except Failure (List Document)
  | _, [] => .ok []
  | id, path :: rest =>
    match Document.ofFile files id path with
    | .error e => .error (.told s!"Unable to read {Path.normal path}: {e.message}")
    | .ok document => (openFrom files (id + 1) rest).map (document :: ·)

/-- Lints a document, and adds what is found. -/
def lintNext {σ : Type} (tools : Session.Tools σ) (before : σ × Session × List Finding)
    (document : Document) : σ × Session × List Finding :=
  let (state, s, findings) := before
  let (state, s, set) := Session.lint (Session.work tools) document.id state s
  let applies := (s.lintersFor document.id).toOption.map (!·.isEmpty)
  (state, s, findings ++ [⟨Session.nameText document, applies, set⟩])

/-- Lints the documents in order, after all of them were asked for. -/
def lintAll {σ : Type} (tools : Session.Tools σ) (state : σ) (session : Session) :
    Session × List Finding :=
  let documents := session.members.map (·.document)
  let primed := documents.foldl (fun s document => (s.get true document.id).1) session
  let (_, session, findings) := documents.foldl (lintNext tools) (state, primed, [])
  (session, findings)

/-- A session with documents. -/
def sessionOf (world : World) (settings : Settings) (registry : Registry)
    (documents : List Document) : Session :=
  documents.foldl (fun s document => s.add document true)
    (.open_ settings world.base registry)

/-- The variables say that what is written goes to a terminal that can show styles. -/
def wantsStyles (env : Environment) : Bool :=
  let forced := match env.find? "TTY_COMPATIBLE", env.find? "FORCE_COLOR" with
    | some "0", _ => false
    | some "1", _ => true
    | _, some value => value ≠ ""
    | _, none => false
  let kind := ((env.find? "TERM").getD "").toLower
  forced && kind ≠ "dumb" && kind ≠ "unknown"

def loggerOf (world : World) (o : Options) : Logger :=
  ⟨o.emoji, o.colour, o.debug, wantsStyles world.env⟩

/-- What a failed command comes to. -/
def failing (logger : Logger) (written : String) : Failure → Result
  | .told message => ⟨1, written ++ logger.status .fail message⟩
  | .crashed => ⟨1, written⟩

/-- Checks files. -/
def check (world : World) (o : Options) (width : Option Nat) : Result :=
  let logger := loggerOf world o
  match prepare world o width with
  | .error e => failing logger "" e
  | .ok (loaded, prepared) =>
    let written := logText logger loaded
    let opened : Except Failure (Settings × Session) := do
      let (settings, registry) ← prepared
      return (settings, sessionOf world settings registry (← openFrom world.files 1 o.files))
    match opened with
    | .error e => failing logger written e
    | .ok (settings, session) =>
      let setting : Machine.Setting := { env := world.env, timeout := settings.timeout }
      let (session, findings) :=
        lintAll (Machine.Bench.tools setting) ⟨world.files, 0, []⟩ session
      let result := report logger settings.boxWidth findings
      { result with output := written ++ logTexts logger session.log ++ result.output }

/-- The names of a file's linters, or a dash, if it can be told which they are. -/
def lintersText? (registry : Registry) (path : String) : Option String :=
  (registry.matching? (some path)).toOption.map fun linters =>
    s!"{path}: " ++ if linters.isEmpty then "-" else ", ".intercalate (linters.map (·.name))

/-- Lists the linters of files, up to the first for which they cannot be told. -/
def listLinters (world : World) (o : Options) : Result :=
  let logger := loggerOf world o
  let prepared : Except Failure (Settings × Registry) := do (← prepare world o none).2
  match prepared with
  | .error e => failing logger "" e
  | .ok (_, registry) =>
    let texts := o.files.map fun path => lintersText? registry (Path.normal path)
    let told := texts.takeWhile Option.isSome
    ⟨if told.length = texts.length then 0 else 1, writtenLines (told.filterMap id)⟩

/-- Lists the presets. -/
def listPresets : Result :=
  ⟨0, writtenLines (Presets.definitions.map fun d => s!"{d.name}: {d.command}")⟩

/-- Refuses files that are not there or are directories, and a directory or what is no path in the
place of settings. -/
def checkPaths (files : Files) (o : Options) : Except UsageError Unit := do
  for path in o.files do
    if path.isEmpty then throw (.badFile path)
    match files.find path with
    | .ok .directory => throw (.badFile path)
    | .ok _ => pure ()
    | .error _ => throw (.badFile path)
  match o.config with
  | some path =>
    if path.isEmpty || path.contains '\x00' || files.isDirectory path then
      throw (.badConfig path)
  | none => pure ()

/-- What the program does: it gives help, refuses its arguments, or runs a command. -/
inductive Conduct
  | helps
  | refuses (e : UsageError)
  | runs (result : Result)
deriving DecidableEq, Repr

/-- The status for arguments that are refused. -/
def usageStatus : Nat := 2

/-- Runs the program. -/
def run (world : World) (arguments : List String) : Conduct :=
  let chosen : Except UsageError Conduct := do
    match ← Request.read arguments with
    | .help => return .helps
    | .run .presets _ => return .runs listPresets
    | .run command o =>
      checkPaths world.files o
      let width ← o.width?
      match command with
      | .check => return .runs (check world o width)
      | _ => return .runs (listLinters world o)
  match chosen with
  | .ok conduct => conduct
  | .error e => .refuses e

end Gutter.CommandLine
