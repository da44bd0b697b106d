import Gutter.Files.Tree
import Gutter.Settings
import Gutter.Toml.Document

/-! Where settings are found: in a file that is asked for, in the one that a directory has for them,
or in a section of the project's file; and what they come to. -/

namespace Gutter.Settings

/-- The file of a directory that holds settings alone. -/
def fileName : String := "lintlens.toml"

/-- The file of a directory that holds settings in a section, and the names of that section. -/
def projectName : String := "pyproject.toml"

def toolKey : String := "tool"

def sectionKey : String := "lintlens"

def sectionText : String := s!"[{toolKey}.{sectionKey}]"

/-- Why no settings are found. -/
inductive DiscoveryError
  | missing (path : String)
  | toml (path problem : String)
  | unreadable (path : String) (e : Files.Failure)
  | notTable (path : String)
  | bytes (e : Text.Utf8.DecodeError)
  | numeralTooLong (e : Text.NumeralTooLong)
  | file (e : Files.Failure)

def DiscoveryError.message : DiscoveryError → String
  | .missing path => s!"Configuration file {path} does not exist"
  | .toml path problem => s!"Invalid TOML in {path}: {problem}"
  | .unreadable path e => s!"Unable to read configuration {path}: {e.message}"
  | .notTable path => s!"{sectionText} in {path} must be a table"
  | .bytes e => e.message
  | .numeralTooLong e => e.message
  | .file e => e.message

/-- The error is told as one of the settings. Others leave as they came about. -/
def DiscoveryError.isConverted : DiscoveryError → Bool
  | .missing _ => true
  | .toml .. => true
  | .unreadable .. => true
  | .notTable _ => true
  | .bytes _ => false
  | .numeralTooLong _ => false
  | .file _ => false

/-- A table of settings, and where it was found. -/
structure Found where
  payload : List (String × Value)
  source : String

/-- The entries of a TOML file. -/
def readToml (files : Files) (path : String) : Except DiscoveryError (List (String × Value)) :=
  match files.read path with
  | .error e => .error (.unreadable path e)
  | .ok bytes =>
    match Toml.ofBytes bytes with
    | .ok entries => .ok entries
    | .error (.bytes e) => .error (.bytes e)
    | .error (.problem message) => .error (.toml path message)
    | .error (.numeralTooLong e) => .error (.numeralTooLong e)

/-- The section of a project's file, if it has one. -/
def projectSection (files : Files) (path : String) :
    Except DiscoveryError (Option (List (String × Value))) :=
  match readToml files path with
  | .error e => .error e
  | .ok entries =>
    match Value.find? toolKey entries with
    | some (.table tool) =>
      match Value.find? sectionKey tool with
      | none => .ok none
      | some (.table entries) => .ok (some entries)
      | some _ => .error (.notTable path)
    | _ => .ok none

def isFile (files : Files) (path : String) : Except DiscoveryError Bool :=
  match files.isFile path with
  | .ok found => .ok found
  | .error e => .error (.file e)

/-- The path of a file in a directory. -/
def inDirectory (directory name : String) : String :=
  let start := Path.ofText directory.toList
  String.ofList ({ start with parts := start.parts ++ [name.toList] } : Path).text

/-- Finds settings for a directory; with `explicit`, in that file alone. Where nothing is found the
table is empty. -/
def discover (files : Files) (directory : String) (explicit : Option String) :
    Except DiscoveryError Found := do
  match explicit with
  | some path =>
    let path := Path.normal path
    if ← isFile files path then return ⟨← readToml files path, path⟩
    else throw (.missing path)
  | none =>
    let own := inDirectory directory fileName
    if ← isFile files own then return ⟨← readToml files own, own⟩
    let project := inDirectory directory projectName
    if ← isFile files project then
      if let some entries ← projectSection files project then
        return ⟨entries, s!"{project} {sectionText}"⟩
    return ⟨[], "built-in defaults"⟩

/-- Why no settings come of what is found: nothing is found, there are issues with it, or a count in
a pattern is too large to be read. -/
inductive LoadError
  | discovery (e : DiscoveryError)
  | invalid (e : Validation.Invalid)
  | countTooLarge

def LoadError.message : LoadError → String
  | .discovery e => e.message
  | .invalid e => e.report
  | .countTooLarge => Pattern.Fault.repeatTooLarge.message []

/-- The error is told as one of the settings. -/
def LoadError.isConverted : LoadError → Bool
  | .discovery e => e.isConverted
  | .invalid _ => true
  | .countTooLarge => false

/-- The settings for a directory, or those in one file. -/
def load (files : Files) (env : Environment) (directory : String) (explicit : Option String) :
    Except LoadError Settings :=
  match discover files directory explicit with
  | .error e => .error (.discovery e)
  | .ok found =>
    match build env (.table found.payload) with
    | .accepted settings => .ok settings
    | .invalid e => .error (.invalid e)
    | .countTooLarge => .error .countTooLarge

end Gutter.Settings
