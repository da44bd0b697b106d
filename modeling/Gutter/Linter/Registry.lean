import Gutter.Linter.Basic

/-! Registries: the linters that may run, in the order in which they do; and the linters that are
built in, for tools that print `file:line:col: message`, with what their names stand for. -/

namespace Gutter

/-- Linters in the order of their registration. Names may repeat. -/
structure Registry where
  linters : List Linter
deriving DecidableEq, Repr

namespace Registry

def empty : Registry := ⟨[]⟩

def register (registry : Registry) (linter : Linter) : Registry :=
  ⟨registry.linters ++ [linter]⟩

def size (registry : Registry) : Nat := registry.linters.length

def names (registry : Registry) : List String := registry.linters.map (·.name)

/-- The linters for a file. None is for a document without a name. -/
def matching (registry : Registry) (filename : Option String) : List Linter :=
  match filename with
  | none => []
  | some name => if name.isEmpty then [] else registry.linters.filter (·.isFor name)

/-- The linters for a file, if it can be told of each whether it is one. -/
def matching? (registry : Registry) (filename : Option String) :
    Except Pattern.Unsound (List Linter) :=
  match filename with
  | none => .ok []
  | some name => if name.isEmpty then .ok [] else registry.linters.filterM (·.isFor? name)

theorem filterAuxM_eq_ok {α ε : Type} {p : α → Except ε Bool} {list before kept : List α}
    (h : list.filterAuxM p before = .ok kept) :
    kept = (list.filter fun a => (p a).toOption.getD false).reverse ++ before := by
  induction list generalizing before with
  | nil =>
    cases h
    rfl
  | cons a rest ih =>
    rw [List.filterAuxM] at h
    cases ha : p a with
    | error e =>
      rw [ha] at h
      cases h
    | ok keeps =>
      rw [ha] at h
      rw [ih h]
      cases keeps <;> simp [ha, Except.toOption]

/-- Linters that can be told are those for which it can be told that they are for the file. -/
theorem matching?_eq_ok {registry : Registry} {filename : Option String} {linters : List Linter}
    (h : registry.matching? filename = .ok linters) : linters = registry.matching filename := by
  unfold matching? at h
  unfold matching
  cases filename with
  | none =>
    cases h
    rfl
  | some name =>
    simp only at h ⊢
    split at h
    next hempty =>
      cases h
      rw [if_pos hempty]
    next hname =>
      rw [if_neg hname]
      unfold List.filterM at h
      cases hkept : registry.linters.filterAuxM (·.isFor? name) [] with
      | error e =>
        rw [hkept] at h
        cases h
      | ok kept =>
        rw [hkept] at h
        cases h
        rw [filterAuxM_eq_ok hkept, List.append_nil]
        exact List.reverse_reverse _

end Registry

end Gutter

namespace Gutter.Presets

/-- A path, a line, a column and a message, with colons between them. -/
def gccPattern : String := "^[^\\n]*?:(\\d+):(\\d+): (.*)$"

/-- The column may be missing, and the message starts with how severe it is. -/
def severityPattern : String :=
  "^[^\\n]*?:(?P<line>\\d+):(?:(?P<col>\\d+):)? (?P<message>(?:error|warning|note): .*)$"

def pythonFiles : List String := ["\\.pyi?$"]

def definitions : List Definition := [
  ⟨"flake8", "flake8 --format=default $FILENAME", gccPattern, pythonFiles, false⟩,
  ⟨"ruff", "ruff check --output-format=concise --no-cache $FILENAME", gccPattern, pythonFiles,
    false⟩,
  ⟨"mypy", "mypy --show-column-numbers --no-error-summary $FILENAME", severityPattern,
    pythonFiles, false⟩,
  ⟨"luacheck", "luacheck --formatter=plain --codes --no-color $FILENAME", gccPattern,
    ["\\.lua$"], false⟩,
  ⟨"shellcheck", "shellcheck --format=gcc $FILENAME", gccPattern, ["\\.sh$", "\\.bash$"], false⟩]

/-- The built-in linters. -/
def linters : List Linter :=
  definitions.filterMap fun d =>
    match Linter.check d.value with
    | .ok linter => some linter
    | .error _ => none

def names : List String := definitions.map (·.name)

/-- The name that stands for all built-in linters. -/
def everyName : String := "all"

/-- A name that stands for no built-in linter. -/
structure Unknown where
  name : String

def Unknown.message (e : Unknown) : String :=
  let available := ", ".intercalate names
  s!"Unknown preset '{e.name}' (available: {available})"

/-- The linters that names stand for, in the order of the names. -/
def resolve : List String → Except Unknown (List Linter)
  | [] => .ok []
  | name :: rest =>
    if name = everyName then (resolve rest).map (linters ++ ·)
    else
      match linters.find? fun linter => linter.name = name with
      | none => .error ⟨name⟩
      | some linter => (resolve rest).map (linter :: ·)

end Gutter.Presets
