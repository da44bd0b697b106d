/-! Log lines: what is said while linters run. -/

namespace Gutter

/-- Debug lines follow the work, and warning lines tell of what went wrong. -/
inductive LogLevel
  | debug
  | warn
deriving DecidableEq, Repr

structure LogLine where
  level : LogLevel
  text : String
deriving DecidableEq, Repr

def LogLine.debug (text : String) : LogLine := ⟨.debug, text⟩

def LogLine.warn (text : String) : LogLine := ⟨.warn, text⟩

end Gutter
