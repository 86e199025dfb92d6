/-!
# Reports

Problems found while data is loaded, checked and written are collected as diagnostics in a `Report`,
in the order in which they were found.
-/

namespace GrantList

/-- How serious a diagnostic is. -/
inductive Severity where
  /-- The data is wrong. -/
  | error
  /-- The data is suspect. -/
  | warning
  /-- A remark. -/
  | info
deriving DecidableEq, Repr

/-- The word for a severity. -/
def Severity.word : Severity → String
  | .error => "error"
  | .warning => "warning"
  | .info => "info"

/-- A problem and the place it belongs to. -/
structure Diagnostic where
  /-- How serious it is. -/
  severity : Severity
  /-- Where it was found. -/
  context : String
  /-- What was found. -/
  message : String
deriving DecidableEq, Repr

/-- The line that shows a diagnostic. -/
def Diagnostic.line (d : Diagnostic) : String :=
  "[" ++ d.severity.word ++ "] " ++ d.context ++ ": " ++ d.message

/-- The diagnostics found so far. -/
structure Report where
  /-- The diagnostics, in the order in which they were found. -/
  diagnostics : List Diagnostic := []
deriving DecidableEq, Repr

namespace Report

/-- Adds a diagnostic. -/
def push (r : Report) (severity : Severity) (context message : String) : Report where
  diagnostics := r.diagnostics ++ [{ severity, context, message }]

/-- The number of errors. -/
def errorCount (r : Report) : Nat :=
  r.diagnostics.countP (·.severity == .error)

/-- Whether there is an error. -/
def hasErrors (r : Report) : Bool :=
  r.diagnostics.any (·.severity == .error)

/-- Whether nothing was reported. -/
def isEmpty (r : Report) : Bool :=
  r.diagnostics.isEmpty

end Report

end GrantList
