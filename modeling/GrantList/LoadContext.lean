import GrantList.Condition
import GrantList.Reference.Table
import GrantList.Report

/-!
# Load contexts

A `LoadContext` carries what the definitions of one load share: the format of their conditions, the
table of their references and the report of their problems.
-/

namespace GrantList

/-- What the definitions of one load share. -/
structure LoadContext where
  /-- How conditions are read and written. -/
  format : ConditionFormat := .verbatim
  /-- The references entered so far. -/
  refs : ReferenceTable := {}
  /-- The problems found so far. -/
  report : Report := {}

namespace LoadContext

/-- Adds a diagnostic to the report. -/
def push (ctx : LoadContext) (severity : Severity) (context message : String) : LoadContext :=
  { ctx with report := ctx.report.push severity context message }

/-- Reports a problem found in writing. -/
def pushWriteError (ctx : LoadContext) (context message : String) : LoadContext :=
  ctx.push .error context message

/-- Binds every reference to what it denotes in the registry. -/
def bind (ctx : LoadContext) (r : Registry) : LoadContext :=
  { ctx with refs := ctx.refs.bind r }

end LoadContext

end GrantList
