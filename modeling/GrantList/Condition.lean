import GrantList.Text.Blank

/-!
# Conditions

A value may end with a condition in brackets. What conditions mean is not fixed here: a
`ConditionFormat` says which texts are conditions and how a condition is written back. The format
`ConditionFormat.verbatim` keeps the text as it stands and refuses only what could not be told
apart from the brackets around it.
-/

namespace GrantList

/-- A condition, known by its text. -/
structure Condition where
  /-- The text of the condition. -/
  text : String
deriving DecidableEq, Repr

/-- Why a text is not a condition, or a condition cannot be written. -/
inductive ConditionError where
  /-- The text is blank. -/
  | empty
  /-- The text holds a bracket. -/
  | bracket (text : String)
  /-- The condition has no written form. -/
  | unwritable (text : String)
deriving DecidableEq, Repr

/-- The message for a failure to read or write a condition. -/
def ConditionError.message : ConditionError → String
  | .empty => "empty condition"
  | .bracket text => "condition '" ++ text ++ "' contains a bracket"
  | .unwritable text => "condition cannot be written: " ++ text

/-- How conditions are read and written. -/
structure ConditionFormat where
  /-- The condition that a bracket text stands for. -/
  read : String → Except ConditionError Condition
  /-- The text that a condition has within brackets. -/
  write : Condition → Except ConditionError String

/-- The format in which a condition is any text that is not blank and holds no bracket, written
as it was read. -/
def ConditionFormat.verbatim : ConditionFormat where
  read text :=
    if Text.isBlankText text then .error .empty
    else if '[' ∈ text.toList ∨ ']' ∈ text.toList then .error (.bracket text)
    else .ok ⟨text⟩
  write c := .ok c.text

end GrantList
