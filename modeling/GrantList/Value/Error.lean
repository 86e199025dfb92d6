import GrantList.Condition
import GrantList.Text.Quoted
import GrantList.Value.Segment
import GrantList.Value.Separator

/-!
# Failures in reading and writing values

A `DecodeError` says why a value was rejected, an `EncodeError` why the grants of an entity cannot
be written. Their messages name the token and show the text at fault.
-/

namespace GrantList

/-- The cause for which a value is rejected. -/
inductive DecodeError.Cause where
  /-- A bracket is opened and the value does not end with a closing one. -/
  | unterminatedCondition
  /-- The text in brackets is not a condition. -/
  | invalidCondition (text : String) (source : ConditionError)
  /-- The payload has an empty segment. -/
  | malformedSeparator (problem : Value.SeparatorProblem)
  /-- A type group has an empty part. -/
  | unresolvedType (expr : String)
  /-- Everything is granted together with something else. -/
  | mutualExclusion
deriving DecidableEq, Repr

/-- A value that was rejected. -/
structure DecodeError where
  /-- The full name of the token. -/
  token : String
  /-- The value. -/
  value : String
  /-- Why it was rejected. -/
  cause : DecodeError.Cause
deriving DecidableEq, Repr

namespace DecodeError

/-- The message for a rejected value. -/
def message (e : DecodeError) : String :=
  let place := e.token ++ " " ++ e.value
  match e.cause with
  | .unterminatedCondition => "Unresolved condition in " ++ place
  | .invalidCondition text source =>
    "Error generating condition '" ++ text ++ "' in " ++ place ++ ": " ++ source.message
  | .malformedSeparator problem =>
    "Illegal separator in " ++ place ++ ": " ++ problem.describe Value.separator
  | .unresolvedType expr =>
    "Internal error in " ++ place ++ ": no type reference for '" ++ expr ++ "'"
  | .mutualExclusion =>
    "Non-sensical " ++ e.token ++ ": Contains ALL and a specific reference: " ++ e.value

/-- Whether the fault lies with the resolution of references and not with the data. -/
def isInternal (e : DecodeError) : Bool :=
  match e.cause with
  | .unresolvedType _ => true
  | _ => false

end DecodeError

/-- Why the grants of an entity cannot be written. -/
inductive EncodeError where
  /-- A grant holds a reference that the table does not have. -/
  | unknownRef (ref : Nat)
  /-- A condition cannot be written. -/
  | condition (token : String) (source : ConditionError)
  /-- Everything is granted together with something else; all written values are listed. -/
  | inconsistent (token : String) (values : List String)
deriving DecidableEq, Repr

/-- The message for grants that cannot be written. -/
def EncodeError.message : EncodeError → String
  | .unknownRef ref => "reference " ++ toString ref ++ " is not in the table"
  | .condition token source => "Error writing condition in " ++ token ++ ": " ++ source.message
  | .inconsistent token values =>
    "Non-sensical " ++ token ++ ": Contains ALL and a specific reference: "
      ++ Text.quoteList values

end GrantList
