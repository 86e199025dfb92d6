import GrantList.Condition
import GrantList.Reference.Table

/-!
# Grants

What an entity gives is either a `Grant`, which names its capabilities by references, or a
`ChoiceGrant`, which leaves them to be chosen for each character. Both may carry a condition.
-/

namespace GrantList

/-- What a grant covers. Everything and single references never mix. -/
inductive Payload where
  /-- Everything of the category that the reference denotes. -/
  | all (ref : Ref)
  /-- The capabilities of the names and of the type groups. -/
  | refs (capabilities typeGroups : List Ref)
deriving DecidableEq, Repr

namespace Payload

/-- The references to names. -/
def capabilities : Payload → List Ref
  | .all _ => []
  | .refs capabilities _ => capabilities

/-- The references to type groups. -/
def typeGroups : Payload → List Ref
  | .all _ => []
  | .refs _ typeGroups => typeGroups

/-- Every reference of the payload. -/
def toList : Payload → List Ref
  | .all ref => [ref]
  | .refs capabilities typeGroups => capabilities ++ typeGroups

/-- Whether the payload covers everything. -/
def isAll : Payload → Bool
  | .all _ => true
  | .refs .. => false

end Payload

/-- Capabilities granted under a condition, or without one. -/
structure Grant where
  /-- What is granted. -/
  payload : Payload
  /-- The condition, if there is one. -/
  condition : Option Condition := none
deriving DecidableEq, Repr

/-- A grant whose capabilities are chosen later, for each character. -/
structure ChoiceGrant where
  /-- The name of the token that it came from. -/
  source : String
  /-- The condition, if there is one. -/
  condition : Option Condition := none
deriving DecidableEq, Repr

end GrantList
