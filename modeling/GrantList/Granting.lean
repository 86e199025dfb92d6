import GrantList.Character
import GrantList.Entity
import GrantList.Token

/-!
# What an entity gives to a character

A choice grant gives the capability that was chosen for a character, provided that its condition is
met at that moment; taking the choice back asks for no condition. The grants of an entity give the
capabilities that their references are bound to, provided that their conditions are met.
-/

namespace GrantList

namespace ChoiceGrant

/-- Gives the chosen capability to a character, if the condition is met. -/
def apply (g : ChoiceGrant) (c : Character) (owner : String) (r : Registry)
    (check : ConditionCheck) (name : String) : Character :=
  if check.passes g.condition c then c.attach owner r name else c

/-- Takes the chosen capability back. -/
def undo (_ : ChoiceGrant) (c : Character) (owner : String) (r : Registry) (name : String) :
    Character :=
  c.detach owner r name

end ChoiceGrant

namespace Entity

/-- Gives the chosen capabilities to a character, all of them through each choice grant that came
from the token. -/
def applyChoices (e : Entity) (t : Token) (c : Character) (r : Registry) (check : ConditionCheck)
    (names : List String) : Character :=
  (e.choicesFrom t.name).foldl
    (fun c g => names.foldl (fun c name => g.apply c e.key r check name) c) c

/-- The grants in the slot of the token whose conditions a character meets. -/
def activeGrants (e : Entity) (t : Token) (check : ConditionCheck) (c : Character) : List Grant :=
  (e.grantsIn t.name).filter fun g => check.passes g.condition c

/-- The capabilities that a grant gives. The failure names a reference that is not in the table. -/
def boundOf (refs : ReferenceTable) (g : Grant) : Except Ref (List CapabilityId) := do
  let bound ← g.payload.toList.mapM refs.boundAt
  return bound.flatten

/-- The capabilities that the grants of the entity give to a character, in increasing order. The
failure names a reference that is not in the table. -/
def granted (e : Entity) (t : Token) (refs : ReferenceTable) (check : ConditionCheck)
    (c : Character) : Except Ref (List CapabilityId) := do
  let ids ← (e.activeGrants t check c).mapM (boundOf refs)
  return SortedSet.ofList ids.flatten

/-- A new character, named like the entity, with all that the entity gives: what its grants give
and the capabilities chosen by name. All conditions count as met. -/
def recipient (e : Entity) (t : Token) (refs : ReferenceTable) (r : Registry)
    (choices : List String) : Except Ref Character := do
  let check : ConditionCheck := fun _ _ => true
  let c : Character := { name := e.key }
  let ids ← e.granted t refs check c
  return e.applyChoices t (ids.foldl (·.add e.key ·) c) r check choices

end Entity

end GrantList
