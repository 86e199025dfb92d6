import GrantList.Condition
import GrantList.Registry
import GrantList.SortedMap
import GrantList.SortedSet

/-!
# Characters

A character holds capabilities, each on behalf of an owner, the definition that gave it. One owner
may give a capability several times, and each time counts: taking it back once removes the oldest
of them. An owner with nothing left is dropped.
-/

namespace GrantList

/-- A character with the capabilities it holds. -/
structure Character where
  /-- The name of the character. -/
  name : String
  /-- The capabilities it holds on behalf of each owner, in the order in which they were given. -/
  holdings : SortedMap String (List CapabilityId) := ∅
deriving DecidableEq, Repr

/-- Decides whether a condition is met by a character. -/
abbrev ConditionCheck := Condition → Character → Bool

/-- Whether a condition that may be missing is met. A missing condition always is. -/
def ConditionCheck.passes (check : ConditionCheck) (condition : Option Condition)
    (c : Character) : Bool :=
  condition.all (check · c)

namespace Character

/-- Gives a capability on behalf of an owner. -/
def add (c : Character) (owner : String) (id : CapabilityId) : Character :=
  { c with holdings := c.holdings.alter owner fun ids? => some (ids?.getD [] ++ [id]) }

/-- Takes a capability of an owner back once: the one that was given first. If nothing is left then
the owner is dropped. There is no result if the owner has not given the capability. -/
def remove? (c : Character) (owner : String) (id : CapabilityId) : Option Character :=
  match c.holdings.find? owner with
  | none => none
  | some ids =>
    if id ∈ ids then
      let rest := ids.erase id
      some { c with
        holdings := if rest = [] then c.holdings.erase owner else c.holdings.insert owner rest }
    else none

/-- Takes a capability of an owner back once. Nothing happens if the owner has not given it. -/
def remove (c : Character) (owner : String) (id : CapabilityId) : Character :=
  (c.remove? owner id).getD c

/-- Whether there is a capability of an owner to take back. -/
def holds (c : Character) (owner : String) (id : CapabilityId) : Bool :=
  (c.remove? owner id).isSome

/-- The capabilities held on behalf of an owner, in the order in which they were given. -/
def ofOwner (c : Character) (owner : String) : List CapabilityId :=
  (c.holdings.find? owner).getD []

/-- The owners on whose behalf something is held, in order and each once. -/
def owners (c : Character) : List String :=
  c.holdings.keys

/-- All capabilities held, in increasing order and each once. -/
def capabilityIds (c : Character) : List CapabilityId :=
  SortedSet.ofList (c.holdings.entries.flatMap (·.2))

/-- Gives the capability called `name` on behalf of an owner. An unknown name gives nothing. -/
def attach (c : Character) (owner : String) (r : Registry) (name : String) : Character :=
  match r.idOf? name with
  | some id => c.add owner id
  | none => c

/-- Takes the capability called `name` back once. An unknown name takes nothing. -/
def detach (c : Character) (owner : String) (r : Registry) (name : String) : Character :=
  match r.idOf? name with
  | some id => c.remove owner id
  | none => c

end Character

end GrantList
