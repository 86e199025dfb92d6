import GrantList.Grant

/-!
# Entities

An `Entity` is a definition, such as a class or a feat, that gives capabilities. Its grants are kept
by slot, one slot for each token, and its choice grants in one list of their own. Both only grow,
and keep the order in which they were added.
-/

namespace GrantList

/-- A definition that gives capabilities. -/
structure Entity where
  /-- The key of the definition. -/
  key : String
  /-- The grants with the slots they are in, in the order in which they were added. -/
  slots : List (String × Grant) := []
  /-- The choice grants, in the order in which they were added. -/
  choices : List ChoiceGrant := []
deriving DecidableEq, Repr

/-- Something to be added to an entity. -/
inductive Attachment where
  /-- A grant. -/
  | grant (g : Grant)
  /-- A choice grant. -/
  | choice (c : ChoiceGrant)
deriving DecidableEq, Repr

namespace Entity

/-- The grants of a slot. -/
def grantsIn (e : Entity) (slot : String) : List Grant :=
  (e.slots.filter (·.1 == slot)).map (·.2)

/-- The choice grants that came from a token. -/
def choicesFrom (e : Entity) (source : String) : List ChoiceGrant :=
  e.choices.filter (·.source == source)

/-- Adds a grant to a slot. -/
def addGrant (e : Entity) (slot : String) (g : Grant) : Entity :=
  { e with slots := e.slots ++ [(slot, g)] }

/-- Adds a choice grant. -/
def addChoice (e : Entity) (c : ChoiceGrant) : Entity :=
  { e with choices := e.choices ++ [c] }

/-- Adds one attachment, a grant to the given slot. -/
def attach (e : Entity) (slot : String) : Attachment → Entity
  | .grant g => e.addGrant slot g
  | .choice c => e.addChoice c

/-- Adds attachments one after the other, grants to the given slot. -/
def attachAll (e : Entity) (slot : String) (l : List Attachment) : Entity :=
  l.foldl (·.attach slot ·) e

end Entity

end GrantList
