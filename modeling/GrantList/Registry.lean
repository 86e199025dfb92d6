import GrantList.Equipment
import GrantList.NameKey

/-!
# The registry of capabilities

A `Registry` holds the capabilities that a grant can name, together with the equipment whose types
stand for capabilities. Capabilities are numbered in the order in which they were constructed, and
two names with the same key belong to one capability, which keeps its first spelling.
-/

namespace GrantList

/-- The number of a capability: its position in the order of construction. -/
abbrev CapabilityId := Nat

/-- A capability of a registry. -/
structure Capability where
  /-- Its number. -/
  id : CapabilityId
  /-- Its name, as first spelled. -/
  name : String
deriving DecidableEq, Repr

/-- The content of a catalog file: the names of the capabilities and the equipment. -/
structure Catalog where
  /-- The names of the proficiencies. -/
  proficiencies : List String := []
  /-- The equipment items. -/
  equipment : List Equipment := []
deriving DecidableEq, Repr

/-- The capabilities in the order of their numbers, and the equipment in the order of the file. -/
structure Registry where
  /-- The names of the capabilities; the number of a capability is its position. -/
  names : List String := []
  /-- The equipment items. -/
  equipment : List Equipment := []
deriving DecidableEq, Repr

namespace Registry

/-- The number of capabilities. -/
def size (r : Registry) : Nat :=
  r.names.length

/-- The numbers of all capabilities, in increasing order. -/
def ids (r : Registry) : List CapabilityId :=
  List.range r.size

/-- The name of the capability with number `id`. -/
def name? (r : Registry) (id : CapabilityId) : Option String :=
  r.names[id]?

/-- The capability with number `id`. -/
def get? (r : Registry) (id : CapabilityId) : Option Capability :=
  (r.name? id).map fun name => ⟨id, name⟩

/-- All capabilities, by number. -/
def capabilities (r : Registry) : List Capability :=
  r.ids.filterMap r.get?

/-- The number of the capability whose name has the key of `name`. -/
def idOf? (r : Registry) (name : String) : Option CapabilityId :=
  let key := nameKey name
  r.names.findIdx? fun n => nameKey n == key

/-- The capability whose name has the key of `name`. -/
def lookup (r : Registry) (name : String) : Option Capability :=
  (r.idOf? name).bind r.get?

/-- Adds a capability called `name` unless there is one already. -/
def construct (r : Registry) (name : String) : Registry :=
  match r.idOf? name with
  | some _ => r
  | none => { r with names := r.names ++ [Text.trim name] }

/-- The number of the capability called `name` once it has been constructed: the one it had before,
or else the next one. -/
def numberOf (r : Registry) (name : String) : CapabilityId :=
  (r.idOf? name).getD r.size

/-- Adds an equipment item. -/
def addEquipment (r : Registry) (item : Equipment) : Registry :=
  { r with equipment := r.equipment ++ [item] }

/-- The registry of a catalog. A name that comes again adds nothing. -/
def ofCatalog (c : Catalog) : Registry :=
  { c.proficiencies.foldl construct {} with equipment := c.equipment }

/-- The known capabilities that the items require, item by item; an item that requires none, or
an unknown one, contributes nothing. -/
def requiredBy (r : Registry) (items : List Equipment) : List CapabilityId :=
  items.filterMap fun item => item.proficiency.bind r.idOf?

/-- The capabilities that the equipment with every one of `types` requires. -/
def idsForTypes (r : Registry) (types : List String) : List CapabilityId :=
  r.requiredBy (r.equipment.filter (·.hasAllTypes types))

end Registry

end GrantList
