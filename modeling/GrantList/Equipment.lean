import GrantList.Text.AsciiCase

/-!
# Equipment

A piece of equipment has types, such as `Shield` or `Heavy`, and may require a proficiency. Types
are compared without regard to the case of ASCII letters.
-/

namespace GrantList

/-- A piece of equipment in the catalog. -/
structure Equipment where
  /-- The name of the item. -/
  name : String
  /-- The types it has. -/
  types : List String := []
  /-- The name of the proficiency it requires. -/
  proficiency : Option String := none
deriving DecidableEq, Repr

/-- Whether the item has every one of the types `wanted`. -/
def Equipment.hasAllTypes (item : Equipment) (wanted : List String) : Bool :=
  wanted.all fun w => item.types.any fun t => Text.SameAscii t w

end GrantList
