import GrantList.Category

/-!
# Tokens

A token is a kind of line in a data file whose values are lists of grants. A `Token` says what the
token is called, how its values spell type groups and into which categories its segments point.
-/

namespace GrantList

/-- A kind of line whose values are lists of grants. -/
structure Token where
  /-- The family that the token belongs to. -/
  parent : String
  /-- The name within the family, which also names the slot for its grants. -/
  name : String
  /-- The texts that introduce a type group. The last one is used in writing. -/
  typeIntros : List String
  /-- The type that every type group implies. -/
  typeBase : String
  /-- The category of names and of everything. -/
  capability : Category
  /-- The category of type groups. -/
  typeCategory : Category
deriving DecidableEq, Repr

namespace Token

/-- The token for shield proficiencies. -/
def shieldProf : Token where
  parent := "AUTO"
  name := "SHIELDPROF"
  typeIntros := ["SHIELDTYPE.", "SHIELDTYPE="]
  typeBase := "SHIELD"
  capability := .shieldProf
  typeCategory := .equipment

/-- The family and the name. -/
def fullName (t : Token) : String :=
  t.parent ++ ":" ++ t.name

/-- The text that introduces a type group in writing. -/
def canonicalIntro (t : Token) : String :=
  t.typeIntros.getLast?.getD "TYPE="

end Token

end GrantList
