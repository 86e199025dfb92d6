/-!
# Categories

A reference points either at shield proficiencies themselves or at pieces of equipment, which stand
for the proficiencies they require.
-/

namespace GrantList

/-- The kind of object a reference points at. -/
inductive Category where
  /-- Shield proficiencies. -/
  | shieldProf
  /-- Equipment items, each standing for the proficiency it requires. -/
  | equipment
deriving DecidableEq, Repr

end GrantList
