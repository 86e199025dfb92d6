import GrantList.Entity
import GrantList.Value.Bracket
import GrantList.Value.Error

/-!
# Writing values

Whatever a token attached to an entity is written as a list of values: one for each grant in the
token's slot and one for each of the token's choice grants. Within a value the names come first, in
the order of their lower-case forms, and then the type groups. Across values the order is that of
code points, and equal values are written once, so the same state always has the same written form.
An empty list means that there is nothing to write.
-/

namespace GrantList

namespace Value

/-- The text of a type group: its own types without the type that the token implies. Any other
target is written by its label. -/
def typeGroupText (t : Token) : Target → String
  | .typed _ _ types => t.canonicalIntro ++ Text.join '.' types
  | target => target.label

/-- The target of a reference that a grant holds. -/
def targetOf (refs : ReferenceTable) (r : Ref) : Except EncodeError Target :=
  match refs.target? r with
  | some target => .ok target
  | none => .error (.unknownRef r)

/-- The text of a payload. -/
def payloadText (t : Token) (refs : ReferenceTable) : Payload → Except EncodeError String
  | .all _ => .ok allMarker
  | .refs capabilities typeGroups => do
    let names ← capabilities.mapM (targetOf refs)
    let groups ← typeGroups.mapM (targetOf refs)
    return Text.join separator
      (Text.sortNames (names.map (·.label)) ++ Text.sortNames (groups.map (typeGroupText t)))

/-- The text of a condition within its brackets, if there is a condition. -/
def conditionText (t : Token) (format : ConditionFormat) :
    Option Condition → Except EncodeError (Option String)
  | none => .ok none
  | some c =>
    match format.write c with
    | .ok text => .ok (some text)
    | .error source => .error (.condition t.fullName source)

/-- The value that a choice grant is written as. -/
def choiceText (t : Token) (format : ConditionFormat) (c : ChoiceGrant) :
    Except EncodeError String := do
  let condition ← conditionText t format c.condition
  return withCondition choiceMarker condition

/-- The value that a grant is written as. -/
def grantText (t : Token) (format : ConditionFormat) (refs : ReferenceTable) (g : Grant) :
    Except EncodeError String := do
  let payload ← payloadText t refs g.payload
  let condition ← conditionText t format g.condition
  return withCondition payload condition

end Value

namespace Token

/-- The values of all that the token attached to the entity, in order and without repetition. They
are refused if everything is granted without condition and something else is granted too. -/
def encode (t : Token) (format : ConditionFormat) (refs : ReferenceTable) (e : Entity) :
    Except EncodeError (List String) := do
  let choices ← (e.choicesFrom t.name).mapM (Value.choiceText t format)
  let grants ← (e.grantsIn t.name).mapM (Value.grantText t format refs)
  let values := SortedSet.ofList (choices ++ grants)
  if Value.allMarker ∈ values ∧ values ≠ [Value.allMarker] then
    throw (.inconsistent t.fullName values)
  return values

end Token

end GrantList
