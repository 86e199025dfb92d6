import GrantList.Category
import GrantList.Registry
import GrantList.SortedSet
import GrantList.Text.Order
import GrantList.Text.Split

/-!
# Targets of references

A `Target` says what a reference denotes: everything of a category, the object of a name, or the
objects that have a base type and further types. Two targets denote the same when their folded
forms agree: names are compared by their keys, types without regard to ASCII case.

The label of a target is its text in a data file, and `Target.denotes` gives the capabilities that
it stands for in a registry.
-/

namespace GrantList

/-- What a reference denotes. -/
inductive Target where
  /-- All objects of a category. -/
  | allOf (category : Category)
  /-- The objects of a category with a name. -/
  | named (category : Category) (name : String)
  /-- The objects of a category that have the type `base` and every one of `types`. -/
  | typed (category : Category) (base : String) (types : List String)
deriving DecidableEq, Repr

namespace Target

/-- The parts of a dotted type expression, if none of them is empty. -/
def typeParts? (expr : String) : Option (List String) :=
  let parts := Text.split '.' expr
  if "" ∈ parts then none else some parts

/-- The first of each group of types that differ only in ASCII case. -/
def distinctTypes : List String → List String
  | [] => []
  | t :: l => t :: (distinctTypes l).filter fun u => !decide (Text.SameAscii t u)

/-- The target of a name, which is kept without the blanks around it. -/
def ofName (category : Category) (name : String) : Target :=
  .named category (Text.trim name)

/-- The target of a dotted type expression: its parts in order and without repetition. There is
none if a part is empty. -/
def ofTypes? (category : Category) (base expr : String) : Option Target :=
  (typeParts? expr).map fun parts => .typed category base (Text.sortTypes (distinctTypes parts))

/-- The form that targets with the same meaning share. -/
def folded : Target → Target
  | .allOf c => .allOf c
  | .named c name => .named c (nameKey name)
  | .typed c base types => .typed c (Text.asciiLower base) (types.map Text.asciiLower)

/-- The text of the target in a data file. -/
def label : Target → String
  | .allOf _ => "ALL"
  | .named _ name => name
  | .typed _ base types => "TYPE=" ++ Text.join '.' (Text.sortTypes (types ++ [base]))

/-- Whether the target is a name. -/
def isNamed : Target → Bool
  | .named .. => true
  | _ => false

/-- The capabilities that the target stands for in the registry, in increasing order. Equipment
stands for the capabilities it requires, and capabilities themselves have no types. -/
def denotes (r : Registry) : Target → List CapabilityId
  | .allOf .shieldProf => r.ids
  | .allOf .equipment => SortedSet.ofList (r.idsForTypes [])
  | .named .shieldProf name => (r.idOf? name).toList
  | .named .equipment name =>
    let items := r.equipment.filter fun item => Text.SameAscii item.name (Text.trim name)
    SortedSet.ofList (r.requiredBy items)
  | .typed .shieldProf _ _ => []
  | .typed .equipment base types => SortedSet.ofList (r.idsForTypes (types ++ [base]))

end Target

end GrantList
