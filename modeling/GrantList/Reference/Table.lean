import GrantList.Reference.Target

/-!
# The table of references

While data is loaded, names and type groups are entered into a `ReferenceTable`, and grants hold
the positions they got. A target that means the same as an earlier one gets the earlier position,
so references are equal exactly when they mean the same, and the first spelling is the one that is
kept. Once the registry is known, `ReferenceTable.bind` attaches to each entry the capabilities
that it denotes.
-/

namespace GrantList

/-- A reference: the position of an entry in the table. -/
abbrev Ref := Nat

/-- An entry of the table. -/
structure ReferenceEntry where
  /-- What the reference denotes. -/
  target : Target
  /-- The capabilities it was bound to, if it has been bound. -/
  bound : Option (List CapabilityId) := none
deriving DecidableEq, Repr

/-- The references entered so far, in the order in which they were entered. -/
structure ReferenceTable where
  /-- The entries, by position. -/
  entries : List ReferenceEntry := []
deriving DecidableEq, Repr

namespace ReferenceTable

/-- The number of references. -/
def size (t : ReferenceTable) : Nat :=
  t.entries.length

/-- The target of a reference. -/
def target? (t : ReferenceTable) (r : Ref) : Option Target :=
  t.entries[r]?.map (·.target)

/-- The reference with the same meaning as `target`, if it has been entered. -/
def find? (t : ReferenceTable) (target : Target) : Option Ref :=
  let form := target.folded
  t.entries.findIdx? fun e => e.target.folded == form

/-- Enters a target, unless one with the same meaning is there, and gives its reference. -/
def intern (t : ReferenceTable) (target : Target) : ReferenceTable × Ref :=
  match t.find? target with
  | some r => (t, r)
  | none => (⟨t.entries ++ [{ target }]⟩, t.size)

/-- Enters the target of a dotted type expression, unless a part of the expression is empty. -/
def internTypes? (t : ReferenceTable) (category : Category) (base expr : String) :
    Option (ReferenceTable × Ref) :=
  (Target.ofTypes? category base expr).map t.intern

/-- Whether every reference has been bound. -/
def isBound (t : ReferenceTable) : Bool :=
  t.entries.all (·.bound.isSome)

/-- The table with every reference bound to what it denotes in the registry. -/
def bind (t : ReferenceTable) (r : Registry) : ReferenceTable where
  entries := t.entries.map fun e => { e with bound := some (e.target.denotes r) }

/-- The capabilities that a reference is bound to, none if it is not bound. The failure names a
reference that is not in the table. -/
def boundAt (t : ReferenceTable) (r : Ref) : Except Ref (List CapabilityId) :=
  match t.entries[r]? with
  | some entry => .ok (entry.bound.getD [])
  | none => .error r

/-- The labels of the names that denote nothing in the registry. -/
def unconstructed (t : ReferenceTable) (r : Registry) : List String :=
  (t.entries.filter fun e => e.target.isNamed && (e.target.denotes r).isEmpty).map (·.target.label)

end ReferenceTable

end GrantList
