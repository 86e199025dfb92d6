import GrantList.Granting
import GrantList.Proofs.Except
import GrantList.Proofs.Reference.Binding
import GrantList.Proofs.Registry.History

/-!
# References and a growing registry

A registry only grows, and what a target denotes grows with it: a name that was found is found
again, and an item that required a capability requires it still. So binding to a registry that has
grown takes nothing away from what was bound, and names that denoted nothing may come to denote
something, but never the other way round.

Main result: `ReferenceTable.growth_takes_nothing_away`.
-/

namespace GrantList

variable {r r' : Registry}

/-! ### What a registry gives -/

namespace Registry

theorem Extends.ids_subset (h : r.Extends r') : r.ids ⊆ r'.ids := fun _ hid =>
  List.mem_range.mpr (lt_of_lt_of_le (List.mem_range.mp hid) h.size_le)

/-- What items require they require ever after. An item whose proficiency is not known may come to
require something. -/
theorem Extends.requiredBy_subset {items items' : List Equipment} (h : r.Extends r')
    (hitems : items ⊆ items') : r.requiredBy items ⊆ r'.requiredBy items' := by
  intro id hid
  obtain ⟨item, hitem, hrequires⟩ := List.mem_filterMap.mp hid
  obtain ⟨name, hname, hfound⟩ := Option.bind_eq_some_iff.mp hrequires
  have hfound' : item.proficiency.bind r'.idOf? = some id :=
    Option.bind_eq_some_iff.mpr ⟨name, hname, h.idOf? hfound⟩
  exact List.mem_filterMap.mpr ⟨item, hitems hitem, hfound'⟩

/-- The items of a kind keep what they require together. -/
theorem Extends.requiredBy_filter_subset (h : r.Extends r') (p : Equipment → Bool) :
    r.requiredBy (r.equipment.filter p) ⊆ r'.requiredBy (r'.equipment.filter p) :=
  h.requiredBy_subset (List.filter_subset p h.equipment.subset)

end Registry

/-! ### What a target denotes -/

/-- A target denotes at least what it denoted before the registry grew. -/
theorem Target.denotes_subset (h : r.Extends r') (T : Target) : T.denotes r ⊆ T.denotes r' := by
  have hsorted : ∀ {p : Equipment → Bool},
      SortedSet.ofList (r.requiredBy (r.equipment.filter p)) ⊆
        SortedSet.ofList (r'.requiredBy (r'.equipment.filter p)) := fun {p} id hid =>
    SortedSet.mem_ofList.mpr (h.requiredBy_filter_subset p (SortedSet.mem_ofList.mp hid))
  cases T with
  | allOf c =>
    cases c with
    | shieldProf => exact h.ids_subset
    | equipment => exact hsorted
  | named c name =>
    cases c with
    | shieldProf =>
      intro id hid
      exact Option.mem_toList.mpr (h.idOf? (Option.mem_toList.mp hid))
    | equipment => exact hsorted
  | typed c base types =>
    cases c with
    | shieldProf => exact List.nil_subset _
    | equipment => exact hsorted

/-! ### What is bound -/

namespace ReferenceTable

variable {t : ReferenceTable} {ref : Ref}

theorem bound?_bind_subset (h : r.Extends r') (href : ref < t.size) :
    ∃ ids ids', (t.bind r).bound? ref = some ids ∧ (t.bind r').bound? ref = some ids' ∧
      ids ⊆ ids' := by
  have hentry : t.target? ref = some t.entries[ref].target := by
    rw [target?, List.getElem?_eq_getElem href, Option.map_some]
  refine ⟨_, _, ?_, ?_, t.entries[ref].target.denotes_subset h⟩ <;>
    rw [bound?_bind, hentry, Option.map_some]

/-- A reference that is not in the table fails alike, whatever the registry is. -/
theorem alike_boundAt_bind (h : r.Extends r') (t : ReferenceTable) (ref : Ref) :
    Alike (· ⊆ ·) ((t.bind r).boundAt ref) ((t.bind r').boundAt ref) := by
  rw [boundAt, boundAt, bind, bind, List.getElem?_map, List.getElem?_map]
  cases t.entries[ref]? with
  | none => exact .error ref
  | some entry => exact .ok (entry.target.denotes_subset h)

/-- No name that denoted something comes to denote nothing. -/
theorem unconstructed_sublist (h : r.Extends r') (t : ReferenceTable) :
    (t.unconstructed r').Sublist (t.unconstructed r) := by
  refine (List.monotone_filter_right t.entries fun e he => ?_).map _
  rw [Bool.and_eq_true, List.isEmpty_iff] at he ⊢
  exact ⟨he.1, List.subset_nil.mp (he.2 ▸ e.target.denotes_subset h)⟩

end ReferenceTable

/-! ### What is granted -/

theorem flatten_subset {α : Type} {ls ls' : List (List α)}
    (h : List.Forall₂ (· ⊆ ·) ls ls') : ls.flatten ⊆ ls'.flatten := by
  induction h with
  | nil => exact List.nil_subset _
  | cons hl _ ih =>
    exact List.append_subset.mpr ⟨List.subset_append_of_subset_left _ hl,
      List.subset_append_of_subset_right _ ih⟩

namespace Entity

theorem alike_boundOf_bind (h : r.Extends r') (t : ReferenceTable) (g : Grant) :
    Alike (· ⊆ ·) (boundOf (t.bind r) g) (boundOf (t.bind r') g) :=
  (Alike.mapM fun ref _ => t.alike_boundAt_bind h ref).bind fun hbound =>
    .ok (flatten_subset hbound)

theorem alike_granted_bind (h : r.Extends r') (e : Entity) (tok : Token) (t : ReferenceTable)
    (check : ConditionCheck) (c : Character) :
    Alike (· ⊆ ·) (e.granted tok (t.bind r) check c) (e.granted tok (t.bind r') check c) :=
  (Alike.mapM fun g _ => alike_boundOf_bind h t g).bind fun hids =>
    .ok fun _ hid => SortedSet.mem_ofList.mpr (flatten_subset hids (SortedSet.mem_ofList.mp hid))

end Entity

/-- Growth takes nothing away. When more capabilities are constructed and more items are added, the
capabilities keep their numbers and their names. Each reference of a table that is bound again is
bound to all that it was bound to, as it would be had it never been bound before, and the names
reported as unknown are some of those reported before, in the same order. So what any entity grants
under any conditions to any character, it grants still, and granting fails at the same reference if
it fails. -/
theorem ReferenceTable.growth_takes_nothing_away (t : ReferenceTable) (r : Registry)
    (changes : List Registry.Change) :
    let r' := r.after changes
    (∀ id capability, r.get? id = some capability → r'.get? id = some capability) ∧
      (t.bind r).bind r' = t.bind r' ∧
      (∀ ref < t.size, ∃ ids ids', (t.bind r).bound? ref = some ids ∧
        (t.bind r').bound? ref = some ids' ∧ ids ⊆ ids') ∧
      (t.unconstructed r').Sublist (t.unconstructed r) ∧
      ∀ (e : Entity) (tok : Token) (check : ConditionCheck) (c : Character),
        Alike (· ⊆ ·) (e.granted tok (t.bind r) check c)
          (e.granted tok (t.bind r') check c) := by
  intro r'
  have hgrown : r.Extends r' := r.extends_after changes
  refine ⟨fun id capability hget => ?_, t.bind_overwrites r r', fun ref =>
    bound?_bind_subset hgrown, t.unconstructed_sublist hgrown, fun e tok check c =>
    e.alike_granted_bind hgrown tok t check c⟩
  obtain ⟨name, hname, rfl⟩ := Option.map_eq_some_iff.mp hget
  rw [Registry.get?, hgrown.name? hname, Option.map_some]

/-- An item may come to stand for a capability that is constructed after it. -/
example :
    let t := (({} : ReferenceTable).intern (.named .equipment "Pavise")).1
    let r := Registry.made [.addEquipment { name := "Pavise", proficiency := some " kite" }]
    t.unconstructed r = ["Pavise"] ∧ t.unconstructed (r.after [.construct "Kite"]) = [] := by
  decide +kernel

end GrantList
