import GrantList.Proofs.Registry
import Mathlib.Data.List.Induction

/-!
# The history of a registry

A registry is made from nothing or from a catalog, and goes on to be changed: capabilities are
constructed and equipment items are added (`Registry.Change`). Nothing is ever taken out of it or
moved (`Registry.Extends`), so a name that was found is found at the same number ever after.

Of the names that were constructed, the first one with each key is kept (`Registry.firstSpellings`),
and these are the names of the registry in their order, without the blanks around them
(`Registry.names_made`).
-/

namespace GrantList

namespace Registry

/-- A change of a registry. -/
inductive Change where
  /-- A capability is constructed. -/
  | construct (name : String)
  /-- An equipment item is added. -/
  | addEquipment (item : Equipment)
deriving DecidableEq, Repr

/-- The registry after a change. -/
def change (r : Registry) : Change → Registry
  | .construct name => r.construct name
  | .addEquipment item => r.addEquipment item

/-- The registry after changes, one after the other. -/
def after (r : Registry) (changes : List Change) : Registry :=
  changes.foldl change r

/-- The registry that changes make from nothing. -/
def made (changes : List Change) : Registry :=
  ({} : Registry).after changes

/-- The changes that make the registry of a catalog. -/
def changesOf (c : Catalog) : List Change :=
  c.proficiencies.map .construct ++ c.equipment.map .addEquipment

variable {r r' r'' : Registry} {u : Change} {changes : List Change} {id : CapabilityId}
  {name : String} {i j : Nat}

theorem after_append (r : Registry) (changes later : List Change) :
    r.after (changes ++ later) = (r.after changes).after later :=
  List.foldl_append

theorem made_append (changes later : List Change) :
    made (changes ++ later) = (made changes).after later :=
  after_append {} changes later

/-- The registry of a catalog is made from nothing. -/
theorem ofCatalog_eq_made (c : Catalog) : ofCatalog c = made (changesOf c) := by
  rw [ofCatalog_eq_foldl, changesOf, made_append, made, after, after, List.foldl_map,
    List.foldl_map]
  rfl

/-! ### Growth -/

/-- The registry `r'` holds the capabilities and the items of `r` at their places, and perhaps more
after them. -/
structure Extends (r r' : Registry) : Prop where
  /-- The capabilities keep their numbers and their names. -/
  names : r.names <+: r'.names
  /-- The items keep their places. -/
  equipment : r.equipment <+: r'.equipment

theorem Extends.refl (r : Registry) : r.Extends r :=
  ⟨List.prefix_rfl, List.prefix_rfl⟩

theorem Extends.trans (h : r.Extends r') (h' : r'.Extends r'') : r.Extends r'' :=
  ⟨List.IsPrefix.trans h.names h'.names, List.IsPrefix.trans h.equipment h'.equipment⟩

theorem extends_construct (r : Registry) (name : String) : r.Extends (r.construct name) := by
  rw [construct]
  split
  · exact .refl r
  · exact ⟨List.prefix_append _ _, List.prefix_rfl⟩

theorem extends_change (r : Registry) (u : Change) : r.Extends (r.change u) := by
  cases u with
  | construct name => exact r.extends_construct name
  | addEquipment item => exact ⟨List.prefix_rfl, List.prefix_append _ _⟩

theorem extends_after (r : Registry) (changes : List Change) : r.Extends (r.after changes) := by
  induction changes generalizing r with
  | nil => exact .refl r
  | cons u changes ih => exact (r.extends_change u).trans (ih _)

theorem Extends.size_le (h : r.Extends r') : r.size ≤ r'.size :=
  List.IsPrefix.length_le h.names

theorem Extends.name? (h : r.Extends r') (hid : r.name? id = some name) :
    r'.name? id = some name := by
  obtain ⟨more, hmore⟩ := h.names
  rw [Registry.name?] at hid ⊢
  rw [← hmore, List.getElem?_append_left (List.getElem?_eq_some_iff.mp hid).1, hid]

/-- A name that is found is found at the same number later. -/
theorem Extends.idOf? (h : r.Extends r') (hid : r.idOf? name = some id) :
    r'.idOf? name = some id := by
  obtain ⟨more, hmore⟩ := h.names
  rw [Registry.idOf?] at hid ⊢
  rw [← hmore, List.findIdx?_append, hid, Option.some_or]

/-! ### One name -/

theorem isSome_idOf?_iff : (r.idOf? name).isSome ↔ nameKey name ∈ r.names.map nameKey := by
  rw [idOf?, List.findIdx?_isSome, List.any_eq_true, List.mem_map]
  simp

theorem construct_of_isSome (h : (r.idOf? name).isSome) : r.construct name = r := by
  obtain ⟨id, hid⟩ := Option.isSome_iff_exists.mp h
  rw [construct, hid]

theorem names_construct_of_eq_none (h : r.idOf? name = none) :
    (r.construct name).names = r.names ++ [Text.trim name] := by
  rw [construct, h]

/-- A capability that has been constructed is found by its name, at the number that was given. -/
theorem idOf?_construct (r : Registry) (name : String) :
    (r.construct name).idOf? name = some (r.numberOf name) := by
  cases hid : r.idOf? name with
  | some id => rw [construct_of_isSome (by simp [hid]), numberOf, hid, Option.getD_some]
  | none =>
    have hnone : r.names.findIdx? (nameKey · == nameKey name) = none := hid
    rw [idOf?, names_construct_of_eq_none hid, List.findIdx?_append, hnone, Option.none_or,
      numberOf, hid, Option.getD_none]
    simp [nameKey_trim, size]

/-! ### The names of a registry -/

/-- The name that is constructed, if one is. -/
def Change.name? : Change → Option String
  | .construct name => some name
  | .addEquipment _ => none

/-- The names that are constructed, in their order and as they are spelled. -/
def namesIn (changes : List Change) : List String :=
  changes.filterMap Change.name?

/-- The first name of each key, in the order of the list. -/
def firstSpellings : List String → List String
  | [] => []
  | n :: l => n :: (firstSpellings l).filter fun m => nameKey m ≠ nameKey n

theorem mem_namesIn_iff : name ∈ namesIn changes ↔ .construct name ∈ changes := by
  rw [namesIn, List.mem_filterMap]
  constructor
  · rintro ⟨u, hu, hname⟩
    cases u with
    | construct n => rwa [← Option.some_inj.mp hname]
    | addEquipment item => cases hname
  · exact fun h => ⟨_, h, rfl⟩

/-- Each name is kept in some spelling. -/
theorem mem_map_nameKey_firstSpellings {key : String} {l : List String} :
    key ∈ (firstSpellings l).map nameKey ↔ key ∈ l.map nameKey := by
  induction l with
  | nil => rfl
  | cons n l ih =>
    have hrest : key ∈ ((firstSpellings l).filter fun m => nameKey m ≠ nameKey n).map nameKey ↔
        key ∈ l.map nameKey ∧ key ≠ nameKey n := by
      rw [← ih]
      simp only [List.mem_map, List.mem_filter, decide_eq_true_eq]
      constructor
      · rintro ⟨m, ⟨hm, hne⟩, rfl⟩
        exact ⟨⟨m, hm, rfl⟩, hne⟩
      · rintro ⟨⟨m, hm, rfl⟩, hne⟩
        exact ⟨m, ⟨hm, hne⟩, rfl⟩
    rw [firstSpellings, List.map_cons, List.mem_cons, hrest, List.map_cons, List.mem_cons]
    by_cases hn : key = nameKey n <;> simp [hn]

/-- A later name is kept if its key is new. -/
theorem firstSpellings_append_singleton (l : List String) (name : String) :
    firstSpellings (l ++ [name]) =
      if nameKey name ∈ l.map nameKey then firstSpellings l else firstSpellings l ++ [name] := by
  induction l with
  | nil => rfl
  | cons n l ih =>
    rw [List.cons_append, firstSpellings, ih, firstSpellings, List.map_cons]
    by_cases hn : nameKey name = nameKey n
    · -- the first name has the key, and the later one is filtered out
      rw [if_pos (List.mem_cons.mpr (.inl hn))]
      split <;> simp [hn]
    · simp only [List.mem_cons, hn, false_or]
      split <;> simp [hn]

theorem map_nameKey_map_trim (l : List String) :
    (l.map Text.trim).map nameKey = l.map nameKey := by
  rw [List.map_map]
  exact List.map_congr_left fun n _ => nameKey_trim n

theorem namesIn_append (changes later : List Change) :
    namesIn (changes ++ later) = namesIn changes ++ namesIn later :=
  List.filterMap_append

/-- The names of a registry are the first spellings of those that were constructed, without the
blanks around them. -/
theorem names_made (changes : List Change) :
    (made changes).names = (firstSpellings (namesIn changes)).map Text.trim := by
  induction changes using List.reverseRecOn with
  | nil => rfl
  | append_singleton changes u ih =>
    have hlast : made (changes ++ [u]) = (made changes).change u := made_append changes [u]
    rw [hlast, namesIn_append]
    cases u with
    | addEquipment item =>
      rw [show namesIn [.addEquipment item] = [] from rfl, List.append_nil]
      exact ih
    | construct name =>
      have hkept : ((made changes).idOf? name).isSome ↔
          nameKey name ∈ (namesIn changes).map nameKey := by
        rw [isSome_idOf?_iff, ih, map_nameKey_map_trim, mem_map_nameKey_firstSpellings]
      rw [show namesIn [.construct name] = [name] from rfl, firstSpellings_append_singleton, change]
      by_cases hid : ((made changes).idOf? name).isSome
      · rw [construct_of_isSome hid, if_pos (hkept.mp hid), ih]
      · rw [names_construct_of_eq_none (Option.not_isSome_iff_eq_none.mp hid),
          if_neg (mt hkept.mpr hid), ih, List.map_append, List.map_singleton]

/-- A name is found if one with its key has been constructed. -/
theorem isSome_idOf?_made_iff :
    ((made changes).idOf? name).isSome ↔ nameKey name ∈ (namesIn changes).map nameKey := by
  rw [isSome_idOf?_iff, names_made, map_nameKey_map_trim, mem_map_nameKey_firstSpellings]

/-! ### Constructing at a position -/

/-- The change at position `i` constructs a capability called `name` and gives the number `id`. -/
structure Gave (changes : List Change) (i : Nat) (name : String) (id : CapabilityId) : Prop where
  /-- The change constructs it. -/
  constructs : changes[i]? = some (.construct name)
  /-- The number is the one in the registry at that time. -/
  id_eq : id = (made (changes.take i)).numberOf name

/-- The change at position `i` constructs a capability called `name`, and none before it constructs
one with the same key. -/
structure ConstructsFirst (changes : List Change) (i : Nat) (name : String) : Prop where
  /-- The change constructs it. -/
  constructs : changes[i]? = some (.construct name)
  /-- The key is new. -/
  key_not_mem : nameKey name ∉ (namesIn (changes.take i)).map nameKey

theorem mem_namesIn_take_iff :
    name ∈ namesIn (changes.take i) ↔ ∃ j < i, changes[j]? = some (.construct name) := by
  rw [mem_namesIn_iff, List.mem_iff_getElem?]
  refine exists_congr fun j => ?_
  rw [List.getElem?_take]
  split <;> simp [*]

/-- What is constructed at a position has been constructed first at it or before it. -/
theorem exists_constructsFirst (h : changes[i]? = some (.construct name)) :
    ∃ k ≤ i, ∃ first, ConstructsFirst changes k first ∧ nameKey first = nameKey name := by
  induction i using Nat.strong_induction_on generalizing name with
  | _ i ih =>
    by_cases hkey : nameKey name ∈ (namesIn (changes.take i)).map nameKey
    · obtain ⟨earlier, hearlier, hsame⟩ := List.mem_map.mp hkey
      obtain ⟨j, hj, hconstructs⟩ := mem_namesIn_take_iff.mp hearlier
      obtain ⟨k, hk, first, hfirst, hfirstKey⟩ := ih j hj hconstructs
      exact ⟨k, hk.trans hj.le, first, hfirst, hfirstKey.trans hsame⟩
    · exact ⟨i, le_rfl, name, ⟨h, hkey⟩, rfl⟩

theorem extends_take (changes : List Change) (h : i ≤ j) :
    (made (changes.take i)).Extends (made (changes.take j)) := by
  obtain ⟨rest, hrest⟩ : changes.take i <+: changes.take j := List.take_prefix_take_left h
  rw [← hrest, made_append]
  exact extends_after _ rest

theorem made_take_succ (h : changes[i]? = some u) :
    made (changes.take (i + 1)) = (made (changes.take i)).change u := by
  rw [List.take_add_one, h, Option.toList_some, made_append]
  rfl

/-- The number that was given is found by the name ever after. -/
theorem Gave.idOf? (h : Gave changes i name id) (hj : i < j) :
    (made (changes.take j)).idOf? name = some id := by
  refine (extends_take changes hj).idOf? ?_
  rw [made_take_succ h.constructs, change, idOf?_construct, h.id_eq]

theorem ConstructsFirst.idOf?_eq_none (h : ConstructsFirst changes i name) :
    (made (changes.take i)).idOf? name = none :=
  Option.not_isSome_iff_eq_none.mp (mt isSome_idOf?_made_iff.mp h.key_not_mem)

/-- A new name gets the next number. -/
theorem ConstructsFirst.gave (h : ConstructsFirst changes i name) :
    Gave changes i name (made (changes.take i)).size where
  constructs := h.constructs
  id_eq := by rw [numberOf, h.idOf?_eq_none, Option.getD_none]

/-- The number that a new name gets has that name ever after, without the blanks around it. -/
theorem ConstructsFirst.name? (h : ConstructsFirst changes i name) (hj : i < j) :
    (made (changes.take j)).name? (made (changes.take i)).size = some (Text.trim name) := by
  refine (extends_take changes hj).name? ?_
  rw [made_take_succ h.constructs, change, Registry.name?,
    names_construct_of_eq_none h.idOf?_eq_none, size, List.getElem?_concat_length]

end Registry

end GrantList
