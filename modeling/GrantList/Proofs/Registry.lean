import GrantList.Proofs.Text.Trimming
import GrantList.Registry
import Mathlib.Data.List.Nodup

/-!
# Registries and the keys of names

A registry that was made from nothing by constructing capabilities and adding equipment
(`Registry.Built`) has no two capabilities whose names share a key. Looking a name up in it
therefore gives a number exactly when the capability with that number is called so
(`Registry.idOf?_eq_some_iff`), and equipment stands for the capabilities that the proficiencies of
its items name (`Registry.mem_idsForTypes_iff`).
-/

namespace GrantList

/-- The members of a list with one more at the end, by position. -/
theorem getElem?_concat_eq_some_iff {α : Type} {l : List α} {a b : α} {i : Nat} :
    (l ++ [a])[i]? = some b ↔ l[i]? = some b ∨ i = l.length ∧ b = a := by
  rcases lt_trichotomy i l.length with h | rfl | h
  · simp [List.getElem?_append_left h, h.ne]
  · simp [eq_comm]
  · simp [List.getElem?_append_right h.le, List.getElem?_eq_none h.le, h.ne',
      Nat.sub_ne_zero_of_lt h]

theorem Equipment.hasAllTypes_iff {item : Equipment} {wanted : List String} :
    item.hasAllTypes wanted = true ↔ ∀ w ∈ wanted, ∃ t ∈ item.types, Text.SameAscii t w := by
  simp [hasAllTypes]

namespace Registry

/-- The registry was made from nothing by constructing capabilities and adding equipment. -/
inductive Built : Registry → Prop
  /-- The registry that holds nothing. -/
  | empty : Built {}
  /-- A registry after one more name. -/
  | construct {r : Registry} (h : Built r) (name : String) : Built (r.construct name)
  /-- A registry after one more item. -/
  | addEquipment {r : Registry} (h : Built r) (item : Equipment) : Built (r.addEquipment item)

/-- The capability with number `id` has a name with the key of `name`. -/
def IsCalled (r : Registry) (id : CapabilityId) (name : String) : Prop :=
  ∃ n, r.name? id = some n ∧ nameKey n = nameKey name

variable {r : Registry} {id id' : CapabilityId} {name name' : String}

/-! ### One capability for each key -/

theorem idOf?_congr (r : Registry) (h : nameKey name = nameKey name') :
    r.idOf? name = r.idOf? name' := by
  rw [idOf?, idOf?, h]

/-- The number that is found is that of a capability with the name. -/
theorem isCalled_of_idOf? (h : r.idOf? name = some id) : r.IsCalled id name := by
  obtain ⟨hid, hkey, -⟩ := List.findIdx?_eq_some_iff_getElem.mp h
  exact ⟨r.names[id], List.getElem?_eq_getElem hid, by simpa using hkey⟩

theorem nameKey_not_mem_of_idOf?_eq_none (h : r.idOf? name = none) :
    nameKey name ∉ r.names.map nameKey := by
  intro hmem
  obtain ⟨n, hn, hkey⟩ := List.mem_map.mp hmem
  have hne := List.findIdx?_eq_none_iff.mp h n hn
  simp [hkey] at hne

/-- A name is found if a capability has it. -/
theorem IsCalled.isSome_idOf? (h : r.IsCalled id name) : (r.idOf? name).isSome := by
  obtain ⟨n, hn, hkey⟩ := h
  have hmem : nameKey n ∈ r.names.map nameKey := List.mem_map_of_mem (List.mem_of_getElem? hn)
  by_contra hnone
  exact nameKey_not_mem_of_idOf?_eq_none (Option.not_isSome_iff_eq_none.mp hnone) (hkey ▸ hmem)

theorem Built.nodup_keys (h : r.Built) : (r.names.map nameKey).Nodup := by
  induction h with
  | empty => exact List.nodup_nil
  | @construct r _ name ih =>
    -- a name is added only if no capability has its key
    rw [Registry.construct]
    split
    · exact ih
    · next hnone =>
      rw [List.map_append, List.map_singleton, nameKey_trim, ← List.concat_eq_append]
      exact ih.concat (nameKey_not_mem_of_idOf?_eq_none hnone)
  | addEquipment _ item ih => exact ih

/-- A key belongs to one capability. -/
theorem Built.id_unique (h : r.Built) (hid : r.IsCalled id name) (hid' : r.IsCalled id' name) :
    id = id' := by
  obtain ⟨n, hn, hkey⟩ := hid
  obtain ⟨n', hn', hkey'⟩ := hid'
  rw [name?] at hn hn'
  have hlen : id < (r.names.map nameKey).length := by
    simpa using (List.getElem?_eq_some_iff.mp hn).1
  refine (List.getElem?_inj hlen h.nodup_keys).mp ?_
  rw [List.getElem?_map, List.getElem?_map, hn, hn', Option.map_some, Option.map_some, hkey, hkey']

theorem Built.idOf?_eq_some_iff (h : r.Built) : r.idOf? name = some id ↔ r.IsCalled id name := by
  refine ⟨isCalled_of_idOf?, fun hid => ?_⟩
  obtain ⟨id', hfound⟩ := Option.isSome_iff_exists.mp hid.isSome_idOf?
  rw [hfound, h.id_unique (isCalled_of_idOf? hfound) hid]

/-! ### Catalogs -/

private theorem equipment_foldl_construct (r : Registry) (names : List String) :
    (names.foldl construct r).equipment = r.equipment := by
  induction names generalizing r with
  | nil => rfl
  | cons name names ih =>
    rw [List.foldl_cons, ih, construct]
    split <;> rfl

private theorem foldl_addEquipment (r : Registry) (items : List Equipment) :
    items.foldl addEquipment r = { r with equipment := r.equipment ++ items } := by
  induction items generalizing r with
  | nil => simp
  | cons item items ih => simp [ih, addEquipment]

/-- The registry of a catalog is made by constructing its names and adding its items. -/
theorem ofCatalog_eq_foldl (c : Catalog) :
    ofCatalog c = c.equipment.foldl addEquipment (c.proficiencies.foldl construct {}) := by
  rw [foldl_addEquipment, equipment_foldl_construct, List.nil_append, ofCatalog]

/-! ### Equipment -/

theorem Built.mem_idsForTypes_iff (h : r.Built) {types : List String} :
    id ∈ r.idsForTypes types ↔ ∃ item ∈ r.equipment,
      (∀ w ∈ types, ∃ t ∈ item.types, Text.SameAscii t w) ∧
        ∃ name ∈ item.proficiency, r.IsCalled id name := by
  simp only [idsForTypes, requiredBy, List.mem_filterMap, List.mem_filter,
    Equipment.hasAllTypes_iff, Option.bind_eq_some_iff, h.idOf?_eq_some_iff, and_assoc,
    Option.mem_def]

end Registry

end GrantList
