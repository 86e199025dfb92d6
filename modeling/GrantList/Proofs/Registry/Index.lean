import GrantList.Proofs.Registry.History
import GrantList.SortedMap

/-!
# The registry as an index

A registry can be kept as two structures: the list of the capabilities, each with its number, and a
map from the keys of their names to the numbers (`Registry.Index`). Reading a capability goes
through the list and looking up a name through the map, so the two have to stay inverse to each
other. They are so by construction: an index carries the two laws that say it, and constructing a
capability keeps them (`Registry.Index.push`).

An index reads as the registry of its names (`Registry.Index.toRegistry`), gives the same answers,
and still reads so after every change (`Registry.Index.toRegistry_after`).

Main result: `Registry.two_way_index`. At every moment of its history, the numbers of a registry are
its names up to their keys.
-/

namespace GrantList

namespace Registry

/-- A registry that is kept as two structures, with the laws that make them inverse. -/
structure Index where
  /-- The capabilities. -/
  capabilities : List Capability
  /-- The numbers of the capabilities by the keys of their names. -/
  numbers : SortedMap String CapabilityId
  /-- The equipment items. -/
  equipment : List Equipment
  /-- A capability carries the number of its place. -/
  id_eq {id : CapabilityId} {c : Capability} : capabilities[id]? = some c → c.id = id
  /-- A key has the number of the capability whose name has the key. -/
  find?_eq_some_iff {key : String} {id : CapabilityId} :
    numbers.find? key = some id ↔ ∃ c, capabilities[id]? = some c ∧ nameKey c.name = key

namespace Index

variable {x : Index} {id : CapabilityId} {name : String}

/-- The index that holds nothing. -/
def empty : Index where
  capabilities := []
  numbers := ∅
  equipment := []
  id_eq h := by simp at h
  find?_eq_some_iff := iff_of_false nofun (by simp)

/-- The capability at a place of the list. -/
def get? (x : Index) (id : CapabilityId) : Option Capability :=
  x.capabilities[id]?

/-- The capability whose name has the key of `name`, through the map. -/
def lookup (x : Index) (name : String) : Option Capability :=
  (x.numbers.find? (nameKey name)).bind x.get?

/-- Adds a capability whose name has a new key, to the list and to the map. -/
def push (x : Index) (name : String) (hnew : x.numbers.find? (nameKey name) = none) : Index where
  capabilities := x.capabilities ++ [⟨x.capabilities.length, Text.trim name⟩]
  numbers := x.numbers.insert (nameKey name) x.capabilities.length
  equipment := x.equipment
  id_eq {id c} h := by
    rcases getElem?_concat_eq_some_iff.mp h with hold | ⟨rfl, rfl⟩
    · exact x.id_eq hold
    · rfl
  find?_eq_some_iff {key id} := by
    simp only [SortedMap.find?_insert, getElem?_concat_eq_some_iff, or_and_right, exists_or,
      ← x.find?_eq_some_iff]
    split
    · next hkey =>
      -- the key is new, so no capability had it
      subst hkey
      simp [hnew, nameKey_trim, eq_comm]
    · next hkey => simp [nameKey_trim, hkey]

/-- Adds a capability called `name` unless there is one already, and gives its number. -/
def construct (x : Index) (name : String) : Index × CapabilityId :=
  match h : x.numbers.find? (nameKey name) with
  | some id => (x, id)
  | none => (x.push name h, x.capabilities.length)

/-- Adds an equipment item. -/
def addEquipment (x : Index) (item : Equipment) : Index :=
  { x with equipment := x.equipment ++ [item] }

/-- The index after a change. -/
def change (x : Index) : Change → Index
  | .construct name => (x.construct name).1
  | .addEquipment item => x.addEquipment item

/-- The index after changes, one after the other. -/
def after (x : Index) (changes : List Change) : Index :=
  changes.foldl change x

/-- The index of a catalog. -/
def ofCatalog (c : Catalog) : Index :=
  { c.proficiencies.foldl (fun x name => (x.construct name).1) empty with equipment := c.equipment }

/-- The registry that an index stands for. -/
def toRegistry (x : Index) : Registry where
  names := x.capabilities.map (·.name)
  equipment := x.equipment

/-! ### The same answers -/

theorem size_toRegistry (x : Index) : x.toRegistry.size = x.capabilities.length :=
  List.length_map _

theorem get?_toRegistry (x : Index) (id : CapabilityId) : x.toRegistry.get? id = x.get? id := by
  rw [Registry.get?, name?, toRegistry, List.getElem?_map, Option.map_map, get?]
  cases h : x.capabilities[id]? with
  | none => rfl
  | some c => simp [← x.id_eq h]

theorem isCalled_toRegistry_iff :
    x.toRegistry.IsCalled id name ↔ x.numbers.find? (nameKey name) = some id := by
  simp [IsCalled, name?, toRegistry, x.find?_eq_some_iff]

/-- The list is searched from the front, and finds what the map has. -/
theorem idOf?_toRegistry (x : Index) (name : String) :
    x.toRegistry.idOf? name = x.numbers.find? (nameKey name) := by
  cases h : x.toRegistry.idOf? name with
  | some id => exact (isCalled_toRegistry_iff.mp (isCalled_of_idOf? h)).symm
  | none =>
    refine (Option.eq_none_iff_forall_ne_some.mpr fun id hid => ?_).symm
    simpa [h] using (isCalled_toRegistry_iff.mpr hid).isSome_idOf?

/-- A name is looked up in the map with the answer that the registry gives. -/
theorem lookup_toRegistry (x : Index) (name : String) :
    x.toRegistry.lookup name = x.lookup name := by
  rw [Registry.lookup, idOf?_toRegistry, funext x.get?_toRegistry, lookup]

/-! ### The same changes -/

theorem toRegistry_construct (x : Index) (name : String) :
    (x.construct name).1.toRegistry = x.toRegistry.construct name := by
  have hid := x.idOf?_toRegistry name
  rw [construct]
  split
  · next id h => rw [Registry.construct, hid.trans h]
  · next h =>
    rw [Registry.construct, hid.trans h]
    simp [push, toRegistry]

/-- Constructing a capability gives its number. -/
theorem construct_snd (x : Index) (name : String) :
    (x.construct name).2 = x.toRegistry.numberOf name := by
  have hid := x.idOf?_toRegistry name
  rw [construct]
  split
  · next id h => rw [numberOf, hid.trans h, Option.getD_some]
  · next h => rw [numberOf, hid.trans h, Option.getD_none, size_toRegistry]

theorem toRegistry_change (x : Index) (u : Change) :
    (x.change u).toRegistry = x.toRegistry.change u := by
  cases u with
  | construct name => exact x.toRegistry_construct name
  | addEquipment item => rfl

/-- After changes an index stands for the registry after the same changes. -/
theorem toRegistry_after (x : Index) (changes : List Change) :
    (x.after changes).toRegistry = x.toRegistry.after changes :=
  (List.foldl_hom toRegistry fun x u => (x.toRegistry_change u).symm).symm

theorem toRegistry_ofCatalog (c : Catalog) :
    (ofCatalog c).toRegistry = Registry.ofCatalog c := by
  have hnames : (c.proficiencies.foldl (fun x name => (x.construct name).1) empty).toRegistry =
      c.proficiencies.foldl Registry.construct {} :=
    (List.foldl_hom toRegistry fun x name => (x.toRegistry_construct name).symm).symm
  rw [Registry.ofCatalog, ← hnames]
  rfl

/-- The capabilities carry the numbers of the registry, in order. -/
theorem ids_toRegistry (x : Index) : x.toRegistry.ids = x.capabilities.map (·.id) := by
  rw [ids, size_toRegistry]
  refine List.ext_getElem (by simp) fun id hid hid' => ?_
  have hlt : id < x.capabilities.length := by simpa using hid
  rw [List.getElem_range, List.getElem_map, x.id_eq (List.getElem?_eq_getElem hlt)]

end Index

/-! ### The numbers and the names -/

variable {changes : List Change} {id id' : CapabilityId} {name name' : String} {i j : Nat}

/-- A number has the name that came to it first, and the numbers are in the order of these names. -/
theorem get?_made (changes : List Change) (id : CapabilityId) :
    (made changes).get? id =
      ((firstSpellings (namesIn changes))[id]?).map fun first => ⟨id, Text.trim first⟩ := by
  rw [get?, name?, names_made, List.getElem?_map, Option.map_map]
  rfl

/-- Names get one number if they have one key. -/
theorem Gave.id_eq_iff (h : Gave changes i name id) (h' : Gave changes j name' id') :
    id = id' ↔ nameKey name = nameKey name' := by
  -- both numbers are found after the later one of the two changes
  have hid := h.idOf? (Nat.lt_succ_of_le (le_max_left i j))
  have hid' := h'.idOf? (Nat.lt_succ_of_le (le_max_right i j))
  constructor
  · rintro rfl
    obtain ⟨n, hn, hkey⟩ := isCalled_of_idOf? hid
    obtain ⟨n', hn', hkey'⟩ := isCalled_of_idOf? hid'
    obtain rfl := Option.some_inj.mp (hn.symm.trans hn')
    exact hkey.symm.trans hkey'
  · intro hkey
    exact Option.some_inj.mp (hid.symm.trans ((idOf?_congr _ hkey).trans hid'))

theorem ConstructsFirst.get? (h : ConstructsFirst changes i name) (hj : i < j) :
    (made (changes.take j)).get? (made (changes.take i)).size =
      some ⟨(made (changes.take i)).size, Text.trim name⟩ := by
  rw [Registry.get?, h.name? hj, Option.map_some]

theorem isSome_lookup_iff {r : Registry} :
    (r.lookup name).isSome ↔ (r.idOf? name).isSome := by
  cases h : r.idOf? name with
  | none => simp [lookup, h]
  | some id =>
    obtain ⟨n, hn, -⟩ := isCalled_of_idOf? h
    simp [lookup, h, Registry.get?, hn]

/-- A name is looked up if one with its key has been constructed. -/
theorem isSome_lookup_made_iff :
    ((made changes).lookup name).isSome ↔
      ∃ n, .construct n ∈ changes ∧ nameKey n = nameKey name := by
  rw [isSome_lookup_iff, isSome_idOf?_made_iff, List.mem_map]
  simp only [mem_namesIn_iff]

/-- Every spelling of a name is looked up with the capability that was constructed first. -/
theorem ConstructsFirst.lookup (h : ConstructsFirst changes i name)
    (hkey : nameKey name = nameKey name') :
    (made changes).lookup name' = some ⟨(made (changes.take i)).size, Text.trim name⟩ := by
  have hi : i < changes.length := (List.getElem?_eq_some_iff.mp h.constructs).1
  have hid := h.gave.idOf? hi
  have hget := h.get? hi
  rw [List.take_length] at hid hget
  rw [Registry.lookup, ← idOf?_congr _ hkey, hid, Option.bind_some, hget]

theorem lookup_made_eq_some_iff {capability : Capability} :
    (made changes).lookup name = some capability ↔
      ∃ k first, ConstructsFirst changes k first ∧ nameKey first = nameKey name ∧
        capability = ⟨(made (changes.take k)).size, Text.trim first⟩ := by
  constructor
  · intro h
    obtain ⟨n, hn, hkey⟩ := isSome_lookup_made_iff.mp (Option.isSome_of_eq_some h)
    obtain ⟨i, hi⟩ := List.mem_iff_getElem?.mp hn
    obtain ⟨k, -, first, hfirst, hfirstKey⟩ := exists_constructsFirst hi
    have hlookup := hfirst.lookup (hfirstKey.trans hkey)
    exact ⟨k, first, hfirst, hfirstKey.trans hkey, Option.some_inj.mp (h.symm.trans hlookup)⟩
  · rintro ⟨k, first, hfirst, hkey, rfl⟩
    exact hfirst.lookup hkey

/-- A capability that was constructed is the one that was constructed first under its key. -/
theorem Gave.exists_first (h : Gave changes i name id) :
    ∃ k ≤ i, ∃ first, ConstructsFirst changes k first ∧ nameKey first = nameKey name ∧
      ∀ j, k < j → (made (changes.take j)).get? id = some ⟨id, Text.trim first⟩ := by
  obtain ⟨k, hk, first, hfirst, hkey⟩ := exists_constructsFirst h.constructs
  obtain rfl := (hfirst.gave.id_eq_iff h).mpr hkey
  exact ⟨k, hk, first, hfirst, hkey, fun j hj => hfirst.get? hj⟩

/-- A registry is a two-way index of the names that have been constructed, from nothing or from a
catalog. Kept as a list and a map, it gives the answers that the search of the names gives. The
numbers count up from zero in the order in which keys came first, and a number is read as the
capability that carries it. Two constructions get one number if and only if their names have one
key. The name of a capability is the one it was first constructed with, without the blanks around
it, and stays so. A name is looked up if and only if one with its key has been constructed, with
the capability that was then made. -/
theorem two_way_index (c : Catalog) (later : List Change) :
    let changes := changesOf c ++ later
    let r := (ofCatalog c).after later
    let x := (Index.ofCatalog c).after later
    r = made changes ∧
      ((∀ id, x.get? id = r.get? id) ∧ (∀ name, x.lookup name = r.lookup name) ∧
        ∀ name, (x.construct name).2 = r.numberOf name) ∧
      x.capabilities.map (·.id) = List.range (firstSpellings (namesIn changes)).length ∧
      (∀ id, r.get? id =
        ((firstSpellings (namesIn changes))[id]?).map fun first => ⟨id, Text.trim first⟩) ∧
      (∀ i name id j name' id', Gave changes i name id → Gave changes j name' id' →
        (id = id' ↔ nameKey name = nameKey name')) ∧
      (∀ i name id, Gave changes i name id → ∃ k ≤ i, ∃ first, ConstructsFirst changes k first ∧
        nameKey first = nameKey name ∧ ∀ j, k < j →
          (made (changes.take j)).get? id = some ⟨id, Text.trim first⟩) ∧
      (∀ name, (r.lookup name).isSome ↔
        ∃ n, .construct n ∈ changes ∧ nameKey n = nameKey name) ∧
      ∀ name capability, r.lookup name = some capability ↔
        ∃ k first, ConstructsFirst changes k first ∧ nameKey first = nameKey name ∧
          capability = ⟨(made (changes.take k)).size, Text.trim first⟩ := by
  intro changes r x
  have hr : r = made changes := by
    rw [made_append, ← ofCatalog_eq_made]
  have hx : x.toRegistry = r := by
    rw [Index.toRegistry_after, Index.toRegistry_ofCatalog]
  have hids : x.capabilities.map (·.id) = List.range (firstSpellings (namesIn changes)).length := by
    rw [← x.ids_toRegistry, hx, hr, ids, size, names_made, List.length_map]
  refine ⟨hr, ⟨fun id => ?_, fun name => ?_, fun name => ?_⟩, hids, ?_⟩
  · rw [← hx, x.get?_toRegistry]
  · rw [← hx, x.lookup_toRegistry]
  · rw [← hx, x.construct_snd]
  rw [hr]
  exact ⟨get?_made changes, fun i name id j name' id' h h' => h.id_eq_iff h',
    fun i name id h => h.exists_first, fun name => isSome_lookup_made_iff,
    fun name capability => lookup_made_eq_some_iff⟩

/-- Blanks and letter case make no new capability, and the first spelling is kept. -/
example :
    let r := made [.construct " Buckler ", .construct "KITE", .construct "buckler"]
    r.capabilities = [⟨0, "Buckler"⟩, ⟨1, "KITE"⟩] ∧ r.numberOf "Kite" = 1 := by
  decide +kernel

end Registry

end GrantList
