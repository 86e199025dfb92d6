import GrantList.Proofs.Reference.History

/-!
# What references are bound to

In a history of a table, references are entered and bound in any order, to one registry after the
other. Only the last binding counts (`ReferenceTable.BoundTo`): what was entered before it is bound
to what it stands for in that registry, and what was entered later is not bound at all.

What a target stands for is told by `Target.Provides`, which knows of the items and the names of a
registry and of no look-up.

Main result: `ReferenceTable.bound_by_last_binding`.
-/

namespace GrantList

/-! ### What a target stands for -/

namespace Registry

/-- The capability with number `id` is the first whose name has the key of `name`. -/
def Finds (r : Registry) (name : String) (id : CapabilityId) : Prop :=
  r.IsCalled id name ∧ ∀ id' < id, ¬ r.IsCalled id' name

/-- The item requires a proficiency, and its name is found as `id`. -/
def Requires (r : Registry) (item : Equipment) (id : CapabilityId) : Prop :=
  ∃ name ∈ item.proficiency, r.Finds name id

variable {r : Registry} {id : CapabilityId} {name : String}

theorem idOf?_eq_some_iff_finds : r.idOf? name = some id ↔ r.Finds name id := by
  rw [idOf?, List.findIdx?_eq_some_iff_getElem]
  constructor
  · rintro ⟨hid, hkey, hbefore⟩
    refine ⟨⟨r.names[id], List.getElem?_eq_getElem hid, by simpa using hkey⟩, ?_⟩
    rintro id' hlt ⟨n, hn, hkey'⟩
    obtain ⟨hid', rfl⟩ := List.getElem?_eq_some_iff.mp hn
    exact hbefore id' hlt (by simpa using hkey')
  · rintro ⟨⟨n, hn, hkey⟩, hbefore⟩
    obtain ⟨hid, rfl⟩ := List.getElem?_eq_some_iff.mp hn
    refine ⟨hid, by simpa using hkey, fun id' hlt hkey' => ?_⟩
    exact hbefore id' hlt
      ⟨r.names[id'], List.getElem?_eq_getElem (hlt.trans hid), by simpa using hkey'⟩

theorem mem_requiredBy_iff {items : List Equipment} :
    id ∈ r.requiredBy items ↔ ∃ item ∈ items, r.Requires item id := by
  simp only [requiredBy, List.mem_filterMap, Option.bind_eq_some_iff, idOf?_eq_some_iff_finds,
    Requires, Option.mem_def]

end Registry

namespace Target

/-- The target stands for the capability with number `id` in the registry. Types of capabilities
stand for nothing. -/
inductive Provides (r : Registry) : Target → CapabilityId → Prop
  /-- Everything stands for all capabilities. -/
  | everything {id : CapabilityId} (h : id < r.size) : Provides r (.allOf .shieldProf) id
  /-- A name stands for the capability that is found by it. -/
  | name {name : String} {id : CapabilityId} (h : r.Finds name id) :
    Provides r (.named .shieldProf name) id
  /-- All equipment stands for what some item requires. -/
  | equipment {item : Equipment} {id : CapabilityId} (hitem : item ∈ r.equipment)
    (h : r.Requires item id) : Provides r (.allOf .equipment) id
  /-- Equipment with a name stands for what an item of this name requires. -/
  | equipmentName {item : Equipment} {name : String} {id : CapabilityId}
    (hitem : item ∈ r.equipment) (hname : Text.SameAscii item.name name) (h : r.Requires item id) :
    Provides r (.named .equipment name) id
  /-- Equipment with types stands for what an item with all these types requires. -/
  | equipmentTypes {item : Equipment} {base : String} {types : List String} {id : CapabilityId}
    (hitem : item ∈ r.equipment)
    (htypes : ∀ w ∈ base :: types, ∃ t ∈ item.types, Text.SameAscii t w) (h : r.Requires item id) :
    Provides r (.typed .equipment base types) id

/-- If the target is a name, there are no blanks around it. -/
def IsTrimmed (T : Target) : Prop :=
  ∀ c name, T = .named c name → Text.trim name = name

variable {r : Registry} {T : Target} {id : CapabilityId}

/-- A name is entered without the blanks around it. -/
theorem isTrimmed_ofName (c : Category) (text : String) : (ofName c text).IsTrimmed := by
  intro c' name h
  obtain ⟨-, rfl⟩ := named.inj h
  exact Text.trim_trim text

/-- A target denotes what it stands for. -/
theorem mem_denotes_iff (hT : T.IsTrimmed) : id ∈ T.denotes r ↔ T.Provides r id := by
  cases T with
  | allOf c =>
    cases c with
    | shieldProf =>
      rw [mem_denotes_allOf]
      constructor
      · exact .everything
      · intro h
        cases h with
        | everything h => exact h
    | equipment =>
      rw [denotes, SortedSet.mem_ofList, Registry.idsForTypes, Registry.mem_requiredBy_iff]
      constructor
      · rintro ⟨item, hitem, h⟩
        exact .equipment (List.mem_filter.mp hitem).1 h
      · intro h
        cases h with
        | equipment hitem h => exact ⟨_, List.mem_filter.mpr ⟨hitem, rfl⟩, h⟩
  | named c name =>
    cases c with
    | shieldProf =>
      rw [denotes, Option.mem_toList, Registry.idOf?_eq_some_iff_finds]
      constructor
      · exact .name
      · intro h
        cases h with
        | name h => exact h
    | equipment =>
      rw [denotes, SortedSet.mem_ofList, Registry.mem_requiredBy_iff, hT .equipment name rfl]
      constructor
      · rintro ⟨item, hitem, h⟩
        obtain ⟨hitem, hname⟩ := List.mem_filter.mp hitem
        exact .equipmentName hitem (of_decide_eq_true hname) h
      · intro h
        cases h with
        | equipmentName hitem hname h =>
          exact ⟨_, List.mem_filter.mpr ⟨hitem, decide_eq_true hname⟩, h⟩
  | typed c base types =>
    cases c with
    | shieldProf =>
      refine iff_of_false List.not_mem_nil fun h => ?_
      cases h
    | equipment =>
      rw [denotes, SortedSet.mem_ofList, Registry.idsForTypes, Registry.mem_requiredBy_iff]
      have hwanted : ∀ item : Equipment, item.hasAllTypes (types ++ [base]) = true ↔
          ∀ w ∈ base :: types, ∃ t ∈ item.types, Text.SameAscii t w := by
        intro item
        rw [Equipment.hasAllTypes_iff, List.forall_mem_append, List.forall_mem_singleton,
          List.forall_mem_cons, and_comm]
      constructor
      · rintro ⟨item, hitem, h⟩
        obtain ⟨hitem, htypes⟩ := List.mem_filter.mp hitem
        exact .equipmentTypes hitem ((hwanted item).mp htypes) h
      · intro h
        cases h with
        | equipmentTypes hitem htypes h =>
          exact ⟨_, List.mem_filter.mpr ⟨hitem, (hwanted _).mpr htypes⟩, h⟩

/-- What a target denotes is in increasing order. -/
theorem pairwise_denotes (T : Target) (r : Registry) : (T.denotes r).Pairwise (· < ·) := by
  cases T with
  | allOf c =>
    cases c with
    | shieldProf => exact List.pairwise_lt_range
    | equipment => exact SortedSet.pairwise_ofList _
  | named c name =>
    cases c with
    | shieldProf =>
      rw [denotes]
      cases r.idOf? name with
      | none => exact .nil
      | some id => exact List.pairwise_singleton _ id
    | equipment => exact SortedSet.pairwise_ofList _
  | typed c base types =>
    cases c with
    | shieldProf => exact .nil
    | equipment => exact SortedSet.pairwise_ofList _

theorem Provides.exists_name (h : T.Provides r id) : ∃ name, r.name? id = some name := by
  have hfinds : ∀ {name}, r.Finds name id → ∃ n, r.name? id = some n := fun h =>
    have ⟨n, hn, _⟩ := h.1
    ⟨n, hn⟩
  cases h with
  | everything h => exact ⟨r.names[id], List.getElem?_eq_getElem h⟩
  | name h => exact hfinds h
  | equipment _ h | equipmentName _ _ h | equipmentTypes _ _ h =>
    obtain ⟨_, _, h⟩ := h
    exact hfinds h

end Target

namespace ReferenceTable

variable {t t' : ReferenceTable} {r : Ref} {T : Target} {u : Use} {uses : List Use}

/-! ### What is bound -/

/-- The capabilities that a reference is bound to, if it is in the table and has been bound. -/
def bound? (t : ReferenceTable) (r : Ref) : Option (List CapabilityId) :=
  t.entries[r]?.bind (·.bound)

theorem isBound_iff : t.isBound = true ↔ ∀ r < t.size, (t.bound? r).isSome := by
  rw [isBound, List.all_eq_true, List.forall_mem_iff_forall_getElem]
  refine forall₂_congr fun r hr => ?_
  rw [bound?, List.getElem?_eq_getElem hr, Option.bind_some]

/-- What is bound in a table is so in all tables that continue it, and nothing else is. -/
theorem Appends.bound?_eq (h : t.Appends t') (r : Ref) : t'.bound? r = t.bound? r := by
  obtain ⟨more, hmore, hnew⟩ := h
  rw [bound?, bound?, hmore]
  by_cases hr : r < t.entries.length
  · rw [List.getElem?_append_left hr]
  · rw [List.getElem?_append_right (not_lt.mp hr), List.getElem?_eq_none (not_lt.mp hr)]
    cases hentry : more[r - t.entries.length]? with
    | none => rfl
    | some entry => exact hnew entry (List.mem_of_getElem? hentry)

theorem bound?_bind (t : ReferenceTable) (registry : Registry) (r : Ref) :
    (t.bind registry).bound? r = (t.target? r).map (·.denotes registry) := by
  rw [bound?, bind, List.getElem?_map, target?]
  cases t.entries[r]? <;> rfl

/-- A binding takes the place of an earlier one. -/
theorem bind_overwrites (t : ReferenceTable) (first last : Registry) :
    (t.bind first).bind last = t.bind last := by
  simp [bind]

/-! ### Bindings in a history -/

/-- The table after uses, if it held nothing before the first one. -/
def filledBy (uses : List Use) : ReferenceTable :=
  ({} : ReferenceTable).after uses

/-- The use binds all references. -/
def Use.Binds : Use → Prop
  | .bind _ => True
  | _ => False

instance : DecidablePred Use.Binds
  | .bind _ => .isTrue trivial
  | .everything _ => .isFalse id
  | .name _ _ => .isFalse id
  | .types _ _ _ => .isFalse id

/-- Whatever else is done leaves all entries as they are. -/
theorem appends_use (t : ReferenceTable) (h : ¬ u.Binds) : t.Appends (t.use u).1 := by
  cases u with
  | everything c => exact t.appends_intern _
  | name c text => exact t.appends_intern _
  | types c base expr =>
    rw [use, internTypes?]
    cases Target.ofTypes? c base expr with
    | none => exact .refl t
    | some T => exact t.appends_intern T
  | bind registry => exact absurd trivial h

theorem appends_after (t : ReferenceTable) (h : ∀ u ∈ uses, ¬ u.Binds) :
    t.Appends (t.after uses) := by
  induction uses generalizing t with
  | nil => exact .refl t
  | cons u uses ih =>
    obtain ⟨hu, huses⟩ := List.forall_mem_cons.mp h
    exact (t.appends_use hu).trans (ih _ huses)

/-- Nothing is bound in a history, or there is a last binding. -/
private theorem exists_last_binding (uses : List Use) :
    (∀ u ∈ uses, ¬ u.Binds) ∨ ∃ before registry since,
      uses = before ++ .bind registry :: since ∧ ∀ u ∈ since, ¬ u.Binds := by
  induction uses using List.reverseRecOn with
  | nil => exact Or.inl nofun
  | append_singleton uses u ih =>
    by_cases hu : u.Binds
    · cases u with
      | bind registry => exact Or.inr ⟨uses, registry, [], rfl, nofun⟩
      | everything c | name c text | types c base expr => exact absurd hu id
    · obtain hnone | ⟨before, registry, since, rfl, hsince⟩ := ih
      · exact Or.inl (List.forall_mem_append.mpr ⟨hnone, List.forall_mem_singleton.mpr hu⟩)
      · refine Or.inr ⟨before, registry, since ++ [u], by simp, ?_⟩
        exact List.forall_mem_append.mpr ⟨hsince, List.forall_mem_singleton.mpr hu⟩

private theorem isTrimmed_of_mem_use (ht : ∀ T ∈ t.targets, T.IsTrimmed)
    (hT : T ∈ (t.use u).1.targets) : T.IsTrimmed := by
  cases hu : u.target? with
  | none => exact ht T ((use_of_target?_eq_none t hu).2 ▸ hT)
  | some T₀ =>
    rw [use_of_target? t hu] at hT
    obtain hT | rfl := mem_targets_intern hT
    · exact ht T hT
    · cases u with
      | name c text =>
        obtain rfl := Option.some_inj.mp hu
        exact Target.isTrimmed_ofName c text
      | types c base expr =>
        obtain ⟨-, rfl⟩ := Target.ofTypes?_eq_some_iff.mp hu
        exact fun _ _ heq => nomatch heq
      | everything c =>
        obtain rfl := Option.some_inj.mp hu
        exact fun _ _ heq => nomatch heq
      | bind registry => cases hu

/-- All names in a table that held nothing at first are without blanks around them. -/
theorem isTrimmed_of_mem_filledBy (hT : T ∈ (filledBy uses).targets) : T.IsTrimmed := by
  induction uses using List.reverseRecOn generalizing T with
  | nil => cases hT
  | append_singleton uses u ih =>
    rw [filledBy, after, List.foldl_append] at hT
    exact isTrimmed_of_mem_use (fun _ => ih) hT

/-! ### The last binding -/

/-- The first `n` references of the table are bound to what they stand for in the registry, and the
others are not bound. -/
structure BoundTo (t : ReferenceTable) (registry : Registry) (n : Nat) : Prop where
  /-- There are as many references. -/
  le_size : n ≤ t.size
  /-- A reference with a smaller number is bound to what its target stands for, in increasing
  order. -/
  bound {r : Ref} {T : Target} (hr : r < n) (hT : t.target? r = some T) :
    ∃ ids, t.bound? r = some ids ∧ ids.Pairwise (· < ·) ∧ ∀ id, id ∈ ids ↔ T.Provides registry id
  /-- All numbers are those of capabilities of the registry. -/
  exists_name {r : Ref} {ids : List CapabilityId} (h : t.bound? r = some ids) {id : CapabilityId}
    (hid : id ∈ ids) : ∃ name, registry.name? id = some name
  /-- No other reference is bound. -/
  unbound {r : Ref} (hr : n ≤ r) : t.bound? r = none

/-- The table is bound as a whole when it has no other references. -/
theorem BoundTo.isBound_iff {registry : Registry} {n : Nat} (h : t.BoundTo registry n) :
    t.isBound = true ↔ t.size = n := by
  rw [ReferenceTable.isBound_iff]
  constructor
  · intro hall
    by_contra hne
    have hlt : n < t.size := lt_of_le_of_ne h.le_size (Ne.symm hne)
    have hbound := hall n hlt
    rw [h.unbound le_rfl] at hbound
    cases hbound
  · rintro rfl r hr
    obtain ⟨T, hT⟩ := exists_target?_of_lt_size hr
    obtain ⟨ids, hids, -⟩ := h.bound hr hT
    rw [hids, Option.isSome_some]

/-- After a binding the table is bound to the registry as far as it went then. -/
theorem boundTo_filledBy (before : List Use) (registry : Registry) {since : List Use}
    (hsince : ∀ u ∈ since, ¬ u.Binds) :
    (filledBy (before ++ .bind registry :: since)).BoundTo registry (filledBy before).size := by
  have hafter : filledBy (before ++ .bind registry :: since) =
      ((filledBy before).bind registry).after since := by
    rw [filledBy, after, List.foldl_append]
    rfl
  have htrimmed : ∀ T ∈ (filledBy before).targets, T.IsTrimmed := fun _ => isTrimmed_of_mem_filledBy
  rw [hafter]
  generalize filledBy before = t at htrimmed ⊢
  have happends := (t.bind registry).appends_after hsince
  have hext : t.Extends ((t.bind registry).after since) :=
    (t.extends_bind registry).trans happends.extends
  have hbound : ∀ r, ((t.bind registry).after since).bound? r =
      (t.target? r).map (·.denotes registry) := fun r => by
    rw [happends.bound?_eq, bound?_bind]
  exact {
    le_size := hext.size_le
    bound := by
      intro r T hr hT
      obtain ⟨T', hT'⟩ := exists_target?_of_lt_size hr
      obtain rfl := Option.some_inj.mp (hT.symm.trans (hext.target? hT'))
      refine ⟨T.denotes registry, by rw [hbound, hT', Option.map_some], T.pairwise_denotes registry,
        fun id => Target.mem_denotes_iff (htrimmed T (mem_targets_of_target? hT'))⟩
    exists_name := by
      intro r ids hr id hid
      rw [hbound] at hr
      obtain ⟨T, hT, rfl⟩ := Option.map_eq_some_iff.mp hr
      exact ((Target.mem_denotes_iff (htrimmed T (mem_targets_of_target? hT))).mp hid).exists_name
    unbound := by
      intro r hr
      rw [hbound, Option.map_eq_none_iff, target?_eq]
      exact List.getElem?_eq_none (size_eq t ▸ hr) }

/-! ### Binding to one registry -/

/-- Binding again to the same registry changes nothing. -/
theorem bind_bind (t : ReferenceTable) (registry : Registry) :
    (t.bind registry).bind registry = t.bind registry :=
  t.bind_overwrites registry registry

/-- The labels that binding reports are those of the names that it binds to nothing, in order. -/
theorem unconstructed_eq_of_bind (t : ReferenceTable) (registry : Registry) :
    t.unconstructed registry = ((t.bind registry).entries.filter fun e =>
      e.target.isNamed && e.bound == some []).map (·.target.label) := by
  have hempty : ∀ ids : List CapabilityId, (some ids == some []) = ids.isEmpty := by
    intro ids
    cases ids <;> rfl
  rw [unconstructed, bind, List.filter_map, List.map_map]
  simp only [Function.comp_def, hempty]

theorem unconstructed_bind (t : ReferenceTable) (registry : Registry) :
    (t.bind registry).unconstructed registry = t.unconstructed registry := by
  rw [unconstructed_eq_of_bind, unconstructed_eq_of_bind, bind_bind]

/-- In every history of a table that held nothing at first, references that were entered before the
last binding are bound to what they stand for in the registry of that binding, and no others. So all
references are bound exactly when nothing new was entered since, or when nothing was entered at all.
Binding to a registry reports the labels of the names that it binds to nothing, in the order in
which they were entered, and binding to the same registry again changes nothing and reports the
same. -/
theorem bound_by_last_binding (uses : List Use) :
    ((∀ u ∈ uses, ¬ u.Binds) ∧ (∀ r, (filledBy uses).bound? r = none) ∧
        ((filledBy uses).isBound = true ↔ (filledBy uses).size = 0) ∨
      ∃ before registry since, uses = before ++ .bind registry :: since ∧
        (∀ u ∈ since, ¬ u.Binds) ∧
        (filledBy uses).BoundTo registry (filledBy before).size ∧
        ((filledBy uses).isBound = true ↔ (filledBy uses).size = (filledBy before).size)) ∧
      ∀ registry,
        (filledBy uses).unconstructed registry =
            (((filledBy uses).bind registry).entries.filter fun e =>
              e.target.isNamed && e.bound == some []).map (·.target.label) ∧
          ((filledBy uses).bind registry).bind registry = (filledBy uses).bind registry ∧
          ((filledBy uses).bind registry).unconstructed registry =
            (filledBy uses).unconstructed registry := by
  refine ⟨?_, fun registry =>
    ⟨unconstructed_eq_of_bind _ registry, bind_bind _ registry, unconstructed_bind _ registry⟩⟩
  obtain hnone | ⟨before, registry, since, rfl, hsince⟩ := exists_last_binding uses
  · have hbound : ∀ r, (filledBy uses).bound? r = none :=
      (({} : ReferenceTable).appends_after hnone).bound?_eq
    refine Or.inl ⟨hnone, hbound, ?_⟩
    rw [isBound_iff, ← Nat.le_zero]
    simp only [hbound, Option.isSome_none, Bool.false_eq_true, imp_false, not_lt]
    exact ⟨fun hall => hall 0, fun hsize r => hsize.trans (Nat.zero_le r)⟩
  · have hto := boundTo_filledBy before registry hsince
    exact Or.inr ⟨before, registry, since, rfl, hsince, hto, hto.isBound_iff⟩

/-- A second binding takes the place of the first: the name is known now, and one of the two items
requires it. What is entered after it is not bound. -/
example :
    let first : Registry := { names := ["Tower"] }
    let second : Registry := {
      names := ["Buckler", "KITE"]
      equipment := [{ name := "Pavise", proficiency := some " kite" },
        { name := "Scutum", proficiency := some "Scutum" }] }
    let t := filledBy [.name .shieldProf "Kite", .bind first, .everything .equipment,
      .name .shieldProf " KITE ", .bind second, .everything .shieldProf]
    [0, 1, 2].map t.bound? = [some [1], some [1], none] := by
  decide +kernel

end ReferenceTable

end GrantList
