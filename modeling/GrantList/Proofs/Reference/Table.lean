import GrantList.Reference.Table
import Mathlib.Data.List.Basic

/-!
# Interning keeps references

A table only grows: a reference that was given out keeps its target, and a target that was found is
found at the same place ever after (`ReferenceTable.Extends`). Nothing but binding changes an entry
that is there (`ReferenceTable.Appends`). In a table that never holds two targets with the same
meaning (`ReferenceTable.Distinct`), which interning preserves, references stand for meanings one to
one.
-/

namespace GrantList.ReferenceTable

variable {t t' t'' : ReferenceTable} {T T' : Target} {r r' : Ref}

/-- The targets of the entries, by position. -/
def targets (t : ReferenceTable) : List Target :=
  t.entries.map (·.target)

theorem target?_eq (t : ReferenceTable) (r : Ref) : t.target? r = t.targets[r]? := by
  simp [target?, targets]

theorem mem_targets_of_target? (h : t.target? r = some T) : T ∈ t.targets :=
  List.mem_of_getElem? (target?_eq t r ▸ h)

theorem exists_target?_of_mem (h : T ∈ t.targets) : ∃ r, t.target? r = some T := by
  obtain ⟨r, hr⟩ := List.mem_iff_getElem?.mp h
  exact ⟨r, by rwa [target?_eq]⟩

theorem size_eq (t : ReferenceTable) : t.size = t.targets.length := by
  rw [targets, List.length_map, size]

theorem exists_target?_of_lt_size (h : r < t.size) : ∃ T, t.target? r = some T := by
  rw [size_eq] at h
  exact ⟨_, by rw [target?_eq, List.getElem?_eq_getElem h]⟩

theorem lt_size_of_target? (h : t.target? r = some T) : r < t.size := by
  rw [target?_eq] at h
  exact size_eq t ▸ (List.getElem?_eq_some_iff.mp h).1

private theorem find?_eq_findIdx? (t : ReferenceTable) (T : Target) :
    t.find? T = t.targets.findIdx? (·.folded == T.folded) := by
  simp [find?, targets, List.findIdx?_map, Function.comp_def]

/-- Looking a target up depends on its meaning alone. -/
theorem find?_congr (h : T.folded = T'.folded) : t.find? T = t.find? T' := by
  rw [find?_eq_findIdx?, find?_eq_findIdx?, h]

/-- What is found has the meaning that was looked for. -/
theorem target?_of_find? (h : t.find? T = some r) :
    ∃ T', t.target? r = some T' ∧ T'.folded = T.folded := by
  rw [find?_eq_findIdx?, List.findIdx?_eq_some_iff_getElem] at h
  obtain ⟨hr, hfold, -⟩ := h
  exact ⟨t.targets[r], by rw [target?_eq, List.getElem?_eq_getElem hr], by simpa using hfold⟩

/-- A target is found when some target of the table has its meaning. -/
theorem isSome_find?_iff : (t.find? T).isSome ↔ ∃ T' ∈ t.targets, T'.folded = T.folded := by
  rw [find?_eq_findIdx?, List.findIdx?_isSome, List.any_eq_true]
  simp

theorem isSome_find?_of_mem (h : T ∈ t.targets) : (t.find? T).isSome :=
  isSome_find?_iff.mpr ⟨T, h, rfl⟩

/-! ### Growth -/

/-- The table `t'` holds the targets of `t` at their places, and perhaps more after them. -/
def Extends (t t' : ReferenceTable) : Prop :=
  t.targets <+: t'.targets

theorem Extends.refl (t : ReferenceTable) : t.Extends t :=
  List.prefix_rfl

theorem Extends.of_targets_eq (h : t'.targets = t.targets) : t.Extends t' :=
  ⟨[], by rw [List.append_nil, h]⟩

theorem Extends.trans (h : t.Extends t') (h' : t'.Extends t'') : t.Extends t'' :=
  List.IsPrefix.trans h h'

theorem Extends.target? (h : t.Extends t') (hr : t.target? r = some T) :
    t'.target? r = some T := by
  rw [target?_eq] at hr ⊢
  obtain ⟨more, hmore⟩ := h
  rw [← hmore, List.getElem?_append_left (List.getElem?_eq_some_iff.mp hr).1, hr]

theorem Extends.find? (h : t.Extends t') (hr : t.find? T = some r) : t'.find? T = some r := by
  obtain ⟨more, hmore⟩ := h
  rw [find?_eq_findIdx?] at hr ⊢
  rw [← hmore, List.findIdx?_append, hr, Option.some_or]

theorem Extends.mem (h : t.Extends t') (hT : T ∈ t.targets) : T ∈ t'.targets :=
  List.IsPrefix.subset h hT

theorem Extends.size_le (h : t.Extends t') : t.size ≤ t'.size := by
  rw [size_eq, size_eq]
  exact List.IsPrefix.length_le h

/-- The table `t'` holds the entries of `t` as they are, bound or not, and after them others that
have not been bound. -/
def Appends (t t' : ReferenceTable) : Prop :=
  ∃ more, t'.entries = t.entries ++ more ∧ ∀ entry ∈ more, entry.bound = none

theorem Appends.refl (t : ReferenceTable) : t.Appends t :=
  ⟨[], by simp, nofun⟩

theorem Appends.trans (h : t.Appends t') (h' : t'.Appends t'') : t.Appends t'' := by
  obtain ⟨more, hmore, hnew⟩ := h
  obtain ⟨more', hmore', hnew'⟩ := h'
  refine ⟨more ++ more', ?_, List.forall_mem_append.mpr ⟨hnew, hnew'⟩⟩
  rw [hmore', hmore, List.append_assoc]

theorem Appends.extends (h : t.Appends t') : t.Extends t' := by
  obtain ⟨more, hmore, -⟩ := h
  exact ⟨more.map (·.target), by rw [targets, targets, hmore, List.map_append]⟩

/-! ### Interning -/

theorem targets_intern (t : ReferenceTable) (T : Target) :
    (t.intern T).1.targets = if (t.find? T).isSome then t.targets else t.targets ++ [T] := by
  rw [intern]
  split
  · next h => simp [h]
  · next h => simp [h, targets]

/-- A target whose meaning is in the table is not entered again. -/
theorem intern_fst_of_isSome (h : (t.find? T).isSome) : (t.intern T).1 = t := by
  obtain ⟨r, hr⟩ := Option.isSome_iff_exists.mp h
  rw [intern, hr]

theorem extends_intern (t : ReferenceTable) (T : Target) : t.Extends (t.intern T).1 := by
  rw [Extends, targets_intern]
  split
  · exact List.prefix_rfl
  · exact List.prefix_append _ _

/-- After interning, the target is found where its reference points. -/
theorem find?_intern (t : ReferenceTable) (T : Target) :
    (t.intern T).1.find? T = some (t.intern T).2 := by
  cases h : t.find? T with
  | some r => simp [intern, h]
  | none =>
    have hnone : t.targets.findIdx? (·.folded == T.folded) = none := by
      rwa [← find?_eq_findIdx?]
    rw [find?_eq_findIdx?, targets_intern, if_neg (by simp [h]), List.findIdx?_append, hnone]
    simp [intern, h, size, targets]

theorem appends_intern (t : ReferenceTable) (T : Target) : t.Appends (t.intern T).1 := by
  rw [intern]
  split
  · exact .refl t
  · exact ⟨[{ target := T }], rfl, List.forall_mem_singleton.mpr rfl⟩

theorem mem_targets_intern (h : T' ∈ (t.intern T).1.targets) : T' ∈ t.targets ∨ T' = T := by
  rw [targets_intern] at h
  split at h
  · exact Or.inl h
  · simpa using h

/-! ### Tables without repetition -/

/-- No two targets of the table have the same meaning. -/
def Distinct (t : ReferenceTable) : Prop :=
  (t.targets.map Target.folded).Nodup

theorem distinct_empty : ({} : ReferenceTable).Distinct := by
  simp [Distinct, targets]

theorem Distinct.intern (h : t.Distinct) (T : Target) : (t.intern T).1.Distinct := by
  rw [Distinct, targets_intern]
  split
  · exact h
  · next hnone =>
    rw [List.map_append, List.map_singleton, List.nodup_append]
    refine ⟨h, by simp, fun f hmem f' hf' hff' => hnone ?_⟩
    obtain rfl := List.mem_singleton.mp hf'
    obtain ⟨T', hT', rfl⟩ := List.mem_map.mp hmem
    rw [← find?_congr hff']
    exact isSome_find?_of_mem hT'

theorem Distinct.ref_unique (h : t.Distinct) (hr : t.target? r = some T)
    (hr' : t.target? r' = some T') (hfold : T.folded = T'.folded) : r = r' := by
  rw [target?_eq] at hr hr'
  have hlen : r < (t.targets.map Target.folded).length := by
    simpa using (List.getElem?_eq_some_iff.mp hr).1
  refine (List.getElem?_inj hlen h).mp ?_
  rw [List.getElem?_map, List.getElem?_map, hr, hr', Option.map_some, Option.map_some, hfold]

theorem Distinct.target_unique (h : t.Distinct) (hT : T ∈ t.targets) (hT' : T' ∈ t.targets)
    (hfold : T.folded = T'.folded) : T = T' := by
  obtain ⟨r, hr⟩ := exists_target?_of_mem hT
  obtain ⟨r', hr'⟩ := exists_target?_of_mem hT'
  obtain rfl := h.ref_unique hr hr' hfold
  exact Option.some_inj.mp (hr.symm.trans hr')

/-- A target is found exactly at the reference of its meaning. -/
theorem Distinct.find?_eq_some_iff (h : t.Distinct) :
    t.find? T = some r ↔ ∃ T', t.target? r = some T' ∧ T'.folded = T.folded := by
  refine ⟨target?_of_find?, fun ⟨T', hr, hfold⟩ => ?_⟩
  have hsome : (t.find? T).isSome := by
    rw [← find?_congr hfold]
    exact isSome_find?_of_mem (mem_targets_of_target? hr)
  obtain ⟨r', hr'⟩ := Option.isSome_iff_exists.mp hsome
  obtain ⟨T'', hT'', hfold'⟩ := target?_of_find? hr'
  rw [hr', h.ref_unique hT'' hr (hfold'.trans hfold.symm)]

/-- A target that is in the table as it is spelled is found exactly at its own reference. -/
theorem Distinct.find?_eq_some_iff_of_mem (h : t.Distinct) (hT : T ∈ t.targets) :
    t.find? T = some r ↔ t.target? r = some T := by
  rw [h.find?_eq_some_iff]
  constructor
  · rintro ⟨T', hr, hfold⟩
    rwa [h.target_unique hT (mem_targets_of_target? hr) hfold.symm]
  · exact fun hr => ⟨T, hr, rfl⟩

end GrantList.ReferenceTable
