import GrantList.Proofs.Reference.History
import Mathlib.Data.Finmap

/-!
# The table of references as an index

A table can be kept as two structures: the list of the entries, each with its label, and a map from
the folded forms of the targets to their positions (`ReferenceTable.Index`). What is entered is then
looked for in the map, and what a reference leads to is read from the list. The two stay inverse to
each other by construction: an index carries the laws that say so, and entering a new target keeps
them (`ReferenceTable.Index.push`).

An index reads as the table of its entries (`ReferenceTable.Index.toTable`), gives the same
references, and still reads so after every use (`ReferenceTable.Index.toTable_after`).

Main result: `ReferenceTable.references_identify_meanings`. Two uses get the same reference exactly
when they mean the same, references are numbered one after the other, and what a reference leads to
never changes.
-/

namespace GrantList

namespace ReferenceTable

/-- An entry with the label that it was given when its target was entered. -/
structure Index.Entry extends ReferenceEntry where
  /-- The text of the target in a data file. -/
  label : String

/-- A table that is kept as two structures, with the laws that tie them together. -/
structure Index where
  /-- The entries, by position. -/
  entries : List Index.Entry
  /-- The positions by the folded forms of the targets. -/
  positions : Finmap fun _ : Target => Ref
  /-- An entry carries the label of its target. -/
  label_eq {e : Index.Entry} : e ∈ entries → e.label = e.target.label
  /-- A form has the position of the entry whose target has the form. -/
  lookup_eq_some_iff {form : Target} {r : Ref} :
    positions.lookup form = some r ↔ ∃ e, entries[r]? = some e ∧ e.target.folded = form

namespace Index

variable {x : Index} {T : Target} {r : Ref}

/-- The index that holds nothing. -/
def empty : Index where
  entries := []
  positions := ∅
  label_eq := nofun
  lookup_eq_some_iff := by simp

/-- The label of a reference, as it is kept. -/
def label? (x : Index) (r : Ref) : Option String :=
  x.entries[r]?.map (·.label)

/-- Adds a target with a new form, to the list and to the map. -/
def push (x : Index) (T : Target) (hnew : x.positions.lookup T.folded = none) : Index where
  entries := x.entries ++ [{ target := T, label := T.label }]
  positions := x.positions.insert T.folded x.entries.length
  label_eq h := by
    obtain h | h := List.mem_append.mp h
    · exact x.label_eq h
    · rw [List.mem_singleton.mp h]
  lookup_eq_some_iff {form r} := by
    simp only [getElem?_concat_eq_some_iff, or_and_right, exists_or, ← x.lookup_eq_some_iff]
    obtain rfl | hform := eq_or_ne form T.folded
    · -- the form is new, so no entry had it
      simp [hnew, eq_comm]
    · rw [Finmap.lookup_insert_of_ne _ hform]
      simp [hform.symm]

/-- Enters a target, unless its form is in the map, and gives its reference. -/
def intern (x : Index) (T : Target) : Index × Ref :=
  match h : x.positions.lookup T.folded with
  | some r => (x, r)
  | none => (x.push T h, x.entries.length)

/-- The index with every reference bound to what it denotes in the registry. -/
def bind (x : Index) (registry : Registry) : Index where
  entries := x.entries.map fun e => { e with bound := some (e.target.denotes registry) }
  positions := x.positions
  label_eq h := by
    obtain ⟨e, he, rfl⟩ := List.mem_map.mp h
    exact (x.label_eq he : e.label = e.target.label)
  lookup_eq_some_iff := by simp [x.lookup_eq_some_iff]

/-- The labels of the names that denote nothing in the registry, as they are kept. -/
def unconstructed (x : Index) (registry : Registry) : List String :=
  (x.entries.filter fun e => e.target.isNamed && (e.target.denotes registry).isEmpty).map (·.label)

/-- The index after a use, and the reference that the use gives. -/
def use (x : Index) : Use → Index × Option Ref
  | .everything c => ((x.intern (.allOf c)).1, some (x.intern (.allOf c)).2)
  | .name c text => ((x.intern (.ofName c text)).1, some (x.intern (.ofName c text)).2)
  | .types c base expr =>
    match Target.ofTypes? c base expr with
    | some T => ((x.intern T).1, some (x.intern T).2)
    | none => (x, none)
  | .bind registry => (x.bind registry, none)

/-- The index after uses, one after the other. -/
def after (x : Index) (uses : List Use) : Index :=
  uses.foldl (fun x u => (x.use u).1) x

/-- The table that an index stands for. -/
def toTable (x : Index) : ReferenceTable where
  entries := x.entries.map (·.toReferenceEntry)

/-! ### The same answers -/

theorem target?_toTable (x : Index) (r : Ref) :
    x.toTable.target? r = x.entries[r]?.map (·.target) := by
  rw [ReferenceTable.target?, toTable, List.getElem?_map, Option.map_map]
  rfl

theorem lookup_folded_eq_some_iff :
    x.positions.lookup T.folded = some r ↔
      ∃ T', x.toTable.target? r = some T' ∧ T'.folded = T.folded := by
  simp [x.lookup_eq_some_iff, target?_toTable]

/-- The list is searched from the front, and finds what the map has. -/
theorem find?_toTable (x : Index) (T : Target) :
    x.toTable.find? T = x.positions.lookup T.folded := by
  cases h : x.toTable.find? T with
  | some r => exact (lookup_folded_eq_some_iff.mpr (target?_of_find? h)).symm
  | none =>
    refine (Option.eq_none_iff_forall_ne_some.mpr fun r hr => ?_).symm
    obtain ⟨T', hT', hfold⟩ := lookup_folded_eq_some_iff.mp hr
    have hfound := isSome_find?_iff.mpr ⟨T', mem_targets_of_target? hT', hfold⟩
    simp [h] at hfound

/-- A label that is kept is that of the target. -/
theorem label?_eq (x : Index) (r : Ref) :
    x.label? r = (x.toTable.target? r).map Target.label := by
  rw [label?, target?_toTable, Option.map_map]
  cases h : x.entries[r]? with
  | none => rfl
  | some e => exact congrArg some (x.label_eq (List.mem_of_getElem? h))

theorem unconstructed_eq (x : Index) (registry : Registry) :
    x.unconstructed registry = x.toTable.unconstructed registry := by
  rw [unconstructed, ReferenceTable.unconstructed, toTable, List.filter_map, List.map_map]
  exact List.map_congr_left fun e he => x.label_eq (List.mem_of_mem_filter he)

/-! ### The same uses -/

theorem toTable_intern (x : Index) (T : Target) :
    ((x.intern T).1.toTable, (x.intern T).2) = x.toTable.intern T := by
  have hfind := x.find?_toTable T
  rw [intern]
  split
  · next r h => rw [ReferenceTable.intern, hfind.trans h]
  · next h =>
    rw [ReferenceTable.intern, hfind.trans h]
    simp [push, toTable, size]

theorem toTable_bind (x : Index) (registry : Registry) :
    (x.bind registry).toTable = x.toTable.bind registry := by
  simp [bind, toTable, ReferenceTable.bind]

/-- A use changes an index as it changes the table, and gives the same reference. -/
theorem toTable_use (x : Index) (u : Use) :
    ((x.use u).1.toTable, (x.use u).2) = x.toTable.use u := by
  have hintern : ∀ T, u.target? = some T →
      ((x.intern T).1.toTable, some (x.intern T).2) = x.toTable.use u := fun T hT => by
    rw [use_of_target? _ hT, ← x.toTable_intern T]
  cases u with
  | everything c => exact hintern _ rfl
  | name c text => exact hintern _ rfl
  | types c base expr =>
    rw [use]
    cases hT : Target.ofTypes? c base expr with
    | some T => exact hintern T hT
    | none => rw [ReferenceTable.use, internTypes?, hT, Option.map_none]
  | bind registry => exact congrArg (·, none) (x.toTable_bind registry)

theorem toTable_after (x : Index) (uses : List Use) :
    (x.after uses).toTable = x.toTable.after uses :=
  (List.foldl_hom toTable fun x u => (congrArg Prod.fst (x.toTable_use u)).symm).symm

end Index

/-! ### References in a history -/

variable {uses : List Use}

/-- The index before the use with number `i`, if it held nothing before the first one. -/
def indexAt (uses : List Use) (i : Nat) : Index :=
  Index.empty.after (uses.take i)

theorem toTable_indexAt (uses : List Use) (i : Nat) :
    (indexAt uses i).toTable = tableAt uses i :=
  Index.empty.toTable_after (uses.take i)

/-- In every history of a table that held nothing at first, two uses get the same reference exactly
when they mean the same. A use gives a reference that was there or else the next number, and the
reference stays in the table. The target of a reference never changes, and nor does its label. A
type expression gets no reference exactly when one of its parts is empty, and then leaves the table
as it was. Kept as a list and a map, the table gives the same references all along: what the map has
is what the search of the entries finds, and the labels that are kept are those of the targets. -/
theorem references_identify_meanings (uses : List Use) :
    (∀ i j u u' r r', Gave uses i u r → Gave uses j u' r' → (r = r' ↔ u.SameMeaning u')) ∧
      (∀ i u r, Gave uses i u r →
        (r < (tableAt uses i).size ∧ tableAt uses (i + 1) = tableAt uses i ∨
          r = (tableAt uses i).size ∧ (tableAt uses (i + 1)).size = (tableAt uses i).size + 1) ∧
        ∀ j, i < j → r < (tableAt uses j).size) ∧
      (∀ i j r T, i ≤ j → (tableAt uses i).target? r = some T →
        (tableAt uses j).target? r = some T ∧
          ((tableAt uses j).target? r).map Target.label = some T.label ∧
          (indexAt uses j).label? r = some T.label) ∧
      (∀ i c base expr, uses[i]? = some (.types c base expr) →
        (((tableAt uses i).use (.types c base expr)).2 = none ↔ "" ∈ Text.split '.' expr) ∧
          ("" ∈ Text.split '.' expr → tableAt uses (i + 1) = tableAt uses i)) ∧
      ∀ i, (indexAt uses i).toTable = tableAt uses i ∧
        (∀ u, ((indexAt uses i).use u).2 = ((tableAt uses i).use u).2) ∧
        (∀ T, (indexAt uses i).positions.lookup T.folded = (tableAt uses i).find? T) ∧
        (∀ r, (indexAt uses i).label? r = ((tableAt uses i).target? r).map Target.label) ∧
        ∀ registry, (indexAt uses i).unconstructed registry =
          (tableAt uses i).unconstructed registry := by
  refine ⟨fun i j u u' r r' => Gave.eq_iff_sameMeaning, fun i u r h => ⟨?_, fun j hj => ?_⟩,
    fun i j r T hij hr => ?_, fun i c base expr hu => ?_, fun i => ?_⟩
  · rw [tableAt_succ h.1]
    exact use_old_or_new h.2
  · obtain ⟨T, -, hfind⟩ := h.exists_target
    obtain ⟨T', hr, -⟩ := target?_of_find? (hfind j hj)
    exact lt_size_of_target? hr
  · have hr' := (extends_tableAt uses hij).target? hr
    have hlabel : ((tableAt uses j).target? r).map Target.label = some T.label := by
      rw [hr', Option.map_some]
    exact ⟨hr', hlabel, by rw [Index.label?_eq, toTable_indexAt, hlabel]⟩
  · rw [tableAt_succ hu]
    exact use_types_eq_iff _ c base expr
  · rw [← toTable_indexAt]
    exact ⟨rfl, fun u => congrArg Prod.snd ((indexAt uses i).toTable_use u),
      fun T => ((indexAt uses i).find?_toTable T).symm, (indexAt uses i).label?_eq,
      (indexAt uses i).unconstructed_eq⟩

/-- Of names that mean the same the first spelling is kept, and a refused expression leaves nothing
behind. -/
example : (({} : ReferenceTable).after [.name .shieldProf "Buckler", .types .equipment "SHIELD"
    "Heavy..Large", .name .shieldProf " BUCKLER ", .types .equipment "SHIELD" "Heavy"]).targets =
      [.named .shieldProf "Buckler", .typed .equipment "SHIELD" ["Heavy"]] := by
  decide +kernel

end ReferenceTable

end GrantList
