import GrantList.Proofs.Reference.Table
import GrantList.Proofs.Reference.Types
import GrantList.Proofs.Registry

/-!
# What targets denote

What a target denotes depends on its meaning alone, so the spelling that a table keeps has no part
in what a reference is bound to (`Target.denotes_congr`). Equipment called by a name is the one
exception: the names of items are compared in the case of ASCII letters only, while targets with
names of the same key count as the same.

The capabilities that everything, a name and a type expression denote are described by
`Target.mem_denotes_allOf`, `Target.mem_denotes_ofName` and `Target.mem_denotes_ofTypes?`.
-/

namespace GrantList

namespace Registry

/-- Which items have all types depends on the types up to ASCII case. -/
theorem idsForTypes_congr (r : Registry) {types types' : List String}
    (h : types.map Text.asciiLower = types'.map Text.asciiLower) :
    r.idsForTypes types = r.idsForTypes types' := by
  have hall : ∀ (item : Equipment) (wanted : List String), item.hasAllTypes wanted =
      (wanted.map Text.asciiLower).all fun f => item.types.any fun t => Text.asciiLower t = f := by
    intro item wanted
    rw [List.all_map]
    rfl
  have hitem : ∀ item : Equipment, item.hasAllTypes types = item.hasAllTypes types' := by
    intro item
    rw [hall, hall, h]
  simp only [idsForTypes, hitem]

end Registry

namespace Target

variable {T T' : Target} {r : Registry} {id : CapabilityId} {expr : String}

/-- Targets with the same meaning denote the same, unless they are names of equipment. -/
theorem denotes_congr (hfold : T.folded = T'.folded) (hT : ∀ name, T ≠ .named .equipment name)
    (r : Registry) : T.denotes r = T'.denotes r := by
  cases T with
  | allOf c =>
    cases T' with
    | allOf c' => rw [allOf.inj hfold]
    | named c' name' => cases hfold
    | typed c' base' types' => cases hfold
  | named c name =>
    cases T' with
    | allOf c' => cases hfold
    | named c' name' =>
      obtain ⟨rfl, hkey⟩ := named.inj hfold
      cases c with
      | shieldProf => rw [denotes, denotes, r.idOf?_congr hkey]
      | equipment => exact absurd rfl (hT name)
    | typed c' base' types' => cases hfold
  | typed c base types =>
    cases T' with
    | allOf c' => cases hfold
    | named c' name' => cases hfold
    | typed c' base' types' =>
      obtain ⟨rfl, hbase, htypes⟩ := typed.inj hfold
      cases c with
      | shieldProf => rfl
      | equipment =>
        have hall : (types ++ [base]).map Text.asciiLower =
            (types' ++ [base']).map Text.asciiLower := by
          rw [List.map_append, List.map_append, htypes, List.map_singleton, List.map_singleton,
            hbase]
        rw [denotes, denotes, r.idsForTypes_congr hall]

/-! ### Targets of segments -/

theorem mem_denotes_allOf : id ∈ (allOf .shieldProf).denotes r ↔ id < r.size := by
  rw [denotes, Registry.ids, List.mem_range]

theorem mem_denotes_ofName (h : r.Built) {text : String} :
    id ∈ (ofName .shieldProf text).denotes r ↔ r.IsCalled id text := by
  rw [ofName, denotes, Option.mem_toList, r.idOf?_congr (nameKey_trim text),
    h.idOf?_eq_some_iff]

/-- Neither the order in which the types of an expression are kept nor the spelling of those that
come twice changes what the expression denotes. -/
theorem mem_denotes_ofTypes? (h : r.Built) {base : String}
    (hT : ofTypes? .equipment base expr = some T) :
    id ∈ T.denotes r ↔ ∃ item ∈ r.equipment,
      (∀ w ∈ base :: Text.split '.' expr, ∃ t ∈ item.types, Text.SameAscii t w) ∧
        ∃ name ∈ item.proficiency, r.IsCalled id name := by
  obtain ⟨-, rfl⟩ := ofTypes?_eq_some_iff.mp hT
  rw [denotes, SortedSet.mem_ofList, h.mem_idsForTypes_iff]
  refine exists_congr fun item => and_congr_right fun _ => and_congr_left fun _ => ?_
  rw [List.forall_mem_append, List.forall_mem_singleton, List.forall_mem_cons, and_comm]
  -- each part of the expression is kept in some spelling, and nothing else is kept
  refine and_congr_right fun _ => ⟨fun hkept w hw => ?_, fun hall w hw => ?_⟩
  · obtain ⟨u, hu, huw⟩ := exists_mem_sortTypes_distinctTypes_iff.mpr ⟨w, hw, .refl w⟩
    obtain ⟨t, ht, htu⟩ := hkept u hu
    exact ⟨t, ht, htu.trans huw⟩
  · exact hall w (mem_sortTypes_distinctTypes hw)

end Target

/-! ### Binding -/

namespace ReferenceTable

variable {t : ReferenceTable} {ref : Ref} {T : Target}

/-- Binding leaves the targets as they are. -/
theorem targets_bind (t : ReferenceTable) (r : Registry) : (t.bind r).targets = t.targets := by
  rw [bind, targets, targets, List.map_map]
  rfl

theorem extends_bind (t : ReferenceTable) (r : Registry) : t.Extends (t.bind r) :=
  .of_targets_eq (targets_bind t r)

/-- A reference is bound to what a target denotes that was found at it, in whatever spelling the
table holds this target. -/
theorem boundAt_bind (h : t.find? T = some ref) (hT : ∀ name, T ≠ .named .equipment name)
    (r : Registry) : (t.bind r).boundAt ref = .ok (T.denotes r) := by
  obtain ⟨T', hT', hfold⟩ := target?_of_find? h
  obtain ⟨entry, hentry, rfl⟩ := Option.map_eq_some_iff.mp hT'
  rw [boundAt, bind, List.getElem?_map, hentry, Target.denotes_congr hfold.symm hT r]
  rfl

end ReferenceTable

end GrantList
