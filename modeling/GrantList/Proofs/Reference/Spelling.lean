import GrantList.Proofs.Reference.Binding
import GrantList.Proofs.Text.LetterCase
import Mathlib.Tactic.TFAE

/-!
# The spelling that comes first

Names with the same key share a reference, and the table keeps the spelling that came first. For a
shield proficiency this spelling has no part in what the reference is bound to, since the registry
is searched by the key. Equipment is searched by the name itself, without regard to the case of
ASCII letters alone, and so the first spelling decides.

Main result: `ReferenceTable.bound_alike_tfae`. Two spellings of a name of equipment are bound to
the same in every registry exactly when they differ at most in the case of ASCII letters and in the
blanks around them.
-/

namespace GrantList

/-- The registry of one item, which has the name `name` and requires the only capability. -/
def Registry.ofSoleItem (name : String) : Registry :=
  (({} : Registry).construct "Shields").addEquipment { name, proficiency := some "Shields" }

theorem Registry.built_ofSoleItem (name : String) : (ofSoleItem name).Built :=
  (Built.empty.construct "Shields").addEquipment _

namespace Target

variable {c : Category} {n n' : String}

theorem provides_equipmentName_congr {r : Registry} {id : CapabilityId}
    (h : Text.SameAscii n n') (hid : (named .equipment n).Provides r id) :
    (named .equipment n').Provides r id := by
  cases hid with
  | equipmentName hitem hname hid => exact .equipmentName hitem (hname.trans h) hid

/-- Spellings of a name denote the same if the registry is searched by the key, or if they are alike
up to the case of ASCII letters. -/
theorem denotes_ofName_congr (hkey : nameKey n = nameKey n')
    (h : c = .shieldProf ∨ Text.SameAscii (Text.trim n) (Text.trim n')) (r : Registry) :
    (ofName c n).denotes r = (ofName c n').denotes r := by
  cases c with
  | shieldProf =>
    have hfold : (ofName .shieldProf n).folded = (ofName .shieldProf n').folded :=
      ReferenceTable.folded_ofName_eq_iff.mpr ⟨rfl, hkey⟩
    exact denotes_congr hfold (fun _ heq => nomatch heq) r
  | equipment =>
    have hsame : Text.SameAscii (Text.trim n) (Text.trim n') := h.resolve_left nofun
    refine (pairwise_denotes _ r).eq_of_mem_iff (pairwise_denotes _ r) fun id => ?_
    rw [mem_denotes_iff (isTrimmed_ofName _ n), mem_denotes_iff (isTrimmed_ofName _ n')]
    exact ⟨provides_equipmentName_congr hsame, provides_equipmentName_congr hsame.symm⟩

/-- A name of equipment denotes something in the registry of one item exactly when the item is
called so. -/
theorem exists_mem_denotes_ofSoleItem_iff {name : String} :
    (∃ id, id ∈ (ofName .equipment n).denotes (.ofSoleItem name)) ↔
      Text.SameAscii name (Text.trim n) := by
  simp only [mem_denotes_iff (isTrimmed_ofName _ n)]
  constructor
  · rintro ⟨id, hid⟩
    cases hid with
    | equipmentName hitem hname _ =>
      obtain rfl := List.mem_singleton.mp hitem
      exact hname
  · intro hname
    have hfound : (({} : Registry).construct "Shields").idOf? "Shields" = some 0 := by
      decide +kernel
    exact ⟨0, .equipmentName (List.mem_singleton_self _) hname
      ⟨_, rfl, Registry.idOf?_eq_some_iff_finds.mp hfound⟩⟩

end Target

namespace ReferenceTable

variable {c : Category} {n n' : String}

/-- However the history of a table goes on, its first reference is bound to what the first name
denotes. -/
theorem bound?_first (c : Category) (n : String) (later : List Use) (r : Registry) :
    ((filledBy (.name c n :: later)).bind r).bound? 0 = some ((Target.ofName c n).denotes r) := by
  have hfirst : (({} : ReferenceTable).use (.name c n)).1.target? 0 = some (.ofName c n) := rfl
  have htarget : (filledBy (.name c n :: later)).target? 0 = some (.ofName c n) :=
    (extends_after _ later).target? hfirst
  rw [bound?_bind, htarget, Option.map_some]

/-- Names with the same key get one reference, whichever comes first. -/
theorem gave_same_reference (hkey : nameKey n = nameKey n') (c : Category) :
    Gave [.name c n, .name c n'] 0 (.name c n) 0 ∧
      Gave [.name c n, .name c n'] 1 (.name c n') 0 := by
  have hfirst : Gave [.name c n, .name c n'] 0 (.name c n) 0 := ⟨rfl, rfl⟩
  obtain ⟨T, hT, hfind⟩ := hfirst.exists_target
  obtain rfl := Option.some_inj.mp hT
  refine ⟨hfirst, rfl, ?_⟩
  have hfound : (tableAt [.name c n, .name c n'] 1).find? (.ofName c n') = some 0 := by
    rw [← find?_congr (folded_ofName_eq_iff.mpr ⟨rfl, hkey⟩)]
    exact hfind 1 Nat.one_pos
  rw [use, intern, hfound]

/-- Names with the same key get one reference, and it is bound to what the first of them denotes. So
the first spelling matters for writing alone in the category of shield proficiencies. In
the category of equipment this is so for spellings that differ at most in the case of ASCII letters,
the blanks around them apart, and for no others: each of them would find items that the other does
not find. -/
theorem bound_alike_tfae (hkey : nameKey n = nameKey n') (c : Category) :
    (Gave [.name c n, .name c n'] 0 (.name c n) 0 ∧
      Gave [.name c n, .name c n'] 1 (.name c n') 0) ∧
    [∀ (r : Registry) (later later' : List Use),
        ((filledBy (.name c n :: later)).bind r).bound? 0 =
          ((filledBy (.name c n' :: later')).bind r).bound? 0,
      ∀ r : Registry, r.Built → ((filledBy [.name c n, .name c n']).bind r).bound? 0 =
        ((filledBy [.name c n', .name c n]).bind r).bound? 0,
      c = .shieldProf ∨ Text.SameAscii (Text.trim n) (Text.trim n')].TFAE := by
  refine ⟨gave_same_reference hkey c, ?_⟩
  simp only [bound?_first, Option.some_inj]
  tfae_have 1 → 2 := fun h r _ => h r [] []
  tfae_have 2 → 3 := by
    intro h
    cases c with
    | shieldProf => exact Or.inl rfl
    | equipment =>
      -- the registry of an item that is called by the one name and hence by the other
      have heq := h _ (Registry.built_ofSoleItem (Text.trim n))
      have hfinds := Target.exists_mem_denotes_ofSoleItem_iff.mpr
        (Text.SameAscii.refl (Text.trim n))
      rw [heq] at hfinds
      exact Or.inr (Target.exists_mem_denotes_ofSoleItem_iff.mp hfinds)
  tfae_have 3 → 1 := fun h r _ _ => Target.denotes_ofName_congr hkey h r
  tfae_finish

/-- The two cases of an accented letter are one name of equipment and yet not bound alike, while
those of the other letters are. -/
theorem bound_alike_tfae_accented :
    (nameKey " PAVÉ" = nameKey "Pavé" ∧
      ∃ r : Registry, r.Built ∧
        ((filledBy [.name .equipment " PAVÉ", .name .equipment "Pavé"]).bind r).bound? 0 ≠
          ((filledBy [.name .equipment "Pavé", .name .equipment " PAVÉ"]).bind r).bound? 0) ∧
    nameKey " PAVé" = nameKey "Pavé" ∧
      ∀ r : Registry, r.Built →
        ((filledBy [.name .equipment " PAVé", .name .equipment "Pavé"]).bind r).bound? 0 =
          ((filledBy [.name .equipment "Pavé", .name .equipment " PAVé"]).bind r).bound? 0 := by
  have hkey : nameKey " PAVÉ" = nameKey "Pavé" := by decide +kernel
  have hkey' : nameKey " PAVé" = nameKey "Pavé" := by decide +kernel
  have happart : ¬ (Category.equipment = .shieldProf ∨
      Text.SameAscii (Text.trim " PAVÉ") (Text.trim "Pavé")) := by decide +kernel
  have hsame : Text.SameAscii (Text.trim " PAVé") (Text.trim "Pavé") := by
    have htrim : Text.trim " PAVé" = "PAVé" ∧ Text.trim "Pavé" = "Pavé" := by decide +kernel
    rw [htrim.1, htrim.2, Text.sameAscii_iff_map_toLower]
    decide
  have htfae := (bound_alike_tfae hkey .equipment).2
  have htfae' := (bound_alike_tfae hkey' .equipment).2
  refine ⟨⟨hkey, ?_⟩, hkey', (htfae'.out 1 2).mpr (Or.inr hsame)⟩
  by_contra hall
  simp only [not_exists, not_and, ne_eq, not_not] at hall
  exact happart ((htfae.out 1 2).mp hall)

/-- The same name of equipment in two spellings, which the catalog has in the first of them: the
item is found only if that spelling comes first. -/
theorem exists_bound_by_spelling :
    ∃ r : Registry, r = (({} : Registry).construct "Buckler").addEquipment
        { name := "É", proficiency := some "Buckler" } ∧
      r.Built ∧ nameKey "É" = nameKey "é" ∧
      ((filledBy [.name .equipment "É", .name .equipment "é"]).bind r).bound? 0 = some [0] ∧
      ((filledBy [.name .equipment "é", .name .equipment "É"]).bind r).bound? 0 = some [] := by
  refine ⟨_, rfl, (Registry.Built.empty.construct _).addEquipment _, by decide +kernel, ?_⟩
  rw [bound?_first, bound?_first]
  exact ⟨congrArg some (by decide +kernel), congrArg some (by decide +kernel)⟩

end ReferenceTable

end GrantList
