import GrantList.Proofs.Text.Sorting
import GrantList.Proofs.Text.Splitting
import GrantList.Reference.Target
import Mathlib.Data.List.Sort
import Mathlib.Data.Set.Image

/-!
# Type expressions and their targets

The target of a type expression holds the types of the expression in increasing order, one of each
that differ only in ASCII case (`Target.InOrder`). Joining the types of a list that is in this form
already gives an expression that has the list as its target.
-/

namespace GrantList.Target

/-- The types stand in increasing order, and no two of them differ only in ASCII case. -/
def InOrder (types : List String) : Prop :=
  types.Pairwise fun t u => Text.asciiLower t < Text.asciiLower u

instance (types : List String) : Decidable (InOrder types) :=
  inferInstanceAs (Decidable (List.Pairwise _ _))

variable {c : Category} {base expr : String} {T : Target} {types l : List String}

/-- The types of the target of an expression. -/
theorem ofTypes?_eq_some_iff :
    ofTypes? c base expr = some T ↔ "" ∉ Text.split '.' expr ∧
      T = .typed c base (Text.sortTypes (distinctTypes (Text.split '.' expr))) := by
  simp only [ofTypes?, typeParts?, Option.map_eq_some_iff]
  split
  · next h => simp [h]
  · next h => simp [h, eq_comm]

/-- An expression has no target when one of its parts is empty. -/
theorem ofTypes?_eq_none_iff (c : Category) (base : String) :
    ofTypes? c base expr = none ↔ "" ∈ Text.split '.' expr := by
  rw [ofTypes?, typeParts?, Option.map_eq_none_iff]
  split <;> simp [*]

/-! ### One of each group of types -/

private theorem distinctTypes_subset (l : List String) : distinctTypes l ⊆ l := by
  induction l with
  | nil => exact List.Subset.refl _
  | cons t l ih =>
    exact List.cons_subset_cons t (List.Subset.trans (List.filter_subset_self _) ih)

private theorem pairwise_distinctTypes (l : List String) :
    (distinctTypes l).Pairwise fun t u => ¬ Text.SameAscii t u := by
  induction l with
  | nil => exact .nil
  | cons t l ih =>
    rw [distinctTypes, List.pairwise_cons]
    exact ⟨fun u hu => by simpa using (List.mem_filter.mp hu).2, ih.filter _⟩

/-- Every type of a list is kept in one spelling. -/
private theorem exists_mem_distinctTypes {t : String} (h : t ∈ l) :
    ∃ u ∈ distinctTypes l, Text.SameAscii u t := by
  induction l with
  | nil => cases h
  | cons t' l ih =>
    rw [distinctTypes]
    obtain rfl | h := List.mem_cons.mp h
    · exact ⟨t, List.mem_cons_self, .refl t⟩
    · obtain ⟨u, hu, hut⟩ := ih h
      by_cases hsame : Text.SameAscii t' u
      · exact ⟨t', List.mem_cons_self, hsame.trans hut⟩
      · exact ⟨u, List.mem_cons_of_mem t' (List.mem_filter.mpr ⟨hu, by simpa using hsame⟩), hut⟩

private theorem distinctTypes_eq_self (h : InOrder types) : distinctTypes types = types := by
  induction types with
  | nil => rfl
  | cons t l ih =>
    obtain ⟨ht, hl⟩ := List.pairwise_cons.mp h
    rw [distinctTypes, ih hl, List.filter_eq_self.mpr]
    intro u hu
    have hne : ¬ Text.SameAscii t u := (ht u hu).ne
    simpa using hne

/-! ### The types of a target -/

/-- The types that are kept of an expression. -/
theorem mem_sortTypes_distinctTypes {t : String}
    (h : t ∈ Text.sortTypes (distinctTypes l)) : t ∈ l :=
  distinctTypes_subset l (List.mem_mergeSort.mp h)

/-- Up to ASCII case, no type is lost. -/
theorem exists_mem_sortTypes_distinctTypes_iff {w : String} :
    (∃ t ∈ Text.sortTypes (distinctTypes l), Text.SameAscii t w) ↔
      ∃ t ∈ l, Text.SameAscii t w := by
  constructor
  · rintro ⟨t, ht, hsame⟩
    exact ⟨t, mem_sortTypes_distinctTypes ht, hsame⟩
  · rintro ⟨t, ht, hsame⟩
    obtain ⟨u, hu, hut⟩ := exists_mem_distinctTypes ht
    exact ⟨u, List.mem_mergeSort.mpr hu, hut.trans hsame⟩

theorem sortTypes_distinctTypes_ne_nil (h : l ≠ []) : Text.sortTypes (distinctTypes l) ≠ [] := by
  obtain ⟨t, ht⟩ := List.exists_mem_of_ne_nil l h
  obtain ⟨u, hu, -⟩ := exists_mem_distinctTypes ht
  exact List.ne_nil_of_mem (List.mem_mergeSort.mpr hu)

theorem inOrder_sortTypes_distinctTypes (l : List String) :
    InOrder (Text.sortTypes (distinctTypes l)) := by
  have hne := pairwise_distinctTypes l
  have hnodup : (distinctTypes l).Nodup := by
    refine hne.imp ?_
    rintro t _ h rfl
    exact h (.refl t)
  have hdiff : (Text.sortTypes (distinctTypes l)).Pairwise fun t u => ¬ Text.SameAscii t u :=
    hne.perm (List.mergeSort_perm _ _).symm fun h h' => h h'.symm
  refine List.Pairwise.imp₂ (fun t u hlt hne => ?_)
    (Text.pairwise_mergeSort_of_nodup Text.asciiLower hnodup) hdiff
  exact (Text.leBy_iff.mp hlt.1).resolve_right fun h => hne h.1

theorem sortTypes_distinctTypes_eq_self (h : InOrder types) :
    Text.sortTypes (distinctTypes types) = types := by
  rw [distinctTypes_eq_self h]
  exact Text.mergeSort_eq_of_pairwise (h.imp Text.ltBy_of_lt) (List.Perm.refl types)

/-- Types in order are the types of the expression that they make when joined. -/
theorem ofTypes?_join (hne : types ≠ []) (hdot : ∀ t ∈ types, '.' ∉ t.toList)
    (hempty : "" ∉ types) (horder : InOrder types) :
    ofTypes? c base (Text.join '.' types) = some (.typed c base types) := by
  rw [ofTypes?_eq_some_iff, Text.split_join hne hdot, sortTypes_distinctTypes_eq_self horder]
  exact ⟨hempty, rfl⟩

/-! ### Types without regard to letter case -/

/-- Lists of types in order are told apart by the sets of their lower-case forms. -/
theorem image_asciiLower_eq_iff {types types' : List String} (h : InOrder types)
    (h' : InOrder types') :
    Text.asciiLower '' {part | part ∈ types} = Text.asciiLower '' {part | part ∈ types'} ↔
      types.map Text.asciiLower = types'.map Text.asciiLower := by
  have himage : ∀ (l : List String) (form : String),
      form ∈ Text.asciiLower '' {part | part ∈ l} ↔ form ∈ l.map Text.asciiLower :=
    fun _ _ => List.mem_map.symm
  constructor
  · intro heq
    refine (List.pairwise_map.mpr h).eq_of_mem_iff (List.pairwise_map.mpr h') fun form => ?_
    rw [← himage, ← himage, heq]
  · intro heq
    ext form
    rw [himage, himage, heq]

/-- Lists with the same lower-case forms are equal if no two of their types differ only in case. -/
theorem eq_of_map_asciiLower_eq {types types' : List String}
    (h : types.map Text.asciiLower = types'.map Text.asciiLower)
    (hspelled : ∀ t ∈ types, ∀ t' ∈ types', Text.SameAscii t t' → t = t') : types = types' := by
  induction types generalizing types' with
  | nil => exact (List.map_eq_nil_iff.mp h.symm).symm
  | cons t types ih =>
    obtain ⟨t', rest, rfl, hsame, hrest⟩ := List.map_eq_cons_iff.mp h.symm
    rw [hspelled t List.mem_cons_self t' List.mem_cons_self hsame.symm,
      ih hrest.symm fun u hu u' hu' =>
        hspelled u (List.mem_cons_of_mem t hu) u' (List.mem_cons_of_mem t' hu')]

/-- The types that are kept of an expression are all its types, up to letter case. -/
theorem image_asciiLower_sortTypes (types : List String) :
    Text.asciiLower '' {part | part ∈ Text.sortTypes (distinctTypes types)} =
      Text.asciiLower '' {part | part ∈ types} := by
  ext form
  constructor
  · rintro ⟨part, hpart, rfl⟩
    exact ⟨part, mem_sortTypes_distinctTypes hpart, rfl⟩
  · rintro ⟨part, hpart, rfl⟩
    exact exists_mem_sortTypes_distinctTypes_iff.mpr ⟨part, hpart, .refl part⟩

/-- The targets of type expressions mean the same when the sets of their types are the same, up to
letter case. -/
theorem folded_eq_iff_of_ofTypes? {c' : Category} {base' expr' : String} {T' : Target}
    (h : ofTypes? c base expr = some T) (h' : ofTypes? c' base' expr' = some T') :
    T.folded = T'.folded ↔ c = c' ∧ Text.SameAscii base base' ∧
      Text.asciiLower '' {part | part ∈ Text.split '.' expr} =
        Text.asciiLower '' {part | part ∈ Text.split '.' expr'} := by
  obtain ⟨-, rfl⟩ := ofTypes?_eq_some_iff.mp h
  obtain ⟨-, rfl⟩ := ofTypes?_eq_some_iff.mp h'
  -- the types that are kept are in order, so their list tells the same as their set
  rw [folded, folded, typed.injEq, Text.SameAscii,
    ← image_asciiLower_eq_iff (inOrder_sortTypes_distinctTypes _)
      (inOrder_sortTypes_distinctTypes _),
    image_asciiLower_sortTypes, image_asciiLower_sortTypes]

end GrantList.Target
