import GrantList.Text.Order
import Mathlib.Data.String.Basic

/-!
# Sorted lists of texts

`Text.leBy form` is a total order on texts for any `form`, so a list has one sorted form. Two lists
with the same texts are sorted to the same list, and a list without repetition is sorted to a
strictly increasing one.
-/

namespace GrantList.Text

variable {form : String → String} {s t u : String} {l l' : List String}

theorem leBy_iff : leBy form s t = true ↔ form s < form t ∨ form s = form t ∧ s ≤ t := by
  simp [leBy]

theorem leBy_total (form : String → String) (s t : String) :
    (leBy form s t || leBy form t s) = true := by
  rw [Bool.or_eq_true, leBy_iff, leBy_iff]
  rcases lt_trichotomy (form s) (form t) with h | h | h
  · exact Or.inl (Or.inl h)
  · rcases le_total s t with hst | hts
    · exact Or.inl (Or.inr ⟨h, hst⟩)
    · exact Or.inr (Or.inr ⟨h.symm, hts⟩)
  · exact Or.inr (Or.inl h)

theorem leBy_trans (form : String → String) (s t u : String) (hst : leBy form s t = true)
    (htu : leBy form t u = true) : leBy form s u = true := by
  rw [leBy_iff] at hst htu ⊢
  rcases hst with hst | ⟨hst, hst'⟩ <;> rcases htu with htu | ⟨htu, htu'⟩
  · exact Or.inl (hst.trans htu)
  · exact Or.inl (htu ▸ hst)
  · exact Or.inl (hst ▸ htu)
  · exact Or.inr ⟨hst.trans htu, hst'.trans htu'⟩

theorem leBy_antisymm (hst : leBy form s t = true) (hts : leBy form t s = true) : s = t := by
  rw [leBy_iff] at hst hts
  rcases hst with hst | ⟨hst, hst'⟩ <;> rcases hts with hts | ⟨hts, hts'⟩
  · exact absurd (hst.trans hts) (lt_irrefl _)
  · exact absurd hst (hts ▸ lt_irrefl _)
  · exact absurd hts (hst ▸ lt_irrefl _)
  · exact le_antisymm hst' hts'

/-- The text `s` stands strictly before `t` in the order of the forms. -/
def ltBy (form : String → String) (s t : String) : Prop :=
  leBy form s t = true ∧ s ≠ t

instance (form : String → String) (s t : String) : Decidable (ltBy form s t) :=
  inferInstanceAs (Decidable (_ ∧ _))

/-- Texts with smaller forms stand before texts with greater ones. -/
theorem ltBy_of_lt (h : form s < form t) : ltBy form s t :=
  ⟨leBy_iff.mpr (Or.inl h), fun hst => absurd h (hst ▸ lt_irrefl _)⟩

theorem nodup_of_pairwise_ltBy (h : l.Pairwise (ltBy form)) : l.Nodup :=
  h.imp And.right

/-- An increasing list that holds `s` has another member unless it is `s` alone. -/
theorem ne_singleton_iff_of_pairwise (h : l.Pairwise (· < ·)) (hs : s ∈ l) :
    l ≠ [s] ↔ ∃ t ∈ l, t ≠ s := by
  constructor
  · intro hne
    by_contra hall
    push Not at hall
    cases l with
    | nil => cases hs
    | cons t l =>
      obtain rfl := hall t List.mem_cons_self
      refine hne (congrArg (t :: ·) (List.eq_nil_iff_forall_not_mem.mpr fun u hu => ?_))
      have hlt := List.rel_of_pairwise_cons h hu
      rw [hall u (List.mem_cons_of_mem t hu)] at hlt
      exact lt_irrefl t hlt
  · rintro ⟨t, ht, hne⟩ rfl
    exact hne (List.mem_singleton.mp ht)

/-! ### The two sorts -/

/-- A list sorted by forms does not depend on the order it came in. -/
theorem mergeSort_eq_of_perm (h : l.Perm l') :
    l.mergeSort (leBy form) = l'.mergeSort (leBy form) := by
  have hperm : (l.mergeSort (leBy form)).Perm (l'.mergeSort (leBy form)) :=
    (List.mergeSort_perm l _).trans (h.trans (List.mergeSort_perm l' _).symm)
  exact hperm.eq_of_pairwise (fun _ _ _ _ => leBy_antisymm)
    (List.pairwise_mergeSort (leBy_trans form) (leBy_total form) l)
    (List.pairwise_mergeSort (leBy_trans form) (leBy_total form) l')

theorem pairwise_mergeSort_of_nodup (form : String → String) (h : l.Nodup) :
    (l.mergeSort (leBy form)).Pairwise (ltBy form) :=
  List.pairwise_and_iff.mpr
    ⟨List.pairwise_mergeSort (leBy_trans form) (leBy_total form) l,
      (List.mergeSort_perm l _).nodup_iff.mpr h⟩

/-- A strictly increasing list is the sorted form of every list with the same texts. -/
theorem mergeSort_eq_of_pairwise (h : l.Pairwise (ltBy form)) (hperm : l'.Perm l) :
    l'.mergeSort (leBy form) = l := by
  rw [mergeSort_eq_of_perm hperm, List.mergeSort_of_pairwise (h.imp And.left)]

end GrantList.Text
