import GrantList.Text.Split
import Mathlib.Data.List.Basic

/-!
# What the parts of a split text hold

A part of a text that was cut at a separator does not hold the separator, and all its characters
come from the text. What follows the start of a text is told by `after?_eq_some_iff`.
-/

namespace GrantList.Text

variable {sep : Char} {s part : String}

private theorem mem_splitOn {l p : List Char} (h : p ∈ l.splitOn sep) :
    sep ∉ p ∧ p ⊆ l := by
  induction l generalizing p with
  | nil =>
    obtain rfl : p = [] := by simpa using h
    simp
  | cons c l ih =>
    rw [List.splitOn_cons_eq_if_modifyHead] at h
    obtain ⟨q, rest, hq⟩ := List.exists_cons_of_ne_nil (List.splitOn_ne_nil sep l)
    rw [hq] at h ih
    split at h
    · -- `c` is the separator: an empty part, then the parts of the rest
      obtain rfl | hp := List.mem_cons.mp h
      · simp
      · exact ⟨(ih hp).1, List.Subset.trans (ih hp).2 (List.subset_cons_self c l)⟩
    · next hc =>
      rw [List.modifyHead_cons] at h
      obtain rfl | hp := List.mem_cons.mp h
      · obtain ⟨hsep, hsub⟩ := ih List.mem_cons_self
        have hne : sep ≠ c := fun hs => hc (by simp [hs])
        exact ⟨by simp [hne, hsep], List.cons_subset_cons c hsub⟩
      · obtain ⟨hsep, hsub⟩ := ih (List.mem_cons_of_mem q hp)
        exact ⟨hsep, List.Subset.trans hsub (List.subset_cons_self c l)⟩

theorem not_mem_of_mem_split (h : part ∈ split sep s) : sep ∉ part.toList := by
  obtain ⟨p, hp, rfl⟩ := List.mem_map.mp h
  simpa using (mem_splitOn hp).1

theorem mem_of_mem_of_mem_split {c : Char} (h : part ∈ split sep s) (hc : c ∈ part.toList) :
    c ∈ s.toList := by
  obtain ⟨p, hp, rfl⟩ := List.mem_map.mp h
  exact (mem_splitOn hp).2 (by simpa using hc)

theorem split_ne_nil (sep : Char) (s : String) : split sep s ≠ [] := by
  simp [split, List.splitOn_ne_nil]

theorem join_singleton (sep : Char) (s : String) : join sep [s] = s := by
  simp [join]

/-- The characters of a joined text are those of its parts and the separator. -/
theorem mem_toList_join {c : Char} {l : List String} (h : c ∈ (join sep l).toList) :
    c = sep ∨ ∃ part ∈ l, c ∈ part.toList := by
  rw [toList_join] at h
  induction l with
  | nil => simp at h
  | cons p l ih =>
    cases l with
    | nil => exact Or.inr ⟨p, List.mem_cons_self, by simpa using h⟩
    | cons q l =>
      rw [List.map_cons, List.map_cons, List.intercalate_cons_cons, List.mem_append,
        List.mem_append] at h
      rcases h with (h | h) | h
      · exact Or.inr ⟨p, List.mem_cons_self, h⟩
      · exact Or.inl (List.mem_singleton.mp h)
      · obtain hc | ⟨part, hpart, hc⟩ := ih (by simpa using h)
        · exact Or.inl hc
        · exact Or.inr ⟨part, List.mem_cons_of_mem p hpart, hc⟩

theorem after?_eq_some_iff {start rest : String} :
    after? start s = some rest ↔ s = start ++ rest := by
  rw [after?, Option.map_eq_some_iff]
  constructor
  · rintro ⟨l, hl, rfl⟩
    rw [← String.toList_inj, String.toList_append, String.toList_ofList]
    exact (List.isPrefixOf?_eq_some_iff_append_eq.mp hl).symm
  · rintro rfl
    exact ⟨rest.toList, List.isPrefixOf?_eq_some_iff_append_eq.mpr (by simp), by simp⟩

/-- Lists of parts without the separator are told apart by their joined texts. -/
theorem join_injective {l l' : List String} (hl : l ≠ []) (hl' : l' ≠ [])
    (h : ∀ s ∈ l, sep ∉ s.toList) (h' : ∀ s ∈ l', sep ∉ s.toList)
    (heq : join sep l = join sep l') : l = l' := by
  rw [← split_join hl h, heq, split_join hl' h']

end GrantList.Text
