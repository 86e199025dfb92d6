/-!
# Cutting and joining at a separator

`Text.split` cuts a text at every occurrence of a separator and keeps empty parts, so that a text
with `n` separators has `n + 1` parts and the empty text has one. `Text.join` is its inverse on
parts that do not hold the separator.

Main facts: `join_split`, nothing is lost in cutting, and `split_join`, every list of parts comes
back from the joined text.
-/

namespace GrantList.Text

/-- The parts of the text between the occurrences of `sep`. -/
def split (sep : Char) (s : String) : List String :=
  (s.toList.splitOn sep).map .ofList

/-- The texts one after the other, with `sep` between neighbours. -/
def join (sep : Char) (l : List String) : String :=
  (String.singleton sep).intercalate l

/-- What follows `start` in a text that begins with it. -/
def after? (start s : String) : Option String :=
  (start.toList.isPrefixOf? s.toList).map .ofList

theorem toList_join (sep : Char) (l : List String) :
    (join sep l).toList = [sep].intercalate (l.map String.toList) := by
  simp [join, String.toList_intercalate]

theorem map_toList_split (sep : Char) (s : String) :
    (split sep s).map String.toList = s.toList.splitOn sep := by
  simp [split, Function.comp_def]

theorem join_split (sep : Char) (s : String) : join sep (split sep s) = s := by
  rw [← String.toList_inj, toList_join, map_toList_split, List.intercalate_splitOn]

theorem split_join {sep : Char} {l : List String} (hl : l ≠ [])
    (h : ∀ s ∈ l, sep ∉ s.toList) : split sep (join sep l) = l := by
  have hs : ∀ p ∈ l.map String.toList, sep ∉ p := fun p hp =>
    have ⟨s, hs, hsp⟩ := List.mem_map.1 hp
    hsp ▸ h s hs
  rw [split, toList_join, List.splitOn_intercalate sep hs (by simpa using hl)]
  simp [Function.comp_def]

end GrantList.Text
