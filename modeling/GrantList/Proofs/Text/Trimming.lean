import GrantList.NameKey
import Mathlib.Data.List.DropRight

/-!
# Trimming twice is trimming once

A trimmed text begins and ends with characters that are not blank, so trimming it again changes
nothing. The key of a name is therefore the key of the trimmed name, which is the text under which
a reference to it is kept.
-/

namespace GrantList

namespace Text

private theorem toList_trim (s : String) :
    (trim s).toList = (s.toList.dropWhile isBlank).rdropWhile isBlank := by
  simp [trim, dropBlankEnd, List.rdropWhile]

/-- What is left after dropping at the start still begins the same way when its end is dropped. -/
private theorem dropWhile_rdropWhile_dropWhile (p : Char → Bool) (l : List Char) :
    ((l.dropWhile p).rdropWhile p).dropWhile p = (l.dropWhile p).rdropWhile p := by
  rw [List.dropWhile_eq_self_iff]
  intro hpos
  have hpre : (l.dropWhile p).rdropWhile p <+: l.dropWhile p := List.rdropWhile_prefix p _
  have hpos' : 0 < (l.dropWhile p).length := hpos.trans_le hpre.length_le
  rw [hpre.getElem hpos]
  exact List.dropWhile_get_zero_not p l hpos'

theorem trim_trim (s : String) : trim (trim s) = trim s := by
  rw [← String.toList_inj, toList_trim, toList_trim, dropWhile_rdropWhile_dropWhile,
    List.rdropWhile_idempotent]

/-- Trimming brings in no character. -/
theorem mem_of_mem_trim {c : Char} {s : String} (h : c ∈ (trim s).toList) : c ∈ s.toList := by
  rw [toList_trim] at h
  exact (List.dropWhile_suffix _).subset ((List.rdropWhile_prefix _ _).subset h)

end Text

theorem nameKey_trim (s : String) : nameKey (Text.trim s) = nameKey s := by
  rw [nameKey, Text.trim_trim, nameKey]

end GrantList
