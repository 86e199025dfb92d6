import GrantList.Value.Bracket
import Mathlib.Data.List.Basic
import Mathlib.Data.List.TakeWhile

/-!
# Cutting off the condition and putting it back

Cutting a value at its brackets undoes appending a condition to a payload, and nothing else cuts
into the same two parts.
-/

namespace GrantList.Value

/-- The characters that a condition adds to a payload. -/
private def suffixOf : Option (List Char) → List Char
  | none => []
  | some c => '[' :: (c ++ [']'])

private theorem cutBracket?_append {p : List Char} (h : '[' ∉ p) (c : Option (List Char)) :
    cutBracket? (p ++ suffixOf c) = some (p, c) := by
  have hp : ∀ a ∈ p, (decide (a ≠ '[')) = true := fun a ha => by
    simpa using fun hb : a = '[' => h (hb ▸ ha)
  rw [cutBracket?, List.takeWhile_append_of_pos hp, List.dropWhile_append_of_pos hp]
  cases c with
  | none => simp [suffixOf]
  | some c => simp [suffixOf]

private theorem eq_of_cutBracket? {l p : List Char} {c : Option (List Char)}
    (h : cutBracket? l = some (p, c)) : '[' ∉ p ∧ l = p ++ suffixOf c := by
  have hp : '[' ∉ l.takeWhile (· ≠ '[') := fun hm => by simpa using List.mem_takeWhile_imp hm
  have hl : l = l.takeWhile (· ≠ '[') ++ l.dropWhile (· ≠ '[') := by simp
  rw [cutBracket?] at h
  split at h
  · next hdrop =>
    obtain ⟨rfl, rfl⟩ : l.takeWhile (· ≠ '[') = p ∧ none = c := by simpa using h
    exact ⟨hp, by rwa [hdrop] at hl⟩
  · next b rest hdrop =>
    -- what stopped the payload is the bracket itself
    have hb : b = '[' := by
      have hnot := List.head?_dropWhile_not (· ≠ '[') l
      rw [hdrop] at hnot
      simpa using hnot
    subst hb
    split at h
    · next hlast =>
      obtain ⟨rfl, rfl⟩ : l.takeWhile (· ≠ '[') = p ∧ some rest.dropLast = c := by simpa using h
      refine ⟨hp, ?_⟩
      have hrest : rest.dropLast ++ [']'] = rest := List.dropLast_append_getLast? _ hlast
      rwa [suffixOf, hrest, ← hdrop]
    · cases h

private theorem toList_withCondition (payload : String) (condition : Option String) :
    (withCondition payload condition).toList =
      payload.toList ++ suffixOf (condition.map String.toList) := by
  cases condition <;> simp [withCondition, suffixOf]

theorem withCondition_eq_append (payload : String) (condition : Option String) :
    withCondition payload condition = payload ++ withCondition "" condition := by
  cases condition <;> simp [withCondition, String.append_assoc]

/-- A value splits into exactly the payload without a bracket and the condition of which it is
made. -/
theorem splitCondition?_eq_some_iff {s payload : String} {condition : Option String} :
    splitCondition? s = some (payload, condition) ↔
      '[' ∉ payload.toList ∧ s = withCondition payload condition := by
  constructor
  · intro h
    obtain ⟨⟨p, c⟩, hcut, heq⟩ := Option.map_eq_some_iff.mp h
    obtain ⟨rfl, rfl⟩ := Prod.mk.inj heq
    obtain ⟨hp, hs⟩ := eq_of_cutBracket? hcut
    refine ⟨by simpa using hp, ?_⟩
    rw [← String.toList_inj, toList_withCondition, hs]
    simp [Option.map_map, Function.comp_def]
  · rintro ⟨hp, rfl⟩
    rw [splitCondition?, toList_withCondition, cutBracket?_append hp]
    simp [Option.map_map, Function.comp_def]

theorem splitCondition?_withCondition {payload : String} (h : '[' ∉ payload.toList)
    (condition : Option String) :
    splitCondition? (withCondition payload condition) = some (payload, condition) :=
  splitCondition?_eq_some_iff.mpr ⟨h, rfl⟩

/-- A value does not split when it opens a bracket and does not end with a closing one. -/
theorem splitCondition?_eq_none_iff {s : String} :
    splitCondition? s = none ↔ '[' ∈ s.toList ∧ s.toList.getLast? ≠ some ']' := by
  have hs : s.toList = s.toList.takeWhile (· ≠ '[') ++ s.toList.dropWhile (· ≠ '[') := by simp
  rw [splitCondition?, Option.map_eq_none_iff, cutBracket?]
  cases hdrop : s.toList.dropWhile (· ≠ '[') with
  | nil =>
    have hno : '[' ∉ s.toList := fun h => by
      simpa using List.dropWhile_eq_nil_iff.mp hdrop '[' h
    simp [hno]
  | cons b rest =>
    obtain rfl : b = '[' := by
      have hnot := List.head?_dropWhile_not (· ≠ '[') s.toList
      rw [hdrop] at hnot
      simpa using hnot
    have hopen : '[' ∈ s.toList := by
      rw [hs, hdrop]
      simp
    -- the last character of the value is that of the rest, unless the bracket itself is the last
    have hlast : s.toList.getLast? = some ']' ↔ rest.getLast? = some ']' := by
      rw [hs, hdrop, List.getLast?_append_cons]
      cases rest <;> simp
    simp [hopen, hlast]

end GrantList.Value
