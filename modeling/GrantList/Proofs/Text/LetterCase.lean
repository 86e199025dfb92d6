import GrantList.Text.AsciiCase
import GrantList.Text.LowerCase

/-!
# The two rules for letter case

Some texts are compared in full lower case, others without regard to the case of ASCII letters
alone. The first comparison is the coarser one: texts that are the same for the second are the same
for the first (`SameAscii.lowerCase_eq`). For texts of ASCII characters both are the same
(`sameAscii_iff_lowerCase_eq`), but letters outside ASCII set them apart.
-/

namespace GrantList.Text

/-- All characters of the text are ASCII characters. -/
def IsAscii (s : String) : Prop :=
  ∀ c ∈ s.toList, c.toNat < 128

instance (s : String) : Decidable (IsAscii s) :=
  inferInstanceAs (Decidable (∀ c ∈ s.toList, c.toNat < 128))

/-- Texts are compared character by character. -/
theorem sameAscii_iff_map_toLower {s t : String} :
    SameAscii s t ↔ s.toList.map Char.toLower = t.toList.map Char.toLower := by
  rw [SameAscii, asciiLower, asciiLower, ← String.toList_inj, String.toList_map, String.toList_map]

/-- What is the same for both cases of the letters from `A` to `Z` is the same for both cases of
every ASCII letter. -/
theorem apply_toLower {α : Type} {f : Char → α}
    (h : ∀ n < 26, f (Char.ofNat (65 + n)).toLower = f (Char.ofNat (65 + n))) (c : Char) :
    f c.toLower = f c := by
  by_cases hc : 65 ≤ c.toNat ∧ c.toNat ≤ 90
  · have hletter : c = Char.ofNat (65 + (c.toNat - 65)) := by
      rw [Nat.add_sub_cancel' hc.1, Char.ofNat_toNat]
    rw [hletter]
    exact h _ (by omega)
  · have hnot : ¬ (c.val ≥ 'A'.val ∧ c.val ≤ 'Z'.val) := hc
    exact congrArg f (dif_neg hnot : c.toLower = c)

/-! ### Full lower case of ASCII letters -/

theorem lowerChar_toLower (c : Char) : lowerChar c.toLower = lowerChar c :=
  apply_toLower (by decide +kernel) c

/-- No ASCII letter is ignored for case. -/
theorem not_mem_caseIgnorable {n : Nat} (hn : n < 26) :
    Char.ofNat (65 + n) ∉ CodeRanges.caseIgnorable ∧
      (Char.ofNat (65 + n)).toLower ∉ CodeRanges.caseIgnorable := by
  have hupper : ∀ n < 26, (Char.ofNat (65 + n)).toNat = 65 + n := by decide
  have hlower : ∀ n < 26, (Char.ofNat (65 + n)).toLower.toNat = 97 + n := by decide
  -- each range lies below the letters, between their two cases or above them
  have hapart : ∀ r ∈ CodeRanges.caseIgnorable.ranges,
      (r.2 < 65 ∨ 90 < r.1) ∧ (r.2 < 97 ∨ 122 < r.1) := by decide +kernel
  constructor
  · rintro ⟨r, hr, hfirst, hlast⟩
    rw [hupper n hn] at hfirst hlast
    have := (hapart r hr).1
    omega
  · rintro ⟨r, hr, hfirst, hlast⟩
    rw [hlower n hn] at hfirst hlast
    have := (hapart r hr).2
    omega

/-- Whether a word goes on is the same for both cases of an ASCII letter. -/
theorem meetsCased_map_toLower (l : List Char) :
    meetsCased (l.map Char.toLower) = meetsCased l := by
  have hignorable : ∀ c : Char, decide (c.toLower ∈ CodeRanges.caseIgnorable) =
      decide (c ∈ CodeRanges.caseIgnorable) := by
    refine apply_toLower (f := fun c => decide (c ∈ CodeRanges.caseIgnorable)) fun n hn => ?_
    have ⟨hupper, hlower⟩ := not_mem_caseIgnorable hn
    rw [decide_eq_false hupper, decide_eq_false hlower]
  have hcased : ∀ c : Char, decide (c.toLower ∈ CodeRanges.cased) =
      decide (c ∈ CodeRanges.cased) :=
    apply_toLower (f := fun c => decide (c ∈ CodeRanges.cased)) (by decide +kernel)
  induction l with
  | nil => rfl
  | cons c l ih =>
    rw [meetsCased, meetsCased, List.map_cons, List.dropWhile_cons, List.dropWhile_cons, hignorable]
    cases decide (c ∈ CodeRanges.caseIgnorable) with
    | false => exact hcased c
    | true => exact ih

theorem lowerCaseAfter_map_toLower (before l : List Char) :
    lowerCaseAfter (before.map Char.toLower) (l.map Char.toLower) = lowerCaseAfter before l := by
  have hsigma : ∀ c : Char, decide (c.toLower = 'Σ') = decide (c = 'Σ') :=
    apply_toLower (f := fun c => decide (c = 'Σ')) (by decide)
  induction l generalizing before with
  | nil => rfl
  | cons c l ih =>
    have hrest := ih (c :: before)
    rw [List.map_cons] at hrest
    rw [List.map_cons, lowerCaseAfter, lowerCaseAfter, hrest, lowerChar_toLower, lowerSigma,
      lowerSigma, meetsCased_map_toLower, meetsCased_map_toLower]
    simp only [decide_eq_decide.mp (hsigma c)]

/-- Lower case does not depend on the case of ASCII letters. -/
theorem lowerCase_asciiLower (s : String) : lowerCase (asciiLower s) = lowerCase s := by
  rw [lowerCase, lowerCase, asciiLower, String.toList_map]
  exact congrArg String.ofList (lowerCaseAfter_map_toLower [] s.toList)

/-- Texts that differ at most in the case of ASCII letters are the same in lower case. -/
theorem SameAscii.lowerCase_eq {s t : String} (h : SameAscii s t) : lowerCase s = lowerCase t := by
  rw [← lowerCase_asciiLower s, ← lowerCase_asciiLower t, h]

/-! ### Texts of ASCII characters -/

private theorem lowerCaseAfter_eq_map {before l : List Char} (h : ∀ c ∈ l, c.toNat < 128) :
    lowerCaseAfter before l = l.map Char.toLower := by
  induction l generalizing before with
  | nil => rfl
  | cons c l ih =>
    obtain ⟨hc, hl⟩ := List.forall_mem_cons.mp h
    have hsigma : c ≠ 'Σ' := by
      rintro rfl
      exact absurd hc (by decide)
    rw [lowerCaseAfter, if_neg hsigma, lowerChar, if_pos hc, ih hl]
    rfl

theorem IsAscii.lowerCase_eq {s : String} (h : IsAscii s) : lowerCase s = asciiLower s := by
  rw [lowerCase, lowerCaseAfter_eq_map h, asciiLower, ← String.toList_map, String.ofList_toList]

/-- For texts of ASCII characters the two rules agree. -/
theorem sameAscii_iff_lowerCase_eq {s t : String} (hs : IsAscii s) (ht : IsAscii t) :
    SameAscii s t ↔ lowerCase s = lowerCase t := by
  rw [hs.lowerCase_eq, ht.lowerCase_eq, SameAscii]

/-- The letters outside ASCII set the two rules apart. So does the Kelvin sign, whose lower case is
an ASCII letter. -/
example : (lowerCase "É" = lowerCase "é" ∧ ¬ SameAscii "É" "é") ∧
    lowerCase "\u212A" = lowerCase "k" ∧ ¬ SameAscii "\u212A" "k" := by
  decide +kernel

end GrantList.Text
