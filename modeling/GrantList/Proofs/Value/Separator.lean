import GrantList.Text.Split
import GrantList.Value.Separator
import Mathlib.Data.List.Basic

/-!
# Separators and empty segments

The scan for misplaced separators finds nothing exactly when no part of the split text is empty
(`Value.separatorProblem?_eq_none_iff`). Otherwise what it finds can be told from the first and the
last part (`Value.separatorProblem?_eq`). Doubled separators can be found by a scan that remembers
one character (`Value.scanProblem?`).

Main result: `Value.separatorProblem?_tells_empty_parts`.
-/

namespace GrantList.Value

variable {sep : Char}

/-- The parts after the first one: none of them is empty unless the text ends with the separator or
has two in a row. -/
private theorem nil_not_mem_tail_splitOn_iff {l : List Char} :
    [] ∉ (l.splitOn sep).tail ↔ l.getLast? ≠ some sep ∧ hasDoubled sep l = false := by
  induction l with
  | nil => simp [hasDoubled]
  | cons c l ih =>
    obtain ⟨q, rest, hq⟩ := List.exists_cons_of_ne_nil (List.splitOn_ne_nil sep l)
    rw [List.splitOn_cons_eq_if_modifyHead]
    rw [hq, List.tail_cons] at ih
    cases l with
    | nil =>
      obtain ⟨rfl, rfl⟩ : q = [] ∧ rest = [] := by simpa [eq_comm] using hq
      by_cases hc : c = sep <;> simp [hc, hasDoubled]
    | cons d l =>
      have hhead : q = [] ↔ d = sep := by
        rw [List.splitOn_cons_eq_if_modifyHead] at hq
        by_cases hd : d = sep
        · simp [hd] at hq ⊢
          exact hq.1
        · obtain ⟨q', rest', hq'⟩ := List.exists_cons_of_ne_nil (List.splitOn_ne_nil sep l)
          rw [if_neg (by simpa using hd), hq', List.modifyHead_cons] at hq
          simp [hd, ← (List.cons.inj hq).1]
      rw [List.getLast?_cons_cons, hasDoubled]
      by_cases hc : c = sep
      · simp only [hc, hq, beq_self_eq_true, if_true, List.tail_cons, List.mem_cons, not_or,
          Bool.true_and, Bool.or_eq_false_iff, beq_eq_false_iff_ne]
        rw [ih, eq_comm (a := []), hhead]
        exact and_left_comm
      · simpa [hc, hq] using ih

private theorem nil_not_mem_splitOn_iff {l : List Char} :
    [] ∉ l.splitOn sep ↔
      l ≠ [] ∧ l.head? ≠ some sep ∧ l.getLast? ≠ some sep ∧ hasDoubled sep l = false := by
  rw [← nil_not_mem_tail_splitOn_iff]
  cases l with
  | nil => simp
  | cons c l =>
    obtain ⟨q, rest, hq⟩ := List.exists_cons_of_ne_nil (List.splitOn_ne_nil sep l)
    rw [List.splitOn_cons_eq_if_modifyHead]
    by_cases hc : c = sep <;> simp [hc, hq]

/-- A text is a list of segments exactly when none of its parts is empty. -/
theorem separatorProblem?_eq_none_iff {s : String} :
    separatorProblem? sep s = none ↔ "" ∉ Text.split sep s := by
  have hempty : "" ∈ Text.split sep s ↔ [] ∈ s.toList.splitOn sep := by
    simp only [Text.split, List.mem_map]
    constructor
    · rintro ⟨p, hp, hp'⟩
      rwa [String.ofList_eq_empty_iff.mp hp'] at hp
    · exact fun h => ⟨[], h, rfl⟩
  rw [hempty, nil_not_mem_splitOn_iff, separatorProblem?]
  grind

/-! ### Which problem is found -/

/-- The problem of parts among which there is an empty one. -/
def SeparatorProblem.ofParts (parts : List String) : SeparatorProblem :=
  if parts = [""] then .empty
  else if parts.head? = some "" then .leading
  else if parts.getLast? = some "" then .trailing
  else .doubled

private theorem splitOn_eq_singleton_nil_iff (sep : Char) {l : List Char} :
    l.splitOn sep = [[]] ↔ l = [] := by
  constructor
  · intro h
    have hjoin : [sep].intercalate (l.splitOn sep) = l := List.intercalate_splitOn sep
    rw [← hjoin, h, List.intercalate_singleton]
  · rintro rfl
    simp

private theorem head?_splitOn_eq_iff {l : List Char} (hl : l ≠ []) :
    (l.splitOn sep).head? = some [] ↔ l.head? = some sep := by
  obtain ⟨c, l, rfl⟩ := List.exists_cons_of_ne_nil hl
  obtain ⟨q, rest, hq⟩ := List.exists_cons_of_ne_nil (List.splitOn_ne_nil sep l)
  rw [List.splitOn_cons_eq_if_modifyHead]
  by_cases hc : c = sep <;> simp [hc, hq]

private theorem getLast?_splitOn_eq_iff {l : List Char} (hl : l ≠ []) :
    (l.splitOn sep).getLast? = some [] ↔ l.getLast? = some sep := by
  induction l with
  | nil => exact absurd rfl hl
  | cons c l ih =>
    rw [List.splitOn_cons_eq_if_modifyHead]
    cases l with
    | nil => by_cases hc : c = sep <;> simp [hc]
    | cons d l =>
      obtain ⟨q, rest, hq⟩ := List.exists_cons_of_ne_nil (List.splitOn_ne_nil sep (d :: l))
      rw [List.getLast?_cons_cons, ← ih (List.cons_ne_nil d l), hq]
      cases rest with
      | nil =>
        have hne : q ≠ [] := by
          rintro rfl
          exact List.cons_ne_nil d l ((splitOn_eq_singleton_nil_iff sep).mp hq)
        by_cases hc : c = sep <;> simp [hc, hne]
      | cons q' rest => by_cases hc : c = sep <;> simp [hc]

/-- Only the empty text has a single part that is empty. -/
theorem split_eq_singleton_empty_iff {s : String} : Text.split sep s = [""] ↔ s = "" := by
  rw [← String.toList_eq_nil_iff, ← splitOn_eq_singleton_nil_iff sep, Text.split]
  simp [List.map_eq_cons_iff]

/-- The problem that is found is that of the parts of the text. -/
theorem separatorProblem?_eq (sep : Char) (s : String) : separatorProblem? sep s =
    if "" ∈ Text.split sep s then some (.ofParts (Text.split sep s)) else none := by
  by_cases hempty : "" ∈ Text.split sep s
  · have hproblem : separatorProblem? sep s ≠ none :=
      mt separatorProblem?_eq_none_iff.mp (not_not.mpr hempty)
    have hsingle : Text.split sep s = [""] ↔ s.toList = [] :=
      split_eq_singleton_empty_iff.trans String.toList_eq_nil_iff.symm
    rw [if_pos hempty]
    by_cases hs : s.toList = []
    · simp only [separatorProblem?, SeparatorProblem.ofParts, hsingle, hs, if_true]
    · have hhead : (Text.split sep s).head? = some "" ↔ s.toList.head? = some sep := by
        rw [← head?_splitOn_eq_iff hs, Text.split]
        simp
      have hlast : (Text.split sep s).getLast? = some "" ↔ s.toList.getLast? = some sep := by
        rw [← getLast?_splitOn_eq_iff hs, Text.split]
        simp
      simp only [separatorProblem?, SeparatorProblem.ofParts, hsingle, hs, hhead, hlast,
        if_false] at hproblem ⊢
      grind
  · rw [if_neg hempty, separatorProblem?_eq_none_iff.mpr hempty]

/-- The problem of a text that is not empty is told by its first and its last part. -/
theorem SeparatorProblem.ofParts_split (sep : Char) (s : String) :
    ofParts (Text.split sep s) =
      if s = "" then .empty
      else if (Text.split sep s).head? = some "" then .leading
      else if (Text.split sep s).getLast? = some "" then .trailing
      else .doubled := by
  simp only [ofParts, split_eq_singleton_empty_iff]

/-! ### The scan -/

/-- Whether the separator comes twice in a row, where `previous` is the character before. -/
def doubledAfter (sep : Char) (previous : Option Char) : List Char → Bool
  | [] => false
  | c :: l => (c == sep && previous == some sep) || doubledAfter sep (some c) l

/-- The check that looks at both ends of a text and then scans it from the front. -/
def scanProblem? (sep : Char) (s : String) : Option SeparatorProblem :=
  if s.isEmpty then some .empty
  else if s.startsWith sep then some .leading
  else if s.endsWith sep then some .trailing
  else if doubledAfter sep none s.toList then some .doubled
  else none

private theorem doubledAfter_some (c : Char) (l : List Char) :
    doubledAfter sep (some c) l = hasDoubled sep (c :: l) := by
  induction l generalizing c with
  | nil => rfl
  | cons d l ih => rw [doubledAfter, ih, hasDoubled, Option.some_beq_some, Bool.and_comm]

theorem doubledAfter_none (l : List Char) : doubledAfter sep none l = hasDoubled sep l := by
  cases l with
  | nil => rfl
  | cons c l => simp [doubledAfter, doubledAfter_some]

theorem scanProblem?_eq (sep : Char) (s : String) :
    scanProblem? sep s = separatorProblem? sep s := by
  rw [scanProblem?, separatorProblem?, doubledAfter_none]
  simp [String.startsWith_char_eq_head?, String.endsWith_char_eq_getLast?]

/-! ### Parts and segments -/

/-- The check finds no problem exactly when cutting at the separator gives no empty part. Otherwise
it says that the text is empty if it is, or else that it begins with the separator if the first part
is empty, or else that it ends with the separator if the last part is empty, or else that there are
two separators in a row. So every list of segments that are not empty and do not hold the separator
passes the check once it is joined, and is what the joined text is cut into. The scan makes the same
check. -/
theorem separatorProblem?_tells_empty_parts :
    (∀ sep s, scanProblem? sep s = separatorProblem? sep s) ∧
      (∀ sep s, separatorProblem? sep s = none ↔ ∀ part ∈ Text.split sep s, part ≠ "") ∧
      (∀ sep s problem, separatorProblem? sep s = some problem →
        (problem = .empty ↔ s = "") ∧
        (problem = .leading ↔ s ≠ "" ∧ (Text.split sep s).head? = some "") ∧
        (problem = .trailing ↔ s ≠ "" ∧ (Text.split sep s).head? ≠ some "" ∧
          (Text.split sep s).getLast? = some "") ∧
        (problem = .doubled ↔ s ≠ "" ∧ (Text.split sep s).head? ≠ some "" ∧
          (Text.split sep s).getLast? ≠ some "")) ∧
      ∀ sep segments, segments ≠ [] → (∀ s ∈ segments, s ≠ "" ∧ sep ∉ s.toList) →
        separatorProblem? sep (Text.join sep segments) = none ∧
          Text.split sep (Text.join sep segments) = segments := by
  refine ⟨scanProblem?_eq, fun sep s => ?_, fun sep s problem hproblem => ?_,
    fun sep segments hne hsegments => ?_⟩
  · rw [separatorProblem?_eq_none_iff]
    exact ⟨fun h part hpart heq => h (heq ▸ hpart), fun h hmem => h "" hmem rfl⟩
  · rw [separatorProblem?_eq] at hproblem
    split at hproblem
    · obtain rfl := Option.some_inj.mp hproblem
      rw [SeparatorProblem.ofParts_split]
      by_cases hs : s = ""
      · simp [hs]
      · by_cases hfirst : (Text.split sep s).head? = some ""
        · simp [hs, hfirst]
        · by_cases hlast : (Text.split sep s).getLast? = some "" <;> simp [hs, hfirst, hlast]
    · cases hproblem
  · have hsplit : Text.split sep (Text.join sep segments) = segments :=
      Text.split_join hne fun s hs => (hsegments s hs).2
    refine ⟨separatorProblem?_eq_none_iff.mpr fun hmem => ?_, hsplit⟩
    rw [hsplit] at hmem
    exact (hsegments "" hmem).1 rfl

end GrantList.Value
