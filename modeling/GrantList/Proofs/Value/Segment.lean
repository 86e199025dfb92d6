import GrantList.Proofs.Text.Splitting
import GrantList.Value.Segment

/-!
# What the text of a segment is read as

The classes of segments do not overlap: each of the four lemmas `Segment.ofText_eq_choice_iff`,
`Segment.ofText_eq_all_iff`, `Segment.ofText_eq_typeGroup_iff` and `Segment.ofText_eq_name_iff` says
which texts are read as one kind of segment, and a name is any text that is none of the others.
-/

namespace GrantList.Value

variable {t : Token} {s text expr : String}

/-- The text begins with one of `starts`, and `rest` is what follows the first of these. -/
theorem afterAny?_eq_some_iff {starts : List String} {rest : String} :
    afterAny? starts s = some rest ↔ ∃ before start after, starts = before ++ start :: after ∧
      s = start ++ rest ∧ ∀ other ∈ before, ∀ rest', s ≠ other ++ rest' := by
  simp only [afterAny?, List.findSome?_eq_some_iff, Text.after?_eq_some_iff,
    Option.eq_none_iff_forall_not_mem, Option.mem_def, ne_eq]

/-- The text begins like a type group, and `expr` is what follows. -/
def IsGroupText (s expr : String) : Prop :=
  s = "SHIELDTYPE." ++ expr ∨ s = "SHIELDTYPE=" ++ expr

namespace IsGroupText

theorem ne_choiceMarker (h : IsGroupText s expr) : s ≠ choiceMarker := by
  rintro rfl
  obtain h | h := h <;> simpa [choiceMarker] using congrArg String.toList h

theorem not_sameAscii_allMarker (h : IsGroupText s expr) : ¬ Text.SameAscii s allMarker := by
  obtain rfl | rfl := h <;>
    exact fun h => by simpa [allMarker, Text.asciiLower] using congrArg String.toList h

theorem afterAny?_eq (h : IsGroupText s expr) :
    afterAny? Token.shieldProf.typeIntros s = some expr := by
  obtain rfl | rfl := h <;>
    simp [afterAny?, Token.shieldProf, Text.after?, List.isPrefixOf?]

end IsGroupText

namespace Segment

theorem ofText_eq_choice_iff : ofText t s = .choice ↔ s = choiceMarker := by
  rw [ofText]
  split
  · next h => exact iff_of_true rfl h
  · next h =>
    refine iff_of_false (fun heq => ?_) h
    split at heq
    · cases heq
    · split at heq <;> cases heq

theorem ofText_choiceMarker (t : Token) : ofText t choiceMarker = .choice :=
  ofText_eq_choice_iff.mpr rfl

theorem ofText_eq_all_iff : ofText t s = .all ↔ Text.SameAscii s allMarker := by
  rw [ofText]
  split
  · next h =>
    rw [h]
    exact iff_of_false nofun (by decide +kernel)
  · split
    · next h => exact iff_of_true rfl h
    · next h =>
      refine iff_of_false (fun heq => ?_) h
      split at heq <;> cases heq

theorem ofText_allMarker (t : Token) : ofText t allMarker = .all :=
  ofText_eq_all_iff.mpr (.refl _)

theorem ofText_eq_typeGroup_iff_afterAny? : ofText t s = .typeGroup expr ↔
    s ≠ choiceMarker ∧ ¬ Text.SameAscii s allMarker ∧ afterAny? t.typeIntros s = some expr := by
  rw [ofText]
  split
  · next h => simp [h]
  · next hchoice =>
    split
    · next hall => simp [hall]
    · next hall => cases afterAny? t.typeIntros s <;> simp [hchoice, hall]

/-- The expression of a type group is what follows an introduction. -/
theorem exists_of_ofText_eq_typeGroup (h : ofText t s = .typeGroup expr) :
    ∃ start ∈ t.typeIntros, s = start ++ expr := by
  obtain ⟨-, -, hafter⟩ := ofText_eq_typeGroup_iff_afterAny?.mp h
  obtain ⟨start, hstart, hrest⟩ := List.exists_of_findSome?_eq_some hafter
  exact ⟨start, hstart, Text.after?_eq_some_iff.mp hrest⟩

theorem ofText_eq_typeGroup_iff : ofText .shieldProf s = .typeGroup expr ↔ IsGroupText s expr := by
  constructor
  · intro h
    obtain ⟨start, hstart, rfl⟩ := exists_of_ofText_eq_typeGroup h
    simpa [Token.shieldProf, IsGroupText] using hstart
  · intro h
    exact ofText_eq_typeGroup_iff_afterAny?.mpr
      ⟨h.ne_choiceMarker, h.not_sameAscii_allMarker, h.afterAny?_eq⟩

/-- A segment that is a name is the name as it stands. -/
theorem eq_of_ofText_eq_name (h : ofText t s = .name text) : s = text := by
  rw [ofText] at h
  split at h
  · cases h
  · split at h
    · cases h
    · split at h
      · cases h
      · exact name.inj h

theorem ofText_eq_name_iff : ofText .shieldProf s = .name text ↔
    s = text ∧ s ≠ choiceMarker ∧ ¬ Text.SameAscii s allMarker ∧ ∀ expr, ¬ IsGroupText s expr := by
  constructor
  · intro h
    refine ⟨eq_of_ofText_eq_name h, fun hs => ?_, fun hs => ?_, fun expr hs => ?_⟩
    · cases h.symm.trans (ofText_eq_choice_iff.mpr hs)
    · cases h.symm.trans (ofText_eq_all_iff.mpr hs)
    · cases h.symm.trans (ofText_eq_typeGroup_iff.mpr hs)
  · rintro ⟨rfl, hchoice, hall, hgroup⟩
    cases h : ofText .shieldProf s with
    | choice => exact absurd (ofText_eq_choice_iff.mp h) hchoice
    | all => exact absurd (ofText_eq_all_iff.mp h) hall
    | typeGroup expr => exact absurd (ofText_eq_typeGroup_iff.mp h) (hgroup expr)
    | name text => rw [eq_of_ofText_eq_name h]

end Segment

end GrantList.Value
