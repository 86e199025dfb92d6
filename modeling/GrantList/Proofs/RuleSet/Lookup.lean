import GrantList.Proofs.RuleSet.Places
import Mathlib.Data.List.Nodup

/-!
# Looking up the key of a record

Compiling and looking up do not compare keys in the same way: a record is a duplicate if its key is
that of an earlier one in full lower case, but an entity is found without regard to the case of
ASCII letters alone. The second comparison is the finer one, so a key leads to at most the one
entity that compiling has made for it, but not always to that one.

Main result: `RuleSet.findEntity?_key`. The key of a record leads to the entity of the first record
with the same key if the two keys differ at most in the case of ASCII letters, and otherwise to
nothing.
-/

namespace GrantList

namespace RuleSet

variable {records : List EntityRecord} {record : EntityRecord} {entities : List Entity}

/-- Each key that is not blank has a first record, which counts. -/
theorem exists_counted_of_mem (hrecord : record ∈ records)
    (hkey : Text.isBlankText record.key = false) :
    ∃ first ∈ counted records, Text.lowerCase first.record.key = Text.lowerCase record.key := by
  induction records using List.reverseRecOn generalizing record with
  | nil => cases hrecord
  | append_singleton before last ih =>
    have hearlier : ∀ earlier ∈ before, Text.isBlankText earlier.key = false →
        ∃ first ∈ counted (before ++ [last]),
          Text.lowerCase first.record.key = Text.lowerCase earlier.key := by
      intro earlier hmem hearlier
      obtain ⟨first, hfirst, hform⟩ := ih hmem hearlier
      exact ⟨first, counted_append before [last] ▸ List.mem_append_left _ hfirst, hform⟩
    obtain hmem | hmem := List.mem_append.mp hrecord
    · exact hearlier record hmem hkey
    obtain rfl := List.mem_singleton.mp hmem
    by_cases hcounts : Place.Counts ⟨before, record⟩
    · refine ⟨⟨before, record⟩, ?_, rfl⟩
      rw [counted_append_singleton, if_pos hcounts]
      exact List.mem_append_right _ (List.mem_singleton_self _)
    · -- an earlier key is the same, and the first record with that key is looked for
      rw [Place.Counts, and_iff_right hkey] at hcounts
      push Not at hcounts
      obtain ⟨earlier, hmem, hnot, hform⟩ := hcounts
      rw [← hform]
      exact hearlier earlier hmem hnot

/-- Where keys differ in lower case, an entity is told by the lower case of its key. -/
theorem eq_of_lowerCase_key_eq
    (hkeys : entities.Pairwise fun e e' => Text.lowerCase e.key ≠ Text.lowerCase e'.key)
    {e e' : Entity} (he : e ∈ entities) (he' : e' ∈ entities)
    (h : Text.lowerCase e.key = Text.lowerCase e'.key) : e = e' :=
  List.inj_on_of_nodup_map (List.pairwise_map.mpr hkeys) he he' h

theorem findEntity?_eq_some_iff
    (hkeys : entities.Pairwise fun e e' => Text.lowerCase e.key ≠ Text.lowerCase e'.key)
    {text : String} {e : Entity} :
    findEntity? entities text = some e ↔ e ∈ entities ∧ Text.SameAscii e.key text := by
  rw [findEntity?]
  constructor
  · intro h
    exact ⟨List.mem_of_find?_eq_some h, by simpa using List.find?_some h⟩
  · rintro ⟨he, hsame⟩
    obtain ⟨e', he'⟩ : ∃ e', entities.find? (fun e => Text.SameAscii e.key text) = some e' :=
      Option.isSome_iff_exists.mp (List.find?_isSome.mpr ⟨e, he, by simpa using hsame⟩)
    have hsame' : Text.SameAscii e'.key text := by simpa using List.find?_some he'
    rw [he', eq_of_lowerCase_key_eq hkeys (List.mem_of_find?_eq_some he') he
      (hsame'.trans hsame.symm).lowerCase_eq]

/-- For each record with a key that is not blank, there is a first record whose key is the same to
compiling. Looking up the key finds the entity of that record if the two keys differ at most in the
case of ASCII letters, and otherwise it finds nothing. For keys of ASCII characters it always finds
the entity. -/
theorem findEntity?_key {rules : RuleSet} (ctx : LoadContext) (hrecord : record ∈ rules.entities)
    (hkey : Text.isBlankText record.key = false) :
    ∃ first ∈ counted rules.entities,
      Text.lowerCase first.record.key = Text.lowerCase record.key ∧
      findEntity? (rules.compile ctx).2 record.key =
        (if Text.SameAscii first.record.key record.key then some (first.entity ctx) else none) ∧
      (Text.IsAscii first.record.key → Text.IsAscii record.key →
        Text.SameAscii first.record.key record.key) := by
  obtain ⟨first, hfirst, hform⟩ := exists_counted_of_mem hrecord hkey
  refine ⟨first, hfirst, hform, ?_, fun h h' => (Text.sameAscii_iff_lowerCase_eq h h').mpr hform⟩
  have hkeys := pairwise_key_compile rules ctx
  have hmem : first.entity ctx ∈ (rules.compile ctx).2 := by
    rw [compile_eq]
    exact List.mem_map_of_mem hfirst
  have hentity := first.key_entity ctx
  split
  · next hsame => exact (findEntity?_eq_some_iff hkeys).mpr ⟨hmem, hentity ▸ hsame⟩
  · next hapart =>
    -- whatever were found would be the entity of the first record
    refine Option.eq_none_iff_forall_ne_some.mpr fun e he => hapart ?_
    obtain ⟨he, hsame⟩ := (findEntity?_eq_some_iff hkeys).mp he
    rw [eq_of_lowerCase_key_eq hkeys he hmem
      (by rw [hsame.lowerCase_eq, hentity, hform]), hentity] at hsame
    exact hsame

/-- A duplicate is found if it differs from the first key in the case of ASCII letters. -/
theorem findEntity?_key_respelled :
    ∃ rules record, rules = (⟨[⟨"Élu", ["Kite"]⟩, ⟨" ", []⟩, ⟨"ÉLU", ["Tower"]⟩]⟩ : RuleSet) ∧
      record = (⟨"ÉLU", ["Tower"]⟩ : EntityRecord) ∧ record ∈ rules.entities ∧
      Text.isBlankText record.key = false ∧
      ∃ first ∈ counted rules.entities, first.before = [] ∧
        findEntity? (rules.compile {}).2 record.key = some (first.entity {}) := by
  obtain ⟨rules, hrules⟩ : ∃ rules : RuleSet,
      rules = ⟨[⟨"Élu", ["Kite"]⟩, ⟨" ", []⟩, ⟨"ÉLU", ["Tower"]⟩]⟩ := ⟨_, rfl⟩
  have hrecord : (⟨"ÉLU", ["Tower"]⟩ : EntityRecord) ∈ rules.entities := by
    rw [hrules]
    decide
  have hkey : Text.isBlankText "ÉLU" = false := by decide
  obtain ⟨first, hfirst, -, hfound, -⟩ := findEntity?_key {} hrecord hkey
  have hcounted : ∀ p ∈ counted rules.entities, p.before = [] ∧ p.record.key = "Élu" := by
    rw [hrules]
    decide +kernel
  obtain ⟨hbefore, hfirstkey⟩ := hcounted first hfirst
  have hsame : Text.SameAscii "Élu" "ÉLU" := by
    rw [Text.sameAscii_iff_map_toLower]
    decide
  rw [hfirstkey, if_pos hsame] at hfound
  exact ⟨rules, _, hrules, rfl, hrecord, hkey, first, hfirst, hbefore, hfound⟩

/-- The key of a duplicate that cannot be found: it differs from the first key in the case of an
accented letter. -/
theorem exists_duplicate_not_found :
    ∃ rules record, rules = (⟨[⟨"É", []⟩, ⟨"é", []⟩]⟩ : RuleSet) ∧
      record = (⟨"é", []⟩ : EntityRecord) ∧ record ∈ rules.entities ∧
      Text.isBlankText record.key = false ∧
      (counted rules.entities).map (·.record.key) = ["É"] ∧
      Text.lowerCase "É" = Text.lowerCase record.key ∧
      findEntity? (rules.compile {}).2 record.key = none :=
  ⟨_, _, rfl, rfl, by decide +kernel⟩

end RuleSet

end GrantList
