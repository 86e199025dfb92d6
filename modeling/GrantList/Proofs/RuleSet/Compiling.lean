import GrantList.Proofs.RuleSet.Places

/-!
# What compiling a rule set leaves behind

The records that count can be listed without their places (`RuleSet.kept`). Compiling enters the
values of these records into the table, one after the other and whether they are accepted or not,
and makes one entity of each record, which holds what the accepted values of the record say
(`RuleSet.compile_spec`). All that is reported is errors.

Main facts: `RuleSet.compile_table` and `RuleSet.holds_of_compile`.
-/

namespace GrantList

/-- The warnings of a report. -/
def Report.warnings (r : Report) : List Diagnostic :=
  r.diagnostics.filter (·.severity == .warning)

@[simp]
theorem Report.warnings_push_error (r : Report) (context message : String) :
    (r.push .error context message).warnings = r.warnings := by
  simp [warnings, push]

theorem LoadContext.warnings_pushAll (ctx : LoadContext) {l : List Diagnostic}
    (h : ∀ d ∈ l, d.severity = .error) :
    (ctx.pushAll l).report.warnings = ctx.report.warnings := by
  rw [pushAll, Report.warnings, Report.warnings, List.filter_append, List.append_right_eq_self,
    List.filter_eq_nil_iff]
  intro d hd
  rw [h d hd]
  decide

namespace RuleSet

/-- All texts of the values in the records. -/
def valuesIn (records : List EntityRecord) : List String :=
  records.flatMap (·.values)

/-- The records that entities are made of, where `seen` holds the lower-case forms of earlier keys:
their keys are not blank, and they are the first with their keys. -/
def kept (seen : List String) : List EntityRecord → List EntityRecord
  | [] => []
  | record :: l =>
    if Text.isBlankText record.key then kept seen l
    else if Text.lowerCase record.key ∈ seen then kept seen l
    else record :: kept (Text.lowerCase record.key :: seen) l

theorem valuesIn_subset {records records' : List EntityRecord} (h : records ⊆ records') :
    valuesIn records ⊆ valuesIn records' := by
  intro value hvalue
  obtain ⟨record, hrecord, hvalue⟩ := List.mem_flatMap.mp hvalue
  exact List.mem_flatMap.mpr ⟨record, h hrecord, hvalue⟩

theorem Remembers.kept_eq {seen : List String} {before : List EntityRecord}
    (hseen : Remembers seen before) (records : List EntityRecord) :
    kept seen records = ((placesFrom before records).filter (·.Counts)).map (·.record) := by
  induction records generalizing before seen with
  | nil => rfl
  | cons record records ih =>
    have hnext := hseen.append record
    rw [kept, placesFrom, List.filter_cons]
    by_cases hcounts : Place.Counts ⟨before, record⟩
    · obtain ⟨hkey, hnew⟩ := hseen.counts_iff.mp hcounts
      rw [if_pos hcounts] at hnext
      rw [hkey, if_neg Bool.false_ne_true, if_neg hnew, if_pos (decide_eq_true hcounts),
        List.map_cons, ih hnext]
    · rw [if_neg hcounts] at hnext
      rw [if_neg (mt of_decide_eq_true hcounts), ← ih hnext]
      rw [hseen.counts_iff, not_and, not_not] at hcounts
      cases hkey : Text.isBlankText record.key with
      | true => rfl
      | false => exact if_pos (hcounts hkey)

theorem kept_eq_counted (records : List EntityRecord) :
    kept [] records = (counted records).map (·.record) :=
  remembers_nil.kept_eq records

theorem kept_subset (records : List EntityRecord) : kept [] records ⊆ records := by
  rw [kept_eq_counted]
  intro record hrecord
  obtain ⟨p, hp, rfl⟩ := List.mem_map.mp hrecord
  exact record_mem_of_mem_places (List.mem_filter.mp hp).1

variable {rules : RuleSet} {ctx ctx' : LoadContext} {entities : List Entity}

theorem extends_contextAfter (ctx : LoadContext) (before later : List EntityRecord) :
    (contextAfter ctx before).refs.Extends (contextAfter ctx (before ++ later)).refs := by
  rw [contextAfter, contextAfter, counted_append, List.flatMap_append, List.foldl_append]
  exact (ReferenceTable.GrowsBy.foldl_enter _ _ _ _).grown

/-- The entity of a record that counts holds what the accepted values of the record say, and does so
in the table that all records have filled. -/
theorem holds_entity {p : Place} {records : List EntityRecord} (hp : p ∈ counted records)
    (ctx : LoadContext) :
    (p.entity ctx).Holds .shieldProf (contextAfter ctx records).refs
      (Token.shieldProf.accepted ctx.format p.record.values) := by
  obtain ⟨hplace, hcounts⟩ := List.mem_filter.mp hp
  obtain ⟨later, rfl⟩ := mem_places_iff.mp hplace
  have hread := (LoadContext.holds_of_decodeEach
    (rfl : LoadContext.decodeEach (contextAfter ctx p.before) _ _ _ = (_, p.entity ctx))
    (Entity.holds_new p.record.key .shieldProf _)).2
  rw [Set.union_empty, ← contextAfter_append_of_counts (of_decide_eq_true hcounts)] at hread
  rw [List.append_cons]
  exact hread.mono (extends_contextAfter ctx _ later)

theorem severity_of_mem_diagnostics {p : Place} {format : ConditionFormat} {d : Diagnostic}
    (h : d ∈ p.diagnostics format) : d.severity = .error := by
  rw [Place.diagnostics] at h
  split at h
  · obtain ⟨⟨value, j⟩, -, h⟩ := List.mem_filterMap.mp h
    obtain ⟨err, -, rfl⟩ := Option.map_eq_some_iff.mp h
    rfl
  · obtain rfl := List.mem_singleton.mp h
    rfl

/-- Compiling records enters the values of those that are kept, and makes an entity of each. -/
theorem compile_spec (h : rules.compile ctx = (ctx', entities)) :
    ctx'.format = ctx.format ∧ ctx'.report.warnings = ctx.report.warnings ∧
      ctx'.refs =
        (valuesIn (kept [] rules.entities)).foldl (Token.shieldProf.enter ctx.format) ctx.refs ∧
      List.Forall₂ (fun record e => e.key = record.key ∧
        e.Holds .shieldProf ctx'.refs (Token.shieldProf.accepted ctx.format record.values))
          (kept [] rules.entities) entities := by
  rw [compile_eq] at h
  obtain ⟨rfl, rfl⟩ := Prod.mk.inj h
  rw [kept_eq_counted]
  refine ⟨rfl, LoadContext.warnings_pushAll _ fun d hd => ?_, ?_, ?_⟩
  · obtain ⟨p, -, hd⟩ := List.mem_flatMap.mp hd
    exact severity_of_mem_diagnostics hd
  · rw [valuesIn, List.flatMap_map]
    rfl
  · rw [List.forall₂_map_left_iff, List.forall₂_map_right_iff, List.forall₂_same]
    exact fun p hp => ⟨p.key_entity ctx, holds_entity hp ctx⟩

theorem compile_table (h : rules.compile ctx = (ctx', entities)) :
    ctx'.format = ctx.format ∧
      ctx.refs.GrowsBy ctx'.refs (Token.shieldProf.targetsIn (valuesIn rules.entities)) := by
  obtain ⟨hformat, -, hrefs, -⟩ := compile_spec h
  rw [hrefs]
  exact ⟨hformat, (ReferenceTable.GrowsBy.foldl_enter ctx.refs .shieldProf ctx.format _).mono
    (Token.targetsIn_mono _ (valuesIn_subset (kept_subset rules.entities)))⟩

/-- Every entity of a rule set holds what the accepted values of its record say, and does so in the
table that all records have filled. -/
theorem holds_of_compile (h : rules.compile ctx = (ctx', entities)) {e : Entity}
    (he : e ∈ entities) :
    ∃ record ∈ rules.entities, e.key = record.key ∧
      e.Holds .shieldProf ctx'.refs (Token.shieldProf.accepted ctx.format record.values) := by
  rw [compile_eq] at h
  obtain ⟨rfl, rfl⟩ := Prod.mk.inj h
  obtain ⟨p, hp, rfl⟩ := List.mem_map.mp he
  exact ⟨p.record, record_mem_of_mem_places (List.mem_filter.mp hp).1, p.key_entity ctx,
    holds_entity hp ctx⟩

end RuleSet

end GrantList
