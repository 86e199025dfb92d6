import GrantList.Proofs.Saving

/-!
# Reading canonical values

A canonical list of values is read to its end, and the entity that comes of it is written as the
same list (`LoadContext.encode_of_isCanonicalList`). The table may hold other targets, but must not
spell a target of the values differently (`ReferenceTable.Spells`).

If every name in the grants of an entity is read back, reading what was written of it gives an
entity with the same grants, each taken as the targets it names and its condition, and the same
choices (`Entity.IsLoaded.grantShapes_eq`, `Entity.IsLoaded.choiceConditions_eq`).
-/

namespace GrantList

/-- The targets of the values are not spelled differently in the table. -/
def ReferenceTable.Spells (refs : ReferenceTable) (values : List String) : Prop :=
  ∀ T ∈ Token.shieldProf.targetsIn values, ∀ T' ∈ refs.targets, T'.folded = T.folded → T' = T

theorem ReferenceTable.spells_empty (values : List String) :
    ({} : ReferenceTable).Spells values := fun _ _ _ hT' => nomatch hT'

/-- A table goes on to spell the values of a canonical list as it grows by their targets. -/
theorem ReferenceTable.Spells.growsBy {refs refs' : ReferenceTable} {format : ConditionFormat}
    {values : List String} (h : refs.Spells values) (hvalues : Value.IsCanonicalList format values)
    (hgrows : refs.GrowsBy refs' (Token.shieldProf.targetsIn values)) : refs'.Spells values :=
  fun T hT T' hT' hfold => (hgrows.mem_targets hT').elim (h T hT T' · hfold)
    (hvalues.spelling · hT hfold)

/-! ### Canonical values are accepted -/

namespace Value

variable {format : ConditionFormat} {value : String} {texts : List String}

/-- A canonical payload is the marker of a choice, or holds none. -/
theorem IsCanonicalPayload.eq_choice_or (h : IsCanonicalPayload texts) :
    texts = [choiceMarker] ∨ ∀ s ∈ texts.map (Segment.ofText .shieldProf), s ≠ .choice := by
  cases h with
  | choice => exact Or.inl rfl
  | all =>
    rw [List.map_singleton, Segment.ofText_allMarker, List.forall_mem_singleton]
    exact Or.inr nofun
  | refs _ hnames hgroups =>
    refine Or.inr fun seg hseg hchoice => ?_
    obtain ⟨s, hs, rfl⟩ := List.mem_map.mp hseg
    obtain hof | ⟨expr, hof⟩ := ofText_of_mem_written hnames hgroups hs <;>
      cases hchoice.symm.trans hof

/-- A canonical value is accepted as the segments of its payload, with a condition that is written
as it stands. -/
theorem IsCanonical.exists_accepts (h : IsCanonical format value) :
    ∃ texts condition c, IsCanonicalPayload texts ∧
      value = withCondition (Text.join separator texts) condition ∧
        conditionText .shieldProf format c = .ok condition ∧
          Token.shieldProf.Accepts format value ⟨texts.map (.ofText .shieldProf), c⟩ := by
  obtain ⟨texts, condition, htexts, hkeeps, rfl⟩ := h
  obtain ⟨c, hread, hwrite⟩ := exists_readCondition .shieldProf hkeeps
  exact ⟨texts, condition, c, htexts, rfl, hwrite,
    accepts_withCondition_join htexts.ne_nil (fun _ => htexts.isFree) htexts.empty_not_mem hread
      htexts.hasTargets htexts.keepsAllApart⟩

end Value

/-! ### Writing what was read from canonical values -/

namespace Entity.IsLoaded

variable {copy : Entity} {format : ConditionFormat} {refs : ReferenceTable}
  {values : List String} {value : String} {v : Value} {g : Grant}

/-- A grant that covers a canonical value is written as the value. -/
private theorem grantText_eq_of_covers (hcopy : copy.IsLoaded format refs values)
    (hvalues : Value.IsCanonicalList format values) (hspells : refs.Spells values)
    (hvalue : value ∈ values) (hv : Token.shieldProf.Accepts format value v)
    (hg : g ∈ copy.grantsIn Token.shieldProf.name)
    (hcov : g.payload.Covers .shieldProf refs v.segments) (hcond : g.condition = v.condition) :
    Value.grantText .shieldProf format refs g = .ok value := by
  obtain ⟨texts, condition, c, htexts, rfl, hwrite, hv'⟩ :=
    (hvalues.isCanonical hvalue).exists_accepts
  obtain rfl := hv.unique hv'
  -- the target of every segment is in the table, and is spelled there as in the value
  have hmem : ∀ s ∈ texts, ∀ T,
      (Value.Segment.ofText .shieldProf s).target? .shieldProf = some T → T ∈ refs.targets := by
    intro s hs T hT
    have hseg := List.mem_map_of_mem (f := Value.Segment.ofText .shieldProf) hs
    have hin : T ∈ Token.shieldProf.targetsIn values :=
      ⟨_, hvalue, _, Value.segments_eq hv.ofText ▸ hseg, hT⟩
    obtain ⟨r, hr⟩ := Option.isSome_iff_exists.mp (hcov.found hseg hT)
    obtain ⟨T', hT', hfold⟩ := ReferenceTable.target?_of_find? hr
    have hmem' := ReferenceTable.mem_targets_of_target? hT'
    rwa [← hspells T hin T' hmem' hfold]
  rw [hcopy.grantText_eq_ok_iff hg, hcond, hcov.segmentTexts_eq htexts hcopy.wellFormed hmem]
  exact ⟨condition, hwrite, rfl⟩

/-- A choice grant of a canonical value is written as the value. -/
private theorem choiceText_eq_of_accepts (hvalues : Value.IsCanonicalList format values)
    (hvalue : value ∈ values) (hv : Token.shieldProf.Accepts format value v)
    (hchoice : .choice ∈ v.segments) {c : ChoiceGrant} (hcond : c.condition = v.condition) :
    Value.choiceText .shieldProf format c = .ok value := by
  obtain ⟨texts, condition, c', htexts, rfl, hwrite, hv'⟩ :=
    (hvalues.isCanonical hvalue).exists_accepts
  obtain rfl := hv.unique hv'
  obtain rfl := htexts.eq_choice_or.resolve_right fun h => h _ hchoice rfl
  rw [Value.choiceText_eq_ok_iff, hcond, Text.join_singleton]
  exact ⟨condition, hwrite, rfl⟩

/-- An entity that was read from a canonical list is written as this list. -/
theorem encode_eq (hcopy : copy.IsLoaded format refs values)
    (hvalues : Value.IsCanonicalList format values) (hspells : refs.Spells values) :
    Token.shieldProf.encode format refs copy = .ok values := by
  have hgrants : ∀ g ∈ copy.grantsIn Token.shieldProf.name, ∃ value ∈ values,
      Value.grantText .shieldProf format refs g = .ok value := fun g hg =>
    have ⟨_, ⟨value, hvalue, hv⟩, hcov, hcond⟩ := hcopy.holds.of_grant hg
    ⟨value, hvalue, hcopy.grantText_eq_of_covers hvalues hspells hvalue hv hg hcov hcond⟩
  have hchoices : ∀ c ∈ copy.choicesFrom Token.shieldProf.name, ∃ value ∈ values,
      Value.choiceText .shieldProf format c = .ok value := fun c hc =>
    have ⟨_, ⟨value, hvalue, hv⟩, hchoice, hcond⟩ := hcopy.holds.of_choice hc
    ⟨value, hvalue, choiceText_eq_of_accepts hvalues hvalue hv hchoice hcond⟩
  -- all that the entity has is written as one of the values, and each value is what something is
  -- written as
  refine Token.encode_eq_ok_iff.mpr
    ⟨fun c hc => ?_, fun g hg => ?_, hvalues.order, fun value => ⟨fun hvalue => ?_, ?_⟩,
      hvalues.all_alone⟩
  · obtain ⟨value, -, htext⟩ := hchoices c hc
    exact ⟨value, htext⟩
  · obtain ⟨value, -, htext⟩ := hgrants g hg
    exact ⟨value, htext⟩
  · obtain ⟨texts, condition, c, htexts, -, -, hv⟩ := (hvalues.isCanonical hvalue).exists_accepts
    have hmem : (⟨texts.map (.ofText .shieldProf), c⟩ : Value) ∈
        Token.shieldProf.accepted format values := ⟨value, hvalue, hv⟩
    obtain rfl | hnot := htexts.eq_choice_or
    · have hchoice : .choice ∈ [Value.choiceMarker].map (Value.Segment.ofText .shieldProf) := by
        rw [List.map_singleton, Value.Segment.ofText_choiceMarker]
        exact List.mem_cons_self
      obtain ⟨c', hc', hcond⟩ := hcopy.holds.exists_choice hmem hchoice
      exact Or.inl ⟨c', hc', choiceText_eq_of_accepts hvalues hvalue hv hchoice hcond⟩
    · obtain ⟨s, hs⟩ := List.exists_mem_of_ne_nil texts htexts.ne_nil
      have hseg := List.mem_map_of_mem (f := Value.Segment.ofText .shieldProf) hs
      obtain ⟨g, hg, hcov, hcond⟩ := hcopy.holds.exists_grant hmem ⟨_, hseg, hnot _ hseg⟩
      exact Or.inr ⟨g, hg, hcopy.grantText_eq_of_covers hvalues hspells hvalue hv hg hcov hcond⟩
  · rintro (⟨c, hc, htext⟩ | ⟨g, hg, htext⟩)
    · obtain ⟨value', hvalue', htext'⟩ := hchoices c hc
      rwa [Except.ok.inj (htext.symm.trans htext')]
    · obtain ⟨value', hvalue', htext'⟩ := hgrants g hg
      rwa [Except.ok.inj (htext.symm.trans htext')]

end Entity.IsLoaded

/-- A canonical list is read to its end in every table that does not spell its targets differently,
and what comes of it is written as the same list. -/
theorem LoadContext.encode_of_isCanonicalList {ctx : LoadContext} {values : List String}
    (hrefs : ctx.refs.WellFormed .shieldProf)
    (hvalues : Value.IsCanonicalList ctx.format values) (hspells : ctx.refs.Spells values)
    (key : String) :
    ∃ ctx' copy, ctx.decodeAll .shieldProf { key } values = (ctx', .ok copy) ∧
      ctx'.encode .shieldProf copy = .ok values := by
  have haccepts : ∀ value ∈ values, ∃ v, Token.shieldProf.Accepts ctx.format value v :=
    fun value hvalue =>
      have ⟨_, _, _, _, _, _, hv⟩ := (hvalues.isCanonical hvalue).exists_accepts
      ⟨_, hv⟩
  obtain ⟨ctx', copy, hread⟩ := (decodeAll_isOk_iff (e := { key })).mpr haccepts
  obtain ⟨hformat, hgrows⟩ := decodeAll_table hread
  have hcopy := isLoaded_of_decodeAll hrefs hread
  refine ⟨ctx', copy, hread, ?_⟩
  rw [encode, hformat]
  exact hcopy.encode_eq hvalues (hspells.growsBy hvalues hgrows)

/-! ### Grants and choices after reading again -/

namespace Entity

/-- The grants of an entity, each taken as the targets it names and its condition. -/
def grantShapes (e : Entity) (refs : ReferenceTable) : Set (Set Target × Option Condition) :=
  {shape | ∃ g ∈ e.grantsIn Token.shieldProf.name, shape = (g.payload.targets refs, g.condition)}

/-- The conditions of the choices of an entity. -/
def choiceConditions (e : Entity) : Set (Option Condition) :=
  {condition | ∃ c ∈ e.choicesFrom Token.shieldProf.name, c.condition = condition}

namespace IsLoaded

variable {e copy : Entity} {format : ConditionFormat} {refs refs' : ReferenceTable}
  {raws values : List String} {value : String} {v : Value} {g : Grant} {T : Target}

/-- If all names are read back, the targets of a grant are those of the text that is written. -/
theorem mem_targets_iff_of_grantText (he : e.IsLoaded format refs raws)
    (hg : g ∈ e.grantsIn Token.shieldProf.name) (hback : e.ReadsBack refs)
    (h : Value.grantText .shieldProf format refs g = .ok value) :
    T ∈ g.payload.targets refs ↔
      ∃ s ∈ Value.segmentsOf .shieldProf value, s.target? .shieldProf = some T := by
  simp only [he.mem_segmentsOf_grantText hg h]
  constructor
  · exact fun hT => ⟨_, ⟨T, hT, rfl⟩,
      (hback g hg T hT).target?_ofText (he.writable_of_mem_targets hT)⟩
  · rintro ⟨_, ⟨T₀, hT₀, rfl⟩, hT⟩
    rw [(hback g hg T₀ hT₀).target?_ofText (he.writable_of_mem_targets hT₀), Option.some_inj] at hT
    exact hT ▸ hT₀

/-- A text that is written of a grant is accepted as a value with the condition of the grant. -/
private theorem condition_eq_of_grantText (he : e.IsLoaded .verbatim refs raws)
    (hg : g ∈ e.grantsIn Token.shieldProf.name)
    (h : Value.grantText .shieldProf .verbatim refs g = .ok value)
    (hv : Token.shieldProf.Accepts .verbatim value v) : v.condition = g.condition := by
  obtain ⟨_, hcov, -⟩ := he.exists_covers hg
  obtain ⟨condition, hwrite, rfl⟩ := (he.grantText_eq_ok_iff hg).mp h
  obtain ⟨-, hread⟩ := Value.eq_of_accepts_withCondition_join hcov.segmentTexts_ne_nil
    (fun _ => he.isFree_of_mem_segmentTexts hg) hv
  exact Value.eq_of_conditionText_verbatim hwrite hread

private theorem condition_eq_of_choiceText {c : ChoiceGrant}
    (h : Value.choiceText .shieldProf .verbatim c = .ok value)
    (hv : Token.shieldProf.Accepts .verbatim value v) : v.condition = c.condition := by
  obtain ⟨condition, hwrite, rfl⟩ := Value.choiceText_eq_ok_iff.mp h
  rw [← Text.join_singleton Value.separator Value.choiceMarker] at hv
  obtain ⟨-, hread⟩ := Value.eq_of_accepts_withCondition_join (List.cons_ne_nil _ _) (by decide) hv
  exact Value.eq_of_conditionText_verbatim hwrite hread

/-- A grant that covers what is read from the text of another grant names the same targets under
the same condition. -/
private theorem shape_eq_of_grantText (he : e.IsLoaded .verbatim refs raws)
    (hg : g ∈ e.grantsIn Token.shieldProf.name) (hback : e.ReadsBack refs)
    (h : Value.grantText .shieldProf .verbatim refs g = .ok value) (hvalue : value ∈ values)
    (hv : Token.shieldProf.Accepts .verbatim value v) (hspells : refs'.Spells values) {g' : Grant}
    (hcov : g'.payload.Covers .shieldProf refs' v.segments) (hcond : g'.condition = v.condition) :
    (g'.payload.targets refs', g'.condition) = (g.payload.targets refs, g.condition) := by
  have htargets : g'.payload.targets refs' = g.payload.targets refs := by
    ext T
    rw [hcov.mem_targets_iff, Value.segments_eq hv.ofText,
      he.mem_targets_iff_of_grantText hg hback h]
    intro s hs T hT
    exact hspells T ⟨value, hvalue, s, Value.segments_eq hv.ofText ▸ hs, hT⟩
  rw [htargets, hcond, he.condition_eq_of_grantText hg h hv]

/-- If all names are read back, the grants that are read are those that were written. -/
theorem grantShapes_eq (he : e.IsLoaded .verbatim refs raws)
    (hwrite : Token.shieldProf.encode .verbatim refs e = .ok values)
    (hback : e.ReadsBack refs)
    (hcopy : copy.IsLoaded .verbatim refs' values) (hspells : refs'.Spells values)
    (haccepts : ∀ value ∈ values, ∃ v, Token.shieldProf.Accepts .verbatim value v) :
    copy.grantShapes refs' = e.grantShapes refs := by
  obtain ⟨-, htexts, -, hwrites, -⟩ := Token.encode_eq_ok_iff.mp hwrite
  ext shape
  constructor
  · rintro ⟨g', hg', rfl⟩
    obtain ⟨v, ⟨value, hvalue, hv⟩, hcov, hcond⟩ := hcopy.holds.of_grant hg'
    obtain ⟨c, hc, htext⟩ | ⟨g, hg, htext⟩ := (hwrites value).mp hvalue
    · -- a choice grants nothing by itself
      obtain ⟨s, hs, hT⟩ := hcov.nonempty
      rw [Value.segments_eq hv.ofText, Value.segmentsOf_choiceText htext,
        List.mem_singleton] at hs
      rw [hs] at hT
      cases hT
    · exact ⟨g, hg, he.shape_eq_of_grantText hg hback htext hvalue hv hspells hcov hcond⟩
  · rintro ⟨g, hg, rfl⟩
    obtain ⟨value, htext⟩ := htexts g hg
    have hvalue := (hwrites value).mpr (Or.inr ⟨g, hg, htext⟩)
    obtain ⟨v, hv⟩ := haccepts value hvalue
    obtain ⟨_, hcov, -⟩ := he.exists_covers hg
    obtain ⟨T, hT⟩ := hcov.exists_mem_targets
    -- a target of the grant stands in the text, so reading the text gives a grant
    have hseg : T.segment ∈ v.segments := by
      rw [Value.segments_eq hv.ofText, he.mem_segmentsOf_grantText hg htext]
      exact ⟨T, hT, (hback g hg T hT).symm⟩
    obtain ⟨g', hg', hcov', hcond'⟩ :=
      hcopy.holds.exists_grant ⟨value, hvalue, hv⟩ ⟨_, hseg, T.segment_ne_choice⟩
    exact ⟨g', hg',
      (he.shape_eq_of_grantText hg hback htext hvalue hv hspells hcov' hcond').symm⟩

/-- If all names are read back, the choices that are read are those that were written. -/
theorem choiceConditions_eq (he : e.IsLoaded .verbatim refs raws)
    (hwrite : Token.shieldProf.encode .verbatim refs e = .ok values)
    (hback : e.ReadsBack refs)
    (hcopy : copy.IsLoaded .verbatim refs' values)
    (haccepts : ∀ value ∈ values, ∃ v, Token.shieldProf.Accepts .verbatim value v) :
    copy.choiceConditions = e.choiceConditions := by
  obtain ⟨htexts, -, -, hwrites, -⟩ := Token.encode_eq_ok_iff.mp hwrite
  ext condition
  constructor
  · rintro ⟨c', hc', rfl⟩
    obtain ⟨v, ⟨value, hvalue, hv⟩, hchoice, hcond⟩ := hcopy.holds.of_choice hc'
    obtain ⟨c, hc, htext⟩ | ⟨g, hg, htext⟩ := (hwrites value).mp hvalue
    · exact ⟨c, hc, (hcond.trans (condition_eq_of_choiceText htext hv)).symm⟩
    · -- no target that is read back becomes a choice
      rw [Value.segments_eq hv.ofText, he.mem_segmentsOf_grantText hg htext] at hchoice
      obtain ⟨T, hT, hread⟩ := hchoice
      exact absurd ((hback g hg T hT).symm.trans hread.symm) T.segment_ne_choice
  · rintro ⟨c, hc, rfl⟩
    obtain ⟨value, htext⟩ := htexts c hc
    have hvalue := (hwrites value).mpr (Or.inl ⟨c, hc, htext⟩)
    obtain ⟨v, hv⟩ := haccepts value hvalue
    have hchoice : .choice ∈ v.segments := by
      rw [Value.segments_eq hv.ofText, Value.segmentsOf_choiceText htext]
      exact List.mem_cons_self
    obtain ⟨c', hc', hcond⟩ := hcopy.holds.exists_choice ⟨value, hvalue, hv⟩ hchoice
    exact ⟨c', hc', hcond.trans (condition_eq_of_choiceText htext hv)⟩

end IsLoaded

end Entity

end GrantList
