import GrantList.Proofs.Reloading

/-!
# The shape of an entity

Up to order, repetition and the numbers of references, an entity is the set of its grants, each
taken as the targets it names and its condition, and the set of the conditions of its choices. This
is its shape (`Entity.grantShapes`, `Entity.choiceConditions`). Shapes can be compared across
tables, since targets know nothing of positions.

Main facts:

* `Entity.IsLoaded.encode_eq_of_shapes_eq`: entities of one shape are written alike, or are refused
  alike.
* `Entity.IsLoaded.shapes_eq_of_encode_eq`: entities that are written as the same list have one
  shape, if their names are read back.
-/

namespace GrantList

/-! ### The text of a payload depends on its targets -/

namespace Payload.Covers

variable {t : Token} {refs refs' : ReferenceTable} {p p' : Payload} {l l' : List Value.Segment}
  {T : Target}

/-- The targets of the capabilities are those targets of the payload that are names. -/
theorem mem_filterMap_capabilities_iff_isNamed (h : p.Covers t refs l) :
    T ∈ p.capabilities.filterMap refs.target? ↔ T ∈ p.targets refs ∧ T.isNamed = true := by
  rw [List.mem_filterMap]
  constructor
  · rintro ⟨r, hr, hT⟩
    obtain ⟨n, hn⟩ := h.target?_of_mem_capabilities hr
    obtain rfl := Option.some_inj.mp (hn.symm.trans hT)
    obtain ⟨text, hs, hfind⟩ := h.mem_capabilities.mp hr
    exact ⟨⟨r, h.mem_toList.mpr ⟨_, hs, _, rfl, hfind⟩, hT⟩, rfl⟩
  · rintro ⟨⟨r, hr, hT⟩, hnamed⟩
    cases p with
    | all ref =>
      obtain rfl := List.mem_singleton.mp hr
      obtain rfl := Option.some_inj.mp (h.target?_of_all.symm.trans hT)
      cases hnamed
    | refs capabilities typeGroups =>
      obtain hr | hr := List.mem_append.mp hr
      · exact ⟨r, hr, hT⟩
      · obtain ⟨base, types, hn⟩ := h.target?_of_mem_typeGroups hr
        obtain rfl := Option.some_inj.mp (hn.symm.trans hT)
        cases hnamed

/-- The targets of the type groups are those targets of the payload that have types. -/
theorem mem_filterMap_typeGroups_iff_typed (h : p.Covers t refs l) :
    T ∈ p.typeGroups.filterMap refs.target? ↔
      T ∈ p.targets refs ∧ ∃ c base types, T = .typed c base types := by
  rw [List.mem_filterMap]
  constructor
  · rintro ⟨r, hr, hT⟩
    obtain ⟨base, types, hn⟩ := h.target?_of_mem_typeGroups hr
    obtain rfl := Option.some_inj.mp (hn.symm.trans hT)
    obtain ⟨expr, T, hs, hexpr, hfind⟩ := h.mem_typeGroups.mp hr
    exact ⟨⟨r, h.mem_toList.mpr ⟨_, hs, T, hexpr, hfind⟩, hT⟩, _, _, _, rfl⟩
  · rintro ⟨⟨r, hr, hT⟩, c, base, types, rfl⟩
    cases p with
    | all ref =>
      obtain rfl := List.mem_singleton.mp hr
      cases h.target?_of_all.symm.trans hT
    | refs capabilities typeGroups =>
      obtain hr | hr := List.mem_append.mp hr
      · obtain ⟨n, hn⟩ := h.target?_of_mem_capabilities hr
        cases hn.symm.trans hT
      · exact ⟨r, hr, hT⟩

/-- A payload is everything when one of its targets is. -/
theorem isAll_iff_allOf_mem (h : p.Covers t refs l) :
    p.isAll = true ↔ ∃ c, .allOf c ∈ p.targets refs := by
  constructor
  · intro hall
    cases p with
    | all ref => exact ⟨_, ref, List.mem_singleton_self ref, h.target?_of_all⟩
    | refs capabilities typeGroups => cases hall
  · rintro ⟨c, r, hr, hT⟩
    by_contra hall
    obtain hr | hr := (mem_toList_iff (Bool.eq_false_iff.mpr hall)).mp hr
    · obtain ⟨n, hn⟩ := h.target?_of_mem_capabilities hr
      cases hn.symm.trans hT
    · obtain ⟨base, types, hn⟩ := h.target?_of_mem_typeGroups hr
      cases hn.symm.trans hT

/-- Payloads with the same targets have the same texts, even if they belong to different tables. -/
theorem segmentTexts_congr (h : p.Covers t refs l) (h' : p'.Covers t refs' l')
    (hrefs : refs.Distinct) (hrefs' : refs'.Distinct) (heq : p.targets refs = p'.targets refs') :
    p.segmentTexts t refs = p'.segmentTexts t refs' := by
  have hall : p.isAll = p'.isAll := by
    rw [Bool.eq_iff_iff, h.isAll_iff_allOf_mem, h'.isAll_iff_allOf_mem, heq]
  have hnames : (p.capabilities.filterMap refs.target?).Perm
      (p'.capabilities.filterMap refs'.target?) := by
    refine (List.perm_ext_iff_of_nodup (nodup_filterMap_target? hrefs h.nodup_capabilities)
      (nodup_filterMap_target? hrefs' h'.nodup_capabilities)).mpr fun T => ?_
    rw [h.mem_filterMap_capabilities_iff_isNamed, h'.mem_filterMap_capabilities_iff_isNamed, heq]
  have hgroups : (p.typeGroups.filterMap refs.target?).Perm
      (p'.typeGroups.filterMap refs'.target?) := by
    refine (List.perm_ext_iff_of_nodup (nodup_filterMap_target? hrefs h.nodup_typeGroups)
      (nodup_filterMap_target? hrefs' h'.nodup_typeGroups)).mpr fun T => ?_
    rw [h.mem_filterMap_typeGroups_iff_typed, h'.mem_filterMap_typeGroups_iff_typed, heq]
  rw [segmentTexts, segmentTexts, hall, nameTexts, nameTexts, groupTexts, groupTexts,
    Text.sortNames, Text.sortNames, Text.mergeSort_eq_of_perm (hnames.map _), Text.sortNames,
    Text.sortNames, Text.mergeSort_eq_of_perm (hgroups.map _)]

end Payload.Covers

namespace Entity.IsLoaded

variable {e e' : Entity} {format : ConditionFormat} {refs refs' : ReferenceTable}
  {raws raws' values : List String} {value : String} {g g' : Grant}

/-! ### Shapes determine what is written -/

/-- With conditions that can be written, every grant of a loaded entity has a text. -/
theorem exists_grantText (he : e.IsLoaded format refs raws) (hformat : format.Stable)
    (hg : g ∈ e.grantsIn Token.shieldProf.name) :
    ∃ value, Value.grantText .shieldProf format refs g = .ok value := by
  obtain ⟨_, -, raw, hraw⟩ := he.exists_covers hg
  obtain ⟨text, hwrite, -⟩ := Value.exists_conditionText .shieldProf hformat hraw
  exact ⟨_, (he.grantText_eq_ok_iff hg).mpr ⟨text, hwrite, rfl⟩⟩

/-- With conditions that can be written, every choice of a loaded entity has a text. -/
theorem exists_choiceText (he : e.IsLoaded format refs raws) (hformat : format.Stable)
    {c : ChoiceGrant} (hc : c ∈ e.choicesFrom Token.shieldProf.name) :
    ∃ value, Value.choiceText .shieldProf format c = .ok value := by
  obtain ⟨raw, hraw⟩ := he.exists_readCondition hc
  obtain ⟨text, hwrite, -⟩ := Value.exists_conditionText .shieldProf hformat hraw
  exact ⟨_, Value.choiceText_eq_ok_iff.mpr ⟨text, hwrite, rfl⟩⟩

/-- The text of a grant is a text of every entity with this grant among its shapes. -/
private theorem writes_of_shapes (he : e.IsLoaded format refs raws)
    (he' : e'.IsLoaded format refs' raws') (hgrants : e.grantShapes refs ⊆ e'.grantShapes refs')
    (hchoices : e.choiceConditions ⊆ e'.choiceConditions)
    (h : Token.shieldProf.Writes format refs e value) :
    Token.shieldProf.Writes format refs' e' value := by
  obtain ⟨c, hc, htext⟩ | ⟨g, hg, htext⟩ := h
  · obtain ⟨c', hc', hcond⟩ := hchoices ⟨c, hc, rfl⟩
    rw [Value.choiceText, ← hcond, ← Value.choiceText] at htext
    exact Or.inl ⟨c', hc', htext⟩
  · obtain ⟨g', hg', hshape⟩ := hgrants ⟨g, hg, rfl⟩
    obtain ⟨htargets, hcond⟩ := Prod.mk.inj hshape
    obtain ⟨_, hcov, -⟩ := he.exists_covers hg
    obtain ⟨_, hcov', -⟩ := he'.exists_covers hg'
    rw [he.grantText_eq_ok_iff hg, hcond, hcov.segmentTexts_congr hcov' he.wellFormed.distinct
      he'.wellFormed.distinct htargets, ← he'.grantText_eq_ok_iff hg'] at htext
    exact Or.inr ⟨g', hg', htext⟩

/-- Entities of the same shape are written in the same way, or refused in the same way. -/
theorem encode_eq_of_shapes_eq (he : e.IsLoaded format refs raws)
    (he' : e'.IsLoaded format refs' raws') (hformat : format.Stable)
    (hgrants : e.grantShapes refs = e'.grantShapes refs')
    (hchoices : e.choiceConditions = e'.choiceConditions) :
    Token.shieldProf.encode format refs e = Token.shieldProf.encode format refs' e' :=
  Token.encode_congr (fun _ => he.exists_choiceText hformat) (fun _ => he.exists_grantText hformat)
    (fun _ => he'.exists_choiceText hformat) (fun _ => he'.exists_grantText hformat) fun _ =>
      ⟨he.writes_of_shapes he' hgrants.subset hchoices.subset,
        he'.writes_of_shapes he hgrants.symm.subset hchoices.symm.subset⟩

/-! ### What is written determines shapes -/

/-- Verbatim, conditions are told apart by their texts. -/
private theorem condition_inj {c c' : Option Condition} {condition : Option String}
    (h : Value.conditionText .shieldProf .verbatim c = .ok condition)
    (h' : Value.conditionText .shieldProf .verbatim c' = .ok condition) : c = c' := by
  rw [Value.conditionText_verbatim, Except.ok.injEq] at h h'
  have hinj : Function.Injective Condition.text := by
    rintro ⟨text⟩ ⟨text'⟩ rfl
    rfl
  exact Option.map_injective hinj (h.trans h'.symm)

/-- A grant whose targets are read back is not written like a choice. -/
private theorem choiceText_ne_of_grantText (he : e.IsLoaded format refs raws)
    (hback : e.ReadsBack refs) (hg : g ∈ e.grantsIn Token.shieldProf.name)
    (h : Value.grantText .shieldProf format refs g = .ok value) (c : ChoiceGrant) :
    Value.choiceText .shieldProf format c ≠ .ok value := by
  intro hchoice
  obtain ⟨_, hcov, -⟩ := he.exists_covers hg
  obtain ⟨T, hT⟩ := hcov.exists_mem_targets
  have hmem : T.segment ∈ Value.segmentsOf .shieldProf value :=
    (he.mem_segmentsOf_grantText hg h).mpr ⟨T, hT, (hback g hg T hT).symm⟩
  rw [Value.segmentsOf_choiceText hchoice, List.mem_singleton] at hmem
  exact T.segment_ne_choice hmem

/-- Grants with the same text have the same shape if their targets are read back. -/
private theorem shape_eq_of_grantText_eq (he : e.IsLoaded .verbatim refs raws)
    (he' : e'.IsLoaded .verbatim refs' raws') (hback : e.ReadsBack refs)
    (hback' : e'.ReadsBack refs') (hg : g ∈ e.grantsIn Token.shieldProf.name)
    (hg' : g' ∈ e'.grantsIn Token.shieldProf.name)
    (h : Value.grantText .shieldProf .verbatim refs g = .ok value)
    (h' : Value.grantText .shieldProf .verbatim refs' g' = .ok value) :
    (g.payload.targets refs, g.condition) = (g'.payload.targets refs', g'.condition) := by
  have htargets : g.payload.targets refs = g'.payload.targets refs' := by
    ext T
    rw [he.mem_targets_iff_of_grantText hg hback h, he'.mem_targets_iff_of_grantText hg' hback' h']
  have hcondition : g.condition = g'.condition := by
    obtain ⟨condition, hwrite, htext⟩ := (he.grantText_eq_ok_iff hg).mp h
    obtain ⟨condition', hwrite', htext'⟩ := (he'.grantText_eq_ok_iff hg').mp h'
    obtain ⟨-, rfl⟩ := Value.withCondition_join_inj (fun _ => he.isFree_of_mem_segmentTexts hg)
      (fun _ => he'.isFree_of_mem_segmentTexts hg') (htext.symm.trans htext')
    exact condition_inj hwrite hwrite'
  rw [htargets, hcondition]

/-- Choices with the same text have the same condition. -/
private theorem condition_eq_of_choiceText_eq {c c' : ChoiceGrant}
    (h : Value.choiceText .shieldProf .verbatim c = .ok value)
    (h' : Value.choiceText .shieldProf .verbatim c' = .ok value) :
    c.condition = c'.condition := by
  obtain ⟨condition, hwrite, htext⟩ := Value.choiceText_eq_ok_iff.mp h
  obtain ⟨condition', hwrite', htext'⟩ := Value.choiceText_eq_ok_iff.mp h'
  rw [← Text.join_singleton Value.separator Value.choiceMarker] at htext htext'
  obtain ⟨-, rfl⟩ := Value.withCondition_join_inj (by decide) (by decide) (htext.symm.trans htext')
  exact condition_inj hwrite hwrite'

/-- An entity has all the shapes of another entity if it has all its texts. -/
private theorem shapes_subset_of_writes (he : e.IsLoaded .verbatim refs raws)
    (he' : e'.IsLoaded .verbatim refs' raws') (hback : e.ReadsBack refs)
    (hback' : e'.ReadsBack refs')
    (h : ∀ value, Token.shieldProf.Writes .verbatim refs e value →
      Token.shieldProf.Writes .verbatim refs' e' value) :
    e.grantShapes refs ⊆ e'.grantShapes refs' ∧ e.choiceConditions ⊆ e'.choiceConditions := by
  constructor
  · rintro _ ⟨g, hg, rfl⟩
    obtain ⟨value, htext⟩ := he.exists_grantText ConditionFormat.stable_verbatim hg
    obtain ⟨c', -, htext'⟩ | ⟨g', hg', htext'⟩ := h value (Or.inr ⟨g, hg, htext⟩)
    · exact absurd htext' (he.choiceText_ne_of_grantText hback hg htext c')
    · exact ⟨g', hg', shape_eq_of_grantText_eq he he' hback hback' hg hg' htext htext'⟩
  · rintro _ ⟨c, hc, rfl⟩
    obtain ⟨value, htext⟩ := he.exists_choiceText ConditionFormat.stable_verbatim hc
    obtain ⟨c', hc', htext'⟩ | ⟨g', hg', htext'⟩ := h value (Or.inl ⟨c, hc, htext⟩)
    · exact ⟨c', hc', condition_eq_of_choiceText_eq htext' htext⟩
    · exact absurd htext (he'.choiceText_ne_of_grantText hback' hg' htext' c)

/-- Entities that are written as the same list have the same shape, each in its own table, if their
names are read back. -/
theorem shapes_eq_of_encode_eq (he : e.IsLoaded .verbatim refs raws)
    (he' : e'.IsLoaded .verbatim refs' raws') (hback : e.ReadsBack refs)
    (hback' : e'.ReadsBack refs')
    (hwrite : Token.shieldProf.encode .verbatim refs e = .ok values)
    (hwrite' : Token.shieldProf.encode .verbatim refs' e' = .ok values) :
    e.grantShapes refs = e'.grantShapes refs' ∧ e.choiceConditions = e'.choiceConditions := by
  obtain ⟨-, -, -, hwrites, -⟩ := Token.encode_eq_ok_iff.mp hwrite
  obtain ⟨-, -, -, hwrites', -⟩ := Token.encode_eq_ok_iff.mp hwrite'
  obtain ⟨hgrants, hchoices⟩ := shapes_subset_of_writes he he' hback hback' fun value h =>
    (hwrites' value).mp ((hwrites value).mpr h)
  obtain ⟨hgrants', hchoices'⟩ := shapes_subset_of_writes he' he hback' hback fun value h =>
    (hwrites value).mp ((hwrites' value).mpr h)
  exact ⟨hgrants.antisymm hgrants', hchoices.antisymm hchoices'⟩

end Entity.IsLoaded

end GrantList
