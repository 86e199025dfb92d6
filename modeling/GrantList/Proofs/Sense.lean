import GrantList.Proofs.Shape

/-!
# What values say, whatever their spelling

Segments that are spelled differently can mean the same. The sense of a segment
(`Value.Sense`, `Value.Means`) is told from its text alone: everything, the key of a name, or a set
of types without regard to letter case. What a list of values says is the set of conditions under
which there is a choice (`Value.choicesSaid`), together with the set of the senses and the condition
of each value that grants something (`Value.grantsSaid`). Neither the order nor the repetition of
values, segments and types has a part in it.

Main result: `Entity.IsLoaded.shapes_eq_iff_said_eq`. Two loaded entities of one table have the same
shape exactly when their values say the same.
-/

namespace GrantList

namespace Value

/-- What a segment means that is not a choice. -/
inductive Sense where
  /-- Everything. -/
  | all
  /-- What has a name with this key. -/
  | name (key : String)
  /-- What has all these types, which are in lower case. -/
  | typeGroup (types : Set String)

/-- The text of a segment has the sense. -/
inductive Means : String → Sense → Prop
  /-- The marker of everything, in any case. -/
  | all {s : String} (hs : Text.SameAscii s "ALL") : Means s .all
  /-- A type group means the set of its types, whatever introduces it. -/
  | typeGroup {s expr : String} (hs : IsGroupText s expr) :
    Means s (.typeGroup (Text.asciiLower '' {part | part ∈ Text.split '.' expr}))
  /-- Any other text but the marker of a choice is a name and means its key. -/
  | name {s : String} (hchoice : s ≠ "%LIST") (hall : ¬ Text.SameAscii s "ALL")
    (hgroup : ∀ expr, ¬ IsGroupText s expr) : Means s (.name (nameKey s))

/-- The conditions of the accepted values that have a choice. -/
def choicesSaid (values : List String) : Set (Option Condition) :=
  {condition | ∃ value ∈ values, ∃ v, Token.shieldProf.Accepts .verbatim value v ∧
    v.condition = condition ∧ "%LIST" ∈ Text.split '|' (payloadOf value)}

/-- The accepted values that have other segments than choices, each taken as the senses of these
segments and its condition. -/
def grantsSaid (values : List String) : Set (Set Sense × Option Condition) :=
  {said | ∃ value ∈ values, ∃ v, Token.shieldProf.Accepts .verbatim value v ∧
    (∃ s ∈ Text.split '|' (payloadOf value), s ≠ "%LIST") ∧
      said = ({sense | ∃ s ∈ Text.split '|' (payloadOf value), Means s sense}, v.condition)}

end Value

/-! ### The sense of a target -/

namespace Target

/-- What a segment means that has the target. -/
def sense : Target → Value.Sense
  | .allOf _ => .all
  | .named _ name => .name (nameKey name)
  | .typed _ _ types => .typeGroup (Text.asciiLower '' {part | part ∈ types})

variable {T T' : Target}

/-- Targets of values mean the same exactly when their folded forms agree. -/
theorem sense_eq_iff (h : Token.shieldProf.Writable T) (h' : Token.shieldProf.Writable T') :
    T.sense = T'.sense ↔ T.folded = T'.folded := by
  cases h with
  | all =>
    cases h' with
    | all => exact iff_of_true rfl rfl
    | name _ _ => simp [sense, folded]
    | typeGroup _ _ _ => simp [sense, folded]
  | name _ _ =>
    cases h' with
    | all => simp [sense, folded]
    | name _ _ =>
      rw [sense, sense, folded, folded, Value.Sense.name.injEq, named.injEq, and_iff_right rfl]
    | typeGroup _ _ _ => simp [sense, folded]
  | typeGroup _ _ horder =>
    cases h' with
    | all => simp [sense, folded]
    | name _ _ => simp [sense, folded]
    | typeGroup _ _ horder' =>
      rw [sense, sense, folded, folded, Value.Sense.typeGroup.injEq, typed.injEq,
        and_iff_right rfl, and_iff_right rfl, image_asciiLower_eq_iff horder horder']

end Target

namespace Value

variable {s : String} {T : Target} {m : Sense}

/-- A segment with a target has one sense, that of the target. -/
theorem means_iff_eq_sense (hT : (Segment.ofText .shieldProf s).target? .shieldProf = some T) :
    Means s m ↔ m = T.sense := by
  cases hof : Segment.ofText .shieldProf s with
  | choice =>
    rw [hof] at hT
    cases hT
  | all =>
    have hs := Segment.ofText_eq_all_iff.mp hof
    rw [hof] at hT
    obtain rfl := Option.some_inj.mp hT
    constructor
    · intro h
      cases h with
      | all _ => rfl
      | typeGroup hgroup => exact absurd hs hgroup.not_sameAscii_allMarker
      | name _ hall _ => exact absurd hs hall
    · rintro rfl
      exact .all hs
  | typeGroup expr =>
    have hs := Segment.ofText_eq_typeGroup_iff.mp hof
    rw [hof] at hT
    obtain ⟨-, rfl⟩ := Target.ofTypes?_eq_some_iff.mp hT
    rw [Target.sense, Target.image_asciiLower_sortTypes]
    constructor
    · intro h
      cases h with
      | all hall => exact absurd hall hs.not_sameAscii_allMarker
      | typeGroup hs' =>
        cases hof.symm.trans (Segment.ofText_eq_typeGroup_iff.mpr hs')
        rfl
      | name _ _ hgroup => exact absurd hs (hgroup expr)
    · rintro rfl
      exact .typeGroup hs
  | name text =>
    obtain ⟨rfl, hchoice, hall, hgroup⟩ := Segment.ofText_eq_name_iff.mp hof
    rw [hof] at hT
    obtain rfl := Option.some_inj.mp hT
    rw [Target.ofName, Target.sense, nameKey_trim]
    constructor
    · intro h
      cases h with
      | all hs => exact absurd hs hall
      | typeGroup hs => exact absurd hs (hgroup _)
      | name _ _ _ => rfl
    · rintro rfl
      exact .name hchoice hall hgroup

/-- The marker of a choice has no sense. -/
theorem Means.ne_choice (h : Means s m) : s ≠ "%LIST" := by
  cases h with
  | all hs =>
    rintro rfl
    exact absurd hs (by decide +kernel)
  | typeGroup hs => exact hs.ne_choiceMarker
  | name hchoice _ _ => exact hchoice

end Value

/-! ### What the shape of an entity says -/

namespace Token.Accepts

variable {format : ConditionFormat} {value text : String} {v : Value} {refs : ReferenceTable}
  {p : Payload}

theorem segments_eq_map (h : Token.shieldProf.Accepts format value v) :
    v.segments = (Text.split '|' (Value.payloadOf value)).map (.ofText .shieldProf) :=
  Value.segments_eq h.ofText

theorem choice_mem_iff (h : Token.shieldProf.Accepts format value v) :
    .choice ∈ v.segments ↔ "%LIST" ∈ Text.split '|' (Value.payloadOf value) := by
  rw [h.segments_eq_map, List.mem_map]
  constructor
  · rintro ⟨s, hs, hof⟩
    obtain rfl := Value.Segment.ofText_eq_choice_iff.mp hof
    exact hs
  · exact fun hs => ⟨_, hs, Value.Segment.ofText_choiceMarker _⟩

theorem exists_ne_choice_iff (h : Token.shieldProf.Accepts format value v) :
    (∃ s ∈ v.segments, s ≠ .choice) ↔
      ∃ s ∈ Text.split '|' (Value.payloadOf value), s ≠ "%LIST" := by
  rw [h.segments_eq_map]
  constructor
  · rintro ⟨_, hseg, hne⟩
    obtain ⟨s, hs, rfl⟩ := List.mem_map.mp hseg
    exact ⟨s, hs, fun hchoice => hne (Value.Segment.ofText_eq_choice_iff.mpr hchoice)⟩
  · rintro ⟨s, hs, hne⟩
    exact ⟨_, List.mem_map_of_mem hs, fun hof => hne (Value.Segment.ofText_eq_choice_iff.mp hof)⟩

/-- The senses of the segments of an accepted value are those of the targets of its payload. -/
theorem senses_eq (h : Token.shieldProf.Accepts format value v)
    (hrefs : refs.WellFormed .shieldProf) (hcov : p.Covers .shieldProf refs v.segments) :
    Target.sense '' p.targets refs =
      {sense | ∃ s ∈ Text.split '|' (Value.payloadOf value), Value.Means s sense} := by
  -- a reference leads to a spelling of the target of a segment, and both have one sense
  have hsense : ∀ {s : Value.Segment} {T T' : Target}, s ∈ v.segments →
      s.target? .shieldProf = some T → T' ∈ refs.targets → T'.folded = T.folded →
        T'.sense = T.sense := fun hs hT hT' hfold =>
    (Target.sense_eq_iff (hrefs.writable hT')
      (Value.writable_of_mem_segmentsOf (Value.segments_eq h.ofText ▸ hs) hT)).mpr hfold
  ext sense
  constructor
  · rintro ⟨T', ⟨r, hr, hT'⟩, rfl⟩
    obtain ⟨seg, hseg, T, T'', hT, hT'', hfold⟩ := hcov.target?_of_mem hr
    obtain rfl := Option.some_inj.mp (hT'.symm.trans hT'')
    rw [hsense hseg hT (ReferenceTable.mem_targets_of_target? hT') hfold]
    rw [h.segments_eq_map] at hseg
    obtain ⟨s, hs, rfl⟩ := List.mem_map.mp hseg
    exact ⟨s, hs, (Value.means_iff_eq_sense hT).mpr rfl⟩
  · rintro ⟨s, hs, hmeans⟩
    have hseg : Value.Segment.ofText .shieldProf s ∈ v.segments :=
      h.segments_eq_map ▸ List.mem_map_of_mem hs
    have hne : Value.Segment.ofText .shieldProf s ≠ .choice := fun hof =>
      hmeans.ne_choice (Value.Segment.ofText_eq_choice_iff.mp hof)
    obtain ⟨T, hT⟩ := Option.isSome_iff_exists.mp (h.hasTargets _ hseg hne)
    obtain ⟨r, hr⟩ := Option.isSome_iff_exists.mp (hcov.found hseg hT)
    obtain ⟨T', hT', hfold⟩ := ReferenceTable.target?_of_find? hr
    refine ⟨T', ⟨r, hcov.mem_toList.mpr ⟨_, hseg, T, hT, hr⟩, hT'⟩, ?_⟩
    rw [hsense hseg hT (ReferenceTable.mem_targets_of_target? hT') hfold,
      (Value.means_iff_eq_sense hT).mp hmeans]

end Token.Accepts

namespace Entity

/-- The grants of an entity, each taken as the senses of the targets it names and its condition. -/
def grantSenses (e : Entity) (refs : ReferenceTable) : Set (Set Value.Sense × Option Condition) :=
  Prod.map (Target.sense '' ·) id '' e.grantShapes refs

namespace IsLoaded

variable {e e' : Entity} {refs refs' : ReferenceTable} {values values' : List String}

/-- The choices of an entity are those that its values say. -/
theorem choiceConditions_eq_choicesSaid (he : e.IsLoaded .verbatim refs values) :
    e.choiceConditions = Value.choicesSaid values := by
  ext condition
  constructor
  · rintro ⟨c, hc, rfl⟩
    obtain ⟨v, ⟨value, hvalue, hv⟩, hchoice, hcond⟩ := he.holds.of_choice hc
    exact ⟨value, hvalue, v, hv, hcond.symm, hv.choice_mem_iff.mp hchoice⟩
  · rintro ⟨value, hvalue, v, hv, rfl, hchoice⟩
    exact he.holds.exists_choice ⟨value, hvalue, hv⟩ (hv.choice_mem_iff.mpr hchoice)

/-- The grants of an entity are those that its values say, up to the spelling of targets. -/
theorem grantSenses_eq_grantsSaid (he : e.IsLoaded .verbatim refs values) :
    e.grantSenses refs = Value.grantsSaid values := by
  ext said
  constructor
  · rintro ⟨_, ⟨g, hg, rfl⟩, rfl⟩
    obtain ⟨v, ⟨value, hvalue, hv⟩, hcov, hcond⟩ := he.holds.of_grant hg
    obtain ⟨s, hs, hT⟩ := hcov.nonempty
    have hne : s ≠ .choice := by
      rintro rfl
      cases hT
    refine ⟨value, hvalue, v, hv, hv.exists_ne_choice_iff.mp ⟨s, hs, hne⟩, ?_⟩
    rw [Prod.map_apply, hv.senses_eq he.wellFormed hcov, hcond, id]
  · rintro ⟨value, hvalue, v, hv, hne, rfl⟩
    obtain ⟨g, hg, hcov, hcond⟩ :=
      he.holds.exists_grant ⟨value, hvalue, hv⟩ (hv.exists_ne_choice_iff.mpr hne)
    refine ⟨_, ⟨g, hg, rfl⟩, ?_⟩
    rw [Prod.map_apply, hv.senses_eq he.wellFormed hcov, hcond, id]

/-- If both entities spell what means the same in the same way, the shapes follow the senses. -/
private theorem grantShapes_subset (he : e.IsLoaded .verbatim refs values)
    (he' : e'.IsLoaded .verbatim refs' values')
    (hspells : ∀ g ∈ e.grantsIn Token.shieldProf.name, ∀ T ∈ g.payload.targets refs,
      ∀ g' ∈ e'.grantsIn Token.shieldProf.name, ∀ T' ∈ g'.payload.targets refs',
        T.folded = T'.folded → T = T')
    (h : e.grantSenses refs ⊆ e'.grantSenses refs') :
    e.grantShapes refs ⊆ e'.grantShapes refs' := by
  rintro _ ⟨g, hg, rfl⟩
  obtain ⟨_, ⟨g', hg', rfl⟩, hsaid⟩ := h ⟨_, ⟨g, hg, rfl⟩, rfl⟩
  obtain ⟨hsenses, hcondition⟩ := Prod.mk.inj hsaid
  have hsame : ∀ T ∈ g.payload.targets refs, ∀ T' ∈ g'.payload.targets refs',
      T.sense = T'.sense → T = T' := by
    intro T hT T' hT' hsense
    refine hspells g hg T hT g' hg' T' hT' ?_
    exact (Target.sense_eq_iff (he.writable_of_mem_targets hT)
      (he'.writable_of_mem_targets hT')).mp hsense
  have htargets : g.payload.targets refs = g'.payload.targets refs' := by
    ext T
    constructor
    · intro hT
      obtain ⟨T', hT', hsense⟩ := (Set.ext_iff.mp hsenses T.sense).mpr ⟨T, hT, rfl⟩
      rwa [hsame T hT T' hT' hsense.symm]
    · intro hT'
      obtain ⟨T', hT, hsense⟩ := (Set.ext_iff.mp hsenses T.sense).mp ⟨T, hT', rfl⟩
      rwa [← hsame T' hT T hT' hsense]
  exact ⟨g', hg', Prod.ext htargets hcondition.symm⟩

/-- Entities that spell what means the same in the same way have the same grants as sets of targets
if they have the same as sets of senses. -/
theorem grantShapes_eq_of_grantSenses_eq (he : e.IsLoaded .verbatim refs values)
    (he' : e'.IsLoaded .verbatim refs' values')
    (hspells : ∀ g ∈ e.grantsIn Token.shieldProf.name, ∀ T ∈ g.payload.targets refs,
      ∀ g' ∈ e'.grantsIn Token.shieldProf.name, ∀ T' ∈ g'.payload.targets refs',
        T.folded = T'.folded → T = T')
    (h : e.grantSenses refs = e'.grantSenses refs') :
    e.grantShapes refs = e'.grantShapes refs' := by
  refine (he.grantShapes_subset he' hspells h.subset).antisymm
    (he'.grantShapes_subset he (fun g' hg' T' hT' g hg T hT hfold => ?_) h.symm.subset)
  exact (hspells g hg T hT g' hg' T' hT' hfold.symm).symm

/-- Entities of one table have the same shape exactly when their values say the same. -/
theorem shapes_eq_iff_said_eq (he : e.IsLoaded .verbatim refs values)
    (he' : e'.IsLoaded .verbatim refs values') :
    e.grantShapes refs = e'.grantShapes refs ∧ e.choiceConditions = e'.choiceConditions ↔
      Value.grantsSaid values = Value.grantsSaid values' ∧
        Value.choicesSaid values = Value.choicesSaid values' := by
  rw [← he.choiceConditions_eq_choicesSaid, ← he'.choiceConditions_eq_choicesSaid,
    ← he.grantSenses_eq_grantsSaid, ← he'.grantSenses_eq_grantsSaid]
  refine and_congr_left fun _ => ⟨fun h => ?_, fun h => ?_⟩
  · rw [grantSenses, grantSenses, h]
  · refine he.grantShapes_eq_of_grantSenses_eq he' ?_ h
    -- the table holds one spelling of each meaning
    rintro g - T ⟨r, -, hT⟩ g' - T' ⟨r', -, hT'⟩ hfold
    exact he.wellFormed.distinct.target_unique (ReferenceTable.mem_targets_of_target? hT)
      (ReferenceTable.mem_targets_of_target? hT') hfold

end IsLoaded

end Entity

end GrantList
