import GrantList.Proofs.RuleSet.Compiling
import GrantList.Proofs.Value.Canonical

/-!
# What is written of a loaded entity

An entity is loaded (`Entity.IsLoaded`) when it holds what the accepted ones of some texts say, in a
well-formed table; all ways of reading lead to loaded entities. A text that is written of such an
entity is cut into the segment of a choice (`Value.segmentsOf_choiceText`), or into the texts of the
targets of one grant (`Entity.IsLoaded.mem_segmentsOf_grantText`).

Main fact: `Entity.IsLoaded.isCanonicalList`, that what is written is canonical as soon as no name
that the grants hold is empty or can be read as something else.
-/

namespace GrantList

/-! ### Loaded entities -/

/-- The grants of an entity that holds values refer to the targets of these values. -/
theorem Entity.Holds.refersInto {e : Entity} {t : Token} {refs : ReferenceTable} {V : Set Value}
    (h : e.Holds t refs V) : e.RefersInto t.name refs := fun g hg r hr => by
  obtain ⟨v, -, hcov, -⟩ := h.of_grant hg
  obtain ⟨_, -, _, T, -, hT, -⟩ := hcov.target?_of_mem hr
  exact ⟨T, hT⟩

/-- The entity holds what the accepted texts say, in a well-formed table. -/
structure Entity.IsLoaded (e : Entity) (format : ConditionFormat) (refs : ReferenceTable)
    (values : List String) : Prop where
  /-- The grants and the choices are those of the accepted texts. -/
  holds : e.Holds .shieldProf refs (Token.shieldProf.accepted format values)
  /-- The table is well formed. -/
  wellFormed : refs.WellFormed .shieldProf

/-- A well-formed table stays so as it grows by targets of values. -/
theorem ReferenceTable.GrowsBy.wellFormed {refs refs' : ReferenceTable} {t : Token}
    {values : List String} (h : refs.GrowsBy refs' (t.targetsIn values))
    (hrefs : refs.WellFormed t) : refs'.WellFormed t where
  distinct := h.distinct hrefs.distinct
  writable hT := (h.mem_targets hT).elim hrefs.writable fun ⟨_, _, _, hs, hT⟩ =>
    Value.writable_of_mem_segmentsOf hs hT

theorem LoadContext.isLoaded_of_decodeAll {ctx ctx' : LoadContext} {key : String} {e : Entity}
    {values : List String} (hrefs : ctx.refs.WellFormed .shieldProf)
    (h : ctx.decodeAll .shieldProf { key } values = (ctx', .ok e)) :
    e.IsLoaded ctx.format ctx'.refs values where
  holds := by simpa using holds_of_decodeAll h (Entity.holds_new key .shieldProf ctx.refs)
  wellFormed := (decodeAll_table h).2.wellFormed hrefs

theorem LoadContext.isLoaded_of_decodeEach {ctx ctx' : LoadContext} {key : String} {e : Entity}
    {values : List String} (hrefs : ctx.refs.WellFormed .shieldProf)
    (h : ctx.decodeEach .shieldProf { key } values = (ctx', e)) :
    e.IsLoaded ctx.format ctx'.refs values where
  holds := by simpa using (holds_of_decodeEach h (Entity.holds_new key .shieldProf ctx.refs)).2
  wellFormed := (decodeEach_table h).2.wellFormed hrefs

theorem RuleSet.isLoaded_of_compile {rules : RuleSet} {ctx ctx' : LoadContext}
    {entities : List Entity} {e : Entity} (hrefs : ctx.refs.WellFormed .shieldProf)
    (h : rules.compile ctx = (ctx', entities)) (he : e ∈ entities) :
    ∃ record ∈ rules.entities, e.key = record.key ∧
      e.IsLoaded ctx.format ctx'.refs record.values := by
  obtain ⟨record, hrecord, hkey, hholds⟩ := holds_of_compile h he
  exact ⟨record, hrecord, hkey, hholds, (compile_table h).2.wellFormed hrefs⟩

/-! ### The segments of a written text -/

/-- The target is read back from its text. -/
def Target.ReadsBack (T : Target) : Prop :=
  Value.Segment.ofText .shieldProf (Value.typeGroupText .shieldProf T) = T.segment

instance (T : Target) : Decidable T.ReadsBack :=
  inferInstanceAs (Decidable (_ = _))

/-- Only names may fail to be read back. -/
theorem Target.readsBack_of_isNamed_eq_false {T : Target} (h : Token.shieldProf.Writable T)
    (hnamed : T.isNamed = false) : T.ReadsBack :=
  Value.ofText_typeGroupText h hnamed

theorem Target.ReadsBack.target?_ofText {T : Target} (h : T.ReadsBack)
    (hT : Token.shieldProf.Writable T) :
    (Value.Segment.ofText .shieldProf (Value.typeGroupText .shieldProf T)).target? .shieldProf =
      some T := by
  rw [h, target?_segment hT]

/-- Every target in the grants of the entity is read back from its text. -/
def Entity.ReadsBack (e : Entity) (refs : ReferenceTable) : Prop :=
  ∀ g ∈ e.grantsIn Token.shieldProf.name, ∀ T ∈ g.payload.targets refs, T.ReadsBack

/-- No name in the grants of the entity is empty or can be read as something else. -/
def Entity.KeepsNames (e : Entity) (refs : ReferenceTable) : Prop :=
  ∀ g ∈ e.grantsIn Token.shieldProf.name, ∀ n, .named .shieldProf n ∈ g.payload.targets refs →
    n ≠ "" ∧ Value.Segment.ofText .shieldProf n = .name n

namespace Value

variable {format : ConditionFormat} {value : String}

theorem segmentsOf_choiceText {t : Token} {c : ChoiceGrant}
    (h : choiceText t format c = .ok value) : segmentsOf t value = [.choice] := by
  obtain ⟨condition, -, rfl⟩ := choiceText_eq_ok_iff.mp h
  have hsegments := segmentsOf_withCondition_join (t := t) (List.cons_ne_nil choiceMarker [])
    (by decide) condition
  rwa [Text.join_singleton, List.map_singleton, Segment.ofText_choiceMarker] at hsegments

end Value

namespace Entity.IsLoaded

variable {e : Entity} {format : ConditionFormat} {refs : ReferenceTable}
  {raws values : List String} {g : Grant} {T : Target} {value : String} {s : Value.Segment}

/-- A reference in a grant means a writable target of the table. -/
theorem writable_of_mem_targets (he : e.IsLoaded format refs raws)
    (hT : T ∈ g.payload.targets refs) : Token.shieldProf.Writable T :=
  have ⟨_, _, hr⟩ := hT
  he.wellFormed.writable (ReferenceTable.mem_targets_of_target? hr)

/-- The targets in the grants are read back if the names are. -/
theorem readsBack_of_named (he : e.IsLoaded format refs raws)
    (hnames : ∀ g ∈ e.grantsIn Token.shieldProf.name, ∀ n,
      .named .shieldProf n ∈ g.payload.targets refs →
        Value.Segment.ofText .shieldProf n = .name n) :
    e.ReadsBack refs := by
  intro g hg T hT
  have hwritable := he.writable_of_mem_targets hT
  cases T with
  | named c n =>
    cases hwritable with
    | name _ _ => exact hnames g hg n hT
  | allOf c => exact Target.readsBack_of_isNamed_eq_false hwritable rfl
  | typed c base types => exact Target.readsBack_of_isNamed_eq_false hwritable rfl

theorem readsBack_of_keepsNames (he : e.IsLoaded format refs raws) (hnames : e.KeepsNames refs) :
    e.ReadsBack refs :=
  he.readsBack_of_named fun g hg n hn => (hnames g hg n hn).2

/-- Each grant covers the segments of an accepted value and has its condition. -/
theorem exists_covers (he : e.IsLoaded format refs raws)
    (hg : g ∈ e.grantsIn Token.shieldProf.name) :
    ∃ v : Value, g.payload.Covers .shieldProf refs v.segments ∧
      ∃ raw, Value.readCondition format raw = .ok g.condition := by
  obtain ⟨v, ⟨_, -, hv⟩, hcov, hcond⟩ := he.holds.of_grant hg
  obtain ⟨_, raw, -, hread, -, -⟩ := Value.ofText_eq_ok_iff.mp hv.ofText
  exact ⟨v, hcov, raw, hcond ▸ hread⟩

theorem exists_readCondition (he : e.IsLoaded format refs raws) {c : ChoiceGrant}
    (hc : c ∈ e.choicesFrom Token.shieldProf.name) :
    ∃ raw, Value.readCondition format raw = .ok c.condition := by
  obtain ⟨v, ⟨_, -, hv⟩, -, hcond⟩ := he.holds.of_choice hc
  obtain ⟨_, raw, -, hread, -, -⟩ := Value.ofText_eq_ok_iff.mp hv.ofText
  exact ⟨raw, hcond ▸ hread⟩

/-- The texts of a grant can stand between separators. -/
theorem isFree_of_mem_segmentTexts (he : e.IsLoaded format refs raws)
    (hg : g ∈ e.grantsIn Token.shieldProf.name) {text : String}
    (h : text ∈ g.payload.segmentTexts .shieldProf refs) : Value.IsFree text := by
  obtain ⟨v, hcov, -⟩ := he.exists_covers hg
  obtain ⟨T, hT, rfl⟩ := hcov.mem_segmentTexts.mp h
  exact Value.isFree_typeGroupText (he.writable_of_mem_targets hT)

/-- A grant is written as the texts of its targets and its condition. -/
theorem grantText_eq_ok_iff (he : e.IsLoaded format refs raws)
    (hg : g ∈ e.grantsIn Token.shieldProf.name) :
    Value.grantText .shieldProf format refs g = .ok value ↔ ∃ condition,
      Value.conditionText .shieldProf format g.condition = .ok condition ∧
        value = Value.withCondition
          (Text.join Value.separator (g.payload.segmentTexts .shieldProf refs)) condition := by
  obtain ⟨v, hcov, -⟩ := he.exists_covers hg
  simp only [Value.grantText_eq_ok_iff, hcov.payloadText_eq, Except.ok.injEq, exists_and_left,
    exists_eq_left']

/-- The segments of the text of a grant are read from the texts of its targets. -/
theorem mem_segmentsOf_grantText (he : e.IsLoaded format refs raws)
    (hg : g ∈ e.grantsIn Token.shieldProf.name)
    (h : Value.grantText .shieldProf format refs g = .ok value) :
    s ∈ Value.segmentsOf .shieldProf value ↔ ∃ T ∈ g.payload.targets refs,
      s = .ofText .shieldProf (Value.typeGroupText .shieldProf T) := by
  obtain ⟨v, hcov, -⟩ := he.exists_covers hg
  obtain ⟨condition, -, rfl⟩ := (he.grantText_eq_ok_iff hg).mp h
  rw [Value.segmentsOf_withCondition_join hcov.segmentTexts_ne_nil
    fun _ => he.isFree_of_mem_segmentTexts hg]
  simp only [List.mem_map, hcov.mem_segmentTexts]
  constructor
  · rintro ⟨_, ⟨T, hT, rfl⟩, rfl⟩
    exact ⟨T, hT, rfl⟩
  · rintro ⟨T, hT, rfl⟩
    exact ⟨_, ⟨T, hT, rfl⟩, rfl⟩

/-- Every target of a written text is read from the text of a target of a grant. -/
theorem exists_of_mem_targetsIn (he : e.IsLoaded format refs raws)
    (h : Token.shieldProf.encode format refs e = .ok values)
    (hT : T ∈ Token.shieldProf.targetsIn values) :
    ∃ g ∈ e.grantsIn Token.shieldProf.name, ∃ T₀ ∈ g.payload.targets refs,
      (Value.Segment.ofText .shieldProf (Value.typeGroupText .shieldProf T₀)).target? .shieldProf =
        some T := by
  obtain ⟨value, hvalue, s, hs, hT⟩ := hT
  obtain ⟨-, -, -, hwrites, -⟩ := Token.encode_eq_ok_iff.mp h
  obtain ⟨c, hc, htext⟩ | ⟨g, hg, htext⟩ := (hwrites value).mp hvalue
  · rw [Value.segmentsOf_choiceText htext, List.mem_singleton] at hs
    rw [hs] at hT
    cases hT
  · obtain ⟨T₀, hT₀, rfl⟩ := (he.mem_segmentsOf_grantText hg htext).mp hs
    exact ⟨g, hg, T₀, hT₀, hT⟩

/-- If all targets of grants are read back, the targets of what is written are in the table. -/
theorem mem_of_mem_targetsIn (he : e.IsLoaded format refs raws)
    (h : Token.shieldProf.encode format refs e = .ok values)
    (hback : e.ReadsBack refs)
    (hT : T ∈ Token.shieldProf.targetsIn values) : T ∈ refs.targets := by
  obtain ⟨g, hg, T₀, hT₀, hread⟩ := he.exists_of_mem_targetsIn h hT
  have hT₀' := (hback g hg T₀ hT₀).target?_ofText (he.writable_of_mem_targets hT₀)
  obtain rfl := Option.some_inj.mp (hread.symm.trans hT₀')
  obtain ⟨r, -, hr⟩ := hT₀
  exact ReferenceTable.mem_targets_of_target? hr

/-- A target of a grant that is read back is among the targets of what is written. -/
theorem mem_targetsIn_of_readsBack (he : e.IsLoaded format refs raws)
    (h : Token.shieldProf.encode format refs e = .ok values)
    (hg : g ∈ e.grantsIn Token.shieldProf.name) (hT : T ∈ g.payload.targets refs)
    (hread : T.ReadsBack) :
    T ∈ Token.shieldProf.targetsIn values := by
  obtain ⟨-, htexts, -, hwrites, -⟩ := Token.encode_eq_ok_iff.mp h
  obtain ⟨value, htext⟩ := htexts g hg
  exact ⟨value, (hwrites value).mpr (Or.inr ⟨g, hg, htext⟩), _,
    (he.mem_segmentsOf_grantText hg htext).mpr ⟨T, hT, rfl⟩,
    hread.target?_ofText (he.writable_of_mem_targets hT)⟩

/-- A name that stands in a written text is the spelling of a name in a grant. -/
theorem named_mem_of_name_mem (he : e.IsLoaded format refs raws)
    (h : Token.shieldProf.Writes format refs e value) {text : String}
    (hs : .name text ∈ Value.segmentsOf .shieldProf value) :
    .named .shieldProf text ∈ refs.targets ∧
      Value.Segment.ofText .shieldProf text = .name text := by
  obtain ⟨c, hc, htext⟩ | ⟨g, hg, htext⟩ := h
  · rw [Value.segmentsOf_choiceText htext, List.mem_singleton] at hs
    cases hs
  · obtain ⟨T, hT, hread⟩ := (he.mem_segmentsOf_grantText hg htext).mp hs
    obtain rfl := Value.eq_named_of_ofText_typeGroupText (he.writable_of_mem_targets hT) hread.symm
    obtain ⟨r, -, hr⟩ := hT
    exact ⟨ReferenceTable.mem_targets_of_target? hr, hread.symm⟩

/-- Every target of accepted texts is named by a grant. -/
theorem exists_grant_of_mem_targetsIn (he : e.IsLoaded format refs raws)
    (haccepts : ∀ raw ∈ raws, ∃ v, Token.shieldProf.Accepts format raw v) (hmem : T ∈ refs.targets)
    (hT : T ∈ Token.shieldProf.targetsIn raws) :
    ∃ g ∈ e.grantsIn Token.shieldProf.name, T ∈ g.payload.targets refs := by
  obtain ⟨raw, hraw, s, hs, hT⟩ := hT
  obtain ⟨v, hv⟩ := haccepts raw hraw
  have hs : s ∈ v.segments := Value.segments_eq hv.ofText ▸ hs
  have hne : s ≠ .choice := by
    rintro rfl
    cases hT
  obtain ⟨g, hg, hcov, -⟩ := he.holds.exists_grant ⟨raw, hraw, hv⟩ ⟨s, hs, hne⟩
  obtain ⟨r, hr⟩ := Option.isSome_iff_exists.mp (hcov.found hs hT)
  exact ⟨g, hg, r, hcov.mem_toList.mpr ⟨s, hs, T, hT, hr⟩,
    (he.wellFormed.distinct.find?_eq_some_iff_of_mem hmem).mp hr⟩

theorem refersInto (he : e.IsLoaded format refs raws) :
    e.RefersInto Token.shieldProf.name refs :=
  he.holds.refersInto

/-- A loaded entity is written in the same way in every later table. -/
theorem encode_of_extends (he : e.IsLoaded format refs raws) {refs' : ReferenceTable}
    (hext : refs.Extends refs') :
    Token.shieldProf.encode format refs' e = Token.shieldProf.encode format refs e :=
  he.refersInto.encode_eq hext rfl rfl format

/-! ### Canonical lists -/

private theorem isCanonical_of_writes (he : e.IsLoaded format refs raws) (hformat : format.Stable)
    (hnames : e.KeepsNames refs)
    (h : Token.shieldProf.Writes format refs e value) : Value.IsCanonical format value := by
  obtain ⟨c, hc, htext⟩ | ⟨g, hg, htext⟩ := h
  · obtain ⟨condition, hcondition, rfl⟩ := Value.choiceText_eq_ok_iff.mp htext
    obtain ⟨raw, hraw⟩ := he.exists_readCondition hc
    obtain ⟨text, hwrite, hkeeps⟩ := Value.exists_conditionText .shieldProf hformat hraw
    obtain rfl := Except.ok.inj (hwrite.symm.trans hcondition)
    exact ⟨_, text, .choice, hkeeps, by rw [Text.join_singleton]⟩
  · obtain ⟨condition, hcondition, rfl⟩ := (he.grantText_eq_ok_iff hg).mp htext
    obtain ⟨v, hcov, raw, hraw⟩ := he.exists_covers hg
    obtain ⟨text, hwrite, hkeeps⟩ := Value.exists_conditionText .shieldProf hformat hraw
    obtain rfl := Except.ok.inj (hwrite.symm.trans hcondition)
    exact ⟨_, text, hcov.isCanonicalPayload he.wellFormed (hnames g hg), hkeeps, rfl⟩

/-- What is written of a loaded entity is canonical if no name in its grants is empty or is read as
something else. -/
theorem isCanonicalList (he : e.IsLoaded format refs raws) (hformat : format.Stable)
    (hnames : e.KeepsNames refs)
    (h : Token.shieldProf.encode format refs e = .ok values) (hne : values ≠ []) :
    Value.IsCanonicalList format values := by
  obtain ⟨-, -, horder, hwrites, halone⟩ := Token.encode_eq_ok_iff.mp h
  have hback : e.ReadsBack refs := he.readsBack_of_keepsNames hnames
  exact {
    ne_nil := hne
    order := horder
    isCanonical := fun hvalue => he.isCanonical_of_writes hformat hnames ((hwrites _).mp hvalue)
    -- all that is written was in the table, where each meaning has one spelling
    spelling := fun hT hT' hfold => he.wellFormed.distinct.target_unique
      (he.mem_of_mem_targetsIn h hback hT) (he.mem_of_mem_targetsIn h hback hT') hfold
    all_alone := halone }

end Entity.IsLoaded

end GrantList
