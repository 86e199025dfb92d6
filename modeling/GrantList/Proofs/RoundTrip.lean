import GrantList.Proofs.Reloading

/-!
# Writing and reading again

A segment is classified as it stands in a value, but a name is kept, and written, without the blanks
around it. A value is plain (`Value.IsPlain`) when this does not matter: each of its names, without
blanks, is still read as the same name.

Main results:

* `LoadContext.reload_encode`: what is written of an entity that was read from plain values is read
  in a new context, and is written there as the same list. With verbatim conditions the entity
  that was read again has the same grants and the same choices.
* `LoadContext.rereads_iff_isCanonicalList`: for values that need not be plain, reading what was
  written gives the same written form exactly when it is in the grammar `Value.IsCanonicalList`,
  which it always is for plain values.
-/

namespace GrantList

namespace Value

/-- A name that is still the same name when the blanks around it are gone. Other segments are kept
as they are. -/
def Segment.IsPlain : Segment → Prop
  | .name text =>
    Text.trim text ≠ "" ∧ ofText .shieldProf (Text.trim text) = .name (Text.trim text)
  | _ => True

instance : DecidablePred Segment.IsPlain
  | .name _ => inferInstanceAs (Decidable (_ ∧ _))
  | .choice => .isTrue trivial
  | .all => .isTrue trivial
  | .typeGroup _ => .isTrue trivial

/-- All segments of the value are plain. -/
def IsPlain (value : String) : Prop :=
  ∀ s ∈ segmentsOf .shieldProf value, s.IsPlain

instance (value : String) : Decidable (IsPlain value) :=
  inferInstanceAs (Decidable (∀ s ∈ segmentsOf .shieldProf value, s.IsPlain))

/-- Only a name has the meaning of a name. -/
theorem Segment.eq_name_of_target?_folded {t : Token} {s : Segment} {T : Target} {c : Category}
    {n : String} (hT : s.target? t = some T) (hfold : (Target.named c n).folded = T.folded) :
    ∃ text, s = .name text ∧ T = .named t.capability (Text.trim text) ∧
      nameKey n = nameKey text := by
  cases s with
  | choice => cases hT
  | all =>
    cases hT
    cases hfold
  | typeGroup expr =>
    obtain ⟨-, rfl⟩ := Target.ofTypes?_eq_some_iff.mp hT
    cases hfold
  | name text =>
    cases hT
    refine ⟨text, rfl, rfl, ?_⟩
    rw [← nameKey_trim text]
    exact (Target.named.inj hfold).2

/-- The names of plain values are not empty and are read as names. -/
theorem IsPlain.named_of_mem_targetsIn {values : List String} (h : ∀ value ∈ values, IsPlain value)
    {n : String} (hT : .named .shieldProf n ∈ Token.shieldProf.targetsIn values) :
    n ≠ "" ∧ Segment.ofText .shieldProf n = .name n := by
  obtain ⟨value, hvalue, s, hs, hT⟩ := hT
  obtain ⟨text, rfl, heq, -⟩ := Segment.eq_name_of_target?_folded hT rfl
  obtain ⟨-, rfl⟩ := Target.named.inj heq
  exact h value hvalue _ hs

/-- What is written canonically is plain. -/
theorem IsCanonical.isPlain {format : ConditionFormat} {value : String}
    (h : IsCanonical format value) : IsPlain value := by
  obtain ⟨texts, condition, htexts, -, rfl⟩ := h
  intro seg hseg
  rw [segmentsOf_withCondition_join htexts.ne_nil fun _ => htexts.isFree] at hseg
  obtain ⟨s, hs, rfl⟩ := List.mem_map.mp hseg
  cases htexts with
  | choice =>
    rw [List.mem_singleton.mp hs, Segment.ofText_choiceMarker]
    trivial
  | all =>
    rw [List.mem_singleton.mp hs, Segment.ofText_allMarker]
    trivial
  | refs _ hnames hgroups =>
    obtain hs | hs := List.mem_append.mp hs
    · have hname := hnames s hs
      rw [hname.ofText_eq, Segment.IsPlain, hname.trim_eq]
      exact ⟨hname.ne_empty, hname.ofText_eq⟩
    · obtain ⟨types, -, -, hof, -⟩ := (hgroups s hs).exists_target
      rw [hof]
      trivial

end Value

/-- If a table holds nothing but the targets of plain values, all names in it are kept. -/
theorem Entity.keepsNames_of_isPlain {refs : ReferenceTable} {raws : List String}
    (hplain : ∀ raw ∈ raws, Value.IsPlain raw)
    (h : ({} : ReferenceTable).GrowsBy refs (Token.shieldProf.targetsIn raws)) (e : Entity) :
    e.KeepsNames refs := fun _ _ _ ⟨_, _, hr⟩ =>
  Value.IsPlain.named_of_mem_targetsIn hplain
    (h.mem_of_empty (ReferenceTable.mem_targets_of_target? hr))

namespace LoadContext

variable {ctx : LoadContext} {e : Entity} {key : String} {format : ConditionFormat}
  {raws values : List String}

/-- In a new context the table holds the targets of what was read. -/
private theorem mem_targetsIn_of_decodeAll_new {result : Except DecodeError Entity}
    (hread : ({ format } : LoadContext).decodeAll .shieldProf e raws = (ctx, result)) {T : Target}
    (hT : T ∈ ctx.refs.targets) : T ∈ Token.shieldProf.targetsIn raws :=
  (decodeAll_table hread).2.mem_of_empty hT

/-- The names of an entity that was read from plain values in a new context are kept. -/
theorem keepsNames_of_isPlain (hplain : ∀ raw ∈ raws, Value.IsPlain raw)
    (hread : ({ format } : LoadContext).decodeAll .shieldProf { key } raws = (ctx, .ok e)) :
    e.KeepsNames ctx.refs :=
  Entity.keepsNames_of_isPlain hplain (decodeAll_table hread).2 e

/-- What is written of an entity that was read from plain values in a new context is canonical. -/
theorem isCanonicalList_of_isPlain (hplain : ∀ raw ∈ raws, Value.IsPlain raw)
    (hformat : format.Stable)
    (hread : ({ format } : LoadContext).decodeAll .shieldProf { key } raws = (ctx, .ok e))
    (hwrite : ctx.encode .shieldProf e = .ok values) (hne : values ≠ []) :
    Value.IsCanonicalList format values := by
  have he : e.IsLoaded format ctx.refs raws :=
    isLoaded_of_decodeAll (ReferenceTable.wellFormed_empty .shieldProf) hread
  rw [encode, (decodeAll_table hread).1] at hwrite
  exact he.isCanonicalList hformat (keepsNames_of_isPlain hplain hread) hwrite hne

/-- What is written of an entity that was read from plain values in a new context can be read in
another new context, and is written there as the same list. With verbatim conditions the entity
has the same grants, each taken as the targets it names and its condition, and the same choices. -/
theorem reload_encode (key' : String) (hplain : ∀ raw ∈ raws, Value.IsPlain raw)
    (hformat : format.Stable)
    (hread : ({ format } : LoadContext).decodeAll .shieldProf { key } raws = (ctx, .ok e))
    (hwrite : ctx.encode .shieldProf e = .ok values) (hne : values ≠ []) :
    ∃ ctx' copy,
      ({ format } : LoadContext).decodeAll .shieldProf { key := key' } values = (ctx', .ok copy) ∧
        ctx'.encode .shieldProf copy = .ok values ∧
          (format = .verbatim → copy.grantShapes ctx'.refs = e.grantShapes ctx.refs ∧
            copy.choiceConditions = e.choiceConditions) := by
  have hempty : ({ format } : LoadContext).refs.WellFormed .shieldProf :=
    ReferenceTable.wellFormed_empty .shieldProf
  have he : e.IsLoaded format ctx.refs raws := isLoaded_of_decodeAll hempty hread
  have hnames := keepsNames_of_isPlain hplain hread
  rw [encode, (decodeAll_table hread).1] at hwrite
  have hvalues : Value.IsCanonicalList format values :=
    he.isCanonicalList hformat hnames hwrite hne
  obtain ⟨ctx', copy, hreload, hrewrite⟩ :=
    encode_of_isCanonicalList hempty hvalues (ReferenceTable.spells_empty values) key'
  refine ⟨ctx', copy, hreload, hrewrite, ?_⟩
  rintro rfl
  have hcopy : copy.IsLoaded .verbatim ctx'.refs values := isLoaded_of_decodeAll hempty hreload
  have hspells : ctx'.refs.Spells values :=
    (ReferenceTable.spells_empty values).growsBy hvalues (decodeAll_table hreload).2
  have haccepts := decodeAll_isOk_iff.mp ⟨ctx', copy, hreload⟩
  have hback : e.ReadsBack ctx.refs := he.readsBack_of_keepsNames hnames
  exact ⟨he.grantShapes_eq hwrite hback hcopy hspells haccepts,
    he.choiceConditions_eq hwrite hback hcopy haccepts⟩

/-- The values as they are written after they were read, if both succeed. -/
def rewrite? (ctx : LoadContext) (t : Token) (e : Entity) (values : List String) :
    Option (List String) :=
  match ctx.decodeAll t e values with
  | (ctx', .ok e') => (ctx'.encode t e').toOption
  | (_, .error _) => none

theorem rewrite?_eq_some_iff {t : Token} :
    ctx.rewrite? t e raws = some values ↔
      ∃ ctx' e', ctx.decodeAll t e raws = (ctx', .ok e') ∧ ctx'.encode t e' = .ok values := by
  rw [rewrite?]
  cases h : ctx.decodeAll t e raws with
  | mk ctx' result =>
    cases result with
    | error err => simp
    | ok e' =>
      dsimp only
      constructor
      · exact fun h => ⟨ctx', e', rfl, eq_ok_of_toOption_eq_some h⟩
      · rintro ⟨_, _, ⟨rfl, rfl⟩, hwrite⟩
        rw [hwrite, Except.toOption]

/-- Padding and letter case of names, a type group in its other spelling, and a choice beside a
name: all of it comes back. -/
theorem reload_encode_padded :
    (∀ raw ∈ [" Buckler ", "buckler|SHIELDTYPE.Heavy[x]", "%LIST|Tower[CLASS=Fighter]"],
      Value.IsPlain raw) ∧
      ConditionFormat.verbatim.Stable ∧
        ∃ ctx e, ({} : LoadContext).decodeAll .shieldProf { key := "A" }
            [" Buckler ", "buckler|SHIELDTYPE.Heavy[x]", "%LIST|Tower[CLASS=Fighter]"] =
              (ctx, .ok e) ∧
          ctx.encode .shieldProf e = .ok ["%LIST[CLASS=Fighter]", "Buckler",
            "Buckler|SHIELDTYPE=Heavy[x]", "Tower[CLASS=Fighter]"] ∧
          ∃ ctx' copy, ({} : LoadContext).decodeAll .shieldProf { key := "B" }
              ["%LIST[CLASS=Fighter]", "Buckler", "Buckler|SHIELDTYPE=Heavy[x]",
                "Tower[CLASS=Fighter]"] = (ctx', .ok copy) ∧
            ctx'.encode .shieldProf copy = .ok ["%LIST[CLASS=Fighter]", "Buckler",
              "Buckler|SHIELDTYPE=Heavy[x]", "Tower[CLASS=Fighter]"] ∧
            copy.grantShapes ctx'.refs = e.grantShapes ctx.refs ∧
              copy.choiceConditions = e.choiceConditions := by
  have hplain : ∀ raw ∈ [" Buckler ", "buckler|SHIELDTYPE.Heavy[x]",
      "%LIST|Tower[CLASS=Fighter]"], Value.IsPlain raw := by decide +kernel
  obtain ⟨ctx, e, hread, hwrite⟩ := rewrite?_eq_some_iff.mp (by decide +kernel :
    ({} : LoadContext).rewrite? .shieldProf { key := "A" }
      [" Buckler ", "buckler|SHIELDTYPE.Heavy[x]", "%LIST|Tower[CLASS=Fighter]"] =
        some ["%LIST[CLASS=Fighter]", "Buckler", "Buckler|SHIELDTYPE=Heavy[x]",
          "Tower[CLASS=Fighter]"])
  have hstable := ConditionFormat.stable_verbatim
  obtain ⟨ctx', copy, hreload, hrewrite, hsame⟩ :=
    reload_encode "B" hplain hstable hread hwrite (List.cons_ne_nil _ _)
  exact ⟨hplain, hstable, ctx, e, hread, hwrite, ctx', copy, hreload, hrewrite, hsame rfl⟩

/-! ### Values that need not be plain -/

/-- The table from which an entity was written goes on to spell what was written. -/
private theorem spells_of_encode (haccepts : ∀ raw ∈ raws, ∃ v,
      Token.shieldProf.Accepts format raw v)
    (he : e.IsLoaded format ctx.refs raws)
    (hmem : ∀ T ∈ ctx.refs.targets, T ∈ Token.shieldProf.targetsIn raws)
    (hwrite : Token.shieldProf.encode format ctx.refs e = .ok values)
    (hvalues : Value.IsCanonicalList format values) : ctx.refs.Spells values := by
  intro T hT T' hT' hfold
  obtain ⟨-, -, -, hwrites, -⟩ := Token.encode_eq_ok_iff.mp hwrite
  have hunique := he.wellFormed.distinct
  cases T' with
  | named c n =>
    -- the text of a name that was written is a name of the table
    obtain ⟨value, hvalue, s, hs, hsT⟩ := hT
    obtain ⟨text, rfl, rfl, -⟩ := Value.Segment.eq_name_of_target?_folded hsT hfold
    obtain ⟨htext, -⟩ := he.named_mem_of_name_mem ((hwrites value).mp hvalue) hs
    cases he.wellFormed.writable htext with
    | name htrim _ =>
      rw [htrim] at hfold ⊢
      exact hunique.target_unique hT' htext hfold
  | allOf c | typed c base types =>
    -- all else is read back, and so is in what was written
    obtain ⟨g, hg, hgT⟩ := he.exists_grant_of_mem_targetsIn haccepts hT' (hmem _ hT')
    have hback := Target.readsBack_of_isNamed_eq_false (he.wellFormed.writable hT') rfl
    exact hvalues.spelling (he.mem_targetsIn_of_readsBack hwrite hg hgT hback) hT hfold

/-- Names that were read from what was written are read as names again. -/
private theorem keepsNames_of_reread {copy : Entity} {refs' : ReferenceTable}
    (he : e.IsLoaded format ctx.refs raws)
    (hwrite : Token.shieldProf.encode format ctx.refs e = .ok values)
    (hext : ctx.refs.Extends refs') (hcopy : copy.IsLoaded format refs' values) :
    copy.KeepsNames refs' := by
  intro g hg n ⟨r, hr, hrT⟩
  obtain ⟨-, -, -, hwrites, -⟩ := Token.encode_eq_ok_iff.mp hwrite
  obtain ⟨v, ⟨value, hvalue, hv⟩, hcov, -⟩ := hcopy.holds.of_grant hg
  obtain ⟨s, hs, T, T', hT, hT', hfold⟩ := hcov.target?_of_mem hr
  obtain rfl := Option.some_inj.mp (hrT.symm.trans hT')
  obtain ⟨text, rfl, rfl, -⟩ := Value.Segment.eq_name_of_target?_folded hT hfold
  obtain ⟨htext, hread⟩ := he.named_mem_of_name_mem ((hwrites value).mp hvalue)
    (Value.segments_eq hv.ofText ▸ hs)
  cases he.wellFormed.writable htext with
  | name htrim _ =>
    rw [htrim] at hfold
    have heq := hcopy.wellFormed.distinct.target_unique
      (ReferenceTable.mem_targets_of_target? hrT) (hext.mem htext) hfold
    obtain rfl := (Target.named.inj heq).2
    refine ⟨?_, hread⟩
    rintro rfl
    exact Value.name_empty_not_mem hv hs

/-- What is written of an entity can be read again in the same context, and is written in the same
way then, exactly when it is in the grammar of written values. It is so for plain values. -/
theorem rereads_iff_isCanonicalList (key' : String)
    (hread : ({} : LoadContext).decodeAll .shieldProf { key } raws = (ctx, .ok e))
    (hwrite : ctx.encode .shieldProf e = .ok values) (hne : values ≠ []) :
    ((∃ ctx' copy, ctx.decodeAll .shieldProf { key := key' } values = (ctx', .ok copy) ∧
        ctx'.encode .shieldProf copy = .ok values) ↔ Value.IsCanonicalList .verbatim values) ∧
      ((∀ raw ∈ raws, Value.IsPlain raw) → Value.IsCanonicalList .verbatim values) := by
  have he : e.IsLoaded .verbatim ctx.refs raws :=
    isLoaded_of_decodeAll (ReferenceTable.wellFormed_empty .shieldProf) hread
  have hformat : ctx.format = .verbatim := (decodeAll_table hread).1
  rw [encode, hformat] at hwrite
  refine ⟨⟨?_, fun hvalues => ?_⟩, fun hplain => ?_⟩
  · rintro ⟨ctx', copy, hreread, hrewrite⟩
    have hcopy := isLoaded_of_decodeAll he.wellFormed hreread
    rw [hformat] at hcopy
    rw [encode, (decodeAll_table hreread).1, hformat] at hrewrite
    exact hcopy.isCanonicalList ConditionFormat.stable_verbatim
      (keepsNames_of_reread he hwrite (decodeAll_table hreread).2.grown hcopy) hrewrite hne
  · -- the context has no targets but those of what was read, so it spells what was written
    have haccepts := decodeAll_isOk_iff.mp ⟨ctx, e, hread⟩
    have hspells := spells_of_encode haccepts he (fun T => mem_targetsIn_of_decodeAll_new hread)
      hwrite hvalues
    exact encode_of_isCanonicalList he.wellFormed (hformat ▸ hvalues) hspells key'
  · exact he.isCanonicalList ConditionFormat.stable_verbatim (keepsNames_of_isPlain hplain hread)
      hwrite hne

/-- A name that only its blank tells apart from the marker of a choice is written as the marker, and
the marker stays as it is from then on. -/
theorem rereads_iff_isCanonicalList_marker :
    ∃ ctx e, ({} : LoadContext).decodeAll .shieldProf { key := "A" } [" %LIST", "Tower[x]"] =
        (ctx, .ok e) ∧
      ctx.encode .shieldProf e = .ok ["%LIST", "Tower[x]"] ∧
      ((∃ ctx' copy, ctx.decodeAll .shieldProf { key := "B" } ["%LIST", "Tower[x]"] =
          (ctx', .ok copy) ∧ ctx'.encode .shieldProf copy = .ok ["%LIST", "Tower[x]"]) ↔
        Value.IsCanonicalList .verbatim ["%LIST", "Tower[x]"]) ∧
      ((∀ raw ∈ [" %LIST", "Tower[x]"], Value.IsPlain raw) →
        Value.IsCanonicalList .verbatim ["%LIST", "Tower[x]"]) := by
  obtain ⟨ctx, e, hread, hwrite⟩ := rewrite?_eq_some_iff.mp (by decide +kernel :
    ({} : LoadContext).rewrite? .shieldProf { key := "A" } [" %LIST", "Tower[x]"] =
      some ["%LIST", "Tower[x]"])
  exact ⟨ctx, e, hread, hwrite,
    rereads_iff_isCanonicalList "B" hread hwrite (List.cons_ne_nil _ _)⟩

/-- What is written cannot always be read again: a name of nothing but blanks is written as the
empty text. -/
theorem exists_not_reread :
    ¬ ∀ (key key' : String) (raws values : List String) (ctx : LoadContext) (e : Entity),
      ({} : LoadContext).decodeAll .shieldProf { key } raws = (ctx, .ok e) →
        ctx.encode .shieldProf e = .ok values → values ≠ [] →
          ∃ ctx' copy, ctx.decodeAll .shieldProf { key := key' } values = (ctx', .ok copy) ∧
            ctx'.encode .shieldProf copy = .ok values := by
  intro h
  obtain ⟨ctx, e, hread, hwrite⟩ := rewrite?_eq_some_iff.mp (by decide +kernel :
    ({} : LoadContext).rewrite? .shieldProf { key := "A" } [" "] = some [""])
  obtain ⟨ctx', copy, hreread, -⟩ := h "A" "B" [" "] [""] ctx e hread hwrite (List.cons_ne_nil _ _)
  obtain ⟨v, hv⟩ := decodeAll_isOk_iff.mp ⟨ctx', copy, hreread⟩ "" List.mem_cons_self
  cases hv.ofText

end LoadContext

end GrantList
