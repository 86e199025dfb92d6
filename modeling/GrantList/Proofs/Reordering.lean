import GrantList.Proofs.RoundTrip
import GrantList.Proofs.Sense

/-!
# Values in another order

A list of values is reordered when its values are given in another order, and within each value the
segments, with the condition kept (`Value.IsReorderedList`). The reordered list is read in a context
of its own. References are numbered otherwise there, and of spellings that mean the same another one
may come first.

Main result: `LoadContext.encode_of_reordered`. As long as names and types that mean the same are
spelled alike (`Value.SpelledAlike`), both lists are written in the same way, or refused with the
same error.
-/

namespace GrantList

namespace Value

/-- The value with its segments in another order. What follows the payload stays. -/
def IsReordering (value value' : String) : Prop :=
  ∃ segments suffix, (partsOf value).Perm segments ∧ value = payloadOf value ++ suffix ∧
    value' = Text.join separator segments ++ suffix

/-- The values in another order, each with its segments in another order. -/
def IsReorderedList (values values' : List String) : Prop :=
  ∃ permuted, values.Perm permuted ∧ List.Forall₂ IsReordering permuted values'

/-- Names with the same key are the same text but for the blanks around them, and no two types
differ only in letter case. -/
def Segment.SpelledAlike : Segment → Segment → Prop
  | .name text, .name text' => nameKey text = nameKey text' → Text.trim text = Text.trim text'
  | .typeGroup expr, .typeGroup expr' => ∀ part ∈ Text.split '.' expr,
    ∀ part' ∈ Text.split '.' expr', Text.SameAscii part part' → part = part'
  | _, _ => True

instance Segment.decidableSpelledAlike : (s s' : Segment) → Decidable (s.SpelledAlike s')
  | .name _, .name _ => inferInstanceAs (Decidable (_ → _))
  | .typeGroup _, .typeGroup _ => inferInstanceAs (Decidable (∀ part ∈ _, ∀ part' ∈ _, _))
  | .choice, _ | .all, _ => .isTrue trivial
  | .name _, .choice | .name _, .all | .name _, .typeGroup _ => .isTrue trivial
  | .typeGroup _, .choice | .typeGroup _, .all | .typeGroup _, .name _ => .isTrue trivial

/-- Any two segments of the values are spelled alike where they mean the same. -/
def SpelledAlike (values : List String) : Prop :=
  ∀ value ∈ values, ∀ value' ∈ values, ∀ s ∈ segmentsOf .shieldProf value,
    ∀ s' ∈ segmentsOf .shieldProf value', s.SpelledAlike s'

instance (values : List String) : Decidable (SpelledAlike values) :=
  inferInstanceAs (Decidable (∀ value ∈ values, ∀ value' ∈ values, _))

/-! ### Spelling -/

/-- Segments that are spelled alike have equal targets if these mean the same. -/
theorem Segment.SpelledAlike.target_eq {t : Token} {s s' : Segment} {T T' : Target}
    (h : s.SpelledAlike s') (hT : s.target? t = some T) (hT' : s'.target? t = some T')
    (hfold : T.folded = T'.folded) : T = T' := by
  cases s with
  | choice => cases hT
  | all =>
    obtain rfl := Option.some_inj.mp hT
    cases s' with
    | choice => cases hT'
    | all => exact Option.some_inj.mp hT'
    | typeGroup expr' =>
      obtain ⟨-, rfl⟩ := Target.ofTypes?_eq_some_iff.mp hT'
      cases hfold
    | name text' =>
      obtain rfl := Option.some_inj.mp hT'
      cases hfold
  | typeGroup expr =>
    obtain ⟨-, rfl⟩ := Target.ofTypes?_eq_some_iff.mp hT
    cases s' with
    | choice => cases hT'
    | all =>
      obtain rfl := Option.some_inj.mp hT'
      cases hfold
    | typeGroup expr' =>
      obtain ⟨-, rfl⟩ := Target.ofTypes?_eq_some_iff.mp hT'
      obtain ⟨-, -, htypes⟩ := Target.typed.inj hfold
      rw [Target.eq_of_map_asciiLower_eq htypes fun part hpart part' hpart' =>
        h part (Target.mem_sortTypes_distinctTypes hpart) part'
          (Target.mem_sortTypes_distinctTypes hpart')]
    | name text' =>
      obtain rfl := Option.some_inj.mp hT'
      cases hfold
  | name text =>
    obtain rfl := Option.some_inj.mp hT
    obtain ⟨text', rfl, rfl, hkey⟩ := eq_name_of_target?_folded hT' hfold
    rw [nameKey_trim] at hkey
    rw [Target.ofName, h hkey]

/-- The targets of values that are spelled alike are equal if they mean the same. -/
theorem SpelledAlike.target_eq {values : List String} {T T' : Target} (h : SpelledAlike values)
    (hT : T ∈ Token.shieldProf.targetsIn values) (hT' : T' ∈ Token.shieldProf.targetsIn values)
    (hfold : T.folded = T'.folded) : T = T' := by
  obtain ⟨value, hvalue, s, hs, hT⟩ := hT
  obtain ⟨value', hvalue', s', hs', hT'⟩ := hT'
  exact (h value hvalue value' hvalue' s hs s' hs').target_eq hT hT' hfold

end Value

/-! ### One value -/

/-- Another payload with what follows the payload of a value has the condition of the value. -/
theorem Value.append_eq_withCondition {value payload suffix : String} {condition : Option String}
    (h : splitCondition? value = some (payload, condition)) (hvalue : value = payload ++ suffix)
    (text : String) : text ++ suffix = withCondition text condition := by
  obtain ⟨-, heq⟩ := splitCondition?_eq_some_iff.mp h
  rw [withCondition_eq_append, hvalue, String.append_right_inj] at heq
  rw [withCondition_eq_append, heq]

/-- A value that is accepted is accepted in any order of its segments. -/
theorem Token.Accepts.of_isReordering {t : Token} {format : ConditionFormat}
    {value value' : String} {v : Value} (hv : t.Accepts format value v)
    (h : Value.IsReordering value value') :
    (Value.partsOf value).Perm (Value.partsOf value') ∧
      t.Accepts format value' ⟨(Value.partsOf value').map (.ofText t), v.condition⟩ := by
  obtain ⟨segments, suffix, hperm, hvalue, rfl⟩ := h
  obtain ⟨payload, condition, hsplit, hread, hempty, hsegments⟩ :=
    Value.ofText_eq_ok_iff.mp hv.ofText
  obtain rfl := Value.payload_eq_payloadOf hsplit
  have hne : segments ≠ [] := fun h => Text.split_ne_nil _ _ (hperm.trans (.of_eq h)).eq_nil
  have hfree : ∀ s ∈ segments, Value.IsFree s := fun s hs =>
    Value.isFree_of_mem_partsOf (hperm.mem_iff.mpr hs)
  have hmem : ∀ seg, seg ∈ segments.map (Value.Segment.ofText t) ↔ seg ∈ v.segments := fun seg => by
    rw [hsegments]
    exact (hperm.map _).mem_iff.symm
  rw [Value.append_eq_withCondition hsplit hvalue,
    Value.partsOf_withCondition_join hne hfree]
  refine ⟨hperm, Value.accepts_withCondition_join hne hfree
    (fun h => hempty (hperm.mem_iff.mpr h)) hread ?htargets ?hapart⟩
  case htargets => exact fun seg hseg => hv.hasTargets seg ((hmem seg).mp hseg)
  case hapart =>
    exact fun hall seg hseg => hv.keepsAllApart ((hmem .all).mp hall) seg ((hmem seg).mp hseg)

/-! ### Many values -/

private theorem exists_mem_of_forall₂ {α β : Type} {R : α → β → Prop} {l : List α} {l' : List β}
    (h : List.Forall₂ R l l') {a : α} (ha : a ∈ l) : ∃ b ∈ l', R a b := by
  induction h with
  | nil => cases ha
  | cons hab _ ih =>
    obtain rfl | ha := List.mem_cons.mp ha
    · exact ⟨_, List.mem_cons_self, hab⟩
    · obtain ⟨b, hb, hab⟩ := ih ha
      exact ⟨b, List.mem_cons_of_mem _ hb, hab⟩

namespace Value.IsReorderedList

variable {values values' : List String} {value : String}

theorem exists_of_mem (h : IsReorderedList values values') (hvalue : value ∈ values) :
    ∃ value' ∈ values', IsReordering value value' :=
  have ⟨_, hperm, hpairs⟩ := h
  exists_mem_of_forall₂ hpairs (hperm.mem_iff.mp hvalue)

theorem exists_of_mem_right (h : IsReorderedList values values') (hvalue : value ∈ values') :
    ∃ value₀ ∈ values, IsReordering value₀ value :=
  have ⟨_, hperm, hpairs⟩ := h
  have ⟨value₀, hvalue₀, h⟩ := exists_mem_of_forall₂ hpairs.flip hvalue
  ⟨value₀, hperm.mem_iff.mpr hvalue₀, h⟩

/-- Reordered values are accepted. -/
theorem accepts (h : IsReorderedList values values') {t : Token} {format : ConditionFormat}
    (haccepts : ∀ value ∈ values, ∃ v, t.Accepts format value v) (hvalue : value ∈ values') :
    ∃ v, t.Accepts format value v := by
  obtain ⟨value₀, hvalue₀, hreorder⟩ := h.exists_of_mem_right hvalue
  obtain ⟨v, hv⟩ := haccepts value₀ hvalue₀
  exact ⟨_, (hv.of_isReordering hreorder).2⟩

/-- What can be said of the values by the sets of their parts and by their conditions can be said of
the reordered values too. -/
private theorem exists_accepts_iff (h : IsReorderedList values values')
    (haccepts : ∀ value ∈ values, ∃ v, Token.shieldProf.Accepts .verbatim value v)
    (P : Set String → Option Condition → Prop) :
    (∃ value ∈ values, ∃ v, Token.shieldProf.Accepts .verbatim value v ∧
        P {s | s ∈ partsOf value} v.condition) ↔
      ∃ value ∈ values', ∃ v, Token.shieldProf.Accepts .verbatim value v ∧
        P {s | s ∈ partsOf value} v.condition := by
  have hparts : ∀ {value value' : String} {condition : Option Condition},
      (partsOf value).Perm (partsOf value') →
        (P {s | s ∈ partsOf value} condition ↔ P {s | s ∈ partsOf value'} condition) :=
    fun hperm => by simp only [hperm.mem_iff]
  constructor
  · rintro ⟨value, hvalue, v, hv, hP⟩
    obtain ⟨value', hvalue', hreorder⟩ := h.exists_of_mem hvalue
    obtain ⟨hperm, hv'⟩ := hv.of_isReordering hreorder
    exact ⟨value', hvalue', _, hv', (hparts hperm).mp hP⟩
  · rintro ⟨value', hvalue', v', hv', hP⟩
    obtain ⟨value, hvalue, hreorder⟩ := h.exists_of_mem_right hvalue'
    obtain ⟨v, hv⟩ := haccepts value hvalue
    obtain ⟨hperm, hv''⟩ := hv.of_isReordering hreorder
    obtain rfl := hv'.unique hv''
    exact ⟨value, hvalue, v, hv, (hparts hperm).mpr hP⟩

/-- Reordered values say the same. -/
theorem said_eq (h : IsReorderedList values values')
    (haccepts : ∀ value ∈ values, ∃ v, Token.shieldProf.Accepts .verbatim value v) :
    grantsSaid values = grantsSaid values' ∧ choicesSaid values = choicesSaid values' :=
  ⟨Set.ext fun said => h.exists_accepts_iff haccepts fun parts condition =>
      (∃ s ∈ parts, s ≠ "%LIST") ∧ said = ({sense | ∃ s ∈ parts, Means s sense}, condition),
    Set.ext fun condition => h.exists_accepts_iff haccepts fun parts condition' =>
      condition' = condition ∧ "%LIST" ∈ parts⟩

/-- Reordered values have no other targets. -/
theorem targetsIn_subset (h : IsReorderedList values values')
    (haccepts : ∀ value ∈ values, ∃ v, Token.shieldProf.Accepts .verbatim value v) :
    Token.shieldProf.targetsIn values' ⊆ Token.shieldProf.targetsIn values := by
  rintro T ⟨value', hvalue', s, hs, hT⟩
  obtain ⟨value, hvalue, hreorder⟩ := h.exists_of_mem_right hvalue'
  obtain ⟨v, hv⟩ := haccepts value hvalue
  obtain ⟨hperm, -⟩ := hv.of_isReordering hreorder
  exact ⟨value, hvalue, s, ((hperm.map _).mem_iff).mpr hs, hT⟩

end Value.IsReorderedList

namespace LoadContext

variable {ctx : LoadContext} {e : Entity} {key : String} {raws raws' : List String}

/-- If names and types that mean the same are spelled alike, then values that are read onto one
entity are written in the same way as the reordered values, which are read into a context of their
own, or are refused with the same error. -/
theorem encode_of_reordered (hspelled : Value.SpelledAlike raws)
    (hreorder : Value.IsReorderedList raws raws')
    (hread : ({} : LoadContext).decodeAll .shieldProf { key } raws = (ctx, .ok e)) :
    ∃ ctx' e', ({} : LoadContext).decodeAll .shieldProf { key } raws' = (ctx', .ok e') ∧
      ctx'.encode .shieldProf e' = ctx.encode .shieldProf e := by
  have haccepts : ∀ raw ∈ raws, ∃ v, Token.shieldProf.Accepts .verbatim raw v :=
    decodeAll_isOk_iff.mp ⟨ctx, e, hread⟩
  obtain ⟨ctx', e', hread'⟩ : ∃ ctx' e',
      ({} : LoadContext).decodeAll .shieldProf { key } raws' = (ctx', .ok e') :=
    decodeAll_isOk_iff.mpr fun _ => hreorder.accepts haccepts
  refine ⟨ctx', e', hread', ?_⟩
  have hempty := ReferenceTable.wellFormed_empty .shieldProf
  have he : e.IsLoaded .verbatim ctx.refs raws := isLoaded_of_decodeAll hempty hread
  have he' : e'.IsLoaded .verbatim ctx'.refs raws' := isLoaded_of_decodeAll hempty hread'
  obtain ⟨hformat, hgrows⟩ := decodeAll_table hread
  obtain ⟨hformat', hgrows'⟩ := decodeAll_table hread'
  obtain ⟨hgrants, hchoices⟩ := hreorder.said_eq haccepts
  have hshapes : e'.grantShapes ctx'.refs = e.grantShapes ctx.refs := by
    refine he'.grantShapes_eq_of_grantSenses_eq he ?_ ?_
    · -- both tables hold targets of the given values alone, which are spelled alike
      rintro g' - T' ⟨r', -, hT'⟩ g - T ⟨r, -, hT⟩ hfold
      exact hspelled.target_eq
        (hreorder.targetsIn_subset haccepts
          (hgrows'.mem_of_empty (ReferenceTable.mem_targets_of_target? hT')))
        (hgrows.mem_of_empty (ReferenceTable.mem_targets_of_target? hT)) hfold
    · rw [he.grantSenses_eq_grantsSaid, he'.grantSenses_eq_grantsSaid, hgrants]
  rw [encode, encode, hformat, hformat']
  exact he'.encode_eq_of_shapes_eq he ConditionFormat.stable_verbatim hshapes
    (by rw [he.choiceConditions_eq_choicesSaid, he'.choiceConditions_eq_choicesSaid, hchoices])

/-- Everything beside a grant: the references are numbered otherwise, and the same values are
refused. -/
theorem encode_of_reordered_inconsistent :
    ∃ raws raws' : List String,
      raws = ["Buckler|SHIELDTYPE=Heavy| Buckler[x]", "ALL"] ∧
      raws' = ["ALL", " Buckler|SHIELDTYPE=Heavy|Buckler[x]"] ∧
      Value.SpelledAlike raws ∧ Value.IsReorderedList raws raws' ∧
      ∃ ctx e ctx' e', ({} : LoadContext).decodeAll .shieldProf { key := "A" } raws =
          (ctx, .ok e) ∧
        ({} : LoadContext).decodeAll .shieldProf { key := "A" } raws' = (ctx', .ok e') ∧
        ctx.encode .shieldProf e =
          .error (.inconsistent "AUTO:SHIELDPROF" ["ALL", "Buckler|SHIELDTYPE=Heavy[x]"]) ∧
        ctx'.encode .shieldProf e' =
          .error (.inconsistent "AUTO:SHIELDPROF" ["ALL", "Buckler|SHIELDTYPE=Heavy[x]"]) := by
  obtain ⟨raws, hraws⟩ : ∃ raws, raws = ["Buckler|SHIELDTYPE=Heavy| Buckler[x]", "ALL"] :=
    ⟨_, rfl⟩
  have hspelled : Value.SpelledAlike raws := by
    rw [hraws]
    decide +kernel
  have hreorder : Value.IsReorderedList raws ["ALL", " Buckler|SHIELDTYPE=Heavy|Buckler[x]"] := by
    rw [hraws]
    refine ⟨_, .swap _ _ _, .cons ⟨["ALL"], "", ?_⟩ (.cons
      ⟨[" Buckler", "SHIELDTYPE=Heavy", "Buckler"], "[x]", ?_⟩ .nil)⟩ <;> decide +kernel
  obtain ⟨ctx, e, hread, hwrite⟩ : ∃ ctx e,
      ({} : LoadContext).decodeAll .shieldProf { key := "A" } raws = (ctx, .ok e) ∧
        ctx.encode .shieldProf e =
          .error (.inconsistent "AUTO:SHIELDPROF" ["ALL", "Buckler|SHIELDTYPE=Heavy[x]"]) := by
    rw [hraws]
    -- the entity, with the numbers that the references get in the given order
    refine ⟨_, { key := "A", slots := [
      ("SHIELDPROF", { payload := .refs [0] [1], condition := some ⟨"x"⟩ }),
      ("SHIELDPROF", { payload := .all 2 })] }, Prod.ext rfl ?hread, ?hwrite⟩ <;> decide +kernel
  obtain ⟨ctx', e', hread', hsame⟩ := encode_of_reordered hspelled hreorder hread
  exact ⟨raws, _, hraws, rfl, hspelled, hreorder, ctx, e, ctx', e', hread, hread', hwrite,
    hsame.trans hwrite⟩

end LoadContext

end GrantList
