import GrantList.Proofs.RuleSet.Warnings
import GrantList.Proofs.Sense

/-!
# The trace of a rejected value

A value that is rejected gives its entity nothing, but the table keeps what was entered before the
value was rejected. So taking such a value out of a rule set leaves all entities with the same
grants and choices, and only the spellings in the table may change. They do so for no more than the
targets that the value was the first to enter (`RuleSet.Hole.entered`).

Main result: `RuleSet.Hole.compile_without`. What is written of an entity stays the same unless one
of those targets is spelled differently in the entity, and the warnings of a validation stay the
same unless one of them is a name that the registry does not know.
-/

namespace GrantList

namespace RuleSet

/-- A rule set with a place for one more value. -/
structure Hole where
  /-- The records before the one with the place. -/
  before : List EntityRecord := []
  /-- The key of the record with the place. -/
  key : String
  /-- The values of this record before the place. -/
  earlier : List String := []
  /-- The values of this record after the place. -/
  later : List String := []
  /-- The records after the one with the place. -/
  after : List EntityRecord := []

namespace Hole

/-- The rule set in which the record with the place has the given values. -/
def withValues (hole : Hole) (values : List String) : RuleSet :=
  ⟨hole.before ++ ⟨hole.key, values⟩ :: hole.after⟩

/-- The rule set with a value at the place. -/
def fill (hole : Hole) (value : String) : RuleSet :=
  hole.withValues (hole.earlier ++ value :: hole.later)

/-- The rule set without a value at the place. -/
def without (hole : Hole) : RuleSet :=
  hole.withValues (hole.earlier ++ hole.later)

/-- The context in which a value at the place is read. -/
def context (hole : Hole) : LoadContext :=
  (compile ⟨hole.before ++ [⟨hole.key, hole.earlier⟩]⟩ {}).1

/-- The value is rejected at the place. -/
def Rejects (hole : Hole) (value : String) : Prop :=
  ∃ err, (hole.context.decode .shieldProf { key := hole.key } value).2 = .error err

/-- The targets that the value is the first to enter when it is read at the place. -/
def entered (hole : Hole) (value : String) : List Target :=
  hole.context.refs.since (hole.context.decode .shieldProf { key := hole.key } value).1.refs

end Hole

/-! ### The records around the place -/

/-- Whether a record is kept does not depend on its values, nor does it whether others are. -/
private theorem kept_append_cons (seen : List String) (before after : List EntityRecord)
    (key : String) :
    ∃ first last : List EntityRecord,
      (∀ values, kept seen (before ++ ⟨key, values⟩ :: after) = first ++ last) ∨
        ∀ values, kept seen (before ++ ⟨key, values⟩ :: after) = first ++ ⟨key, values⟩ :: last ∧
          kept seen (before ++ [⟨key, values⟩]) = first ++ [⟨key, values⟩] := by
  induction before generalizing seen with
  | nil =>
    by_cases hblank : Text.isBlankText key = true
    · exact ⟨[], kept seen after, Or.inl fun values => by simp [kept, hblank]⟩
    · by_cases hseen : Text.lowerCase key ∈ seen
      · exact ⟨[], kept seen after, Or.inl fun values => by simp [kept, hblank, hseen]⟩
      · exact ⟨[], kept (Text.lowerCase key :: seen) after, Or.inr fun values => by
          simp [kept, hblank, hseen]⟩
  | cons record before ih =>
    simp only [List.cons_append, kept]
    split
    · exact ih seen
    · split
      · exact ih seen
      · obtain ⟨first, last, h | h⟩ := ih (Text.lowerCase record.key :: seen)
        · exact ⟨record :: first, last, Or.inl fun values => by rw [h, List.cons_append]⟩
        · refine ⟨record :: first, last, Or.inr fun values => ?_⟩
          rw [(h values).1, (h values).2, List.cons_append, List.cons_append]
          exact ⟨rfl, rfl⟩

namespace Hole

variable {hole : Hole} {value : String} {ctx ctx' : LoadContext} {entities entities' : List Entity}

/-- The records that are kept with the value and without it, and those up to the place. -/
private theorem kept_fill (hole : Hole) (value : String) :
    kept [] (hole.fill value).entities = kept [] hole.without.entities ∨
      ∃ first last : List EntityRecord,
        kept [] (hole.fill value).entities =
            first ++ ⟨hole.key, hole.earlier ++ value :: hole.later⟩ :: last ∧
          kept [] hole.without.entities =
            first ++ ⟨hole.key, hole.earlier ++ hole.later⟩ :: last ∧
          kept [] (hole.before ++ [⟨hole.key, hole.earlier⟩]) =
            first ++ [⟨hole.key, hole.earlier⟩] := by
  obtain ⟨first, last, h | h⟩ := kept_append_cons [] hole.before hole.after hole.key
  · exact Or.inl ((h _).trans (h _).symm)
  · exact Or.inr ⟨first, last, (h _).1, (h _).1, (h _).2⟩

theorem context_format (hole : Hole) : hole.context.format = .verbatim :=
  (compile_table (rfl : compile _ {} = (hole.context, _))).1

/-- Only the text of a value decides whether it is rejected, so the value is rejected for every
entity that it is read for. -/
theorem rejects_iff :
    hole.Rejects value ↔ ∀ v, ¬ Token.shieldProf.Accepts .verbatim value v := by
  rw [← hole.context_format]
  cases hdec : hole.context.decode .shieldProf { key := hole.key } value with
  | mk mid result =>
    rw [Rejects, hdec]
    cases result with
    | error err => exact ⟨fun _ => LoadContext.not_accepts_of_decode hdec, fun _ => ⟨err, rfl⟩⟩
    | ok e =>
      obtain ⟨v, hv, -⟩ := LoadContext.decode_eq_ok hdec
      exact ⟨fun ⟨_, herr⟩ => (nomatch herr), fun h => absurd hv (h v)⟩

/-! ### The two tables -/

/-- Both tables come from the context of the place by the same values, once the value has been
entered or not. If the record is not kept, the tables are the same. -/
private theorem refs_fill (hwith : (hole.fill value).compile {} = (ctx, entities))
    (hwithout : hole.without.compile {} = (ctx', entities')) :
    ctx.refs = ctx'.refs ∨ ∃ values : List String,
      ctx.refs = values.foldl (Token.shieldProf.enter .verbatim)
          (Token.shieldProf.enter .verbatim hole.context.refs value) ∧
        ctx'.refs = values.foldl (Token.shieldProf.enter .verbatim) hole.context.refs := by
  obtain ⟨-, -, hrefs, -⟩ := compile_spec hwith
  obtain ⟨-, -, hrefs', -⟩ := compile_spec hwithout
  obtain ⟨-, -, hcontext, -⟩ := compile_spec
    (rfl : compile ⟨hole.before ++ [⟨hole.key, hole.earlier⟩]⟩ {} = (hole.context, _))
  obtain heq | ⟨first, last, hkept, hkept', hupto⟩ := kept_fill hole value
  · exact Or.inl (by rw [hrefs, hrefs', heq])
  · have hvalues : ∀ values, valuesIn (first ++ ⟨hole.key, hole.earlier ++ values⟩ :: last) =
        valuesIn (first ++ [⟨hole.key, hole.earlier⟩]) ++ (values ++ valuesIn last) := by
      intro values
      simp [valuesIn]
    refine Or.inr ⟨hole.later ++ valuesIn last, ?_, ?_⟩
    · rw [hrefs, hkept, hvalues, List.foldl_append, ← hupto, ← hcontext]
      rfl
    · rw [hrefs', hkept', hvalues, List.foldl_append, ← hupto, ← hcontext]
      rfl

theorem entered_eq (hole : Hole) (value : String) : hole.entered value =
    hole.context.refs.since (Token.shieldProf.enter .verbatim hole.context.refs value) := by
  rw [entered, LoadContext.decode_fst, hole.context_format]

private theorem extends_enter (hole : Hole) (value : String) :
    hole.context.refs.Extends (Token.shieldProf.enter .verbatim hole.context.refs value) :=
  (ReferenceTable.GrowsBy.enter hole.context.refs .shieldProf .verbatim value).grown

/-- What the value was the first to enter is in the table at the end, unless the value had no part
in it. -/
private theorem mem_targets_of_mem_entered (hwith : (hole.fill value).compile {} = (ctx, entities))
    (hwithout : hole.without.compile {} = (ctx', entities')) :
    ctx.refs = ctx'.refs ∨ ∀ T ∈ hole.entered value, T ∈ ctx.refs.targets := by
  refine (refs_fill hwith hwithout).imp_right ?_
  rintro ⟨values, hrefs, -⟩ T hT
  rw [entered_eq] at hT
  rw [hrefs]
  refine (ReferenceTable.GrowsBy.foldl_enter _ .shieldProf .verbatim values).grown.mem ?_
  rw [(extends_enter hole value).targets_eq]
  exact List.mem_append_right _ hT

/-- The tables agree on every class that leaves out what the value was the first to enter. -/
theorem agreeOn_fill (hwith : (hole.fill value).compile {} = (ctx, entities))
    (hwithout : hole.without.compile {} = (ctx', entities')) {p : Target → Bool}
    (hp : Target.Respects p) (hnew : ∀ T ∈ hole.entered value, p T = false) :
    ctx.refs.AgreeOn p ctx'.refs := by
  obtain heq | ⟨values, hrefs, hrefs'⟩ := refs_fill hwith hwithout
  · rw [heq]
    exact .refl p ctx'.refs
  · rw [entered_eq] at hnew
    have hplace : hole.context.refs.AgreeOn p
        (Token.shieldProf.enter .verbatim hole.context.refs value) :=
      .of_extends (extends_enter hole value) hnew
    rw [hrefs, hrefs']
    exact hplace.symm.foldl_enter hp .shieldProf .verbatim values

/-- What means the same is spelled the same in both tables, unless the value was the first to enter
it. -/
theorem target_eq_or_mem_entered (hwith : (hole.fill value).compile {} = (ctx, entities))
    (hwithout : hole.without.compile {} = (ctx', entities')) {T T' : Target}
    (hT : T ∈ ctx.refs.targets) (hT' : T' ∈ ctx'.refs.targets) (hfold : T.folded = T'.folded) :
    T = T' ∨ T ∈ hole.entered value := by
  have hempty : ({} : LoadContext).refs.Distinct := ReferenceTable.distinct_empty
  have hdistinct : ctx.refs.Distinct := (compile_table hwith).2.distinct hempty
  have hdistinct' : ctx'.refs.Distinct := (compile_table hwithout).2.distinct hempty
  have hagree : ctx.refs.AgreeOn (Target.isApartFrom (hole.entered value)) ctx'.refs :=
    agreeOn_fill hwith hwithout (Target.respects_isApartFrom _) fun T₀ hT₀ =>
      Target.isApartFrom_eq_false_iff.mpr ⟨T₀, hT₀, rfl⟩
  cases hapart : T.isApartFrom (hole.entered value) with
  | true => exact Or.inl (hdistinct'.target_unique ((hagree.mem_iff hapart).mp hT) hT' hfold)
  | false =>
    obtain ⟨T₀, hT₀, hfold₀⟩ := Target.isApartFrom_eq_false_iff.mp hapart
    obtain heq | hentered := mem_targets_of_mem_entered hwith hwithout
    · exact Or.inl (hdistinct'.target_unique (heq ▸ hT) hT' hfold)
    · rw [hdistinct.target_unique hT (hentered T₀ hT₀) hfold₀.symm]
      exact Or.inr hT₀

/-! ### The two lists of entities -/

private theorem accepted_append_cons {format : ConditionFormat} {earlier later : List String}
    (h : ∀ v, ¬ Token.shieldProf.Accepts format value v) :
    Token.shieldProf.accepted format (earlier ++ value :: later) =
      Token.shieldProf.accepted format (earlier ++ later) := by
  ext v
  constructor
  · rintro ⟨text, htext, hv⟩
    refine ⟨text, ?_, hv⟩
    have hne : text ≠ value := by
      rintro rfl
      exact h v hv
    simpa [hne] using htext
  · rintro ⟨text, htext, hv⟩
    refine ⟨text, ?_, hv⟩
    simp only [List.mem_append, List.mem_cons] at htext ⊢
    exact htext.imp_right Or.inr

/-- Two lists are paired as the lists are that they were made from. -/
private theorem forall₂_of_forall₂ {α β : Type} {S : α → α → Prop} {R R' : α → β → Prop}
    {Q : β → β → Prop} {l l' : List α} {m m' : List β} (hS : List.Forall₂ S l l')
    (hR : List.Forall₂ R l m) (hR' : List.Forall₂ R' l' m')
    (h : ∀ {a a' b b'}, S a a' → R a b → R' a' b' → Q b b') : List.Forall₂ Q m m' := by
  induction hS generalizing m m' with
  | nil =>
    cases hR
    cases hR'
    exact .nil
  | cons hs _ ih =>
    cases hR with
    | cons hr hR =>
      cases hR' with
      | cons hr' hR' => exact .cons (h hs hr hr') (ih hR hR')

/-- The entities are paired, and those of a pair hold what the same values say. -/
private theorem forall₂_isLoaded (hreject : hole.Rejects value)
    (hwith : (hole.fill value).compile {} = (ctx, entities))
    (hwithout : hole.without.compile {} = (ctx', entities')) :
    List.Forall₂ (fun e e' => e.key = e'.key ∧ ∃ values : List String,
      e.IsLoaded .verbatim ctx.refs values ∧ e'.IsLoaded .verbatim ctx'.refs values)
        entities entities' := by
  have hempty : ({} : LoadContext).refs.WellFormed .shieldProf :=
    ReferenceTable.wellFormed_empty .shieldProf
  have hrefs := (compile_table hwith).2.wellFormed hempty
  have hrefs' := (compile_table hwithout).2.wellFormed hempty
  obtain ⟨-, -, -, hentities⟩ := compile_spec hwith
  obtain ⟨-, -, -, hentities'⟩ := compile_spec hwithout
  have hrecords : List.Forall₂ (fun record record' : EntityRecord => record.key = record'.key ∧
      Token.shieldProf.accepted .verbatim record.values =
        Token.shieldProf.accepted .verbatim record'.values)
      (kept [] (hole.fill value).entities) (kept [] hole.without.entities) := by
    obtain heq | ⟨first, last, hkept, hkept', -⟩ := kept_fill hole value
    · rw [heq]
      exact List.forall₂_same.mpr fun _ _ => ⟨rfl, rfl⟩
    · rw [hkept, hkept']
      refine List.rel_append (List.forall₂_same.mpr fun _ _ => ⟨rfl, rfl⟩)
        (.cons ⟨rfl, accepted_append_cons (rejects_iff.mp hreject)⟩
          (List.forall₂_same.mpr fun _ _ => ⟨rfl, rfl⟩))
  refine forall₂_of_forall₂ hrecords hentities hentities' ?_
  rintro record record' e e' ⟨hkeys, haccepted⟩ ⟨hkey, hholds⟩ ⟨hkey', hholds'⟩
  refine ⟨hkey.trans (hkeys.trans hkey'.symm), record.values, ⟨hholds, hrefs⟩, ?_, hrefs'⟩
  rwa [haccepted]

/-- Two entities that hold what the same values say are written alike if each target that the value
was the first to enter is spelled alike in both. -/
private theorem encode_eq_of_spelled_alike (hwith : (hole.fill value).compile {} = (ctx, entities))
    (hwithout : hole.without.compile {} = (ctx', entities')) {e e' : Entity} {values : List String}
    (he : e.IsLoaded .verbatim ctx.refs values) (he' : e'.IsLoaded .verbatim ctx'.refs values)
    (hspelled : ∀ T ∈ hole.entered value, ∀ g ∈ e'.grantsIn Token.shieldProf.name,
      ∀ T' ∈ g.payload.targets ctx'.refs, T.folded = T'.folded → T = T') :
    ctx.encode .shieldProf e = ctx'.encode .shieldProf e' := by
  have hformat : ctx.format = .verbatim := (compile_table hwith).1
  have hformat' : ctx'.format = .verbatim := (compile_table hwithout).1
  have hshapes : e.grantShapes ctx.refs = e'.grantShapes ctx'.refs := by
    refine he.grantShapes_eq_of_grantSenses_eq he' ?_
      (he.grantSenses_eq_grantsSaid.trans he'.grantSenses_eq_grantsSaid.symm)
    rintro g - T ⟨ref, -, hT⟩ g' hg' T' hT' hfold
    obtain ⟨ref', -, hmem'⟩ := id hT'
    obtain heq | hentered := target_eq_or_mem_entered hwith hwithout
      (ReferenceTable.mem_targets_of_target? hT)
      (ReferenceTable.mem_targets_of_target? hmem') hfold
    · exact heq
    · exact hspelled T hentered g' hg' T' hT' hfold
  rw [LoadContext.encode, LoadContext.encode, hformat, hformat']
  exact he.encode_eq_of_shapes_eq he' ConditionFormat.stable_verbatim hshapes
    (he.choiceConditions_eq_choicesSaid.trans he'.choiceConditions_eq_choicesSaid.symm)

/-- Validation warns of the same names if the registry knows each name that the value was the first
to enter. -/
private theorem warnings_without (hwith : (hole.fill value).compile {} = (ctx, entities))
    (hwithout : hole.without.compile {} = (ctx', entities')) {r : Registry}
    (hknown : ∀ n, .named .shieldProf n ∈ hole.entered value → (r.idOf? n).isSome) :
    ((hole.fill value).validate (some r)).warnings =
      (hole.without.validate (some r)).warnings := by
  have hnew : ∀ T ∈ hole.entered value, T.isUnknown r = false := by
    intro T hT
    cases T with
    | allOf c => rfl
    | typed c base types => rfl
    | named c n =>
      cases c with
      | equipment => rfl
      | shieldProf => simpa [Target.isUnknown, Option.isNone_eq_false_iff] using hknown n hT
  rw [warnings_validate hwith, warnings_validate hwithout,
    agreeOn_fill hwith hwithout (Target.respects_isUnknown r) hnew]

/-! ### Taking a rejected value out -/

/-- A rule set with a value that is rejected and the rule set without it have entities with the same
keys, in the same order, that have the same choices and the same grants, up to spelling.
What is written of an entity is the same unless the value was the first to enter one of its targets
and spells it differently. The warnings of a validation are the same unless the value was the
first to enter a name that the registry does not know. -/
theorem compile_without (hreject : hole.Rejects value)
    (hwith : (hole.fill value).compile {} = (ctx, entities))
    (hwithout : hole.without.compile {} = (ctx', entities')) :
    List.Forall₂ (fun e e' => e.key = e'.key ∧ e.choiceConditions = e'.choiceConditions ∧
      e.grantSenses ctx.refs = e'.grantSenses ctx'.refs ∧
      ((∀ T ∈ hole.entered value, ∀ g ∈ e'.grantsIn Token.shieldProf.name,
        ∀ T' ∈ g.payload.targets ctx'.refs, T.folded = T'.folded → T = T') →
          ctx.encode .shieldProf e = ctx'.encode .shieldProf e')) entities entities' ∧
    ∀ r : Registry, (∀ n, .named .shieldProf n ∈ hole.entered value → (r.idOf? n).isSome) →
      ((hole.fill value).validate (some r)).warnings =
        (hole.without.validate (some r)).warnings := by
  refine ⟨(forall₂_isLoaded hreject hwith hwithout).imp ?_, fun r hknown =>
    warnings_without hwith hwithout hknown⟩
  rintro e e' ⟨hkey, values, he, he'⟩
  exact ⟨hkey, he.choiceConditions_eq_choicesSaid.trans he'.choiceConditions_eq_choicesSaid.symm,
    he.grantSenses_eq_grantsSaid.trans he'.grantSenses_eq_grantsSaid.symm,
    encode_eq_of_spelled_alike hwith hwithout he he'⟩

/-- A value that only fails because everything stands beside names: the first of its names was
there before, and the registry knows the other. -/
theorem compile_without_known :
    ∃ hole : Hole, hole = { before := [⟨"A", ["Buckler"]⟩], key := "B", later := ["buckler[x]"] } ∧
      hole.Rejects "buckler|Kite|ALL" ∧
      hole.entered "buckler|Kite|ALL" = [.named .shieldProf "Kite", .allOf .shieldProf] ∧
      ∃ ctx entities ctx' entities',
        (hole.fill "buckler|Kite|ALL").compile {} = (ctx, entities) ∧
        hole.without.compile {} = (ctx', entities') ∧
        List.Forall₂ (fun e e' => e.key = e'.key ∧ e.choiceConditions = e'.choiceConditions ∧
          e.grantSenses ctx.refs = e'.grantSenses ctx'.refs ∧
            ctx.encode .shieldProf e = ctx'.encode .shieldProf e') entities entities' ∧
        ∃ r : Registry, r = ({} : Registry).construct "Kite" ∧
          ((hole.fill "buckler|Kite|ALL").validate (some r)).warnings =
            (hole.without.validate (some r)).warnings := by
  obtain ⟨hole, hhole⟩ : ∃ hole : Hole,
      hole = { before := [⟨"A", ["Buckler"]⟩], key := "B", later := ["buckler[x]"] } := ⟨_, rfl⟩
  obtain ⟨r, hr⟩ : ∃ r : Registry, r = ({} : Registry).construct "Kite" := ⟨_, rfl⟩
  have hreject : hole.Rejects "buckler|Kite|ALL" := by
    refine exists_eq_error_of_toOption_eq_none ?_
    rw [hhole]
    decide +kernel
  have hentered : hole.entered "buckler|Kite|ALL" =
      [.named .shieldProf "Kite", .allOf .shieldProf] := by
    rw [hhole]
    decide +kernel
  have hknown : (r.idOf? "Kite").isSome := by
    rw [hr]
    decide +kernel
  obtain ⟨ctx, entities, hwith⟩ : ∃ ctx entities,
      (hole.fill "buckler|Kite|ALL").compile {} = (ctx, entities) := ⟨_, _, rfl⟩
  obtain ⟨ctx', entities', hwithout⟩ : ∃ ctx' entities',
      hole.without.compile {} = (ctx', entities') := ⟨_, _, rfl⟩
  have htargets : ctx'.refs.targets = [.named .shieldProf "Buckler"] := by
    have hrefs : (hole.without.compile {}).1.refs.targets = [.named .shieldProf "Buckler"] := by
      rw [hhole]
      decide +kernel
    rwa [hwithout] at hrefs
  have hapart : ∀ T ∈ [Target.named .shieldProf "Kite", .allOf .shieldProf],
      T.folded ≠ (Target.named .shieldProf "Buckler").folded := by
    decide +kernel
  obtain ⟨hentities, hwarnings⟩ := compile_without hreject hwith hwithout
  rw [hentered] at hentities hwarnings
  refine ⟨hole, hhole, hreject, hentered, ctx, entities, ctx', entities', hwith, hwithout,
    hentities.imp ?_, r, hr, hwarnings r ?_⟩
  · rintro e e' ⟨hkey, hchoices, hsenses, hencode⟩
    refine ⟨hkey, hchoices, hsenses, hencode ?_⟩
    -- the table holds nothing that means the same as what was entered
    rintro T hT g - T' ⟨ref, -, hT'⟩ hfold
    have hmem : T' ∈ ctx'.refs.targets := ReferenceTable.mem_targets_of_target? hT'
    rw [htargets, List.mem_singleton] at hmem
    exact absurd (hmem ▸ hfold) (hapart T hT)
  · intro n hn
    obtain rfl : n = "Kite" := by simpa using hn
    exact hknown

/-- A rejected value may leave a trace: when it was the first to enter a name, the name keeps its
spelling, and so it is written and so the validation warns of it. -/
theorem exists_trace_of_rejected :
    ∃ hole : Hole, hole = { key := "A", later := ["Buckler"] } ∧ hole.Rejects "buckler|ALL" ∧
      ∃ ctx e ctx' e',
        (hole.fill "buckler|ALL").compile {} = (ctx, [e]) ∧
        hole.without.compile {} = (ctx', [e']) ∧
        ctx.encode .shieldProf e = .ok ["buckler"] ∧
        ctx'.encode .shieldProf e' = .ok ["Buckler"] ∧
        ((hole.fill "buckler|ALL").validate (some {})).warnings =
          [unconstructedWarning "buckler"] ∧
        (hole.without.validate (some {})).warnings = [unconstructedWarning "Buckler"] := by
  obtain ⟨hole, hhole⟩ : ∃ hole : Hole, hole = { key := "A", later := ["Buckler"] } := ⟨_, rfl⟩
  have hreject : hole.Rejects "buckler|ALL" := by
    refine exists_eq_error_of_toOption_eq_none ?_
    rw [hhole]
    decide +kernel
  have hentities : ((hole.fill "buckler|ALL").compile {}).2.length = 1 ∧
      (hole.without.compile {}).2.length = 1 := by
    rw [hhole]
    decide +kernel
  have hwritten : (∀ e ∈ ((hole.fill "buckler|ALL").compile {}).2,
      (((hole.fill "buckler|ALL").compile {}).1.encode .shieldProf e).toOption =
        some ["buckler"]) ∧ ∀ e ∈ (hole.without.compile {}).2,
      ((hole.without.compile {}).1.encode .shieldProf e).toOption = some ["Buckler"] := by
    rw [hhole]
    decide +kernel
  have hwarnings : ((hole.fill "buckler|ALL").validate (some {})).warnings =
      [unconstructedWarning "buckler"] ∧
        (hole.without.validate (some {})).warnings = [unconstructedWarning "Buckler"] := by
    rw [hhole]
    decide +kernel
  cases hwith : (hole.fill "buckler|ALL").compile {} with
  | mk ctx entities =>
    cases hwithout : hole.without.compile {} with
    | mk ctx' entities' =>
      rw [hwith, hwithout] at hentities hwritten
      obtain ⟨e, rfl⟩ := List.length_eq_one_iff.mp hentities.1
      obtain ⟨e', rfl⟩ := List.length_eq_one_iff.mp hentities.2
      exact ⟨hole, hhole, hreject, ctx, e, ctx', e', hwith, hwithout,
        eq_ok_of_toOption_eq_some (hwritten.1 e (List.mem_singleton_self e)),
        eq_ok_of_toOption_eq_some (hwritten.2 e' (List.mem_singleton_self e')), hwarnings⟩

end Hole

end RuleSet

end GrantList
