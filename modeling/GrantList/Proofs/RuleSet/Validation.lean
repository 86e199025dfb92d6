import GrantList.Proofs.RoundTrip
import GrantList.RuleSet.Validation

/-!
# What a rule set without errors keeps

Validation writes each entity, reads the values again and compares the two written forms. If it
reports no error, everything that was written can be read again
(`RuleSet.accepts_of_validate`). The two entities need not be the same for that: a name that is
written as a marker or like a type group changes its meaning, and the comparison of the written
forms cannot see it.

Main result: `RuleSet.reread_keeps_grants_iff`, which says that the entity keeps its grants and its
choices exactly when the names in its grants are read as names. This is always so if the values of
the rule set are plain.
-/

namespace GrantList

/-! ### Reports only grow -/

namespace Report

theorem hasErrors_push_eq_false {r : Report} {severity : Severity} {context message : String}
    (h : (r.push severity context message).hasErrors = false) :
    r.hasErrors = false ∧ severity ≠ .error := by
  simpa [push, hasErrors] using h

end Report

namespace LoadContext

variable {ctx ctx' : LoadContext} {t : Token} {e : Entity} {values : List String}

theorem decodeAll_report {result : Except DecodeError Entity}
    (h : ctx.decodeAll t e values = (ctx', result)) : ctx'.report = ctx.report := by
  induction values generalizing ctx e with
  | nil =>
    cases h
    rfl
  | cons value values ih =>
    have hstep : (ctx.decode t e value).1.report = ctx.report := by
      rw [decode_eq]
    rw [decodeAll] at h
    split at h
    · next mid e₁ hdec =>
      rw [ih h, ← hstep, hdec]
    · next mid err hdec =>
      cases h
      rw [← hstep, hdec]

/-- Writing changes nothing but the report, and reports no warning. If it reports no error, it has
succeeded, and so it has if there are values. -/
theorem encodeReporting_spec (ctx : LoadContext) (t : Token) (e : Entity) :
    (ctx.encodeReporting t e).1.format = ctx.format ∧
      (ctx.encodeReporting t e).1.refs = ctx.refs ∧
        (ctx.encodeReporting t e).1.report.warnings = ctx.report.warnings ∧
          ((ctx.encodeReporting t e).2 ≠ [] →
            ctx.encode t e = .ok (ctx.encodeReporting t e).2) ∧
          ((ctx.encodeReporting t e).1.report.hasErrors = false →
            ctx.report.hasErrors = false ∧
              ctx.encode t e = .ok (ctx.encodeReporting t e).2) := by
  rw [encodeReporting]
  cases ctx.encode t e with
  | ok values => exact ⟨rfl, rfl, rfl, fun _ => rfl, fun h => ⟨h, rfl⟩⟩
  | error err =>
    exact ⟨rfl, rfl, Report.warnings_push_error _ _ _, fun h => absurd rfl h, fun h =>
      absurd rfl (Report.hasErrors_push_eq_false h).2⟩

end LoadContext

namespace RuleSet

variable {ctx ctx' : LoadContext} {entities : List Entity} {e : Entity} {values : List String}

/-! ### The check of one entity -/

/-- Checking an entity enters nothing but targets of what is written of it, and reports no warning.
If it reports no error, what was written can be read again. -/
theorem checkRoundTrip_spec (ctx : LoadContext) (e : Entity) :
    (checkRoundTrip ctx e).format = ctx.format ∧
      ctx.refs.GrowsBy (checkRoundTrip ctx e).refs
        {T | ∃ values, ctx.encode .shieldProf e = .ok values ∧
          T ∈ Token.shieldProf.targetsIn values} ∧
        (checkRoundTrip ctx e).report.warnings = ctx.report.warnings ∧
        ((checkRoundTrip ctx e).report.hasErrors = false →
          ctx.report.hasErrors = false ∧ ∀ values, ctx.encode .shieldProf e = .ok values →
            ∀ value ∈ values, ∃ v, Token.shieldProf.Accepts ctx.format value v) := by
  obtain ⟨hformat, hrefs, hwarnings, hwrite, hreport⟩ := ctx.encodeReporting_spec .shieldProf e
  rw [checkRoundTrip]
  cases hrun : ctx.encodeReporting .shieldProf e with
  | mk mid values =>
    rw [hrun] at hformat hrefs hwarnings hwrite hreport
    dsimp only at hformat hrefs hwarnings hwrite hreport
    cases values with
    | nil =>
      -- nothing was written, so nothing is read again
      refine ⟨hformat, hrefs ▸ .refl _ _, hwarnings, fun h =>
        ⟨(hreport h).1, fun values hvalues => ?_⟩⟩
      obtain rfl := Except.ok.inj ((hreport h).2.symm.trans hvalues)
      exact fun value hvalue => nomatch hvalue
    | cons value values =>
      have hvalues := hwrite (List.cons_ne_nil value values)
      dsimp only
      cases hread : mid.decodeAll .shieldProf { key := e.key } (value :: values) with
      | mk last result =>
        obtain ⟨hformat', hgrows⟩ := LoadContext.decodeAll_table hread
        have hlast := LoadContext.decodeAll_report hread
        rw [hformat] at hformat'
        rw [hrefs] at hgrows
        have hgrows' : ctx.refs.GrowsBy last.refs
            {T | ∃ values, ctx.encode .shieldProf e = .ok values ∧
              T ∈ Token.shieldProf.targetsIn values} := hgrows.mono fun T hT => ⟨_, hvalues, hT⟩
        rw [← hlast] at hwarnings
        cases result with
        | error err =>
          exact ⟨hformat', hgrows', (Report.warnings_push_error _ _ _).trans hwarnings, fun h =>
            absurd rfl (Report.hasErrors_push_eq_false h).2⟩
        | ok copy =>
          have haccepts := LoadContext.decodeAll_isOk_iff.mp ⟨last, copy, hread⟩
          rw [hformat] at haccepts
          -- whether the second written form agrees matters for the report alone
          obtain ⟨hformat₂, hrefs₂, hwarnings₂, -, hreport₂⟩ :=
            last.encodeReporting_spec .shieldProf copy
          dsimp only
          split
          · refine ⟨hformat₂.trans hformat', hrefs₂ ▸ hgrows', hwarnings₂.trans hwarnings,
              fun h => ?_⟩
            have hmid := hreport (hlast ▸ (hreport₂ h).1)
            refine ⟨hmid.1, fun values hvalues => ?_⟩
            obtain rfl := Except.ok.inj (hmid.2.symm.trans hvalues)
            exact haccepts
          · exact ⟨hformat₂.trans hformat', hrefs₂ ▸ hgrows',
              (Report.warnings_push_error _ _ _).trans (hwarnings₂.trans hwarnings), fun h =>
                absurd rfl (Report.hasErrors_push_eq_false h).2⟩

/-! ### The check of all entities -/

private theorem foldl_checkRoundTrip_spec
    (h : (entities.foldl checkRoundTrip ctx).report.hasErrors = false) :
    ctx.report.hasErrors = false ∧ ∀ e ∈ entities, ∃ mid : LoadContext, mid.format = ctx.format ∧
      ctx.refs.Extends mid.refs ∧ ∀ values, mid.encode .shieldProf e = .ok values →
        ∀ value ∈ values, ∃ v, Token.shieldProf.Accepts ctx.format value v := by
  -- an error that is reported stays, so each check has reported none
  induction entities generalizing ctx with
  | nil => exact ⟨h, nofun⟩
  | cons e entities ih =>
    obtain ⟨hformat, hgrows, -, hstep⟩ := checkRoundTrip_spec ctx e
    obtain ⟨hreport, hent⟩ := ih h
    obtain ⟨hctx, haccepts⟩ := hstep hreport
    refine ⟨hctx, List.forall_mem_cons.mpr ⟨⟨ctx, rfl, .refl _, haccepts⟩, fun e' he' => ?_⟩⟩
    obtain ⟨mid, hmid, hext', haccepts'⟩ := hent e' he'
    rw [hformat] at hmid haccepts'
    exact ⟨mid, hmid, hgrows.grown.trans hext', haccepts'⟩

/-- If validation reports no error, every value that is written of an entity is accepted. -/
theorem accepts_of_validate {rules : RuleSet} (hvalid : (rules.validate none).hasErrors = false)
    (hcompile : rules.compile {} = (ctx, entities)) (he : e ∈ entities)
    (hwrite : ctx.encode .shieldProf e = .ok values) :
    ∀ value ∈ values, ∃ v, Token.shieldProf.Accepts .verbatim value v := by
  have hformat : ctx.format = .verbatim := (compile_table hcompile).1
  obtain ⟨record, -, -, hloaded⟩ :=
    isLoaded_of_compile (ReferenceTable.wellFormed_empty .shieldProf) hcompile he
  rw [validate, hcompile] at hvalid
  obtain ⟨-, hent⟩ := foldl_checkRoundTrip_spec hvalid
  obtain ⟨mid, hmid, hext, haccepts⟩ := hent e he
  rw [hformat] at hmid haccepts
  refine haccepts values ?_
  rw [LoadContext.encode, hmid, hloaded.encode_of_extends hext, ← hwrite, LoadContext.encode,
    hformat]

end RuleSet

/-! ### Grants as sets of references -/

namespace Entity

/-- The grants of an entity, each taken as its references and its condition. -/
def grantRefs (e : Entity) : Set (Set Ref × Option Condition) :=
  {shape | ∃ g ∈ e.grantsIn Token.shieldProf.name,
    shape = ({r | r ∈ g.payload.toList}, g.condition)}

namespace IsLoaded

variable {e copy : Entity} {format : ConditionFormat} {refs refs' : ReferenceTable}
  {raws values : List String} {g g' : Grant}

/-- In a table without repetition, the references of a grant are told by its targets. -/
private theorem mem_toList_iff_of_isLoaded (he : e.IsLoaded format refs raws)
    (hg : g ∈ e.grantsIn Token.shieldProf.name) {r : Ref} :
    r ∈ g.payload.toList ↔ ∃ T ∈ g.payload.targets refs, refs.target? r = some T := by
  obtain ⟨_, hcov, -⟩ := he.exists_covers hg
  constructor
  · intro hr
    obtain ⟨_, _, _, T, _, hT, _⟩ := hcov.target?_of_mem hr
    exact ⟨T, ⟨r, hr, hT⟩, hT⟩
  · rintro ⟨T, ⟨r', hr', hT'⟩, hT⟩
    rwa [he.wellFormed.distinct.ref_unique hT hT' rfl]

/-- Grants name the same targets when they hold the same references, and the other way round. -/
private theorem targets_eq_iff (he : e.IsLoaded format refs raws)
    (hg : g ∈ e.grantsIn Token.shieldProf.name) (hcopy : copy.IsLoaded format refs values)
    (hg' : g' ∈ copy.grantsIn Token.shieldProf.name) :
    g'.payload.targets refs = g.payload.targets refs ↔
      {r | r ∈ g'.payload.toList} = {r | r ∈ g.payload.toList} := by
  constructor
  · intro h
    ext r
    exact (hcopy.mem_toList_iff_of_isLoaded hg').trans
      (h ▸ (he.mem_toList_iff_of_isLoaded hg).symm)
  · intro h
    ext T
    exact exists_congr fun r => and_congr_left fun _ => Set.ext_iff.mp h r

/-- Entities of one table have the same grants as sets of references when they have the same grants
as sets of targets. -/
theorem grantRefs_eq_of_grantShapes_eq (he : e.IsLoaded format refs raws)
    (hcopy : copy.IsLoaded format refs values)
    (h : copy.grantShapes refs = e.grantShapes refs) : copy.grantRefs = e.grantRefs := by
  ext shape
  constructor
  · rintro ⟨g', hg', rfl⟩
    obtain ⟨g, hg, hshape⟩ := (Set.ext_iff.mp h _).mp ⟨g', hg', rfl⟩
    obtain ⟨htargets, hcond⟩ := Prod.mk.inj hshape
    rw [(targets_eq_iff he hg hcopy hg').mp htargets, hcond]
    exact ⟨g, hg, rfl⟩
  · rintro ⟨g, hg, rfl⟩
    obtain ⟨g', hg', hshape⟩ := (Set.ext_iff.mp h _).mpr ⟨g, hg, rfl⟩
    obtain ⟨htargets, hcond⟩ := Prod.mk.inj hshape
    rw [← (targets_eq_iff he hg hcopy hg').mp htargets.symm, hcond]
    exact ⟨g', hg', rfl⟩

theorem grantShapes_of_extends (he : e.IsLoaded format refs raws) (hext : refs.Extends refs') :
    e.grantShapes refs' = e.grantShapes refs := by
  ext shape
  refine exists_congr fun g => and_congr_right fun hg => ?_
  obtain ⟨_, hcov, -⟩ := he.exists_covers hg
  rw [hcov.targets_of_extends hext]

theorem of_extends (he : e.IsLoaded format refs raws) (hext : refs.Extends refs')
    (hrefs : refs'.WellFormed .shieldProf) : e.IsLoaded format refs' raws :=
  ⟨he.holds.mono hext, hrefs⟩

end IsLoaded

end Entity

/-! ### Reading what was written of a rule set -/

namespace RuleSet

variable {ctx ctx' : LoadContext} {entities : List Entity} {e copy : Entity} {values : List String}
  {raws : List String}

/-- If the grants come back, their names were read as names. -/
private theorem ofText_eq_of_grantRefs_eq (he : e.IsLoaded .verbatim ctx.refs raws)
    (hwrite : Token.shieldProf.encode .verbatim ctx.refs e = .ok values)
    (hcopy : copy.IsLoaded .verbatim ctx'.refs values) (hext : ctx.refs.Extends ctx'.refs)
    (hsame : copy.grantRefs = e.grantRefs) {g : Grant}
    (hg : g ∈ e.grantsIn Token.shieldProf.name) {n : String}
    (hn : .named .shieldProf n ∈ g.payload.targets ctx.refs) :
    Value.Segment.ofText .shieldProf n = .name n := by
  obtain ⟨-, -, -, hwrites, -⟩ := Token.encode_eq_ok_iff.mp hwrite
  obtain ⟨r, hr, hrT⟩ := hn
  -- a grant that was read holds the same reference, and so has a name that means the same
  obtain ⟨g', hg', hshape⟩ := (Set.ext_iff.mp hsame _).mpr ⟨g, hg, rfl⟩
  have hr' : r ∈ g'.payload.toList := Set.ext_iff.mp (Prod.mk.inj hshape).1 r |>.mp hr
  obtain ⟨v, ⟨value, hvalue, hv⟩, hcov, -⟩ := hcopy.holds.of_grant hg'
  obtain ⟨s, hs, T, T', hT, hT', hfold⟩ := hcov.target?_of_mem hr'
  obtain rfl := Option.some_inj.mp ((hext.target? hrT).symm.trans hT')
  obtain ⟨text, rfl, rfl, hkey⟩ := Value.Segment.eq_name_of_target?_folded hT hfold
  -- this name was written, so it is the one spelling of that meaning
  obtain ⟨htext, hread⟩ := he.named_mem_of_name_mem ((hwrites value).mp hvalue)
    (Value.segments_eq hv.ofText ▸ hs)
  have heq := he.wellFormed.distinct.target_unique (ReferenceTable.mem_targets_of_target? hrT) htext
    (congrArg (Target.named .shieldProf) hkey)
  rwa [(Target.named.inj heq).2]

/-- An entity of a rule set without errors that is written and read again keeps its grants and its
choices exactly when all names in its grants are read as names, as they are if the values of
the rule set are plain. -/
theorem reread_keeps_grants_iff {rules : RuleSet} (key : String)
    (hvalid : (rules.validate none).hasErrors = false)
    (hcompile : rules.compile {} = (ctx, entities)) (he : e ∈ entities)
    (hwrite : ctx.encode .shieldProf e = .ok values) :
    ∃ ctx' copy, ctx.decodeAll .shieldProf { key } values = (ctx', .ok copy) ∧
      (copy.grantRefs = e.grantRefs ∧ copy.choiceConditions = e.choiceConditions ↔
        ∀ g ∈ e.grantsIn Token.shieldProf.name, ∀ n,
          .named .shieldProf n ∈ g.payload.targets ctx.refs →
            Value.Segment.ofText .shieldProf n = .name n) ∧
      ((∀ value ∈ valuesIn rules.entities, Value.IsPlain value) →
        ∀ g ∈ e.grantsIn Token.shieldProf.name, ∀ n,
          .named .shieldProf n ∈ g.payload.targets ctx.refs →
            Value.Segment.ofText .shieldProf n = .name n) := by
  have hformat : ctx.format = .verbatim := (compile_table hcompile).1
  have haccepts := accepts_of_validate hvalid hcompile he hwrite
  obtain ⟨record, -, -, hloaded⟩ :=
    isLoaded_of_compile (ReferenceTable.wellFormed_empty .shieldProf) hcompile he
  rw [LoadContext.encode, hformat] at hwrite
  obtain ⟨ctx', copy, hread⟩ : ∃ ctx' copy,
      ctx.decodeAll .shieldProf { key } values = (ctx', .ok copy) :=
    LoadContext.decodeAll_isOk_iff.mpr (by rwa [hformat])
  have hcopy := LoadContext.isLoaded_of_decodeAll hloaded.wellFormed hread
  rw [hformat] at hcopy
  have hext := (LoadContext.decodeAll_table hread).2.grown
  refine ⟨ctx', copy, hread, ⟨fun hsame g hg n hn => ?_, fun hnames => ?_⟩,
    fun hplain g hg n hn => ?_⟩
  · exact ofText_eq_of_grantRefs_eq hloaded hwrite hcopy hext hsame.1 hg hn
  · have hback : e.ReadsBack ctx.refs := hloaded.readsBack_of_named hnames
    have hspells : ctx'.refs.Spells values := fun T hT T' hT' hfold =>
      hcopy.wellFormed.distinct.target_unique hT'
        (hext.mem (hloaded.mem_of_mem_targetsIn hwrite hback hT)) hfold
    have hshapes : copy.grantShapes ctx'.refs = e.grantShapes ctx'.refs := by
      rw [hloaded.grantShapes_of_extends hext]
      exact hloaded.grantShapes_eq hwrite hback hcopy hspells haccepts
    exact ⟨(hloaded.of_extends hext hcopy.wellFormed).grantRefs_eq_of_grantShapes_eq hcopy hshapes,
      hloaded.choiceConditions_eq hwrite hback hcopy haccepts⟩
  · obtain ⟨r, -, hr⟩ := hn
    have hmem := (compile_table hcompile).2.mem_of_empty (ReferenceTable.mem_targets_of_target? hr)
    exact (Value.IsPlain.named_of_mem_targetsIn hplain hmem).2

/-- An entity whose name was spelled by an earlier one keeps its grants. -/
theorem reread_keeps_grants_iff_shared :
    (validate ⟨[⟨"A", [" B "]⟩, ⟨"C", ["b[x]", "%LIST"]⟩]⟩ none).hasErrors = false ∧
      ∃ ctx entities,
        compile ⟨[⟨"A", [" B "]⟩, ⟨"C", ["b[x]", "%LIST"]⟩]⟩ {} = (ctx, entities) ∧
        ∃ e ∈ entities, ctx.encode .shieldProf e = .ok ["%LIST", "B[x]"] ∧
          ∃ ctx' copy,
            ctx.decodeAll .shieldProf { key := "D" } ["%LIST", "B[x]"] = (ctx', .ok copy) ∧
              copy.grantRefs = e.grantRefs ∧ copy.choiceConditions = e.choiceConditions := by
  obtain ⟨rules, hrules⟩ : ∃ rules : RuleSet,
      rules = ⟨[⟨"A", [" B "]⟩, ⟨"C", ["b[x]", "%LIST"]⟩]⟩ := ⟨_, rfl⟩
  have hvalid : (rules.validate none).hasErrors = false := by
    rw [hrules]
    decide +kernel
  have hplain : ∀ value ∈ valuesIn rules.entities, Value.IsPlain value := by
    rw [hrules]
    decide +kernel
  have hwritten : ∃ e ∈ (rules.compile {}).2,
      ((rules.compile {}).1.encode .shieldProf e).toOption = some ["%LIST", "B[x]"] := by
    rw [hrules]
    decide +kernel
  obtain ⟨ctx, entities, hcompile⟩ : ∃ ctx entities, rules.compile {} = (ctx, entities) :=
    ⟨_, _, Prod.mk.eta.symm⟩
  rw [hcompile] at hwritten
  obtain ⟨e, he, hwrite⟩ := hwritten
  have hwrite := eq_ok_of_toOption_eq_some hwrite
  obtain ⟨ctx', copy, hread, hiff, hnames⟩ := reread_keeps_grants_iff "D" hvalid hcompile he hwrite
  rw [← hrules]
  exact ⟨hvalid, ctx, entities, hcompile, e, he, hwrite, ctx', copy, hread,
    hiff.mpr (hnames hplain)⟩

/-- A rule set without errors may change its meaning when it is written and read again: a name that
only its blank tells apart from the marker of a choice becomes a choice. -/
theorem exists_grants_not_kept :
    ¬ ∀ (key : String) (rules : RuleSet) (ctx : LoadContext) (entities : List Entity) (e : Entity)
      (values : List String), (rules.validate none).hasErrors = false →
        rules.compile {} = (ctx, entities) → e ∈ entities →
          ctx.encode .shieldProf e = .ok values → values ≠ [] →
            ∃ ctx' copy, ctx.decodeAll .shieldProf { key } values = (ctx', .ok copy) ∧
              copy.grantRefs = e.grantRefs ∧ copy.choiceConditions = e.choiceConditions := by
  intro h
  obtain ⟨rules, hrules⟩ : ∃ rules : RuleSet, rules = ⟨[⟨"A", [" %LIST"]⟩]⟩ := ⟨_, rfl⟩
  have hvalid : (rules.validate none).hasErrors = false := by
    rw [hrules]
    decide +kernel
  have hwritten : ∃ e ∈ (rules.compile {}).2, ((rules.compile {}).1.encode .shieldProf e).toOption =
      some ["%LIST"] ∧ ∃ g ∈ e.grantsIn Token.shieldProf.name, True := by
    rw [hrules]
    decide +kernel
  have hcopy : (((rules.compile {}).1.decodeAll .shieldProf { key := "B" }
      ["%LIST"]).2.toOption.map (·.grantsIn Token.shieldProf.name)) = some [] := by
    rw [hrules]
    decide +kernel
  obtain ⟨ctx, entities, hcompile⟩ : ∃ ctx entities, rules.compile {} = (ctx, entities) :=
    ⟨_, _, Prod.mk.eta.symm⟩
  rw [hcompile] at hwritten hcopy
  obtain ⟨e, he, hwrite, g, hg, -⟩ := hwritten
  obtain ⟨ctx', copy, hread, hsame, -⟩ := h "B" rules ctx entities e ["%LIST"] hvalid hcompile he
    (eq_ok_of_toOption_eq_some hwrite) (List.cons_ne_nil _ _)
  rw [hread] at hcopy
  have hnone : copy.grantsIn Token.shieldProf.name = [] := Option.some_inj.mp hcopy
  obtain ⟨g', hg', -⟩ := (Set.ext_iff.mp hsame _).mpr ⟨g, hg, rfl⟩
  rw [hnone] at hg'
  cases hg'

end RuleSet

end GrantList
