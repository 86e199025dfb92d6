import GrantList.Proofs.Refusal
import GrantList.Proofs.RuleSet.Places
import GrantList.Proofs.RuleSet.Warnings

/-!
# What a validation reports

If the values of a rule set are plain, the check of an entity reports nothing unless the entity is
inconsistent, and it leaves the table as it is: what was written is read again as it stands, and all
of it is in the table already.

Main result: `RuleSet.diagnostics_validate`. Validation reports what compiling has reported, then
one error for each inconsistent entity, and then one warning for each name that the registry does
not know.
-/

namespace GrantList

/-- The diagnostic is the error for an inconsistent entity. It names the key of the entity and lists
all texts of the entity. -/
structure Diagnostic.IsInconsistencyOf (d : Diagnostic) (e : Entity) (refs : ReferenceTable) :
    Prop where
  /-- It is an error. -/
  severity : d.severity = .error
  /-- It names the entity and the token. -/
  context : d.context = e.key ++ " AUTO:SHIELDPROF"
  /-- It lists the texts of the entity in increasing order. -/
  message : ∃ values : List String, values.Pairwise (· < ·) ∧
    (∀ value, value ∈ values ↔ Token.shieldProf.Writes .verbatim refs e value) ∧
    d.message = "Non-sensical AUTO:SHIELDPROF: Contains ALL and a specific reference: " ++
      Text.quoteList values

namespace RuleSet

variable {ctx : LoadContext} {entities : List Entity} {e : Entity} {raws : List String}

/-! ### The check of one entity -/

/-- An inconsistent entity is reported when it is written, and there is nothing to read again. -/
theorem checkRoundTrip_of_isInconsistent (he : e.IsLoaded .verbatim ctx.refs raws)
    (hformat : ctx.format = .verbatim) (hback : e.ReadsBack ctx.refs)
    (h : e.IsInconsistent .shieldProf) :
    ∃ d : Diagnostic, d.IsInconsistencyOf e ctx.refs ∧ checkRoundTrip ctx e = ctx.pushAll [d] := by
  obtain ⟨values, hsorted, hmem, hencode⟩ :=
    he.exists_encode_eq_of_readsBack ConditionFormat.stable_verbatim hback
  rw [if_pos h, ← hformat] at hencode
  have hcontext : e.key ++ " " ++ Token.shieldProf.fullName = e.key ++ " AUTO:SHIELDPROF" := by
    rw [String.append_assoc]
    rfl
  have hmessage : (EncodeError.inconsistent Token.shieldProf.fullName values).message =
      "Non-sensical AUTO:SHIELDPROF: Contains ALL and a specific reference: " ++
        Text.quoteList values :=
    congrArg (· ++ Text.quoteList values) (by decide)
  refine ⟨⟨.error, _, _⟩, ⟨rfl, hcontext, values, hsorted, hmem, hmessage⟩, ?_⟩
  rw [checkRoundTrip, LoadContext.encodeReporting, LoadContext.encode, hencode]
  rfl

/-- Any other entity passes the check, and leaves nothing behind. -/
theorem checkRoundTrip_of_not_isInconsistent (he : e.IsLoaded .verbatim ctx.refs raws)
    (hformat : ctx.format = .verbatim) (hnames : e.KeepsNames ctx.refs)
    (h : ¬ e.IsInconsistent .shieldProf) : checkRoundTrip ctx e = ctx := by
  have hback : e.ReadsBack ctx.refs := he.readsBack_of_keepsNames hnames
  obtain ⟨values, -, -, hencode⟩ :=
    he.exists_encode_eq_of_readsBack ConditionFormat.stable_verbatim hback
  rw [if_neg h] at hencode
  have hwrite : ctx.encode .shieldProf e = .ok values := by
    rw [LoadContext.encode, hformat, hencode]
  rw [checkRoundTrip, LoadContext.encodeReporting, hwrite]
  cases values with
  | nil => rfl
  | cons value values =>
    have hvalues : Value.IsCanonicalList ctx.format (value :: values) := by
      rw [hformat]
      exact he.isCanonicalList ConditionFormat.stable_verbatim hnames hencode
        (List.cons_ne_nil value values)
    -- all that was written is in the table, in the one spelling of its meaning
    have hmem : ∀ T ∈ Token.shieldProf.targetsIn (value :: values), T ∈ ctx.refs.targets :=
      fun T => he.mem_of_mem_targetsIn hencode hback
    have hspells : ctx.refs.Spells (value :: values) := fun T hT T' hT' hfold =>
      he.wellFormed.distinct.target_unique hT' (hmem T hT) hfold
    obtain ⟨ctx', copy, hread, hrewrite⟩ :=
      LoadContext.encode_of_isCanonicalList he.wellFormed hvalues hspells e.key
    have hsame : ctx' = ctx := by
      have := LoadContext.decodeAll_fst_of_found (e := { key := e.key })
        fun T hT => ReferenceTable.isSome_find?_of_mem (hmem T hT)
      rwa [hread] at this
    subst hsame
    simp only [hread, LoadContext.encodeReporting, hrewrite, if_pos]

/-! ### The check of all entities -/

/-- Checking entities adds one error for each inconsistent one, in order, and nothing else. -/
theorem foldl_checkRoundTrip_eq
    (hentities : ∀ e ∈ entities,
      (∃ raws, e.IsLoaded .verbatim ctx.refs raws) ∧ e.KeepsNames ctx.refs)
    (hformat : ctx.format = .verbatim) :
    ∃ errors : List Diagnostic,
      List.Forall₂ (fun e d => d.IsInconsistencyOf e ctx.refs)
        (entities.filter (·.IsInconsistent .shieldProf)) errors ∧
      entities.foldl checkRoundTrip ctx = ctx.pushAll errors := by
  induction entities generalizing ctx with
  | nil => exact ⟨[], .nil, ctx.pushAll_nil.symm⟩
  | cons e entities ih =>
    obtain ⟨⟨⟨raws, he⟩, hnames⟩, hentities⟩ := List.forall_mem_cons.mp hentities
    rw [List.foldl_cons, List.filter_cons]
    by_cases h : e.IsInconsistent .shieldProf
    · obtain ⟨d, hd, heq⟩ := checkRoundTrip_of_isInconsistent he hformat
        (he.readsBack_of_keepsNames hnames) h
      obtain ⟨errors, herrors, hrest⟩ := @ih (ctx.pushAll [d]) hentities hformat
      rw [if_pos (decide_eq_true h), heq, hrest, ← LoadContext.pushAll_append]
      exact ⟨d :: errors, .cons hd herrors, rfl⟩
    · rw [checkRoundTrip_of_not_isInconsistent he hformat hnames h, if_neg (by simpa using h)]
      exact ih hentities hformat

/-- If the values of a rule set are plain, accepted or not, then validation reports what compiling
has reported, then one error for each inconsistent entity, in the order of the entities, and then,
if there is a registry, one warning for each name in the table that the registry does not know, in
the order in which the names were entered. It reports nothing else, and the table is as compiling
has left it. -/
theorem diagnostics_validate {rules : RuleSet}
    (hplain : ∀ value ∈ valuesIn rules.entities, Value.IsPlain value)
    (hcompile : rules.compile {} = (ctx, entities)) :
    ∃ errors : List Diagnostic,
      List.Forall₂ (fun e d => d.IsInconsistencyOf e ctx.refs)
        (entities.filter (·.IsInconsistent .shieldProf)) errors ∧
      (rules.validate none).diagnostics = ctx.report.diagnostics ++ errors ∧
      (∀ r, (rules.validate (some r)).diagnostics = ctx.report.diagnostics ++ errors ++
        (ctx.refs.targets.filter (Target.isUnknown r)).map (unconstructedWarning ·.label)) ∧
      (entities.foldl checkRoundTrip ctx).refs = ctx.refs := by
  have hempty : ({} : LoadContext).refs.WellFormed .shieldProf :=
    ReferenceTable.wellFormed_empty .shieldProf
  obtain ⟨hformat, hgrows⟩ := compile_table hcompile
  have hentities : ∀ e ∈ entities,
      (∃ raws, e.IsLoaded .verbatim ctx.refs raws) ∧ e.KeepsNames ctx.refs := by
    intro e he
    obtain ⟨record, -, -, hloaded⟩ := isLoaded_of_compile hempty hcompile he
    exact ⟨⟨record.values, hloaded⟩, Entity.keepsNames_of_isPlain hplain hgrows e⟩
  obtain ⟨errors, herrors, heq⟩ := foldl_checkRoundTrip_eq hentities hformat
  refine ⟨errors, herrors, ?_, fun r => ?_, by rw [heq]; rfl⟩
  · rw [validate, hcompile]
    change (entities.foldl checkRoundTrip ctx).report.diagnostics = _
    rw [heq]
    rfl
  · rw [validate, hcompile]
    change (warnUnconstructed (entities.foldl checkRoundTrip ctx) r).report.diagnostics = _
    rw [heq, diagnostics_warnUnconstructed]
    change _ ++ (ctx.refs.unconstructed r).map unconstructedWarning = _
    rw [ReferenceTable.unconstructed_eq (hgrows.wellFormed hempty), List.map_map]
    rfl

/-- Everything beside a name and a choice is reported, everything alone is not, nor is everything
under a condition. A name of a rejected value is warned of like one that is granted. -/
theorem diagnostics_validate_inconsistent :
    ∃ rules ctx entities errors, rules = (⟨[⟨"A", ["ALL", "%LIST[x]", "Kite"]⟩, ⟨"a", ["Tower"]⟩,
        ⟨"B", ["Buckler|ALL", "ALL[y]", " Kite "]⟩, ⟨"C", ["ALL"]⟩]⟩ : RuleSet) ∧
      (∀ value ∈ valuesIn rules.entities, Value.IsPlain value) ∧
      rules.compile {} = (ctx, entities) ∧
      (rules.validate (some { names := ["Kite"] })).diagnostics.map
          (fun d => (d.severity, d.context)) =
        [(.error, "entities[1].key"), (.error, "B.auto_shieldprof[0]"),
          (.error, "A AUTO:SHIELDPROF"), (.warning, "AUTO:SHIELDPROF")] ∧
      List.Forall₂ (fun e d => d.IsInconsistencyOf e ctx.refs)
        (entities.filter (·.IsInconsistent .shieldProf)) errors ∧
      (rules.validate (some { names := ["Kite"] })).diagnostics =
        ctx.report.diagnostics ++ errors ++
          (ctx.refs.targets.filter (Target.isUnknown { names := ["Kite"] })).map
            (unconstructedWarning ·.label) ∧
      (entities.foldl checkRoundTrip ctx).refs = ctx.refs := by
  obtain ⟨rules, hrules⟩ : ∃ rules : RuleSet,
      rules = ⟨[⟨"A", ["ALL", "%LIST[x]", "Kite"]⟩, ⟨"a", ["Tower"]⟩,
        ⟨"B", ["Buckler|ALL", "ALL[y]", " Kite "]⟩, ⟨"C", ["ALL"]⟩]⟩ := ⟨_, rfl⟩
  have hplain : ∀ value ∈ valuesIn rules.entities, Value.IsPlain value := by
    rw [hrules]
    decide +kernel
  obtain ⟨ctx, entities, hcompile⟩ : ∃ ctx entities, rules.compile {} = (ctx, entities) :=
    ⟨_, _, Prod.mk.eta.symm⟩
  obtain ⟨errors, herrors, -, hreport, hrefs⟩ := diagnostics_validate hplain hcompile
  refine ⟨rules, ctx, entities, errors, hrules, hplain, hcompile, ?_, herrors, hreport _, hrefs⟩
  rw [hrules]
  decide +kernel

end RuleSet

end GrantList
