import GrantList.Proofs.Reference.Agreement
import GrantList.Proofs.Registry
import GrantList.Proofs.RuleSet.Validation

/-!
# The warnings of a validation

Validation warns of the names that the registry does not know. By then the written forms of all
entities have been read again, but a name that was written was in the table before, so reading it
again enters no name (`RuleSet.warnings_validate`). The warnings are told by the table that
compiling has left, and by no more of it than the names that are not known (`Target.isUnknown`).
-/

namespace GrantList

/-- The target is a name that the registry does not know. -/
def Target.isUnknown (r : Registry) : Target → Bool
  | .named .shieldProf name => (r.idOf? name).isNone
  | _ => false

theorem Target.respects_isUnknown (r : Registry) : Target.Respects (Target.isUnknown r) := by
  intro T T' hfold
  cases T with
  | allOf c =>
    cases T' with
    | allOf c' => rfl
    | named c' name' => cases hfold
    | typed c' base' types' => cases hfold
  | typed c base types =>
    cases T' with
    | allOf c' => cases hfold
    | named c' name' => cases hfold
    | typed c' base' types' => rfl
  | named c name =>
    cases T' with
    | allOf c' => cases hfold
    | typed c' base' types' => cases hfold
    | named c' name' =>
      obtain ⟨rfl, hkey⟩ := Target.named.inj hfold
      cases c with
      | shieldProf => rw [Target.isUnknown, Target.isUnknown, r.idOf?_congr hkey]
      | equipment => rfl

/-- The warning of a name that is not known. -/
def unconstructedWarning (name : String) : Diagnostic where
  severity := .warning
  context := Token.shieldProf.fullName
  message := "unconstructed reference '" ++ name ++ "'"

namespace ReferenceTable

/-- In a table of shield proficiencies, what denotes nothing is a name that is not known. -/
theorem unconstructed_eq {refs : ReferenceTable} (hrefs : refs.WellFormed .shieldProf)
    (r : Registry) :
    refs.unconstructed r = (refs.targets.filter (Target.isUnknown r)).map (·.label) := by
  have hunknown : ∀ T ∈ refs.targets,
      (T.isNamed && (T.denotes r).isEmpty) = T.isUnknown r := by
    intro T hT
    cases hrefs.writable hT with
    | all => rfl
    | typeGroup _ _ _ => rfl
    | @name n _ _ =>
      change (true && (r.idOf? n).toList.isEmpty) = (r.idOf? n).isNone
      cases r.idOf? n <;> rfl
  rw [← List.filter_congr hunknown, targets, List.filter_map, List.map_map]
  rfl

end ReferenceTable

namespace RuleSet

variable {ctx : LoadContext} {entities : List Entity}

theorem diagnostics_warnUnconstructed (ctx : LoadContext) (r : Registry) :
    (warnUnconstructed ctx r).report.diagnostics =
      ctx.report.diagnostics ++ (ctx.refs.unconstructed r).map unconstructedWarning := by
  rw [warnUnconstructed]
  generalize ctx.refs.unconstructed r = names
  induction names generalizing ctx with
  | nil => simp
  | cons name names ih =>
    rw [List.foldl_cons, ih, List.map_cons, List.append_cons]
    rfl

theorem warnings_warnUnconstructed (ctx : LoadContext) (r : Registry) :
    (warnUnconstructed ctx r).report.warnings =
      ctx.report.warnings ++ (ctx.refs.unconstructed r).map unconstructedWarning := by
  have hall : ((ctx.refs.unconstructed r).map unconstructedWarning).filter
      (·.severity == .warning) = (ctx.refs.unconstructed r).map unconstructedWarning :=
    List.filter_eq_self.mpr fun d hd => by
      obtain ⟨name, -, rfl⟩ := List.mem_map.mp hd
      rfl
  rw [Report.warnings, diagnostics_warnUnconstructed, List.filter_append, hall, Report.warnings]

/-- A check of a loaded entity enters no name that was not there. -/
private theorem checkRoundTrip_agreeOn {e : Entity} {raws : List String}
    (he : e.IsLoaded .verbatim ctx.refs raws) (hformat : ctx.format = .verbatim) (r : Registry) :
    (checkRoundTrip ctx e).refs.WellFormed .shieldProf ∧
      ctx.refs.AgreeOn (Target.isUnknown r) (checkRoundTrip ctx e).refs := by
  obtain ⟨-, hgrows, -, -⟩ := checkRoundTrip_spec ctx e
  have hwellFormed : (checkRoundTrip ctx e).refs.WellFormed .shieldProf := by
    refine ⟨hgrows.distinct he.wellFormed.distinct, fun hT => ?_⟩
    obtain hT | ⟨values, -, value, -, s, hs, hT⟩ := hgrows.mem_targets hT
    · exact he.wellFormed.writable hT
    · exact Value.writable_of_mem_segmentsOf hs hT
  refine ⟨hwellFormed, .of_extends hgrows.grown fun T hT => ?_⟩
  have hnew := hwellFormed.distinct.not_mem_of_mem_since hgrows.grown hT
  have hmem : T ∈ (checkRoundTrip ctx e).refs.targets := by
    rw [hgrows.grown.targets_eq]
    exact List.mem_append_right _ hT
  obtain ⟨values, hwrite, value, hvalue, s, hs, hsT⟩ := (hgrows.mem_targets hmem).resolve_left hnew
  cases T with
  | allOf c => rfl
  | typed c base types => rfl
  | named c n =>
    -- a name that was written is in the table as it stands
    obtain ⟨text, rfl, hname, -⟩ := Value.Segment.eq_name_of_target?_folded hsT rfl
    rw [LoadContext.encode, hformat] at hwrite
    obtain ⟨-, -, -, hwrites, -⟩ := Token.encode_eq_ok_iff.mp hwrite
    obtain ⟨htext, -⟩ := he.named_mem_of_name_mem ((hwrites value).mp hvalue) hs
    cases he.wellFormed.writable htext with
    | name htrim _ =>
      rw [htrim] at hname
      exact absurd (hname ▸ htext) hnew

/-- Checking entities enters no name that was not there, and reports no warning. -/
private theorem foldl_checkRoundTrip_agreeOn
    (hentities : ∀ e ∈ entities, ∃ raws, e.IsLoaded .verbatim ctx.refs raws)
    (hformat : ctx.format = .verbatim) (hrefs : ctx.refs.WellFormed .shieldProf) (r : Registry) :
    (entities.foldl checkRoundTrip ctx).refs.WellFormed .shieldProf ∧
      ctx.refs.AgreeOn (Target.isUnknown r) (entities.foldl checkRoundTrip ctx).refs ∧
        (entities.foldl checkRoundTrip ctx).report.warnings = ctx.report.warnings := by
  induction entities generalizing ctx with
  | nil => exact ⟨hrefs, .refl _ _, rfl⟩
  | cons e entities ih =>
    obtain ⟨⟨raws, he⟩, hentities⟩ := List.forall_mem_cons.mp hentities
    obtain ⟨hformat', hgrows, hwarnings, -⟩ := checkRoundTrip_spec ctx e
    obtain ⟨hrefs', hagree⟩ := checkRoundTrip_agreeOn he hformat r
    -- the entities that are left are loaded in the table that has grown
    have hrest : ∀ e' ∈ entities,
        ∃ raws, e'.IsLoaded .verbatim (checkRoundTrip ctx e).refs raws := by
      intro e' he'
      obtain ⟨raws', hloaded⟩ := hentities e' he'
      exact ⟨raws', hloaded.of_extends hgrows.grown hrefs'⟩
    obtain ⟨hlast, hagree', hwarnings'⟩ := ih hrest (hformat'.trans hformat) hrefs'
    exact ⟨hlast, hagree.trans hagree', hwarnings'.trans hwarnings⟩

/-- Validation warns of the names that were entered in compiling and that the registry does not
know, in the order in which they were entered. -/
theorem warnings_validate {rules : RuleSet} (hcompile : rules.compile {} = (ctx, entities))
    (r : Registry) :
    (rules.validate (some r)).warnings =
      (ctx.refs.targets.filter (Target.isUnknown r)).map (unconstructedWarning ·.label) := by
  have hempty : ({} : LoadContext).refs.WellFormed .shieldProf :=
    ReferenceTable.wellFormed_empty .shieldProf
  obtain ⟨hformat, hwarnings, -, -⟩ := compile_spec hcompile
  have hrefs := (compile_table hcompile).2.wellFormed hempty
  have hentities : ∀ e ∈ entities, ∃ raws, e.IsLoaded .verbatim ctx.refs raws := by
    intro e he
    obtain ⟨record, -, -, hloaded⟩ := isLoaded_of_compile hempty hcompile he
    exact ⟨record.values, hloaded⟩
  obtain ⟨hlast, hagree, hwarnings'⟩ := foldl_checkRoundTrip_agreeOn hentities hformat hrefs r
  rw [validate, hcompile]
  change (warnUnconstructed (entities.foldl checkRoundTrip ctx) r).report.warnings = _
  rw [warnings_warnUnconstructed, hwarnings', hwarnings, ReferenceTable.unconstructed_eq hlast,
    ← hagree, List.map_map]
  rfl

end RuleSet

end GrantList
