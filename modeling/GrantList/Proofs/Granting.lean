import GrantList.Granting
import GrantList.Proofs.Except
import GrantList.Proofs.Loading
import GrantList.Proofs.Reference.Denotation
import GrantList.Proofs.Value.Segment

/-!
# What an entity grants is what its values say

The text of a segment stands for capabilities of a registry by rules that know nothing of tables
and entities (`Value.StandsFor`). A reference to a segment is bound to just these capabilities, in
whatever spelling the table has kept the target. So an entity grants the capabilities for which the
segments of its accepted values stand, and nothing else that was loaded has a part in it.

Main result: `LoadContext.granted_of_decodeEach`.
-/

namespace GrantList

namespace Value

/-- The text of a segment stands for the capability with number `id`. -/
inductive StandsFor (r : Registry) (id : CapabilityId) : String → Prop
  /-- The marker of everything, in any case, stands for all capabilities. -/
  | all {s : String} (hs : Text.SameAscii s "ALL") (hid : id < r.size) : StandsFor r id s
  /-- A type group stands for what is required by the shields that have all its types. -/
  | typeGroup {s expr : String} (hs : IsGroupText s expr) {item : Equipment}
    (hitem : item ∈ r.equipment)
    (htypes : ∀ w ∈ "SHIELD" :: Text.split '.' expr, ∃ t ∈ item.types, Text.SameAscii t w)
    {name : String} (hname : item.proficiency = some name) (hid : r.IsCalled id name) :
    StandsFor r id s
  /-- Any other text but the marker of a choice stands for the capability that is called so. -/
  | name {s : String} (hchoice : s ≠ "%LIST") (hall : ¬ Text.SameAscii s "ALL")
    (hgroup : ∀ expr, ¬ IsGroupText s expr) (hid : r.IsCalled id s) : StandsFor r id s

variable {r : Registry} {id : CapabilityId} {s : String} {T : Target}

/-- A segment stands for what its target denotes. -/
theorem mem_denotes_iff_standsFor (hr : r.Built)
    (hT : (Segment.ofText .shieldProf s).target? .shieldProf = some T) :
    id ∈ T.denotes r ↔ StandsFor r id s := by
  cases hof : Segment.ofText .shieldProf s with
  | choice =>
    rw [hof] at hT
    cases hT
  | all =>
    rw [hof] at hT
    obtain rfl := Option.some_inj.mp hT
    have hs := Segment.ofText_eq_all_iff.mp hof
    rw [Token.shieldProf, Target.mem_denotes_allOf]
    refine ⟨.all hs, fun h => ?_⟩
    cases h with
    | all _ hid => exact hid
    | typeGroup hgroup _ _ _ _ => exact absurd hs hgroup.not_sameAscii_allMarker
    | name _ hall _ _ => exact absurd hs hall
  | typeGroup expr =>
    have hs := Segment.ofText_eq_typeGroup_iff.mp hof
    rw [hof] at hT
    rw [Target.mem_denotes_ofTypes? hr hT]
    constructor
    · rintro ⟨item, hitem, htypes, name, hname, hid⟩
      exact .typeGroup hs hitem htypes hname hid
    · intro h
      cases h with
      | all hall _ => exact absurd hall hs.not_sameAscii_allMarker
      | typeGroup hs' hitem htypes hname hid =>
        -- only one expression follows the start of the text
        cases hof.symm.trans (Segment.ofText_eq_typeGroup_iff.mpr hs')
        exact ⟨_, hitem, htypes, _, hname, hid⟩
      | name _ _ hgroup _ => exact absurd hs (hgroup expr)
  | name text =>
    obtain ⟨rfl, hchoice, hall, hgroup⟩ := Segment.ofText_eq_name_iff.mp hof
    rw [hof] at hT
    obtain rfl := Option.some_inj.mp hT
    rw [Token.shieldProf, Target.mem_denotes_ofName hr]
    refine ⟨.name hchoice hall hgroup, fun h => ?_⟩
    cases h with
    | all hs _ => exact absurd hs hall
    | typeGroup hs _ _ _ _ => exact absurd hs (hgroup _)
    | name _ _ _ hid => exact hid

/-- The marker of a choice stands for nothing. -/
theorem StandsFor.ne_choice (h : StandsFor r id s) : Segment.ofText .shieldProf s ≠ .choice := by
  intro hof
  have hs := Segment.ofText_eq_choice_iff.mp hof
  cases h with
  | all hall _ => cases hof.symm.trans (Segment.ofText_eq_all_iff.mpr hall)
  | typeGroup hgroup _ _ _ _ => exact hgroup.ne_choiceMarker hs
  | name hchoice _ _ _ => exact hchoice hs

/-- No segment means equipment by its name. -/
theorem Segment.ne_named_equipment {s : Segment} (hT : s.target? .shieldProf = some T)
    (name : String) : T ≠ .named .equipment name := by
  rintro rfl
  cases s with
  | choice => cases hT
  | all => cases hT
  | typeGroup expr =>
    obtain ⟨-, h⟩ := Target.ofTypes?_eq_some_iff.mp hT
    cases h
  | name text => cases hT

end Value

/-! ### What is bound -/

namespace Entity

variable {refs : ReferenceTable} {e : Entity} {g : Grant} {V : Set Value}

/-- A grant gives what the targets of its segments denote, although its references may lead to
other spellings of these targets. -/
theorem boundOf_bind {l : List Value.Segment} (hcov : g.payload.Covers .shieldProf refs l)
    (r : Registry) :
    ∃ ids, boundOf (refs.bind r) g = .ok ids ∧
      ∀ id, id ∈ ids ↔ ∃ s ∈ l, ∃ T, s.target? .shieldProf = some T ∧ id ∈ T.denotes r := by
  have hbound : ∀ {s : Value.Segment} {T ref}, s.target? .shieldProf = some T →
      refs.find? T = some ref → (refs.bind r).boundAt ref = .ok (T.denotes r) := fun hT hfind =>
    ReferenceTable.boundAt_bind hfind (Value.Segment.ne_named_equipment hT) r
  have hok : ∀ ref ∈ g.payload.toList, ∃ ids, (refs.bind r).boundAt ref = .ok ids := by
    intro ref href
    obtain ⟨s, -, T, hT, hfind⟩ := hcov.mem_toList.mp href
    exact ⟨_, hbound hT hfind⟩
  obtain ⟨bound, hmap, hmem⟩ := exists_mapM_flatten hok
  -- the references of the payload are those of its segments, and each is bound
  refine ⟨bound.flatten, by rw [boundOf, hmap]; rfl, fun id => (hmem id).trans ⟨?_, ?_⟩⟩
  · rintro ⟨ref, href, ids, hids, hid⟩
    obtain ⟨s, hs, T, hT, hfind⟩ := hcov.mem_toList.mp href
    obtain rfl := Except.ok.inj (hids.symm.trans (hbound hT hfind))
    exact ⟨s, hs, T, hT, hid⟩
  · rintro ⟨s, hs, T, hT, hid⟩
    obtain ⟨ref, hfind⟩ := Option.isSome_iff_exists.mp (hcov.found hs hT)
    have href := hcov.mem_toList.mpr ⟨s, hs, T, hT, hfind⟩
    exact ⟨ref, href, _, hbound hT hfind, hid⟩

/-- An entity grants what the segments denote of those values that it holds and whose conditions
are met. -/
theorem Holds.granted_bind (he : e.Holds .shieldProf refs V) (r : Registry) (check : ConditionCheck)
    (c : Character) :
    ∃ ids, e.granted .shieldProf (refs.bind r) check c = .ok ids ∧ ids.Pairwise (· < ·) ∧
      ∀ id, id ∈ ids ↔ ∃ v ∈ V, check.passes v.condition c = true ∧
        ∃ s ∈ v.segments, ∃ T, s.target? .shieldProf = some T ∧ id ∈ T.denotes r := by
  have hok : ∀ g ∈ e.activeGrants .shieldProf check c,
      ∃ ids, boundOf (refs.bind r) g = .ok ids := by
    intro g hg
    obtain ⟨v, -, hcov, -⟩ := he.of_grant (List.mem_filter.mp hg).1
    obtain ⟨ids, hids, -⟩ := boundOf_bind hcov r
    exact ⟨ids, hids⟩
  obtain ⟨all, hmap, hmem⟩ := exists_mapM_flatten hok
  refine ⟨SortedSet.ofList all.flatten, by rw [granted, hmap]; rfl,
    SortedSet.pairwise_ofList _, fun id => ?_⟩
  rw [SortedSet.mem_ofList, hmem]
  -- a grant stands for the value it came from, with the condition of the value
  constructor
  · rintro ⟨g, hg, ids, hids, hid⟩
    obtain ⟨hg, hpass⟩ := List.mem_filter.mp hg
    obtain ⟨v, hv, hcov, hcond⟩ := he.of_grant hg
    obtain ⟨ids', hids', hmem'⟩ := boundOf_bind hcov r
    obtain rfl := Except.ok.inj (hids.symm.trans hids')
    exact ⟨v, hv, hcond ▸ hpass, (hmem' id).mp hid⟩
  · rintro ⟨v, hv, hpass, s, hs, T, hT, hid⟩
    have hne : s ≠ .choice := by
      rintro rfl
      cases hT
    obtain ⟨g, hg, hcov, hcond⟩ := he.exists_grant hv ⟨s, hs, hne⟩
    obtain ⟨ids, hids, hmem'⟩ := boundOf_bind hcov r
    have hactive : g ∈ e.activeGrants .shieldProf check c :=
      List.mem_filter.mpr ⟨hg, hcond ▸ hpass⟩
    exact ⟨g, hactive, ids, hids, (hmem' id).mpr ⟨s, hs, T, hT, hid⟩⟩

end Entity

/-! ### Loading and binding -/

namespace LoadContext

/-- The second context comes from the first by reading values onto any entities, by reporting and by
binding to registries. -/
inductive Reaches (ctx : LoadContext) : LoadContext → Prop
  /-- Nothing has happened. -/
  | refl : ctx.Reaches ctx
  /-- One more value was read, and was accepted or not. -/
  | decode {mid : LoadContext} (h : ctx.Reaches mid) (t : Token) (e : Entity) (value : String) :
    ctx.Reaches (mid.decode t e value).1
  /-- One more problem was reported. -/
  | push {mid : LoadContext} (h : ctx.Reaches mid) (severity : Severity)
    (context message : String) : ctx.Reaches (mid.push severity context message)
  /-- The references were bound. -/
  | bind {mid : LoadContext} (h : ctx.Reaches mid) (r : Registry) : ctx.Reaches (mid.bind r)

variable {ctx ctx' ctx'' : LoadContext} {r : Registry} {e : Entity} {values : List String}

theorem Reaches.extends (h : ctx.Reaches ctx') : ctx.refs.Extends ctx'.refs := by
  -- of all that may happen only reading changes the targets, and it only adds some
  induction h with
  | refl => exact .refl ctx.refs
  | @decode mid _ t e value ih => exact ih.trans (mid.growsBy_decode t e value).grown
  | push _ severity context message ih => exact ih
  | @bind mid _ r ih => exact ih.trans (mid.refs.extends_bind r)

/-- The segments of an accepted value denote what their texts stand for. -/
private theorem exists_target_iff_standsFor (hr : r.Built) {format : ConditionFormat}
    {value : String} {v : Value} (hv : Token.shieldProf.Accepts format value v)
    {id : CapabilityId} :
    (∃ s ∈ v.segments, ∃ T, s.target? .shieldProf = some T ∧ id ∈ T.denotes r) ↔
      ∃ s ∈ Text.split '|' (Value.payloadOf value), Value.StandsFor r id s := by
  have hsegments : v.segments =
      (Text.split '|' (Value.payloadOf value)).map (.ofText .shieldProf) :=
    Value.segments_eq hv.ofText
  constructor
  · rintro ⟨seg, hseg, T, hT, hid⟩
    rw [hsegments] at hseg
    obtain ⟨s, hs, rfl⟩ := List.mem_map.mp hseg
    exact ⟨s, hs, (Value.mem_denotes_iff_standsFor hr hT).mp hid⟩
  · rintro ⟨s, hs, hid⟩
    have hmem : Value.Segment.ofText .shieldProf s ∈ v.segments :=
      hsegments ▸ List.mem_map_of_mem hs
    obtain ⟨T, hT⟩ := Option.isSome_iff_exists.mp (hv.hasTargets _ hmem hid.ne_choice)
    exact ⟨_, hmem, T, hT, (Value.mem_denotes_iff_standsFor hr hT).mpr hid⟩

/-- What an entity grants is what its values say, whatever was loaded before them and after them: a
capability is granted exactly when a segment of an accepted value stands for it and the value has no
condition or one that is met. -/
theorem granted_of_decodeEach {key : String}
    (h : ctx.decodeEach .shieldProf { key } values = (ctx', e)) (hreach : ctx'.Reaches ctx'')
    (hr : r.Built) (check : ConditionCheck) (c : Character) :
    ∃ ids, e.granted .shieldProf (ctx''.bind r).refs check c = .ok ids ∧ ids.Pairwise (· < ·) ∧
      ∀ id, id ∈ ids ↔ ∃ value ∈ values, ∃ v, Token.shieldProf.Accepts ctx.format value v ∧
        (∀ condition ∈ v.condition, check condition c = true) ∧
          ∃ s ∈ Text.split '|' (Value.payloadOf value), Value.StandsFor r id s := by
  obtain ⟨-, hholds⟩ := holds_of_decodeEach h (Entity.holds_new key .shieldProf ctx.refs)
  rw [Set.union_empty] at hholds
  obtain ⟨ids, hids, hsorted, hmem⟩ := (hholds.mono hreach.extends).granted_bind r check c
  refine ⟨ids, hids, hsorted, fun id => (hmem id).trans ⟨?_, ?_⟩⟩
  · rintro ⟨v, ⟨value, hvalue, hv⟩, hpass, hid⟩
    refine ⟨value, hvalue, v, hv, ?_, (exists_target_iff_standsFor hr hv).mp hid⟩
    simpa [ConditionCheck.passes, Option.all_eq_true] using hpass
  · rintro ⟨value, hvalue, v, hv, hpass, hid⟩
    refine ⟨v, ⟨value, hvalue, hv⟩, ?_, (exists_target_iff_standsFor hr hv).mpr hid⟩
    simpa [ConditionCheck.passes, Option.all_eq_true] using hpass

/-- Of a name that was entered before in another spelling, everything under a condition that is not
met, and a type group that is rejected, only the name counts. -/
theorem granted_of_decodeEach_respelled :
    ∃ ctx e r, (({} : LoadContext).decode .shieldProf { key := "A" } "b").1.decodeEach .shieldProf
        { key := "B" } [" B ", "ALL[x]", "SHIELDTYPE."] = (ctx, e) ∧
      r = (({} : Registry).construct "c").construct "b" ∧ ctx.Reaches ctx ∧ r.Built ∧
        e.granted .shieldProf (ctx.bind r).refs (fun condition _ => condition.text == "y")
          { name := "V" } = .ok [1] ∧
        ∀ id, id ∈ [1] ↔ ∃ value ∈ [" B ", "ALL[x]", "SHIELDTYPE."], ∃ v,
          Token.shieldProf.Accepts .verbatim value v ∧
            (∀ condition ∈ v.condition, (condition.text == "y") = true) ∧
              ∃ s ∈ Text.split '|' (Value.payloadOf value), Value.StandsFor r id s := by
  obtain ⟨r, hr⟩ : ∃ r, r = (({} : Registry).construct "c").construct "b" := ⟨_, rfl⟩
  have hbuilt : r.Built := hr ▸ (Registry.Built.empty.construct "c").construct "b"
  have hloaded : ∃ ctx e, (({} : LoadContext).decode .shieldProf { key := "A" } "b").1.decodeEach
        .shieldProf { key := "B" } [" B ", "ALL[x]", "SHIELDTYPE."] = (ctx, e) ∧
      e.granted .shieldProf (ctx.bind r).refs (fun condition _ => condition.text == "y")
        { name := "V" } = .ok [1] := by
    refine ⟨_, _, Prod.mk.eta.symm, eq_ok_of_toOption_eq_some ?_⟩
    rw [hr]
    decide +kernel
  obtain ⟨ctx, e, hread, hrun⟩ := hloaded
  obtain ⟨ids, hids, -, hmem⟩ := granted_of_decodeEach hread .refl hbuilt
    (fun condition _ => condition.text == "y") { name := "V" }
  obtain rfl := Except.ok.inj (hids.symm.trans hrun)
  rw [decode_format] at hmem
  exact ⟨ctx, e, r, hread, hr, .refl, hbuilt, hrun, hmem⟩

end LoadContext

end GrantList
