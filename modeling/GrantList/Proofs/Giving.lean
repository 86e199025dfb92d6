import GrantList.Proofs.Granting
import GrantList.Proofs.Holdings
import GrantList.Proofs.RoundTrip
import GrantList.Proofs.Shape

/-!
# What an entity gives depends on its shape

The capabilities that the grants of an entity give are those that the targets denote in its shape,
under the conditions that are met (`Entity.IsLoaded.granted_bind`). What choices give is told by
their conditions, as long as these do not look at the character
(`Entity.mem_capabilityIds_applyChoices`). So entities of one shape give the same to every
character, however many grants and choices they hold and in whatever order.

Main result: `LoadContext.reload_gives`, that saving an entity and loading it again does not change
what it gives.
-/

namespace GrantList

/-! ### Grants -/

namespace Entity.IsLoaded

variable {e e' : Entity} {format format' : ConditionFormat} {refs refs' : ReferenceTable}
  {raws raws' : List String}

/-- An entity grants what the targets in its shape denote under the conditions that are met. -/
theorem granted_bind (he : e.IsLoaded format refs raws) (r : Registry) (check : ConditionCheck)
    (c : Character) :
    ∃ ids, e.granted .shieldProf (refs.bind r) check c = .ok ids ∧ ids.Pairwise (· < ·) ∧
      ∀ id, id ∈ ids ↔ ∃ shape ∈ e.grantShapes refs, check.passes shape.2 c = true ∧
        ∃ T ∈ shape.1, id ∈ T.denotes r := by
  obtain ⟨ids, hids, hsorted, hmem⟩ := he.holds.granted_bind r check c
  -- a reference leads to a spelling of the target of a segment, and both denote the same
  have hdenotes : ∀ {s : Value.Segment} {T T' : Target}, s.target? .shieldProf = some T →
      T'.folded = T.folded → T.denotes r = T'.denotes r := fun hT hfold =>
    Target.denotes_congr hfold.symm (Value.Segment.ne_named_equipment hT) r
  refine ⟨ids, hids, hsorted, fun id => (hmem id).trans ⟨?_, ?_⟩⟩
  · rintro ⟨v, hv, hpass, s, hs, T, hT, hid⟩
    have hne : s ≠ .choice := by
      rintro rfl
      cases hT
    obtain ⟨g, hg, hcov, hcond⟩ := he.holds.exists_grant hv ⟨s, hs, hne⟩
    obtain ⟨ref, href⟩ := Option.isSome_iff_exists.mp (hcov.found hs hT)
    obtain ⟨T', hT', hfold⟩ := ReferenceTable.target?_of_find? href
    have hmem' : T' ∈ g.payload.targets refs :=
      ⟨ref, hcov.mem_toList.mpr ⟨s, hs, T, hT, href⟩, hT'⟩
    exact ⟨_, ⟨g, hg, rfl⟩, hcond ▸ hpass, T', hmem', hdenotes hT hfold ▸ hid⟩
  · rintro ⟨_, ⟨g, hg, rfl⟩, hpass, T', ⟨ref, href, hT'⟩, hid⟩
    obtain ⟨v, hv, hcov, hcond⟩ := he.holds.of_grant hg
    obtain ⟨s, hs, T, T'', hT, hT'', hfold⟩ := hcov.target?_of_mem href
    obtain rfl := Option.some_inj.mp (hT'.symm.trans hT'')
    exact ⟨v, hv, hcond ▸ hpass, s, hs, T, hT, (hdenotes hT hfold).symm ▸ hid⟩

/-- Entities with the same grant shapes grant the same, each in its own table. -/
theorem granted_eq_of_grantShapes_eq (he : e.IsLoaded format refs raws)
    (he' : e'.IsLoaded format' refs' raws') (h : e.grantShapes refs = e'.grantShapes refs')
    (r : Registry) (check : ConditionCheck) (c : Character) :
    ∃ ids, e.granted .shieldProf (refs.bind r) check c = .ok ids ∧
      e'.granted .shieldProf (refs'.bind r) check c = .ok ids := by
  obtain ⟨ids, hids, hsorted, hmem⟩ := he.granted_bind r check c
  obtain ⟨ids', hids', hsorted', hmem'⟩ := he'.granted_bind r check c
  have heq : ids = ids' := hsorted.eq_of_mem_iff hsorted' fun id => by rw [hmem, hmem', h]
  exact ⟨ids, hids, heq ▸ hids'⟩

end Entity.IsLoaded

/-! ### Choices -/

/-- The check asks about the condition alone, whoever the character is. -/
def ConditionCheck.IgnoresCharacter (check : ConditionCheck) : Prop :=
  ∀ condition c c', check condition c = check condition c'

theorem ConditionCheck.IgnoresCharacter.passes_eq {check : ConditionCheck}
    (h : check.IgnoresCharacter) (condition : Option Condition) (c c' : Character) :
    check.passes condition c = check.passes condition c' := by
  cases condition with
  | none => rfl
  | some condition => exact h condition c c'

theorem Character.mem_capabilityIds_attach {c : Character} {owner name : String} {r : Registry}
    {id : CapabilityId} :
    id ∈ (c.attach owner r name).capabilityIds ↔ id ∈ c.capabilityIds ∨ r.idOf? name = some id := by
  rw [attach]
  cases r.idOf? name with
  | none => simp
  | some id' => rw [mem_capabilityIds_add, Option.some.injEq, eq_comm]

/-- One choice gives the capability of the name if the condition of the grant is met. -/
theorem ChoiceGrant.mem_capabilityIds_apply {g : ChoiceGrant} {c : Character}
    {owner name : String} {r : Registry} {check : ConditionCheck} {id : CapabilityId} :
    id ∈ (g.apply c owner r check name).capabilityIds ↔
      id ∈ c.capabilityIds ∨ check.passes g.condition c = true ∧ r.idOf? name = some id := by
  rw [apply]
  split
  · next hpass => rw [Character.mem_capabilityIds_attach, hpass, and_iff_right rfl]
  · next hpass => simp [hpass]

namespace Entity

variable {e e' : Entity} {r : Registry} {check : ConditionCheck} {id : CapabilityId}

/-- One grant gives what is called by one of the names, if its condition is met. -/
private theorem mem_capabilityIds_foldl_apply (hcheck : check.IgnoresCharacter) (g : ChoiceGrant)
    (owner : String) (names : List String) (c c₀ : Character) :
    id ∈ (names.foldl (fun c name => g.apply c owner r check name) c).capabilityIds ↔
      id ∈ c.capabilityIds ∨
        check.passes g.condition c₀ = true ∧ ∃ name ∈ names, r.idOf? name = some id := by
  induction names generalizing c with
  | nil => simp
  | cons name names ih =>
    rw [List.foldl_cons, ih, ChoiceGrant.mem_capabilityIds_apply, hcheck.passes_eq _ c c₀, or_assoc,
      ← and_or_left, List.exists_mem_cons_iff]

/-- Choices give what is called by one of the names, if the condition of one of the grants is met.
They take nothing away. -/
theorem mem_capabilityIds_applyChoices (hcheck : check.IgnoresCharacter) (e : Entity) (t : Token)
    (c : Character) (names : List String) :
    id ∈ (e.applyChoices t c r check names).capabilityIds ↔
      id ∈ c.capabilityIds ∨
        (∃ g ∈ e.choicesFrom t.name, check.passes g.condition c = true) ∧
          ∃ name ∈ names, r.idOf? name = some id := by
  rw [applyChoices]
  -- the check gives the same answer for the character at every moment as for the one at the start
  suffices h : ∀ (grants : List ChoiceGrant) (c₁ : Character),
      id ∈ (grants.foldl (fun c g => names.foldl (fun c name => g.apply c e.key r check name) c)
        c₁).capabilityIds ↔ id ∈ c₁.capabilityIds ∨
          (∃ g ∈ grants, check.passes g.condition c = true) ∧ ∃ name ∈ names, r.idOf? name = some id
    from h _ c
  intro grants
  induction grants with
  | nil => simp
  | cons g grants ih =>
    intro c₁
    rw [List.foldl_cons, ih, mem_capabilityIds_foldl_apply hcheck g e.key names c₁ c, or_assoc,
      ← or_and_right, List.exists_mem_cons_iff]

/-- Entities with choices under the same conditions give the same capabilities by choices. -/
theorem capabilityIds_applyChoices_eq (hcheck : check.IgnoresCharacter)
    (h : e.choiceConditions = e'.choiceConditions) (r : Registry) (c : Character)
    (names : List String) :
    (e.applyChoices .shieldProf c r check names).capabilityIds =
      (e'.applyChoices .shieldProf c r check names).capabilityIds := by
  have hmet : ∀ e : Entity,
      (∃ g ∈ e.choicesFrom Token.shieldProf.name, check.passes g.condition c = true) ↔
        ∃ condition ∈ e.choiceConditions, check.passes condition c = true := by
    intro e
    constructor
    · rintro ⟨g, hg, hpass⟩
      exact ⟨_, ⟨g, hg, rfl⟩, hpass⟩
    · rintro ⟨_, ⟨g, hg, rfl⟩, hpass⟩
      exact ⟨g, hg, hpass⟩
  have hmem : ∀ id, id ∈ (e.applyChoices .shieldProf c r check names).capabilityIds ↔
      id ∈ (e'.applyChoices .shieldProf c r check names).capabilityIds := by
    intro id
    rw [mem_capabilityIds_applyChoices hcheck, mem_capabilityIds_applyChoices hcheck, hmet e,
      hmet e', h]
  exact (SortedSet.pairwise_ofList _).eq_of_mem_iff (SortedSet.pairwise_ofList _) hmem

end Entity

/-! ### Saving and loading again -/

namespace LoadContext

variable {ctx : LoadContext} {e : Entity} {key : String} {raws values : List String}

/-- An entity that was read from plain values and the one that is read again from what was written
of it grant the same capabilities to every character, whatever registry the two tables are bound to,
and choices through them leave every character with the same capabilities. -/
theorem reload_gives (hplain : ∀ raw ∈ raws, Value.IsPlain raw)
    (hread : ({} : LoadContext).decodeAll .shieldProf { key } raws = (ctx, .ok e))
    (hwrite : ctx.encode .shieldProf e = .ok values) (hne : values ≠ []) :
    ∃ ctx' copy,
      ({} : LoadContext).decodeAll .shieldProf { key } values = (ctx', .ok copy) ∧
        (∀ (r : Registry) (check : ConditionCheck) (c : Character), ∃ ids,
          e.granted .shieldProf (ctx.bind r).refs check c = .ok ids ∧
            copy.granted .shieldProf (ctx'.bind r).refs check c = .ok ids) ∧
        ∀ (r : Registry) (check : ConditionCheck), check.IgnoresCharacter →
          ∀ (c : Character) (names : List String),
            (e.applyChoices .shieldProf c r check names).capabilityIds =
              (copy.applyChoices .shieldProf c r check names).capabilityIds := by
  have hempty : ({} : LoadContext).refs.WellFormed .shieldProf :=
    ReferenceTable.wellFormed_empty .shieldProf
  have he : e.IsLoaded .verbatim ctx.refs raws := isLoaded_of_decodeAll hempty hread
  have hvalues : Value.IsCanonicalList .verbatim values :=
    isCanonicalList_of_isPlain hplain ConditionFormat.stable_verbatim hread hwrite hne
  obtain ⟨ctx', copy, hreload, hrewrite⟩ :=
    encode_of_isCanonicalList hempty hvalues (ReferenceTable.spells_empty values) key
  have hcopy : copy.IsLoaded .verbatim ctx'.refs values := isLoaded_of_decodeAll hempty hreload
  -- both are written as the same list, and their names are read back
  have hback : e.ReadsBack ctx.refs :=
    he.readsBack_of_keepsNames (keepsNames_of_isPlain hplain hread)
  have hback' : copy.ReadsBack ctx'.refs :=
    hcopy.readsBack_of_keepsNames
      (keepsNames_of_isPlain (fun _ hvalue => (hvalues.isCanonical hvalue).isPlain) hreload)
  rw [encode, (decodeAll_table hread).1] at hwrite
  rw [encode, (decodeAll_table hreload).1] at hrewrite
  obtain ⟨hgrants, hchoices⟩ := he.shapes_eq_of_encode_eq hcopy hback hback' hwrite hrewrite
  exact ⟨ctx', copy, hreload, he.granted_eq_of_grantShapes_eq hcopy hgrants,
    fun r check hcheck => Entity.capabilityIds_applyChoices_eq hcheck hchoices r⟩

/-- A name twice in different spellings, and choices three times: there are fewer grants and choices
after loading, and they come in another order. -/
theorem reload_gives_respelled :
    (∀ raw ∈ ["Tower|%LIST[y]", " Buckler ", "%LIST", "buckler", "%LIST"], Value.IsPlain raw) ∧
      ∃ ctx e, ({} : LoadContext).decodeAll .shieldProf { key := "A" }
          ["Tower|%LIST[y]", " Buckler ", "%LIST", "buckler", "%LIST"] = (ctx, .ok e) ∧
        ctx.encode .shieldProf e = .ok ["%LIST", "%LIST[y]", "Buckler", "Tower[y]"] ∧
        ∃ ctx' copy, ({} : LoadContext).decodeAll .shieldProf { key := "A" }
            ["%LIST", "%LIST[y]", "Buckler", "Tower[y]"] = (ctx', .ok copy) ∧
          (∀ (r : Registry) (check : ConditionCheck) (c : Character), ∃ ids,
            e.granted .shieldProf (ctx.bind r).refs check c = .ok ids ∧
              copy.granted .shieldProf (ctx'.bind r).refs check c = .ok ids) ∧
          ∀ (r : Registry) (check : ConditionCheck), check.IgnoresCharacter →
            ∀ (c : Character) (names : List String),
              (e.applyChoices .shieldProf c r check names).capabilityIds =
                (copy.applyChoices .shieldProf c r check names).capabilityIds := by
  have hplain : ∀ raw ∈ ["Tower|%LIST[y]", " Buckler ", "%LIST", "buckler", "%LIST"],
      Value.IsPlain raw := by decide +kernel
  obtain ⟨ctx, e, hread, hwrite⟩ := rewrite?_eq_some_iff.mp (by decide +kernel :
    ({} : LoadContext).rewrite? .shieldProf { key := "A" }
      ["Tower|%LIST[y]", " Buckler ", "%LIST", "buckler", "%LIST"] =
        some ["%LIST", "%LIST[y]", "Buckler", "Tower[y]"])
  exact ⟨hplain, ctx, e, hread, hwrite,
    reload_gives hplain hread hwrite (List.cons_ne_nil _ _)⟩

end LoadContext

end GrantList
