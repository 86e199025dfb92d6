import GrantList.CommandLine
import GrantList.Proofs.Giving
import GrantList.Proofs.Reference.Binding
import GrantList.Proofs.RuleSet.Compiling
import GrantList.Proofs.RuleSet.Lookup
import Mathlib.Data.List.Sort

/-!
# What is printed of an entity is what it gives

A recipient is a new character with all that an entity gives. It holds what the grants of the entity
give and, if the entity has a choice, the capabilities that are found by the chosen names, each of
them once however many grants, choices and names lead to it. All of these have names in the
registry, so no number is lost when the names are printed in its place (`Registry.Lists`).

Main result: `CommandLine.grantOutput_lists_recipient`.
-/

namespace GrantList

/-! ### The names of capabilities -/

namespace Registry

/-- The names are those of the capabilities with the given numbers: one name for each number, no
name twice, and all in the order of the registry. -/
structure Lists (r : Registry) (ids : List CapabilityId) (names : List String) : Prop where
  /-- The names are those of the numbers, one by one. -/
  named : List.Forall₂ (fun id name => r.name? id = some name) ids names
  /-- No name comes twice. -/
  nodup : names.Nodup
  /-- The names stand in the order of the registry. -/
  sublist : names.Sublist r.names

variable {r : Registry} {ids : List CapabilityId}

theorem filterMap_name?_ids (r : Registry) : r.ids.filterMap r.name? = r.names := by
  have hmap : r.ids.map r.name? = r.names.map some := by
    refine List.ext_getElem (by simp [ids, size]) fun i hi hi' => ?_
    simp only [ids, name?, List.getElem_map, List.getElem_range]
    exact List.getElem?_eq_getElem (by simpa using hi')
  have hsome : (r.ids.map r.name?).filterMap id = r.ids.filterMap r.name? := List.filterMap_map
  rw [← hsome, hmap, List.filterMap_map]
  exact List.filterMap_some

theorem forall₂_filterMap_name? (hnamed : ∀ id ∈ ids, ∃ name, r.name? id = some name) :
    List.Forall₂ (fun id name => r.name? id = some name) ids (ids.filterMap r.name?) := by
  induction ids with
  | nil => exact .nil
  | cons id ids ih =>
    obtain ⟨⟨name, hname⟩, hnamed⟩ := List.forall_mem_cons.mp hnamed
    rw [List.filterMap_cons_some hname]
    exact .cons hname (ih hnamed)

theorem Built.nodup_names (h : r.Built) : r.names.Nodup :=
  h.nodup_keys.of_map

/-- Numbers in increasing order that all have names are listed by these names. -/
theorem Built.lists (h : r.Built) (hsorted : ids.Pairwise (· < ·))
    (hnamed : ∀ id ∈ ids, ∃ name, r.name? id = some name) :
    r.Lists ids (ids.filterMap r.name?) := by
  have hsubset : ids ⊆ r.ids := by
    intro id hid
    obtain ⟨name, hname⟩ := hnamed id hid
    exact List.mem_range.mpr (List.getElem?_eq_some_iff.mp hname).1
  have hnodup : ids.Nodup := hsorted.imp Nat.ne_of_lt
  have hsub : ids.Sublist r.ids :=
    List.sublist_of_subperm_of_pairwise (List.subperm_of_subset hnodup hsubset) hsorted
      List.pairwise_lt_range
  have hsublist : (ids.filterMap r.name?).Sublist r.names := by
    rw [← r.filterMap_name?_ids]
    exact hsub.filterMap _
  exact ⟨forall₂_filterMap_name? hnamed, h.nodup_names.sublist hsublist, hsublist⟩

end Registry

/-- Whatever a target denotes has a name. -/
theorem Target.exists_name_of_mem_denotes {T : Target} {r : Registry} {id : CapabilityId}
    (h : id ∈ T.denotes r) : ∃ name, r.name? id = some name := by
  cases T with
  | allOf c =>
    have htrimmed : (allOf c).IsTrimmed := fun _ _ heq => nomatch heq
    exact ((mem_denotes_iff htrimmed).mp h).exists_name
  | typed c base types =>
    have htrimmed : (typed c base types).IsTrimmed := fun _ _ heq => nomatch heq
    exact ((mem_denotes_iff htrimmed).mp h).exists_name
  | named c name =>
    cases c with
    | shieldProf =>
      rw [denotes, Option.mem_toList] at h
      exact (Provides.name (Registry.idOf?_eq_some_iff_finds.mp h)).exists_name
    | equipment =>
      rw [denotes, SortedSet.mem_ofList, Registry.mem_requiredBy_iff] at h
      obtain ⟨item, hitem, h⟩ := h
      exact (Provides.equipment (List.mem_filter.mp hitem).1 h).exists_name

/-! ### What a recipient holds -/

theorem Character.mem_capabilityIds_foldl_add {c : Character} {owner : String}
    {ids : List CapabilityId} {id : CapabilityId} :
    id ∈ (ids.foldl (·.add owner ·) c).capabilityIds ↔ id ∈ c.capabilityIds ∨ id ∈ ids := by
  induction ids generalizing c with
  | nil => simp
  | cons id' ids ih =>
    rw [List.foldl_cons, ih, mem_capabilityIds_add, List.mem_cons, or_assoc]

namespace Entity

variable {e : Entity} {t : Token} {refs : ReferenceTable} {r : Registry}
  {ids : List CapabilityId} {id : CapabilityId}

/-- The character that holds the capabilities and what choices through the entity give. -/
def recipientOf (e : Entity) (t : Token) (r : Registry) (ids : List CapabilityId)
    (choices : List String) : Character :=
  e.applyChoices t (ids.foldl (·.add e.key ·) { name := e.key }) r (fun _ _ => true) choices

theorem recipient_of_granted
    (h : e.granted t refs (fun _ _ => true) { name := e.key } = .ok ids) (r : Registry)
    (choices : List String) :
    e.recipient t refs r choices = .ok (e.recipientOf t r ids choices) := by
  rw [recipient]
  simp only [h]
  rfl

theorem mem_capabilityIds_recipientOf {choices : List String} :
    id ∈ (e.recipientOf t r ids choices).capabilityIds ↔
      id ∈ ids ∨ e.choicesFrom t.name ≠ [] ∧ ∃ name ∈ choices, r.idOf? name = some id := by
  have hpasses : ∀ (condition : Option Condition) (c : Character),
      ConditionCheck.passes (fun _ _ => true) condition c = true := by
    intro condition c
    simp [ConditionCheck.passes]
  have hnew : ({ name := e.key } : Character).capabilityIds = [] := rfl
  have hsome : (∃ g, g ∈ e.choicesFrom t.name) ↔ e.choicesFrom t.name ≠ [] :=
    ⟨fun h => h.elim fun _ => List.ne_nil_of_mem, List.exists_mem_of_ne_nil _⟩
  rw [recipientOf, mem_capabilityIds_applyChoices fun _ _ _ => rfl,
    Character.mem_capabilityIds_foldl_add, hnew]
  simp only [hpasses, and_true, hsome, List.not_mem_nil, false_or]

/-- Whatever the grants of an entity give has a name. -/
theorem Holds.exists_name_of_granted {V : Set Value} {check : ConditionCheck} {c : Character}
    (he : e.Holds .shieldProf refs V)
    (hids : e.granted .shieldProf (refs.bind r) check c = .ok ids) (hid : id ∈ ids) :
    ∃ name, r.name? id = some name := by
  obtain ⟨ids', hids', -, hmem⟩ := he.granted_bind r check c
  obtain rfl := Except.ok.inj (hids.symm.trans hids')
  obtain ⟨v, -, -, s, -, T, -, hid⟩ := (hmem id).mp hid
  exact T.exists_name_of_mem_denotes hid

/-- What the grants of an entity give does not depend on the table, as long as the entity holds the
same in it. -/
theorem Holds.granted_eq {refs' : ReferenceTable} {V : Set Value}
    (he : e.Holds .shieldProf refs V) (he' : e.Holds .shieldProf refs' V) (r : Registry)
    (check : ConditionCheck) (c : Character) :
    e.granted .shieldProf (refs.bind r) check c = e.granted .shieldProf (refs'.bind r) check c := by
  obtain ⟨ids, hids, hsorted, hmem⟩ := he.granted_bind r check c
  obtain ⟨ids', hids', hsorted', hmem'⟩ := he'.granted_bind r check c
  rw [hids, hids', hsorted.eq_of_mem_iff hsorted' fun id => (hmem id).trans (hmem' id).symm]

end Entity

namespace CommandLine

/-- The command for an entity reports exactly what the entity gives, in whatever table its
references are bound. The recipient holds what the grants give when all conditions are met, for
whomever, and if the entity has a choice it holds whatever is found by one of the chosen names, but
nothing else. All of it has names, and these are handed to the printer, one for each capability,
without repetition and in the order of the registry. -/
theorem grantOutput_lists_recipient {rules : RuleSet} {start ctx last : LoadContext}
    {entities : List Entity} {e : Entity} {r : Registry} (hr : r.Built)
    (hcompile : rules.compile start = (ctx, entities)) (he : e ∈ entities)
    (hreach : ctx.Reaches last) (choices : List String)
    (print : List (String × Json.Value) → String) :
    ∃ ids c names,
      (∀ anyone, e.granted .shieldProf (last.bind r).refs (fun _ _ => true) anyone = .ok ids) ∧
      e.recipient .shieldProf (last.bind r).refs r choices = .ok c ∧
      (∀ id, id ∈ c.capabilityIds ↔ id ∈ ids ∨
        e.choicesFrom "SHIELDPROF" ≠ [] ∧ ∃ name ∈ choices, r.idOf? name = some id) ∧
      r.Lists c.capabilityIds names ∧
      (start = {} → ∀ key, Text.SameAscii e.key key → grantOutput print rules r key choices =
        { out := [print [("entity", .text e.key), ("granted", .list names)]]
          err := ctx.report.diagnostics.map diagnosticLine }) := by
  obtain ⟨record, -, -, hholds⟩ := RuleSet.holds_of_compile hcompile he
  have hholds' := hholds.mono hreach.extends
  obtain ⟨ids, hids, -, -⟩ := hholds'.granted_bind r (fun _ _ => true) { name := e.key }
  have hmem : ∀ id, id ∈ (e.recipientOf .shieldProf r ids choices).capabilityIds ↔ id ∈ ids ∨
      e.choicesFrom "SHIELDPROF" ≠ [] ∧ ∃ name ∈ choices, r.idOf? name = some id :=
    fun _ => Entity.mem_capabilityIds_recipientOf
  have hnamed : ∀ id ∈ (e.recipientOf .shieldProf r ids choices).capabilityIds,
      ∃ name, r.name? id = some name := by
    intro id hid
    obtain hid | ⟨-, name, -, hfound⟩ := (hmem id).mp hid
    · exact hholds'.exists_name_of_granted hids hid
    · obtain ⟨n, hn, -⟩ := Registry.isCalled_of_idOf? hfound
      exact ⟨n, hn⟩
  -- all conditions count as met, so the character has no part in what is granted
  refine ⟨ids, _, _, fun _ => hids, Entity.recipient_of_granted hids r choices, hmem,
    hr.lists (SortedSet.pairwise_ofList _) hnamed, ?_⟩
  rintro rfl key hkey
  have hfound : RuleSet.findEntity? entities key = some e := by
    have hkeys := rules.pairwise_key_compile {}
    rw [hcompile] at hkeys
    exact (RuleSet.findEntity?_eq_some_iff hkeys).mpr ⟨he, hkey⟩
  have hrecipient : e.recipient .shieldProf (ctx.refs.bind r) r choices =
      .ok (e.recipientOf .shieldProf r ids choices) :=
    Entity.recipient_of_granted ((hholds.granted_eq hholds' r _ _).trans hids) r choices
  rw [grantOutput, hcompile]
  simp only [hfound, hrecipient]

/-- Two choices, a name in two spellings and three choices of which one is unknown and two are the
same: each of the two capabilities is printed once. -/
theorem grantOutput_lists_recipient_fighter :
    ∃ rules ctx entities e r c names,
      rules = (⟨[⟨"Fighter", ["Kite|%LIST", "%LIST[x]", " kite "]⟩]⟩ : RuleSet) ∧
      r = ((({} : Registry).construct "Tower").construct "Buckler").construct "Kite" ∧ r.Built ∧
      rules.compile {} = (ctx, entities) ∧ e ∈ entities ∧ ctx.Reaches ctx ∧
      e.recipient .shieldProf (ctx.bind r).refs r ["buckler", "Spear", "BUCKLER"] = .ok c ∧
      c.capabilityIds = [1, 2] ∧ r.Lists c.capabilityIds names ∧
      Text.SameAscii e.key "FIGHTER" ∧
      grantOutput Json.printObject rules r "FIGHTER" ["buckler", "Spear", "BUCKLER"] =
        { out := [Json.printObject [("entity", .text e.key), ("granted", .list names)]]
          err := ctx.report.diagnostics.map diagnosticLine } := by
  obtain ⟨rules, hrules⟩ : ∃ rules : RuleSet,
      rules = ⟨[⟨"Fighter", ["Kite|%LIST", "%LIST[x]", " kite "]⟩]⟩ := ⟨_, rfl⟩
  obtain ⟨r, hr⟩ : ∃ r, r =
      ((({} : Registry).construct "Tower").construct "Buckler").construct "Kite" := ⟨_, rfl⟩
  have hbuilt : r.Built := hr ▸ ((Registry.Built.empty.construct _).construct _).construct _
  have hrun : (rules.compile {}).2 ≠ [] ∧ ∀ e ∈ (rules.compile {}).2, e.key = "Fighter" ∧
      ∃ ids ∈ (e.recipient .shieldProf ((rules.compile {}).1.bind r).refs r
        ["buckler", "Spear", "BUCKLER"]).toOption.map (·.capabilityIds), ids = [1, 2] := by
    rw [hrules, hr]
    decide +kernel
  obtain ⟨hne, hrun⟩ := hrun
  obtain ⟨e, he⟩ := List.exists_mem_of_ne_nil _ hne
  obtain ⟨hkey, ids, hids, rfl⟩ := hrun e he
  obtain ⟨_, c, names, -, hc, -, hlists, hout⟩ := grantOutput_lists_recipient hbuilt
    (Prod.mk.eta.symm : rules.compile {} = (_, _)) he .refl ["buckler", "Spear", "BUCKLER"]
    Json.printObject
  have hsame : Text.SameAscii e.key "FIGHTER" := by
    rw [hkey, Text.sameAscii_iff_map_toLower]
    decide
  rw [hc] at hids
  exact ⟨rules, _, _, e, r, c, names, hrules, hr, hbuilt, Prod.mk.eta.symm, he, .refl, hc,
    Option.some_inj.mp hids, hlists, hsame, hout rfl _ hsame⟩

end CommandLine

end GrantList
