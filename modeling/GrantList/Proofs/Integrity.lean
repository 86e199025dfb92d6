import GrantList.Granting
import GrantList.Proofs.Workspace

/-!
# What entities hold is well formed

In a load in which all values are read with one token, every grant is in the slot of that token. It
is everything of the category, or else a list of names and a list of type groups, not both empty and
neither with a repetition, and all references lead to targets of the right kind
(`Payload.WellFormed`). Every choice comes from the token (`Entity.WellFormed`). Others may use the
table in between and enter the same targets in other spellings.

Main result: `Workspace.wellFormed_run`. In every state of such a load all entities are well formed,
and neither writing them nor granting from them meets a reference that is not in the table.
-/

namespace GrantList

/-- The payload is one that a value of the token can give, read in the table. -/
inductive Payload.WellFormed (t : Token) (refs : ReferenceTable) : Payload → Prop
  /-- Everything of the category. -/
  | all {r : Ref} (h : refs.target? r = some (.allOf t.capability)) : WellFormed t refs (.all r)
  /-- Names and type groups, at least one of them, each once. -/
  | refs {capabilities typeGroups : List Ref} (hne : capabilities ++ typeGroups ≠ [])
    (hcapabilities : capabilities.Nodup) (htypeGroups : typeGroups.Nodup)
    (hnamed : ∀ r ∈ capabilities, ∃ name, refs.target? r = some (.named t.capability name))
    (htyped : ∀ r ∈ typeGroups, ∃ base types, Text.SameAscii base t.typeBase ∧
      refs.target? r = some (.typed t.typeCategory base types)) :
    WellFormed t refs (.refs capabilities typeGroups)

/-- All that the entity holds was attached by the token, and every payload is well formed. -/
structure Entity.WellFormed (e : Entity) (t : Token) (refs : ReferenceTable) : Prop where
  /-- Every grant is in the slot of the token. -/
  slot {entry : String × Grant} (h : entry ∈ e.slots) : entry.1 = t.name
  /-- Every grant has a payload that a value can give. -/
  payload {entry : String × Grant} (h : entry ∈ e.slots) : entry.2.payload.WellFormed t refs
  /-- Every choice comes from the token. -/
  source {c : ChoiceGrant} (h : c ∈ e.choices) : c.source = t.name

variable {t : Token} {format : ConditionFormat} {refs refs' : ReferenceTable} {e e' : Entity}
  {value : String}

/-! ### Payloads -/

namespace Payload

variable {p : Payload} {l : List Value.Segment}

/-- The references of a well formed payload lead to their targets in every later table. -/
theorem WellFormed.mono (h : p.WellFormed t refs) (hext : refs.Extends refs') :
    p.WellFormed t refs' := by
  cases h with
  | all h => exact .all (hext.target? h)
  | refs hne hcapabilities htypeGroups hnamed htyped =>
    refine .refs hne hcapabilities htypeGroups (fun r hr => ?_) (fun r hr => ?_)
    · exact (hnamed r hr).imp fun _ => hext.target?
    · obtain ⟨base, types, hbase, htarget⟩ := htyped r hr
      exact ⟨base, types, hbase, hext.target? htarget⟩

/-- A payload that covers segments is well formed. A type group may have been entered before with
the type of the token in another spelling. -/
theorem Covers.wellFormed (h : p.Covers t refs l) : p.WellFormed t refs := by
  cases p with
  | all r => exact .all h.target?_of_all
  | refs capabilities typeGroups =>
    refine .refs ?_ h.nodup_capabilities h.nodup_typeGroups
      (fun r hr => h.target?_of_mem_capabilities hr) (fun r hr => ?_)
    · obtain ⟨T, r, hr, -⟩ := h.exists_mem_targets
      exact List.ne_nil_of_mem hr
    · obtain ⟨expr, T, -, hT, hfind⟩ := h.mem_typeGroups.mp hr
      obtain ⟨-, rfl⟩ := Target.ofTypes?_eq_some_iff.mp hT
      obtain ⟨T', hT', hfold⟩ := ReferenceTable.target?_of_find? hfind
      cases T' <;> simp only [Target.folded, reduceCtorEq, Target.typed.injEq] at hfold
      obtain ⟨rfl, hbase, -⟩ := hfold
      exact ⟨_, _, hbase, hT'⟩

end Payload

/-! ### Entities -/

namespace Entity.WellFormed

theorem new (key : String) (t : Token) (refs : ReferenceTable) :
    ({ key } : Entity).WellFormed t refs where
  slot h := nomatch h
  payload h := nomatch h
  source h := nomatch h

theorem mono (h : e.WellFormed t refs) (hext : refs.Extends refs') : e.WellFormed t refs' where
  slot := h.slot
  payload hentry := (h.payload hentry).mono hext
  source := h.source

/-- What a value attaches is well formed. -/
theorem decode (h : e.WellFormed t refs)
    (hdec : t.decode format refs e value = (refs', .ok e')) : e'.WellFormed t refs' := by
  have hext : refs.Extends refs' := by
    have := (t.enter_table format refs value).1
    rwa [← t.decode_fst format refs e value, hdec] at this
  obtain ⟨v, items, -, hitems, hapart, rfl⟩ := Token.decode_eq_ok_iff.mp hdec
  rw [Value.attachAll_attachments]
  -- an entry of the slots was there before, or is the one that the value attaches
  have hentry : ∀ entry ∈ e.slots ++ ((Value.payload? items).map fun payload =>
      (t.name, ({ payload, condition := v.condition } : Grant))).toList,
      entry.1 = t.name ∧ entry.2.payload.WellFormed t refs' := by
    intro entry hmem
    obtain hmem | hmem := List.mem_append.mp hmem
    · exact ⟨h.slot hmem, (h.payload hmem).mono hext⟩
    · obtain ⟨p, hp, rfl⟩ := Option.map_eq_some_iff.mp (Option.mem_toList.mp hmem)
      exact ⟨rfl, (Value.covers_payload? (Value.internAll_items hitems) hapart hp).wellFormed⟩
  exact {
    slot := fun hmem => (hentry _ hmem).1
    payload := fun hmem => (hentry _ hmem).2
    source := fun hmem => by
      obtain hmem | hmem := List.mem_append.mp hmem
      · exact h.source hmem
      · rw [List.eq_of_mem_replicate hmem] }

end Entity.WellFormed

/-! ### References that are in the table -/

namespace Entity.RefersInto

theorem lt_size {slot : String} (h : e.RefersInto slot refs) {g : Grant} (hg : g ∈ e.grantsIn slot)
    {r : Ref} (hr : r ∈ g.payload.toList) : r < refs.size := by
  obtain ⟨T, hT⟩ := h g hg r hr
  exact ReferenceTable.lt_size_of_target? hT

/-- Granting finds all references, whether they have been bound or not. -/
theorem granted_isOk (h : e.RefersInto t.name refs) (check : ConditionCheck) (c : Character) :
    ∃ ids, e.granted t refs check c = .ok ids := by
  have hok : ∀ g ∈ e.activeGrants t check c, ∃ ids, boundOf refs g = .ok ids := by
    intro g hg
    have hbound : ∀ r ∈ g.payload.toList, ∃ ids, refs.boundAt r = .ok ids := by
      intro r hr
      obtain ⟨T, hT⟩ := h g (List.mem_filter.mp hg).1 r hr
      obtain ⟨entry, hentry, -⟩ := Option.map_eq_some_iff.mp hT
      exact ⟨_, by rw [ReferenceTable.boundAt, hentry]⟩
    obtain ⟨bound, hbound⟩ := mapM_isOk_iff.mpr hbound
    exact ⟨bound.flatten, by rw [boundOf, hbound]; rfl⟩
  obtain ⟨ids, hids⟩ := mapM_isOk_iff.mpr hok
  exact ⟨SortedSet.ofList ids.flatten, by rw [granted, hids]; rfl⟩

end Entity.RefersInto

/-! ### Loads with one token -/

namespace Workspace

variable {w : Workspace} {a : Action} {actions : List Action}

/-- If the action reads a value, then it is one of the token. -/
def Action.IsOf (a : Action) (t : Token) : Prop :=
  ∀ t' entity value, a = .decode t' entity value → t' = t

/-- All entities are well formed. -/
def WellFormed (w : Workspace) (t : Token) : Prop :=
  ∀ i, (w.entities i).WellFormed t w.ctx.refs

theorem wellFormed_start (format : ConditionFormat) (keys : Nat → String) (t : Token) :
    (start format keys).WellFormed t :=
  fun i => .new (keys i) t {}

theorem WellFormed.perform (h : w.WellFormed t) (ha : a.IsOf t) : (w.perform a).WellFormed t := by
  intro i
  obtain heq | ⟨t', value, rfl, hdec⟩ := w.perform_entity a i
  · rw [heq]
    exact (h i).mono (w.perform_ctx a).2
  · obtain rfl := ha t' i value rfl
    exact (h i).decode (LoadContext.token_decode_eq hdec)

theorem WellFormed.run (h : w.WellFormed t) (hactions : ∀ a ∈ actions, a.IsOf t) :
    (w.run actions).WellFormed t := by
  induction actions generalizing w with
  | nil => exact h
  | cons a actions ih =>
    obtain ⟨ha, hactions⟩ := List.forall_mem_cons.mp hactions
    exact ih (h.perform ha) hactions

/-- Whatever values are read for shield proficiencies, accepted or rejected, onto whatever entities,
and however the table is used in between: in every state all entities are well formed, all
references are in the table, no entity is refused for a reference when it is written, and every
entity grants something to every character. -/
theorem wellFormed_run (format : ConditionFormat) (keys : Nat → String) (actions : List Action)
    (hactions : ∀ a ∈ actions, a.IsOf .shieldProf) (i : Nat) :
    (((start format keys).run actions).entities i).WellFormed .shieldProf
        ((start format keys).run actions).ctx.refs ∧
      (∀ slot, ∀ g ∈ (((start format keys).run actions).entities i).grantsIn slot,
        ∀ r ∈ g.payload.toList, r < ((start format keys).run actions).ctx.refs.size) ∧
      (∀ r, ((start format keys).run actions).encode .shieldProf i ≠ .error (.unknownRef r)) ∧
      ∀ check c, ∃ ids, (((start format keys).run actions).entities i).granted .shieldProf
        ((start format keys).run actions).ctx.refs check c = .ok ids := by
  have hwell : ((start format keys).run actions).WellFormed .shieldProf :=
    (wellFormed_start format keys .shieldProf).run hactions
  have hrefers := ((grounded_start format keys).run actions) i
  exact ⟨hwell i, fun slot _ hg _ hr => (hrefers slot).lt_size hg hr,
    fun r => (hrefers Token.shieldProf.name).encode_ne_unknownRef _ r,
    fun check c => (hrefers Token.shieldProf.name).granted_isOk check c⟩

/-- The name was entered before in another spelling, a value is rejected after its segments were
entered, and everything is entered anew after the references were bound. -/
theorem wellFormed_run_respelled :
    ∃ actions w, actions = [.use (.name .shieldProf "KITE"),
        .decode .shieldProf 0 "SHIELDTYPE=Heavy|kite|%LIST[x]",
        .decode .shieldProf 1 "Buckler|ALL", .use (.bind { names := ["Kite"] }),
        .encode .shieldProf 0, .decode .shieldProf 1 "ALL"] ∧
      w = (start .verbatim fun _ => "A").run actions ∧
      (∀ a ∈ actions, a.IsOf .shieldProf) ∧
      (w.entities 0).slots = [("SHIELDPROF", ⟨.refs [0] [1], some ⟨"x"⟩⟩)] ∧
      (w.entities 1).slots = [("SHIELDPROF", ⟨.all 3, none⟩)] ∧
      w.ctx.refs.targets = [.named .shieldProf "KITE",
        .typed .equipment "SHIELD" ["Heavy"], .named .shieldProf "Buckler", .allOf .shieldProf] ∧
      ∀ i, (w.entities i).WellFormed .shieldProf w.ctx.refs ∧
        (∀ slot, ∀ g ∈ (w.entities i).grantsIn slot, ∀ r ∈ g.payload.toList,
          r < w.ctx.refs.size) ∧
        (∀ r, w.encode .shieldProf i ≠ .error (.unknownRef r)) ∧
        ∀ check c, ∃ ids, (w.entities i).granted .shieldProf w.ctx.refs check c = .ok ids := by
  obtain ⟨actions, hlist⟩ : ∃ actions : List Action, actions =
      [.use (.name .shieldProf "KITE"),
        .decode .shieldProf 0 "SHIELDTYPE=Heavy|kite|%LIST[x]",
        .decode .shieldProf 1 "Buckler|ALL", .use (.bind { names := ["Kite"] }),
        .encode .shieldProf 0, .decode .shieldProf 1 "ALL"] := ⟨_, rfl⟩
  have hactions : ∀ a ∈ actions, a.IsOf .shieldProf := by
    rw [hlist]
    simp [Action.IsOf]
  refine ⟨actions, _, hlist, rfl, hactions, ?first, ?second, ?table,
    wellFormed_run .verbatim (fun _ => "A") actions hactions⟩
  all_goals
    rw [hlist]
    decide +kernel

end Workspace

end GrantList
