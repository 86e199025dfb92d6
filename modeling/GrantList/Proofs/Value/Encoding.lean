import GrantList.Proofs.Except
import GrantList.Proofs.Value.Written
import Mathlib.Data.List.Sort

/-!
# What an entity is written as

An entity that can be written is written as the increasing list of the texts of its grants and
choice grants, everything alone (`Token.encode_eq_ok_iff`). A payload that covers segments is
written as the texts of the targets of its references (`Payload.segmentTexts`). What is written does
not change as the table grows (`Entity.RefersInto.encode_eq`).
-/

namespace GrantList

/-- The value is the text of something that the token attached to the entity. -/
def Token.Writes (t : Token) (format : ConditionFormat) (refs : ReferenceTable) (e : Entity)
    (value : String) : Prop :=
  (∃ c ∈ e.choicesFrom t.name, Value.choiceText t format c = .ok value) ∨
    ∃ g ∈ e.grantsIn t.name, Value.grantText t format refs g = .ok value

variable {t : Token} {format : ConditionFormat} {refs : ReferenceTable} {e : Entity}

namespace Value

/-- Verbatim, a condition is written as its text. -/
theorem conditionText_verbatim (t : Token) (c : Option Condition) :
    conditionText t .verbatim c = .ok (c.map (·.text)) := by
  cases c <;> rfl

theorem choiceText_eq_ok_iff {c : ChoiceGrant} {value : String} :
    choiceText t format c = .ok value ↔ ∃ condition,
      conditionText t format c.condition = .ok condition ∧
        value = withCondition choiceMarker condition := by
  rw [choiceText]
  cases conditionText t format c.condition <;>
    simp [bind, Except.bind, pure, Except.pure, eq_comm]

theorem choiceText_eq_error_iff {c : ChoiceGrant} {err : EncodeError} :
    choiceText t format c = .error err ↔ conditionText t format c.condition = .error err := by
  rw [choiceText]
  cases conditionText t format c.condition <;> simp [bind, Except.bind, pure, Except.pure]

/-- The text of a payload depends on the table by the targets of its references alone. -/
theorem payloadText_congr (t : Token) {refs refs' : ReferenceTable} {p : Payload}
    (h : ∀ r ∈ p.toList, refs'.target? r = refs.target? r) :
    payloadText t refs' p = payloadText t refs p := by
  cases p with
  | all r => rfl
  | refs capabilities typeGroups =>
    have hlist : ∀ l : List Ref, l ⊆ capabilities ++ typeGroups →
        l.mapM (targetOf refs') = l.mapM (targetOf refs) := fun l hl =>
      mapM_congr_left fun r hr => by rw [targetOf, targetOf, h r (hl hr)]
    rw [payloadText, payloadText, hlist capabilities (List.subset_append_left _ _),
      hlist typeGroups (List.subset_append_right _ _)]

theorem grantText_eq_ok_iff {g : Grant} {value : String} :
    grantText t format refs g = .ok value ↔ ∃ payload condition,
      payloadText t refs g.payload = .ok payload ∧
        conditionText t format g.condition = .ok condition ∧
          value = withCondition payload condition := by
  rw [grantText]
  cases payloadText t refs g.payload <;> cases conditionText t format g.condition <;>
    simp [bind, Except.bind, pure, Except.pure, eq_comm]

theorem grantText_eq_error {g : Grant} {err : EncodeError}
    (h : grantText t format refs g = .error err) :
    payloadText t refs g.payload = .error err ∨
      conditionText t format g.condition = .error err := by
  rw [grantText] at h
  cases hpayload : payloadText t refs g.payload with
  | error err' => exact Or.inl (by simpa [hpayload, bind, Except.bind] using h)
  | ok payload =>
    rw [hpayload] at h
    cases hcondition : conditionText t format g.condition with
    | error err' => exact Or.inr (by simpa [hcondition, bind, Except.bind] using h)
    | ok condition => simp [hcondition, bind, Except.bind, pure, Except.pure] at h

end Value

namespace Token

/-- If everything has a text, the entity is written as these texts in increasing order, or refused
because everything without condition stands beside other texts. -/
theorem exists_encode_eq
    (hchoices : ∀ c ∈ e.choicesFrom t.name, ∃ value, Value.choiceText t format c = .ok value)
    (hgrants : ∀ g ∈ e.grantsIn t.name, ∃ value, Value.grantText t format refs g = .ok value) :
    ∃ values : List String, values.Pairwise (· < ·) ∧
      (∀ value, value ∈ values ↔ t.Writes format refs e value) ∧
      t.encode format refs e =
        if Value.allMarker ∈ values ∧ values ≠ [Value.allMarker] then
          .error (.inconsistent t.fullName values)
        else .ok values := by
  obtain ⟨choices, hc⟩ := mapM_isOk_iff.mpr hchoices
  obtain ⟨grants, hg⟩ := mapM_isOk_iff.mpr hgrants
  refine ⟨SortedSet.ofList (choices ++ grants), SortedSet.pairwise_ofList _, fun value => ?_, ?_⟩
  · rw [SortedSet.mem_ofList, List.mem_append, mem_iff_of_mapM hc, mem_iff_of_mapM hg, Writes]
  · simp only [encode, hc, hg, bind, Except.bind, pure, Except.pure, throw, throwThe,
      MonadExceptOf.throw]

/-- Either everything has a text, or the entity is refused because something has none. -/
theorem texts_or_encode_eq_error (t : Token) (format : ConditionFormat) (refs : ReferenceTable)
    (e : Entity) :
    ((∀ c ∈ e.choicesFrom t.name, ∃ value, Value.choiceText t format c = .ok value) ∧
        ∀ g ∈ e.grantsIn t.name, ∃ value, Value.grantText t format refs g = .ok value) ∨
      ∃ err, t.encode format refs e = .error err ∧
        ((∃ c ∈ e.choicesFrom t.name, Value.choiceText t format c = .error err) ∨
          ∃ g ∈ e.grantsIn t.name, Value.grantText t format refs g = .error err) := by
  rw [← mapM_isOk_iff, ← mapM_isOk_iff, encode]
  cases hc : (e.choicesFrom t.name).mapM (Value.choiceText t format) with
  | error err => exact Or.inr ⟨err, rfl, Or.inl (exists_eq_error_of_mapM hc)⟩
  | ok choices =>
    cases hg : (e.grantsIn t.name).mapM (Value.grantText t format refs) with
    | error err => exact Or.inr ⟨err, rfl, Or.inr (exists_eq_error_of_mapM hg)⟩
    | ok grants => exact Or.inl ⟨⟨choices, rfl⟩, grants, rfl⟩

/-- An entity is written when all its grants have texts and everything without condition is not
beside other texts. The values are then those texts, in increasing order. -/
theorem encode_eq_ok_iff {values : List String} :
    t.encode format refs e = .ok values ↔
      (∀ c ∈ e.choicesFrom t.name, ∃ value, Value.choiceText t format c = .ok value) ∧
        (∀ g ∈ e.grantsIn t.name, ∃ value, Value.grantText t format refs g = .ok value) ∧
          values.Pairwise (· < ·) ∧ (∀ value, value ∈ values ↔ t.Writes format refs e value) ∧
            (Value.allMarker ∈ values → values = [Value.allMarker]) := by
  constructor
  · intro h
    obtain ⟨hchoices, hgrants⟩ | ⟨err, herr, -⟩ := t.texts_or_encode_eq_error format refs e
    · obtain ⟨values', hsorted, hmem, heq⟩ := exists_encode_eq hchoices hgrants
      rw [heq] at h
      split at h
      · cases h
      · next halone =>
        obtain rfl := Except.ok.inj h
        exact ⟨hchoices, hgrants, hsorted, hmem,
          fun hall => by_contra fun hne => halone ⟨hall, hne⟩⟩
    · cases h.symm.trans herr
  · rintro ⟨hchoices, hgrants, hsorted, hmem, halone⟩
    obtain ⟨values', hsorted', hmem', heq⟩ := exists_encode_eq hchoices hgrants
    obtain rfl : values' = values :=
      hsorted'.eq_of_mem_iff hsorted fun value => (hmem' value).trans (hmem value).symm
    rw [heq, if_neg fun h => h.2 (halone h.1)]

/-- If everything has a text, what an entity is written as depends on these texts alone, and so does
the refusal to write it. -/
theorem encode_congr {refs' : ReferenceTable} {e' : Entity}
    (hchoices : ∀ c ∈ e.choicesFrom t.name, ∃ value, Value.choiceText t format c = .ok value)
    (hgrants : ∀ g ∈ e.grantsIn t.name, ∃ value, Value.grantText t format refs g = .ok value)
    (hchoices' : ∀ c ∈ e'.choicesFrom t.name, ∃ value, Value.choiceText t format c = .ok value)
    (hgrants' : ∀ g ∈ e'.grantsIn t.name, ∃ value, Value.grantText t format refs' g = .ok value)
    (h : ∀ value, t.Writes format refs e value ↔ t.Writes format refs' e' value) :
    t.encode format refs e = t.encode format refs' e' := by
  obtain ⟨values, hsorted, hmem, heq⟩ := exists_encode_eq hchoices hgrants
  obtain ⟨values', hsorted', hmem', heq'⟩ := exists_encode_eq hchoices' hgrants'
  obtain rfl : values = values' :=
    hsorted.eq_of_mem_iff hsorted' fun value =>
      (hmem value).trans ((h value).trans (hmem' value).symm)
  rw [heq, heq']

end Token

/-! ### The targets of a payload -/

namespace Payload

variable {p : Payload} {l : List Value.Segment} {r : Ref} {T : Target}

/-- The targets of the references of a payload. -/
def targets (p : Payload) (refs : ReferenceTable) : Set Target :=
  {T | ∃ r ∈ p.toList, refs.target? r = some T}

/-- The texts of the names of a payload, in order. -/
def nameTexts (p : Payload) (refs : ReferenceTable) : List String :=
  Text.sortNames ((p.capabilities.filterMap refs.target?).map (·.label))

/-- The texts of the type groups of a payload, in order. -/
def groupTexts (p : Payload) (t : Token) (refs : ReferenceTable) : List String :=
  Text.sortNames ((p.typeGroups.filterMap refs.target?).map (Value.typeGroupText t))

/-- The texts of the segments that a payload is written as. -/
def segmentTexts (p : Payload) (t : Token) (refs : ReferenceTable) : List String :=
  if p.isAll then [Value.allMarker] else p.nameTexts refs ++ p.groupTexts t refs

theorem mem_toList_iff (hall : p.isAll = false) :
    r ∈ p.toList ↔ r ∈ p.capabilities ∨ r ∈ p.typeGroups := by
  cases p with
  | all r => cases hall
  | refs capabilities typeGroups => exact List.mem_append

namespace Covers

/-- A reference of a payload that covers segments means the target of one of them. -/
theorem target?_of_mem (h : p.Covers t refs l) (hr : r ∈ p.toList) :
    ∃ s ∈ l, ∃ T T', s.target? t = some T ∧ refs.target? r = some T' ∧ T'.folded = T.folded := by
  obtain ⟨s, hs, T, hT, hfind⟩ := h.mem_toList.mp hr
  obtain ⟨T', hT', hfold⟩ := ReferenceTable.target?_of_find? hfind
  exact ⟨s, hs, T, T', hT, hT', hfold⟩

theorem target?_of_mem_capabilities (h : p.Covers t refs l) (hr : r ∈ p.capabilities) :
    ∃ n, refs.target? r = some (.named t.capability n) := by
  obtain ⟨text, -, hfind⟩ := h.mem_capabilities.mp hr
  obtain ⟨T, hT, hfold⟩ := ReferenceTable.target?_of_find? hfind
  cases T <;> simp only [Target.ofName, Target.folded, reduceCtorEq, Target.named.injEq] at hfold
  exact ⟨_, hfold.1 ▸ hT⟩

theorem target?_of_mem_typeGroups (h : p.Covers t refs l) (hr : r ∈ p.typeGroups) :
    ∃ base types, refs.target? r = some (.typed t.typeCategory base types) := by
  obtain ⟨expr, T, -, hT, hfind⟩ := h.mem_typeGroups.mp hr
  obtain ⟨-, rfl⟩ := Target.ofTypes?_eq_some_iff.mp hT
  obtain ⟨T, hT, hfold⟩ := ReferenceTable.target?_of_find? hfind
  cases T <;> simp only [Target.folded, reduceCtorEq, Target.typed.injEq] at hfold
  exact ⟨_, _, hfold.1 ▸ hT⟩

theorem target?_of_all {r : Ref} (h : (Payload.all r).Covers t refs l) :
    refs.target? r = some (.allOf t.capability) := by
  obtain ⟨s, hs, T, T', hT, hT', hfold⟩ := h.target?_of_mem List.mem_cons_self
  have hmem : .all ∈ l := h.isAll.mp rfl
  obtain ⟨r', hr'⟩ := Option.isSome_iff_exists.mp (h.found hmem rfl)
  obtain rfl : r' = r := List.mem_singleton.mp (h.mem_toList.mpr ⟨_, hmem, _, rfl, hr'⟩)
  obtain ⟨T, hT, hfold⟩ := ReferenceTable.target?_of_find? hr'
  cases T <;> simp only [Target.folded, reduceCtorEq, Target.allOf.injEq] at hfold
  exact hfold ▸ hT

/-- In a table that spells the targets of the segments as the segments do, the payload has exactly
these targets. -/
theorem mem_targets_iff (h : p.Covers t refs l)
    (hspells : ∀ s ∈ l, ∀ T, s.target? t = some T → ∀ T' ∈ refs.targets, T'.folded = T.folded →
      T' = T) :
    T ∈ p.targets refs ↔ ∃ s ∈ l, s.target? t = some T := by
  constructor
  · rintro ⟨r, hr, hT⟩
    obtain ⟨s, hs, T₁, T₂, hT₁, hT₂, hfold⟩ := h.target?_of_mem hr
    obtain rfl := Option.some_inj.mp (hT.symm.trans hT₂)
    obtain rfl := hspells s hs T₁ hT₁ T (ReferenceTable.mem_targets_of_target? hT) hfold
    exact ⟨s, hs, hT₁⟩
  · rintro ⟨s, hs, hT⟩
    obtain ⟨r, hr⟩ := Option.isSome_iff_exists.mp (h.found hs hT)
    obtain ⟨T', hT', hfold⟩ := ReferenceTable.target?_of_find? hr
    obtain rfl := hspells s hs T hT T' (ReferenceTable.mem_targets_of_target? hT') hfold
    exact ⟨r, h.mem_toList.mpr ⟨s, hs, T', hT, hr⟩, hT'⟩

/-- The texts of a payload are those of its targets. -/
theorem mem_segmentTexts (h : p.Covers t refs l) {s : String} :
    s ∈ p.segmentTexts t refs ↔ ∃ T ∈ p.targets refs, s = Value.typeGroupText t T := by
  cases hall : p.isAll with
  | true =>
    cases p with
    | refs capabilities typeGroups => cases hall
    | all r =>
      have hr := h.target?_of_all
      simp only [segmentTexts, hall, if_true, List.mem_singleton]
      constructor
      · rintro rfl
        exact ⟨_, ⟨r, List.mem_cons_self, hr⟩, rfl⟩
      · rintro ⟨T, ⟨r', hr', hT⟩, rfl⟩
        obtain rfl := List.mem_singleton.mp hr'
        obtain rfl := Option.some_inj.mp (hr.symm.trans hT)
        rfl
  | false =>
    simp only [segmentTexts, hall, Bool.false_eq_true, if_false, List.mem_append, nameTexts,
      groupTexts, Text.sortNames, List.mem_mergeSort, List.mem_map, List.mem_filterMap]
    constructor
    · rintro (⟨T, ⟨r, hr, hT⟩, rfl⟩ | ⟨T, ⟨r, hr, hT⟩, rfl⟩)
      · obtain ⟨n, hn⟩ := h.target?_of_mem_capabilities hr
        obtain rfl := Option.some_inj.mp (hn.symm.trans hT)
        exact ⟨_, ⟨r, (mem_toList_iff hall).mpr (Or.inl hr), hT⟩, rfl⟩
      · exact ⟨T, ⟨r, (mem_toList_iff hall).mpr (Or.inr hr), hT⟩, rfl⟩
    · rintro ⟨T, ⟨r, hr, hT⟩, rfl⟩
      obtain hr | hr := (mem_toList_iff hall).mp hr
      · obtain ⟨n, hn⟩ := h.target?_of_mem_capabilities hr
        obtain rfl := Option.some_inj.mp (hn.symm.trans hT)
        exact Or.inl ⟨_, ⟨r, hr, hT⟩, rfl⟩
      · exact Or.inr ⟨T, ⟨r, hr, hT⟩, rfl⟩

theorem exists_mem_targets (h : p.Covers t refs l) : ∃ T, T ∈ p.targets refs := by
  obtain ⟨s, hs, hT⟩ := h.nonempty
  obtain ⟨T, hT⟩ := Option.isSome_iff_exists.mp hT
  obtain ⟨r, hr⟩ := Option.isSome_iff_exists.mp (h.found hs hT)
  obtain ⟨T', hT', -⟩ := ReferenceTable.target?_of_find? hr
  exact ⟨T', r, h.mem_toList.mpr ⟨s, hs, T, hT, hr⟩, hT'⟩

theorem segmentTexts_ne_nil (h : p.Covers t refs l) : p.segmentTexts t refs ≠ [] := by
  obtain ⟨T, hT⟩ := h.exists_mem_targets
  exact List.ne_nil_of_mem (h.mem_segmentTexts.mpr ⟨T, hT, rfl⟩)

private theorem mapM_targetOf (refs : ReferenceTable) {l : List Ref}
    (h : ∀ r ∈ l, ∃ T, refs.target? r = some T) :
    l.mapM (Value.targetOf refs) = .ok (l.filterMap refs.target?) := by
  rw [mapM_eq_ok_iff]
  induction l with
  | nil => exact .nil
  | cons r l ih =>
    obtain ⟨⟨T, hT⟩, hl⟩ := List.forall_mem_cons.mp h
    rw [List.filterMap_cons_some hT]
    exact .cons (by rw [Value.targetOf, hT]) (ih hl)

/-- A payload that covers segments is written as the texts of its targets. -/
theorem payloadText_eq (h : p.Covers t refs l) :
    Value.payloadText t refs p = .ok (Text.join Value.separator (p.segmentTexts t refs)) := by
  cases p with
  | all r => rfl
  | refs capabilities typeGroups =>
    have hcap := mapM_targetOf refs (l := capabilities) fun r hr =>
      (h.target?_of_mem_capabilities hr).imp' _ fun _ => id
    have htype := mapM_targetOf refs (l := typeGroups) fun r hr =>
      let ⟨_, _, hT⟩ := h.target?_of_mem_typeGroups hr
      ⟨_, hT⟩
    rw [Value.payloadText, hcap, htype]
    rfl

/-- The references of a payload mean the same in every later table. -/
theorem target?_of_extends (h : p.Covers t refs l) {refs' : ReferenceTable}
    (hext : refs.Extends refs') (hr : r ∈ p.toList) : refs'.target? r = refs.target? r := by
  obtain ⟨_, _, _, T', _, hT', _⟩ := h.target?_of_mem hr
  rw [hT', hext.target? hT']

theorem targets_of_extends (h : p.Covers t refs l) {refs' : ReferenceTable}
    (hext : refs.Extends refs') : p.targets refs' = p.targets refs := by
  ext T
  exact exists_congr fun r => and_congr_right fun hr => by rw [h.target?_of_extends hext hr]

end Covers

end Payload

/-! ### Writing in a later table -/

/-- The references of the grants in the slot are all in the table. -/
def Entity.RefersInto (e : Entity) (slot : String) (refs : ReferenceTable) : Prop :=
  ∀ g ∈ e.grantsIn slot, ∀ r ∈ g.payload.toList, ∃ T, refs.target? r = some T

theorem Entity.RefersInto.mono {slot : String} {refs' : ReferenceTable}
    (h : e.RefersInto slot refs) (hext : refs.Extends refs') : e.RefersInto slot refs' :=
  fun g hg r hr => (h g hg r hr).imp fun _ => hext.target?

theorem Entity.RefersInto.gains {e' : Entity} {v : Value} (h : e.RefersInto t.name refs)
    (hgains : e.Gains e' t refs v) : e'.RefersInto t.name refs := by
  obtain ⟨-, heq⟩ | ⟨p, hp, heq⟩ := hgains.grants
  · rwa [RefersInto, heq]
  · rw [RefersInto, heq, List.forall_mem_append]
    refine ⟨h, List.forall_mem_singleton.mpr fun r hr => ?_⟩
    obtain ⟨_, -, _, T, -, hT, -⟩ := hp.target?_of_mem hr
    exact ⟨T, hT⟩

/-- What is in the slot and among the choices of the token is written in the same way in every later
table, whatever else the entity holds by then. -/
theorem Entity.RefersInto.encode_eq {refs' : ReferenceTable} {e' : Entity}
    (h : e.RefersInto t.name refs) (hext : refs.Extends refs')
    (hgrants : e'.grantsIn t.name = e.grantsIn t.name)
    (hchoices : e'.choicesFrom t.name = e.choicesFrom t.name) (format : ConditionFormat) :
    t.encode format refs' e' = t.encode format refs e := by
  have htexts : (e.grantsIn t.name).mapM (Value.grantText t format refs') =
      (e.grantsIn t.name).mapM (Value.grantText t format refs) :=
    mapM_congr_left fun g hg => by
      have hpayload : Value.payloadText t refs' g.payload = Value.payloadText t refs g.payload :=
        Value.payloadText_congr t fun r hr => by
          obtain ⟨T, hT⟩ := h g hg r hr
          rw [hext.target? hT, hT]
      rw [Value.grantText, Value.grantText, hpayload]
  rw [Token.encode, Token.encode, hgrants, hchoices, htexts]

namespace Value

theorem conditionText_ne_unknownRef (t : Token) (format : ConditionFormat)
    (condition : Option Condition) (r : Ref) :
    conditionText t format condition ≠ .error (.unknownRef r) := by
  cases condition with
  | none => nofun
  | some condition =>
    rw [conditionText]
    cases format.write condition <;> nofun

/-- A payload has a text if all its references are in the table. -/
theorem exists_payloadText {p : Payload} (t : Token)
    (h : ∀ r ∈ p.toList, ∃ T, refs.target? r = some T) :
    ∃ text, payloadText t refs p = .ok text := by
  cases p with
  | all r => exact ⟨_, rfl⟩
  | refs capabilities typeGroups =>
    have hlist : ∀ l : List Ref, l ⊆ capabilities ++ typeGroups →
        ∃ targets, l.mapM (targetOf refs) = .ok targets := fun l hl =>
      mapM_isOk_iff.mpr fun r hr => by
        obtain ⟨T, hT⟩ := h r (hl hr)
        exact ⟨T, by rw [targetOf, hT]⟩
    obtain ⟨names, hnames⟩ := hlist capabilities (List.subset_append_left _ _)
    obtain ⟨groups, hgroups⟩ := hlist typeGroups (List.subset_append_right _ _)
    exact ⟨_, by rw [payloadText, hnames, hgroups]; rfl⟩

end Value

/-- If all references are in the table, writing may fail at a condition, or because everything
stands beside other texts, but not at a reference. -/
theorem Entity.RefersInto.encode_ne_unknownRef (h : e.RefersInto t.name refs)
    (format : ConditionFormat) (r : Ref) : t.encode format refs e ≠ .error (.unknownRef r) := by
  intro hencode
  obtain ⟨hchoices, hgrants⟩ | ⟨err, herr, htext⟩ := t.texts_or_encode_eq_error format refs e
  · obtain ⟨values, -, -, heq⟩ := Token.exists_encode_eq hchoices hgrants
    rw [heq] at hencode
    split at hencode <;> cases hencode
  · obtain rfl := Except.error.inj (herr.symm.trans hencode)
    obtain ⟨c, -, hc⟩ | ⟨g, hg, hg'⟩ := htext
    · exact Value.conditionText_ne_unknownRef t format _ r (Value.choiceText_eq_error_iff.mp hc)
    · obtain ⟨payload, hpayload⟩ := Value.exists_payloadText t (h g hg)
      obtain hpayload' | hcondition := Value.grantText_eq_error hg'
      · cases hpayload.symm.trans hpayload'
      · exact Value.conditionText_ne_unknownRef t format _ r hcondition

end GrantList
