import GrantList.Proofs.Text.Splitting
import GrantList.Proofs.Value.Bracket
import GrantList.Proofs.Value.Interning
import GrantList.Proofs.Value.Separator

/-!
# What reading one value does

Whether a value is accepted, and as what, depends on its text and the format of conditions alone
(`Token.Accepts`, `Token.decode_of_accepts`); the table and the entity have no part in it. An accepted
value adds to the entity one choice grant for each choice among its segments and, if it has any
other segments, one grant that covers them (`Entity.Gains`). The table grows by targets of the
value's segments, whether the value is accepted or not (`Token.enter_table`).
-/

namespace GrantList

namespace Value

/-- The part of a value before its condition. -/
def payloadOf (value : String) : String :=
  .ofList (value.toList.takeWhile (· ≠ '['))

/-- The parts of a value between separators, without its condition. -/
def partsOf (value : String) : List String :=
  Text.split separator (payloadOf value)

/-- The segments of a value, whether it is accepted or not. -/
def segmentsOf (t : Token) (value : String) : List Segment :=
  (Text.split separator (payloadOf value)).map (.ofText t)

theorem segmentsOf_eq (t : Token) (value : String) :
    segmentsOf t value = (partsOf value).map (.ofText t) :=
  rfl

theorem payload_eq_payloadOf {value payload : String} {condition : Option String}
    (h : splitCondition? value = some (payload, condition)) : payload = payloadOf value := by
  obtain ⟨⟨p, c⟩, hcut, heq⟩ := Option.map_eq_some_iff.mp h
  obtain ⟨rfl, -⟩ := Prod.mk.inj heq
  rw [cutBracket?] at hcut
  split at hcut
  · obtain ⟨rfl, -⟩ := Prod.mk.inj (Option.some_inj.mp hcut)
    rfl
  · split at hcut
    · obtain ⟨rfl, -⟩ := Prod.mk.inj (Option.some_inj.mp hcut)
      rfl
    · cases hcut

theorem payloadOf_withCondition {payload : String} (h : '[' ∉ payload.toList)
    (condition : Option String) : payloadOf (withCondition payload condition) = payload :=
  (payload_eq_payloadOf (splitCondition?_withCondition h condition)).symm

variable {t : Token} {format : ConditionFormat} {value : String} {v : Value}

/-- A text is cut into a value when its bracket is closed, its condition can be read and no segment
is empty. -/
theorem ofText_eq_ok_iff :
    ofText t format value = .ok v ↔ ∃ payload condition,
      splitCondition? value = some (payload, condition) ∧
        readCondition format condition = .ok v.condition ∧
        "" ∉ Text.split separator payload ∧
        v.segments = (Text.split separator payload).map (.ofText t) := by
  rw [ofText]
  cases hsplit : splitCondition? value with
  | none => simp
  | some p =>
    obtain ⟨payload, condition⟩ := p
    simp only [Option.some.injEq, Prod.mk.injEq, ← separatorProblem?_eq_none_iff]
    cases hread : readCondition format condition with
    | error cause => simp [hread]
    | ok c =>
      cases hsep : separatorProblem? separator payload with
      | some problem => simp [hsep]
      | none =>
        simp only [Except.ok.injEq]
        constructor
        · rintro rfl
          exact ⟨payload, condition, ⟨rfl, rfl⟩, hread, hsep, rfl⟩
        · rintro ⟨_, _, ⟨rfl, rfl⟩, hc, -, hsegments⟩
          rw [hread, Except.ok.injEq] at hc
          obtain ⟨segments, condition⟩ := v
          exact congr (congrArg Value.mk hsegments.symm) hc

theorem segments_eq (h : ofText t format value = .ok v) : v.segments = segmentsOf t value := by
  obtain ⟨payload, condition, hsplit, -, -, hsegments⟩ := ofText_eq_ok_iff.mp h
  rw [hsegments, payload_eq_payloadOf hsplit, segmentsOf]

theorem segments_ne_nil (h : ofText t format value = .ok v) : v.segments ≠ [] := by
  rw [segments_eq h, segmentsOf]
  simp [Text.split_ne_nil]

end Value

/-- The token accepts the text as the value `v`. -/
structure Token.Accepts (t : Token) (format : ConditionFormat) (value : String) (v : Value) :
    Prop where
  /-- The text is cut into the segments and the condition of `v`. -/
  ofText : Value.ofText t format value = .ok v
  /-- No type group has an empty part. -/
  hasTargets : Value.HasTargets t v.segments
  /-- Everything does not stand beside other segments. -/
  keepsAllApart : Value.KeepsAllApart v.segments

theorem Token.Accepts.unique {t : Token} {format : ConditionFormat} {value : String} {v v' : Value}
    (h : t.Accepts format value v) (h' : t.Accepts format value v') : v = v' :=
  Except.ok.inj (h.ofText.symm.trans h'.ofText)

/-- The entity `e'` is `e` with what the value attaches, read in the table `refs`. -/
structure Entity.Gains (e e' : Entity) (t : Token) (refs : ReferenceTable) (v : Value) : Prop where
  /-- The key stays. -/
  key : e'.key = e.key
  /-- Each choice among the segments adds a choice grant. -/
  choices : e'.choicesFrom t.name = e.choicesFrom t.name ++
    List.replicate (v.segments.count .choice) { source := t.name, condition := v.condition }
  /-- The other segments together add one grant. -/
  grants : (∀ s ∈ v.segments, s = .choice) ∧ e'.grantsIn t.name = e.grantsIn t.name ∨
    ∃ p : Payload, p.Covers t refs v.segments ∧
      e'.grantsIn t.name = e.grantsIn t.name ++ [{ payload := p, condition := v.condition }]

/-! ### Attaching -/

namespace Entity

theorem attachAll_append (e : Entity) (slot : String) (l l' : List Attachment) :
    e.attachAll slot (l ++ l') = (e.attachAll slot l).attachAll slot l' :=
  List.foldl_append

private theorem attachAll_replicate_choice (e : Entity) (slot : String) (n : Nat)
    (c : ChoiceGrant) :
    e.attachAll slot (List.replicate n (.choice c)) =
      { e with choices := e.choices ++ List.replicate n c } := by
  induction n generalizing e with
  | zero => simp [attachAll]
  | succ n ih =>
    rw [List.replicate_succ, attachAll, List.foldl_cons, ← attachAll, ih, List.replicate_succ]
    simp [attach, addChoice]

end Entity

namespace Value

variable {t : Token} {refs : ReferenceTable} {v : Value} {items : List Item}

/-- What items attach to an entity: a choice grant for each choice at the end of its choices, and
what they grant at the end of its slots. -/
theorem attachAll_attachments (e : Entity) (t : Token) (condition : Option Condition)
    (items : List Item) :
    e.attachAll t.name (attachments t condition items) = { e with
      slots := e.slots ++ ((payload? items).map fun payload =>
        (t.name, { payload, condition })).toList
      choices := e.choices ++
        List.replicate (items.countP (· == .choice)) { source := t.name, condition } } := by
  rw [attachments, List.map_const', ← List.countP_eq_length_filter, Entity.attachAll_append,
    Entity.attachAll_replicate_choice]
  cases payload? items <;> simp [Entity.attachAll, Entity.attach, Entity.addGrant]

/-- What the items of an accepted value attach is what the entity gains. -/
private theorem gains_attachments (e : Entity)
    (h : List.Forall₂ (fun s i => s.item? t refs = some i) v.segments items)
    (hapart : KeepsAllApart v.segments) :
    e.Gains (e.attachAll t.name (attachments t v.condition items)) t refs v := by
  rw [attachAll_attachments, ← count_choice h]
  refine { key := rfl, choices := by simp [Entity.choicesFrom], grants := ?_ }
  cases hp : payload? items with
  | none => exact Or.inl ⟨(payload?_eq_none_iff h).mp hp, by simp [Entity.grantsIn]⟩
  | some p => exact Or.inr ⟨p, covers_payload? h hapart hp, by simp [Entity.grantsIn]⟩

theorem any_isAll_and_not_all_iff {l : List Segment} :
    (l.any (·.isAll) && !l.all (·.isAll)) = false ↔ KeepsAllApart l := by
  have hall : ∀ s : Segment, s.isAll = true ↔ s = .all := by
    intro s
    cases s <;> simp [Segment.isAll]
  rw [Bool.and_eq_false_imp, Bool.not_eq_false', List.any_eq_true, List.all_eq_true]
  simp only [hall]
  constructor
  · exact fun h hmem => h ⟨_, hmem, rfl⟩
  · rintro h ⟨s, hs, rfl⟩
    exact h hs

/-- Of a value whose segments were entered, only the table is left when it is rejected after all. -/
private theorem resolve_fst (v : Value) (t : Token) (refs : ReferenceTable) :
    (v.resolve t refs).1 = (internAll t refs v.segments).1 := by
  rw [resolve]
  cases internAll t refs v.segments with
  | mk mid result =>
    cases result with
    | error cause => rfl
    | ok items => dsimp only; split <;> rfl

end Value

/-! ### Reading a value -/

namespace Token

variable {t : Token} {format : ConditionFormat} {refs refs' : ReferenceTable} {e e' : Entity}
  {value : String}

/-- The table after a value was read into it, whatever came of the value. -/
def enter (t : Token) (format : ConditionFormat) (refs : ReferenceTable) (value : String) :
    ReferenceTable :=
  match Value.ofText t format value with
  | .error _ => refs
  | .ok v => (Value.internAll t refs v.segments).1

/-- The entity has no part in what is entered into the table, nor has it whether the value is
accepted. -/
theorem decode_fst (t : Token) (format : ConditionFormat) (refs : ReferenceTable) (e : Entity)
    (value : String) : (t.decode format refs e value).1 = t.enter format refs value := by
  rw [decode, enter]
  cases Value.ofText t format value with
  | error cause => rfl
  | ok v =>
    dsimp only
    rw [← Value.resolve_fst]
    cases hres : v.resolve t refs with
    | mk mid result => cases result <;> rfl

/-- However the reading of a value ends, the table has grown by targets of its segments. -/
theorem enter_table (t : Token) (format : ConditionFormat) (refs : ReferenceTable)
    (value : String) :
    refs.Extends (t.enter format refs value) ∧
      (refs.Distinct → (t.enter format refs value).Distinct) ∧
      ∀ T ∈ (t.enter format refs value).targets,
        T ∈ refs.targets ∨ ∃ s ∈ Value.segmentsOf t value, s.target? t = some T := by
  rw [enter]
  cases hv : Value.ofText t format value with
  | error cause => exact ⟨.refl refs, id, fun T hT => Or.inl hT⟩
  | ok v =>
    rw [← Value.segments_eq hv]
    exact Value.internAll_table t refs v.segments

/-- A value whose targets are all in the table leaves it as it is. -/
theorem enter_of_found
    (h : ∀ s ∈ Value.segmentsOf t value, ∀ T, s.target? t = some T → (refs.find? T).isSome) :
    t.enter format refs value = refs := by
  rw [enter]
  cases hv : Value.ofText t format value with
  | error cause => rfl
  | ok v =>
    rw [← Value.segments_eq hv] at h
    exact Value.internAll_fst_of_found h

/-- A value is read when its text is cut into a value, all segments are entered and everything
stands apart. The entity then has what the items attach. -/
theorem decode_eq_ok_iff :
    t.decode format refs e value = (refs', .ok e') ↔ ∃ v items,
      Value.ofText t format value = .ok v ∧
        Value.internAll t refs v.segments = (refs', .ok items) ∧
          Value.KeepsAllApart v.segments ∧
            e' = e.attachAll t.name (Value.attachments t v.condition items) := by
  rw [decode]
  cases hv : Value.ofText t format value with
  | error cause => simp
  | ok v =>
    simp only [Except.ok.injEq, exists_eq_left', exists_and_left]
    rw [Value.resolve]
    cases hi : Value.internAll t refs v.segments with
    | mk mid result =>
      cases result with
      | error cause => simp
      | ok items =>
        rw [← Value.any_isAll_and_not_all_iff]
        cases v.segments.any (·.isAll) && !v.segments.all (·.isAll) <;>
          simp [eq_comm (a := e')]

/-- A value that was read is accepted, and the entity has gained what it says. -/
theorem decode_eq_ok (h : t.decode format refs e value = (refs', .ok e')) :
    ∃ v, t.Accepts format value v ∧ e.Gains e' t refs' v := by
  obtain ⟨v, items, hv, hi, hapart, rfl⟩ := decode_eq_ok_iff.mp h
  have htargets : Value.HasTargets t v.segments :=
    (Value.internAll_isOk_iff refs).mp ⟨items, congrArg Prod.snd hi⟩
  exact ⟨v, ⟨hv, htargets, hapart⟩, Value.gains_attachments e (Value.internAll_items hi) hapart⟩

/-- Reading a value leaves alone what other tokens attached. -/
theorem decode_frame (h : t.decode format refs e value = (refs', .ok e')) {name : String}
    (hname : t.name ≠ name) :
    e'.grantsIn name = e.grantsIn name ∧ e'.choicesFrom name = e.choicesFrom name := by
  obtain ⟨v, items, -, -, -, rfl⟩ := decode_eq_ok_iff.mp h
  rw [Value.attachAll_attachments]
  constructor
  · cases Value.payload? items <;> simp [Entity.grantsIn, hname]
  · simp [Entity.choicesFrom, hname]

/-- An accepted value is read into every table and every entity. -/
theorem decode_of_accepts {v : Value} (h : t.Accepts format value v) (refs : ReferenceTable)
    (e : Entity) : ∃ refs' e', t.decode format refs e value = (refs', .ok e') := by
  obtain ⟨items, hitems⟩ := (Value.internAll_isOk_iff refs).mpr h.hasTargets
  exact ⟨_, _, decode_eq_ok_iff.mpr
    ⟨v, items, h.ofText, Prod.ext rfl hitems, h.keepsAllApart, rfl⟩⟩

end Token

end GrantList
