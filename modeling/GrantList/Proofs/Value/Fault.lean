import GrantList.Proofs.Value.Decoding
import GrantList.Proofs.Value.Reading
import GrantList.Proofs.Value.Segment

/-!
# The faults of a value

What may be wrong with the text of a value is said without any reader: its bracket is not closed,
its condition cannot be read, a segment is empty, a type group has an empty part, or everything
stands beside other segments (`Value.HasFault`). A text may have several of these faults, and only
one is reported: the first in the order of `DecodeError.Cause.rank`.

Main result: `LoadContext.decode_rejects_first_fault`. Whatever the table and the entity hold
already, a value is rejected for its first fault, and it is accepted if it has none.
-/

namespace GrantList

/-- The place of a cause in the order in which causes are looked for. -/
def DecodeError.Cause.rank : Cause → Nat
  | .unterminatedCondition => 0
  | .invalidCondition _ _ => 1
  | .malformedSeparator _ => 2
  | .unresolvedType _ => 3
  | .mutualExclusion => 4

namespace Value

/-- The text is a type group with an empty part: it is no marker, and the expression `expr` with an
empty part follows the first introduction with which the text begins. -/
structure IsBrokenGroup (t : Token) (s expr : String) : Prop where
  /-- The text is not the marker of a choice. -/
  ne_choiceMarker : s ≠ choiceMarker
  /-- The text is not the marker of everything. -/
  not_sameAscii_allMarker : ¬ Text.SameAscii s allMarker
  /-- The introductions before the one that `expr` follows do not fit. -/
  begins : ∃ before start after, t.typeIntros = before ++ start :: after ∧ s = start ++ expr ∧
    ∀ other ∈ before, ∀ rest, s ≠ other ++ rest
  /-- A part of the expression is empty. -/
  empty_mem : "" ∈ Text.split '.' expr

/-- The value has a fault, and this is the cause that reports it. -/
inductive HasFault (t : Token) (format : ConditionFormat) (value : String) :
    DecodeError.Cause → Prop
  /-- A bracket is opened and the value does not end with a closing one. -/
  | unterminatedCondition (hopen : '[' ∈ value.toList) (hlast : value.toList.getLast? ≠ some ']') :
    HasFault t format value .unterminatedCondition
  /-- The text between the first bracket and the closing one is not a condition. -/
  | invalidCondition {text : String} {source : ConditionError}
    (hvalue : value = payloadOf value ++ "[" ++ text ++ "]")
    (hread : format.read text = .error source) :
    HasFault t format value (.invalidCondition text source)
  /-- A segment is empty, as the only one of an empty payload is. -/
  | malformedSeparator (hempty : "" ∈ partsOf value) :
    HasFault t format value (.malformedSeparator (.ofParts (partsOf value)))
  /-- A type group has an empty part, and no segment before it does. -/
  | unresolvedType {before after : List String} {s expr : String}
    (hparts : partsOf value = before ++ s :: after) (hs : IsBrokenGroup t s expr)
    (hfirst : ∀ s' ∈ before, ∀ expr', ¬ IsBrokenGroup t s' expr') :
    HasFault t format value (.unresolvedType (t.typeBase ++ "." ++ expr))
  /-- Everything stands beside other segments. -/
  | mutualExclusion (hall : ∃ s ∈ partsOf value, Text.SameAscii s allMarker)
    (hother : ∃ s ∈ partsOf value, ¬ Text.SameAscii s allMarker) :
    HasFault t format value .mutualExclusion

/-- No fault of the value comes before the place `n` in the order. -/
def ClearBelow (t : Token) (format : ConditionFormat) (value : String) (n : Nat) : Prop :=
  ∀ cause, HasFault t format value cause → n ≤ cause.rank

/-- The value has the fault, and none that is looked for before it. -/
def IsFirstFault (t : Token) (format : ConditionFormat) (value : String)
    (cause : DecodeError.Cause) : Prop :=
  HasFault t format value cause ∧ ClearBelow t format value cause.rank

variable {t : Token} {format : ConditionFormat} {value s expr : String}
  {cause cause' : DecodeError.Cause}

theorem isBrokenGroup_iff : IsBrokenGroup t s expr ↔
    Segment.ofText t s = .typeGroup expr ∧ "" ∈ Text.split '.' expr := by
  rw [Segment.ofText_eq_typeGroup_iff_afterAny?, afterAny?_eq_some_iff]
  constructor
  · exact fun ⟨hchoice, hall, hbegins, hempty⟩ => ⟨⟨hchoice, hall, hbegins⟩, hempty⟩
  · exact fun ⟨⟨hchoice, hall, hbegins⟩, hempty⟩ => ⟨hchoice, hall, hbegins, hempty⟩

theorem hasTargets_map_ofText_iff {parts : List String} : HasTargets t (parts.map (.ofText t)) ↔
    ∀ s ∈ parts, ∀ expr, ¬ IsBrokenGroup t s expr := by
  rw [HasTargets, List.forall_mem_map]
  refine forall₂_congr fun s _ => ?_
  simp only [isBrokenGroup_iff, not_and]
  cases h : Segment.ofText t s with
  | choice => simp
  | all => simp [Segment.target?]
  | name text => simp [Segment.target?]
  | typeGroup expr =>
    simp only [Segment.target?, ← Target.ofTypes?_eq_none_iff t.typeCategory t.typeBase,
      Option.isSome_iff_ne_none, ne_eq, reduceCtorEq, not_false_eq_true, true_imp_iff,
      Segment.typeGroup.injEq, forall_eq']

/-! ### How each fault is found -/

namespace HasFault

theorem unterminatedCondition_iff :
    HasFault t format value .unterminatedCondition ↔ splitCondition? value = none := by
  rw [splitCondition?_eq_none_iff]
  constructor
  · intro h
    cases h with
    | unterminatedCondition hopen hlast => exact ⟨hopen, hlast⟩
  · exact fun ⟨hopen, hlast⟩ => .unterminatedCondition hopen hlast

theorem invalidCondition_iff {text : String} {source : ConditionError} :
    HasFault t format value (.invalidCondition text source) ↔
      splitCondition? value = some (payloadOf value, some text) ∧
        format.read text = .error source := by
  rw [splitCondition?_eq_some_iff]
  constructor
  · intro h
    cases h with
    | invalidCondition hvalue hread =>
      refine ⟨⟨?_, hvalue⟩, hread⟩
      rw [payloadOf, String.toList_ofList]
      exact fun hmem => by simpa using List.mem_takeWhile_imp hmem
  · exact fun ⟨⟨_, hvalue⟩, hread⟩ => .invalidCondition hvalue hread

theorem malformedSeparator_iff {problem : SeparatorProblem} :
    HasFault t format value (.malformedSeparator problem) ↔
      separatorProblem? separator (payloadOf value) = some problem := by
  rw [separatorProblem?_eq, Option.ite_none_right_eq_some, Option.some_inj]
  constructor
  · intro h
    cases h with
    | malformedSeparator hempty => exact ⟨hempty, rfl⟩
  · rintro ⟨hempty, rfl⟩
    exact .malformedSeparator hempty

theorem unresolvedType_iff (refs : ReferenceTable) {text : String} :
    HasFault t format value (.unresolvedType text) ↔
      (internAll t refs (segmentsOf t value)).2 = .error (.unresolvedType text) := by
  rw [internAll_eq_error_iff, segmentsOf_eq]
  constructor
  · intro h
    cases h with
    | unresolvedType hparts hs hfirst =>
      obtain ⟨hgroup, hempty⟩ := isBrokenGroup_iff.mp hs
      rw [hparts, List.map_append, List.map_cons, hgroup]
      exact ⟨_, _, _, rfl, hasTargets_map_ofText_iff.mpr hfirst, hempty, rfl⟩
  · rintro ⟨_, expr, _, hsegments, htargets, hempty, htext⟩
    obtain ⟨before, _, hparts, rfl, hrest⟩ := List.map_eq_append_iff.mp hsegments
    obtain ⟨s, after, rfl, hgroup, -⟩ := List.map_eq_cons_iff.mp hrest
    obtain rfl := DecodeError.Cause.unresolvedType.inj htext
    exact .unresolvedType hparts (isBrokenGroup_iff.mpr ⟨hgroup, hempty⟩)
      (hasTargets_map_ofText_iff.mp htargets)

theorem mutualExclusion_iff :
    HasFault t format value .mutualExclusion ↔ ¬ KeepsAllApart (segmentsOf t value) := by
  have hall : .all ∈ segmentsOf t value ↔ ∃ s ∈ partsOf value, Text.SameAscii s allMarker := by
    simp only [segmentsOf_eq, List.mem_map, Segment.ofText_eq_all_iff]
  have hother : (∀ s ∈ segmentsOf t value, s = .all) ↔
      ∀ s ∈ partsOf value, Text.SameAscii s allMarker := by
    simp only [segmentsOf_eq, List.forall_mem_map, Segment.ofText_eq_all_iff]
  rw [KeepsAllApart, hall, hother]
  push Not
  constructor
  · intro h
    cases h with
    | mutualExclusion hall hother => exact ⟨hall, hother⟩
  · exact fun ⟨hall, hother⟩ => .mutualExclusion hall hother

/-- There is at most one fault of each rank. -/
theorem eq_of_rank_eq (h : HasFault t format value cause) (h' : HasFault t format value cause')
    (hrank : cause.rank = cause'.rank) : cause = cause' := by
  cases cause with
  | unterminatedCondition =>
    cases cause' with
    | unterminatedCondition => rfl
    | _ => cases hrank
  | invalidCondition text source =>
    cases cause' with
    | invalidCondition text' source' =>
      obtain ⟨hsplit, hread⟩ := invalidCondition_iff.mp h
      obtain ⟨hsplit', hread'⟩ := invalidCondition_iff.mp h'
      obtain rfl : text = text' := by simpa [hsplit] using hsplit'
      rw [Except.error.inj (hread.symm.trans hread')]
    | _ => cases hrank
  | malformedSeparator problem =>
    cases cause' with
    | malformedSeparator problem' =>
      have heq := (malformedSeparator_iff.mp h).symm.trans (malformedSeparator_iff.mp h')
      rw [Option.some_inj.mp heq]
    | _ => cases hrank
  | unresolvedType text =>
    cases cause' with
    | unresolvedType text' =>
      exact Except.error.inj
        (((unresolvedType_iff {}).mp h).symm.trans ((unresolvedType_iff {}).mp h'))
    | _ => cases hrank
  | mutualExclusion =>
    cases cause' with
    | mutualExclusion => rfl
    | _ => cases hrank

end HasFault

theorem IsFirstFault.unique (h : IsFirstFault t format value cause)
    (h' : IsFirstFault t format value cause') : cause = cause' :=
  h.1.eq_of_rank_eq h'.1 (Nat.le_antisymm (h.2 _ h'.1) (h'.2 _ h.1))

/-! ### The reader finds the first fault -/

theorem readCondition_eq_error_iff {condition : Option String} :
    readCondition format condition = .error cause ↔ ∃ text source, condition = some text ∧
      format.read text = .error source ∧ cause = .invalidCondition text source := by
  cases condition with
  | none => simp [readCondition]
  | some text =>
    rw [readCondition]
    cases hread : format.read text <;> simp [hread, eq_comm (b := cause)]

theorem ClearBelow.succ {n : Nat} (h : ClearBelow t format value n)
    (hno : ∀ cause, HasFault t format value cause → cause.rank ≠ n) :
    ClearBelow t format value (n + 1) :=
  fun cause hcause => Nat.lt_of_le_of_ne (h cause hcause) (hno cause hcause).symm

/-- Cutting the text fails for the first fault of the value, or else only faults of the segments
are left. -/
theorem ofText_result (t : Token) (format : ConditionFormat) (value : String) :
    (∃ cause, ofText t format value = .error cause ∧ IsFirstFault t format value cause) ∨
      ∃ v, ofText t format value = .ok v ∧ ClearBelow t format value 3 := by
  -- each check that is passed rules out the faults of one more rank
  have hclear : ClearBelow t format value 0 := fun _ _ => Nat.zero_le _
  rw [ofText]
  cases hsplit : splitCondition? value with
  | none => exact Or.inl ⟨_, rfl, HasFault.unterminatedCondition_iff.mpr hsplit, hclear⟩
  | some p =>
    obtain ⟨payload, condition⟩ := p
    obtain rfl := payload_eq_payloadOf hsplit
    replace hclear := hclear.succ fun cause h hrank => by
      cases cause with
      | unterminatedCondition => cases hsplit.symm.trans (HasFault.unterminatedCondition_iff.mp h)
      | _ => cases hrank
    dsimp only
    cases hread : readCondition format condition with
    | error cause =>
      obtain ⟨text, source, rfl, hsource, rfl⟩ := readCondition_eq_error_iff.mp hread
      exact Or.inl ⟨_, rfl, HasFault.invalidCondition_iff.mpr ⟨hsplit, hsource⟩, hclear⟩
    | ok c =>
      replace hclear := hclear.succ fun cause h hrank => by
        cases cause with
        | invalidCondition text source =>
          obtain ⟨hsplit', hsource⟩ := HasFault.invalidCondition_iff.mp h
          obtain rfl : condition = some text := by simpa [hsplit] using hsplit'
          cases hread.symm.trans (readCondition_eq_error_iff.mpr ⟨text, source, rfl, hsource, rfl⟩)
        | _ => cases hrank
      dsimp only
      cases hsep : separatorProblem? separator (payloadOf value) with
      | some problem =>
        exact Or.inl ⟨_, rfl, HasFault.malformedSeparator_iff.mpr hsep, hclear⟩
      | none =>
        refine Or.inr ⟨_, rfl, hclear.succ fun cause h hrank => ?_⟩
        cases cause with
        | malformedSeparator problem =>
          cases hsep.symm.trans (HasFault.malformedSeparator_iff.mp h)
        | _ => cases hrank

/-- Entering the segments fails for the first fault of the value, or else it has none. -/
theorem resolve_result {v : Value} (hv : ofText t format value = .ok v)
    (hclear : ClearBelow t format value 3) (refs : ReferenceTable) :
    (∃ cause, (v.resolve t refs).2 = .error cause ∧ IsFirstFault t format value cause) ∨
      (∃ l, (v.resolve t refs).2 = .ok l) ∧ ∀ cause, ¬ HasFault t format value cause := by
  rw [resolve]
  cases hi : internAll t refs v.segments with
  | mk mid result =>
    have hresult : (internAll t refs (segmentsOf t value)).2 = result := by
      rw [← segments_eq hv, hi]
    cases result with
    | error cause =>
      obtain ⟨_, expr, _, -, -, -, rfl⟩ := (internAll_eq_error_iff refs).mp hresult
      exact Or.inl ⟨_, rfl, (HasFault.unresolvedType_iff refs).mpr hresult, hclear⟩
    | ok items =>
      replace hclear := hclear.succ fun cause h hrank => by
        cases cause with
        | unresolvedType text => cases hresult.symm.trans ((HasFault.unresolvedType_iff refs).mp h)
        | _ => cases hrank
      dsimp only
      split
      · next hmixed =>
        refine Or.inl ⟨_, rfl, HasFault.mutualExclusion_iff.mpr fun hapart => ?_, hclear⟩
        rw [← segments_eq hv, ← any_isAll_and_not_all_iff, hmixed] at hapart
        cases hapart
      · next hmixed =>
        refine Or.inr ⟨⟨_, rfl⟩, fun cause h => ?_⟩
        cases cause with
        | mutualExclusion =>
          rw [HasFault.mutualExclusion_iff, ← segments_eq hv, ← any_isAll_and_not_all_iff] at h
          exact h (Bool.eq_false_of_not_eq_true hmixed)
        | _ => exact absurd (hclear _ h) (by simp [DecodeError.Cause.rank])

end Value

/-! ### The result of reading -/

/-- A value is rejected for its first fault, or else it is accepted and has none. -/
theorem Token.decode_result (t : Token) (format : ConditionFormat) (refs : ReferenceTable)
    (e : Entity) (value : String) :
    (∃ cause, (t.decode format refs e value).2 = .error ⟨t.fullName, value, cause⟩ ∧
      Value.IsFirstFault t format value cause) ∨
      (∃ e', (t.decode format refs e value).2 = .ok e') ∧
        ∀ cause, ¬ Value.HasFault t format value cause := by
  rw [decode]
  obtain ⟨cause, hv, hfirst⟩ | ⟨v, hv, hclear⟩ := Value.ofText_result t format value
  · rw [hv]
    exact Or.inl ⟨cause, rfl, hfirst⟩
  · rw [hv]
    dsimp only
    have hresolve := Value.resolve_result hv hclear refs
    cases hmid : v.resolve t refs with
    | mk mid result =>
      rw [hmid] at hresolve
      obtain ⟨cause, rfl, hfirst⟩ | ⟨⟨l, rfl⟩, hno⟩ := hresolve
      · exact Or.inl ⟨cause, rfl, hfirst⟩
      · exact Or.inr ⟨⟨_, rfl⟩, hno⟩

/-- Whatever the table and the entity hold already, a value is rejected for its first fault. It is
accepted exactly when it has no fault. -/
theorem LoadContext.decode_rejects_first_fault (ctx : LoadContext) (t : Token) (e : Entity)
    (value : String) :
    (∀ err, (ctx.decode t e value).2 = .error err ↔
      ∃ cause, Value.IsFirstFault t ctx.format value cause ∧ err = ⟨t.fullName, value, cause⟩) ∧
      ((∃ e', (ctx.decode t e value).2 = .ok e') ↔
        ∀ cause, ¬ Value.HasFault t ctx.format value cause) := by
  rw [ctx.decode_eq]
  obtain ⟨cause, hres, hfirst⟩ | ⟨⟨e', hres⟩, hno⟩ := t.decode_result ctx.format ctx.refs e value
  · rw [hres]
    refine ⟨fun err => ?_, iff_of_false nofun fun hno => hno cause hfirst.1⟩
    rw [Except.error.injEq]
    constructor
    · rintro rfl
      exact ⟨cause, hfirst, rfl⟩
    · rintro ⟨cause', hfirst', rfl⟩
      rw [hfirst.unique hfirst']
  · rw [hres]
    exact ⟨fun err => iff_of_false nofun fun ⟨cause, hfirst, _⟩ => hno cause hfirst.1,
      iff_of_true ⟨e', rfl⟩ hno⟩

/-- A broken type group is reported before everything that stands beside it, and an open bracket
before both. -/
example : (({} : LoadContext).decode .shieldProf { key := "A" } "ALL|SHIELDTYPE=Heavy.").2 =
      .error ⟨"AUTO:SHIELDPROF", "ALL|SHIELDTYPE=Heavy.", .unresolvedType "SHIELD.Heavy."⟩ ∧
    (({} : LoadContext).decode .shieldProf { key := "A" } "ALL|SHIELDTYPE=Heavy.[x").2 =
      .error ⟨"AUTO:SHIELDPROF", "ALL|SHIELDTYPE=Heavy.[x", .unterminatedCondition⟩ := by
  decide +kernel

end GrantList
