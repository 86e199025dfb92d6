import GrantList.Proofs.Loading

/-!
# Tables that agree on some targets

Two tables agree on a class of targets when they hold the same targets of this class, in the same
order (`ReferenceTable.AgreeOn`). If the class does not tell apart what means the same, agreement is
kept by everything that is entered into both tables, whatever else they hold. So a target that was
entered into one table alone is never seen by a class that leaves it out.
-/

namespace GrantList

/-- The class does not tell apart targets that mean the same. -/
def Target.Respects (p : Target → Bool) : Prop :=
  ∀ T T' : Target, T.folded = T'.folded → p T = p T'

/-- The target means something else than each of the given ones. -/
def Target.isApartFrom (l : List Target) (T : Target) : Bool :=
  !l.any fun T₀ => T₀.folded == T.folded

theorem Target.isApartFrom_eq_false_iff {l : List Target} {T : Target} :
    T.isApartFrom l = false ↔ ∃ T₀ ∈ l, T₀.folded = T.folded := by
  simp [isApartFrom]

theorem Target.respects_isApartFrom (l : List Target) : Respects (isApartFrom l) := by
  intro T T' hfold
  rw [isApartFrom, isApartFrom, hfold]

namespace ReferenceTable

/-- The tables hold the same targets of the class, in the same order. -/
def AgreeOn (p : Target → Bool) (t t' : ReferenceTable) : Prop :=
  t.targets.filter p = t'.targets.filter p

/-- The targets that the table `t'` holds beyond those of `t`. -/
def since (t t' : ReferenceTable) : List Target :=
  t'.targets.drop t.targets.length

variable {t t' : ReferenceTable} {p : Target → Bool} {T : Target}

theorem Extends.targets_eq (h : t.Extends t') : t'.targets = t.targets ++ t.since t' :=
  (List.prefix_iff_eq_append.mp h).symm

/-- In a table without repetition, what came later means nothing that was there before. -/
theorem Distinct.not_mem_of_mem_since (h : t'.Distinct) (hext : t.Extends t')
    (hT : T ∈ t.since t') : T ∉ t.targets := by
  intro hmem
  rw [Distinct, hext.targets_eq, List.map_append, List.nodup_append] at h
  exact h.2.2 _ (List.mem_map_of_mem hmem) _ (List.mem_map_of_mem hT) rfl

namespace AgreeOn

theorem refl (p : Target → Bool) (t : ReferenceTable) : t.AgreeOn p t :=
  rfl

theorem symm (h : AgreeOn p t t') : AgreeOn p t' t :=
  Eq.symm h

theorem trans {t'' : ReferenceTable} (h : AgreeOn p t t') (h' : AgreeOn p t' t'') :
    AgreeOn p t t'' :=
  Eq.trans h h'

theorem mem_iff (h : AgreeOn p t t') (hT : p T = true) : T ∈ t.targets ↔ T ∈ t'.targets := by
  have hfilter : T ∈ t.targets.filter p ↔ T ∈ t'.targets.filter p := by rw [h]
  simpa [hT] using hfilter

/-- A table agrees with a later one if nothing of the class came to it. -/
theorem of_extends (hext : t.Extends t') (h : ∀ T ∈ t.since t', p T = false) : AgreeOn p t t' := by
  have hsince : (t.since t').filter p = [] :=
    List.filter_eq_nil_iff.mpr fun T hT => Bool.eq_false_iff.mp (h T hT)
  rw [AgreeOn, hext.targets_eq, List.filter_append, hsince, List.append_nil]

/-- Where two tables agree on a class, a target of the class is found in both or in neither. -/
private theorem isSome_find?_eq (hp : Target.Respects p) (h : AgreeOn p t t') (hT : p T = true) :
    (t.find? T).isSome = (t'.find? T).isSome := by
  rw [Bool.eq_iff_iff, isSome_find?_iff, isSome_find?_iff]
  refine exists_congr fun T' => and_congr_left fun hfold => ?_
  exact h.mem_iff ((hp T' T hfold).trans hT)

/-- Tables go on to agree when one target is entered into both. -/
theorem intern (hp : Target.Respects p) (h : AgreeOn p t t') (T : Target) :
    AgreeOn p (t.intern T).1 (t'.intern T).1 := by
  have hfilter : ∀ t : ReferenceTable, (t.intern T).1.targets.filter p =
      if p T = true ∧ (t.find? T).isSome = false then t.targets.filter p ++ [T]
      else t.targets.filter p := by
    intro t
    rw [targets_intern]
    cases hT : p T <;> cases hfind : (t.find? T).isSome <;> simp [hT]
  rw [AgreeOn, hfilter, hfilter, h]
  refine if_congr (and_congr_right fun hT => ?_) rfl rfl
  rw [isSome_find?_eq hp h hT]

end AgreeOn

end ReferenceTable

/-! ### Entering values -/

namespace ReferenceTable.AgreeOn

variable {refs refs' : ReferenceTable} {p : Target → Bool}

/-- Whether a segment is refused does not depend on the table. -/
private theorem intern_segment (hp : Target.Respects p) (h : AgreeOn p refs refs') (t : Token)
    (s : Value.Segment) :
    (∃ cause, s.intern t refs = .error cause ∧ s.intern t refs' = .error cause) ∨
      ∃ mid mid' i i', s.intern t refs = .ok (mid, i) ∧ s.intern t refs' = .ok (mid', i') ∧
        AgreeOn p mid mid' := by
  cases s with
  | choice => exact Or.inr ⟨refs, refs', .choice, .choice, rfl, rfl, h⟩
  | all => exact Or.inr ⟨_, _, _, _, rfl, rfl, h.intern hp (.allOf t.capability)⟩
  | typeGroup expr =>
    rw [Value.Segment.intern_typeGroup, Value.Segment.intern_typeGroup]
    cases Target.ofTypes? t.typeCategory t.typeBase expr with
    | none => exact Or.inl ⟨_, rfl, rfl⟩
    | some T => exact Or.inr ⟨_, _, _, _, rfl, rfl, h.intern hp T⟩
  | name text => exact Or.inr ⟨_, _, _, _, rfl, rfl, h.intern hp (.ofName t.capability text)⟩

private theorem internAll (hp : Target.Respects p) (h : AgreeOn p refs refs') (t : Token)
    (l : List Value.Segment) :
    AgreeOn p (Value.internAll t refs l).1 (Value.internAll t refs' l).1 := by
  induction l generalizing refs refs' with
  | nil => exact h
  | cons s l ih =>
    rw [Value.internAll, Value.internAll]
    obtain ⟨cause, hs, hs'⟩ | ⟨mid, mid', i, i', hs, hs', hmid⟩ := intern_segment hp h t s
    · rw [hs, hs']
      exact h
    · rw [hs, hs']
      exact ih hmid

/-- Tables go on to agree when one value is entered into both. -/
theorem enter (hp : Target.Respects p) (h : AgreeOn p refs refs') (t : Token)
    (format : ConditionFormat) (value : String) :
    AgreeOn p (t.enter format refs value) (t.enter format refs' value) := by
  rw [Token.enter, Token.enter]
  cases Value.ofText t format value with
  | error cause => exact h
  | ok v => exact internAll hp h t v.segments

/-- Tables go on to agree when the same values are entered into both. -/
theorem foldl_enter (hp : Target.Respects p) (h : AgreeOn p refs refs') (t : Token)
    (format : ConditionFormat) (values : List String) :
    AgreeOn p (values.foldl (t.enter format) refs) (values.foldl (t.enter format) refs') := by
  induction values generalizing refs refs' with
  | nil => exact h
  | cons value values ih => exact ih (h.enter hp t format value)

end ReferenceTable.AgreeOn

end GrantList
