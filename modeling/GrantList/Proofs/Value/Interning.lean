import GrantList.Proofs.Reference.Table
import GrantList.Proofs.Reference.Types
import GrantList.Proofs.Value.Resolving
import Mathlib.Data.List.Forall2

/-!
# The references of segments

Every segment except the choice marker has a target (`Segment.target?`), unless it is a type group
with an empty part. Entering segments into a table succeeds exactly when all of them have targets,
and every segment then stands for the reference under which its target is found. A payload covers
segments (`Payload.Covers`) when its references are those of the names, of the type groups and of
everything among them.
-/

namespace GrantList

namespace Value

/-- The target of a segment. A choice has none, nor has a type group with an empty part. -/
def Segment.target? (t : Token) : Segment → Option Target
  | .choice => none
  | .all => some (.allOf t.capability)
  | .typeGroup expr => Target.ofTypes? t.typeCategory t.typeBase expr
  | .name text => some (.ofName t.capability text)

/-- What a segment stands for in a table. -/
def Segment.item? (t : Token) (refs : ReferenceTable) (s : Segment) : Option Item :=
  match s with
  | .choice => some .choice
  | .all => (refs.find? (.allOf t.capability)).map .all
  | .typeGroup expr =>
    ((Target.ofTypes? t.typeCategory t.typeBase expr).bind refs.find?).map .typeGroup
  | .name text => (refs.find? (.ofName t.capability text)).map .capability

/-- All segments except choices have targets. -/
def HasTargets (t : Token) (l : List Segment) : Prop :=
  ∀ s ∈ l, s ≠ .choice → (s.target? t).isSome

instance (t : Token) (l : List Segment) : Decidable (HasTargets t l) :=
  inferInstanceAs (Decidable (∀ s ∈ l, _))

variable {t : Token} {refs refs' : ReferenceTable} {s : Segment} {l : List Segment}
  {items : List Item}

theorem Segment.item?_mono (h : refs.Extends refs') {i : Item} (hi : s.item? t refs = some i) :
    s.item? t refs' = some i := by
  cases s with
  | choice => exact hi
  | all =>
    obtain ⟨r, hr, rfl⟩ := Option.map_eq_some_iff.mp hi
    rw [Segment.item?, h.find? hr, Option.map_some]
  | typeGroup expr =>
    obtain ⟨r, hr, rfl⟩ := Option.map_eq_some_iff.mp hi
    obtain ⟨T, hT, hr⟩ := Option.bind_eq_some_iff.mp hr
    rw [Segment.item?, hT, Option.bind_some, h.find? hr, Option.map_some]
  | name text =>
    obtain ⟨r, hr, rfl⟩ := Option.map_eq_some_iff.mp hi
    rw [Segment.item?, h.find? hr, Option.map_some]

/-! ### Entering one segment -/

private theorem intern_all (t : Token) (refs : ReferenceTable) :
    Segment.all.intern t refs =
      .ok ((refs.intern (.allOf t.capability)).1, .all (refs.intern (.allOf t.capability)).2) :=
  rfl

private theorem intern_name (t : Token) (refs : ReferenceTable) (text : String) :
    (Segment.name text).intern t refs =
      .ok ((refs.intern (.ofName t.capability text)).1,
        .capability (refs.intern (.ofName t.capability text)).2) :=
  rfl

theorem Segment.intern_typeGroup (t : Token) (refs : ReferenceTable) (expr : String) :
    (Segment.typeGroup expr).intern t refs =
      match Target.ofTypes? t.typeCategory t.typeBase expr with
      | some T => .ok ((refs.intern T).1, .typeGroup (refs.intern T).2)
      | none => .error (.unresolvedType (t.typeBase ++ "." ++ expr)) := by
  rw [Segment.intern, ReferenceTable.internTypes?]
  cases Target.ofTypes? t.typeCategory t.typeBase expr <;> rfl

/-- A segment that is accepted stands for its item from then on, and the table gains at most its
target. -/
theorem Segment.intern_eq_ok {i : Item} (h : s.intern t refs = .ok (refs', i)) :
    s.item? t refs' = some i ∧
      (refs' = refs ∨ ∃ T, s.target? t = some T ∧ refs' = (refs.intern T).1) := by
  cases s with
  | choice =>
    cases h
    exact ⟨rfl, Or.inl rfl⟩
  | all =>
    rw [intern_all, Except.ok.injEq, Prod.mk.injEq] at h
    obtain ⟨rfl, rfl⟩ := h
    exact ⟨by rw [item?, ReferenceTable.find?_intern, Option.map_some], Or.inr ⟨_, rfl, rfl⟩⟩
  | typeGroup expr =>
    rw [Segment.intern_typeGroup] at h
    split at h
    · next T hT =>
      rw [Except.ok.injEq, Prod.mk.injEq] at h
      obtain ⟨rfl, rfl⟩ := h
      refine ⟨?_, Or.inr ⟨T, hT, rfl⟩⟩
      rw [item?, hT, Option.bind_some, ReferenceTable.find?_intern, Option.map_some]
    · cases h
  | name text =>
    rw [intern_name, Except.ok.injEq, Prod.mk.injEq] at h
    obtain ⟨rfl, rfl⟩ := h
    exact ⟨by rw [item?, ReferenceTable.find?_intern, Option.map_some], Or.inr ⟨_, rfl, rfl⟩⟩

/-- A segment is refused exactly when it lacks a target that it should have. -/
theorem Segment.intern_isOk_iff (refs : ReferenceTable) :
    (∃ p, s.intern t refs = .ok p) ↔ (s ≠ .choice → (s.target? t).isSome) := by
  cases s with
  | choice => exact ⟨fun _ h => absurd rfl h, fun _ => ⟨_, rfl⟩⟩
  | all => exact ⟨fun _ _ => rfl, fun _ => ⟨_, rfl⟩⟩
  | typeGroup expr =>
    cases hT : Target.ofTypes? t.typeCategory t.typeBase expr <;>
      simp [Segment.intern_typeGroup, Segment.target?, hT]
  | name text => exact ⟨fun _ _ => rfl, fun _ => ⟨_, rfl⟩⟩

/-- A segment that is refused is a type group with an empty part. -/
theorem Segment.intern_eq_error_iff (refs : ReferenceTable) {cause : DecodeError.Cause} :
    s.intern t refs = .error cause ↔ ∃ expr, s = .typeGroup expr ∧ "" ∈ Text.split '.' expr ∧
      cause = .unresolvedType (t.typeBase ++ "." ++ expr) := by
  cases s with
  | choice => simp [Segment.intern]
  | all => simp [intern_all]
  | typeGroup expr =>
    simp only [Segment.intern_typeGroup, typeGroup.injEq, exists_eq_left',
      ← Target.ofTypes?_eq_none_iff t.typeCategory t.typeBase]
    cases Target.ofTypes? t.typeCategory t.typeBase expr <;> simp [eq_comm]
  | name text => simp [intern_name]

/-! ### Entering a list of segments -/

/-- However the entering of segments ends, the table has grown by targets of these segments. -/
theorem internAll_table (t : Token) (refs : ReferenceTable) (l : List Segment) :
    refs.Extends (internAll t refs l).1 ∧
      (refs.Distinct → (internAll t refs l).1.Distinct) ∧
      ∀ T ∈ (internAll t refs l).1.targets, T ∈ refs.targets ∨ ∃ s ∈ l, s.target? t = some T := by
  induction l generalizing refs with
  | nil => exact ⟨.refl refs, id, fun T hT => Or.inl hT⟩
  | cons s l ih =>
    rw [internAll]
    split
    · exact ⟨.refl refs, id, fun T hT => Or.inl hT⟩
    · next mid i hi =>
      obtain ⟨hext, hdist, hmem⟩ := ih mid
      obtain rfl | ⟨T₀, hT₀, rfl⟩ := (Segment.intern_eq_ok hi).2
      · exact ⟨hext, hdist, fun T hT => (hmem T hT).imp_right fun ⟨s', hs', hT'⟩ =>
          ⟨s', List.mem_cons_of_mem s hs', hT'⟩⟩
      · refine ⟨(refs.extends_intern T₀).trans hext, fun h => hdist (h.intern T₀),
          fun T hT => ?_⟩
        obtain hT | ⟨s', hs', hT'⟩ := hmem T hT
        · obtain hT | rfl := ReferenceTable.mem_targets_intern hT
          · exact Or.inl hT
          · exact Or.inr ⟨s, List.mem_cons_self, hT₀⟩
        · exact Or.inr ⟨s', List.mem_cons_of_mem s hs', hT'⟩

/-- Segments whose targets are all in the table leave it as it is. -/
theorem internAll_fst_of_found
    (h : ∀ s ∈ l, ∀ T, s.target? t = some T → (refs.find? T).isSome) :
    (internAll t refs l).1 = refs := by
  induction l with
  | nil => rfl
  | cons s l ih =>
    obtain ⟨hs, hl⟩ := List.forall_mem_cons.mp h
    rw [internAll]
    split
    · rfl
    · next mid i hi =>
      have hmid : mid = refs := by
        obtain rfl | ⟨T, hT, rfl⟩ := (Segment.intern_eq_ok hi).2
        · rfl
        · exact ReferenceTable.intern_fst_of_isSome (hs T hT)
      rw [hmid]
      exact ih hl

theorem internAll_isOk_iff (refs : ReferenceTable) :
    (∃ items, (internAll t refs l).2 = .ok items) ↔ HasTargets t l := by
  induction l generalizing refs with
  | nil => simp [internAll, HasTargets]
  | cons s l ih =>
    rw [HasTargets, List.forall_mem_cons, ← Segment.intern_isOk_iff refs, internAll]
    split
    · next hi => simp [hi]
    · next mid i hi =>
      have hl := ih mid
      simp only [hi, Except.ok.injEq, exists_eq', true_and]
      rw [HasTargets] at hl
      rw [← hl]
      cases (internAll t mid l).2 <;> simp [Except.map]

/-- Entering segments fails at the first type group with an empty part. -/
theorem internAll_eq_error_iff (refs : ReferenceTable) {cause : DecodeError.Cause} :
    (internAll t refs l).2 = .error cause ↔ ∃ before expr after,
      l = before ++ .typeGroup expr :: after ∧ HasTargets t before ∧ "" ∈ Text.split '.' expr ∧
        cause = .unresolvedType (t.typeBase ++ "." ++ expr) := by
  induction l generalizing refs with
  | nil => simp [internAll]
  | cons s l ih =>
    rw [internAll]
    split
    · next cause' hs =>
      obtain ⟨expr, rfl, hempty, rfl⟩ := (Segment.intern_eq_error_iff refs).mp hs
      constructor
      · rintro ⟨⟩
        exact ⟨[], expr, l, rfl, nofun, hempty, rfl⟩
      · rintro ⟨before, expr', after, hl, htargets, -, rfl⟩
        cases before with
        | nil =>
          obtain ⟨hexpr, -⟩ := List.cons.inj hl
          rw [Segment.typeGroup.inj hexpr]
        | cons s before =>
          -- the first segment is refused, so it is not among those that have targets
          obtain ⟨rfl, -⟩ := List.cons.inj hl
          obtain ⟨p, hp⟩ := (Segment.intern_isOk_iff refs).mpr (htargets _ List.mem_cons_self)
          cases hs.symm.trans hp
    · next mid i hs =>
      have herror : ((internAll t mid l).2.map (i :: ·) = .error cause) ↔
          (internAll t mid l).2 = .error cause := by
        cases (internAll t mid l).2 <;> simp [Except.map]
      rw [herror, ih mid]
      have htarget := (Segment.intern_isOk_iff refs).mp ⟨_, hs⟩
      constructor
      · rintro ⟨before, expr, after, rfl, htargets, h⟩
        exact ⟨s :: before, expr, after, rfl, List.forall_mem_cons.mpr ⟨htarget, htargets⟩, h⟩
      · rintro ⟨before, expr, after, hl, htargets, hempty, hcause⟩
        cases before with
        | nil =>
          obtain ⟨rfl, -⟩ := List.cons.inj hl
          cases hs.symm.trans ((Segment.intern_eq_error_iff refs).mpr ⟨expr, rfl, hempty, rfl⟩)
        | cons s before =>
          obtain ⟨rfl, rfl⟩ := List.cons.inj hl
          exact ⟨before, expr, after, rfl, fun s hs => htargets s (List.mem_cons_of_mem _ hs),
            hempty, hcause⟩

/-- Segments that were accepted stand for the items that entering them gave. -/
theorem internAll_items (h : internAll t refs l = (refs', .ok items)) :
    List.Forall₂ (fun s i => s.item? t refs' = some i) l items := by
  induction l generalizing refs items with
  | nil =>
    cases h
    exact .nil
  | cons s l ih =>
    rw [internAll] at h
    split at h
    · cases h
    · next mid i hi =>
      cases hrest : internAll t mid l with
      | mk last result =>
        rw [hrest] at h
        obtain ⟨rfl, hresult⟩ := Prod.mk.inj h
        cases result with
        | error cause => cases hresult
        | ok rest =>
          cases hresult
          have hext : mid.Extends last := by
            have := (internAll_table t mid l).1
            rwa [hrest] at this
          exact .cons (Segment.item?_mono hext (Segment.intern_eq_ok hi).1) (ih hrest)

/-! ### The payload of items -/

theorem mem_items_iff (h : List.Forall₂ (fun s i => s.item? t refs = some i) l items)
    {i : Item} : i ∈ items ↔ ∃ s ∈ l, s.item? t refs = some i := by
  induction h with
  | nil => simp
  | @cons s j l items hj _ ih =>
    rw [List.mem_cons, ih]
    constructor
    · rintro (rfl | ⟨s', hs', hi⟩)
      · exact ⟨s, List.mem_cons_self, hj⟩
      · exact ⟨s', List.mem_cons_of_mem s hs', hi⟩
    · rintro ⟨s', hs', hi⟩
      obtain rfl | hs' := List.mem_cons.mp hs'
      · exact Or.inl (Option.some_inj.mp (hi.symm.trans hj))
      · exact Or.inr ⟨s', hs', hi⟩

private theorem exists_item (h : List.Forall₂ (fun s i => s.item? t refs = some i) l items)
    (hs : s ∈ l) : ∃ i ∈ items, s.item? t refs = some i := by
  induction h with
  | nil => cases hs
  | @cons s' j l items hj _ ih =>
    obtain rfl | hs := List.mem_cons.mp hs
    · exact ⟨j, List.mem_cons_self, hj⟩
    · obtain ⟨i, hi, hsi⟩ := ih hs
      exact ⟨i, List.mem_cons_of_mem j hi, hsi⟩

/-- A segment that stands for something has its target in the table. -/
private theorem isSome_find?_of_item? {i : Item} {T : Target} (hi : s.item? t refs = some i)
    (hT : s.target? t = some T) : (refs.find? T).isSome := by
  cases s with
  | choice => cases hT
  | all =>
    obtain rfl := Option.some_inj.mp hT
    simpa using (Option.isSome_iff_exists.mpr ⟨i, hi⟩ : (Option.map _ _).isSome)
  | typeGroup expr =>
    rw [Segment.target?] at hT
    rw [Segment.item?, hT, Option.bind_some] at hi
    simpa using (Option.isSome_iff_exists.mpr ⟨i, hi⟩ : (Option.map _ _).isSome)
  | name text =>
    obtain rfl := Option.some_inj.mp hT
    simpa using (Option.isSome_iff_exists.mpr ⟨i, hi⟩ : (Option.map _ _).isSome)

/-- A segment that stands for something else than a choice has a target. -/
private theorem isSome_target?_of_item? {i : Item} (hi : s.item? t refs = some i)
    (hs : s ≠ .choice) : (s.target? t).isSome := by
  cases s with
  | choice => exact absurd rfl hs
  | all => rfl
  | typeGroup expr =>
    obtain ⟨r, hr, -⟩ := Option.map_eq_some_iff.mp hi
    obtain ⟨T, hT, -⟩ := Option.bind_eq_some_iff.mp hr
    exact Option.isSome_iff_exists.mpr ⟨T, hT⟩
  | name text => rfl

theorem item?_eq_all_iff {r : Ref} :
    s.item? t refs = some (.all r) ↔ s = .all ∧ refs.find? (.allOf t.capability) = some r := by
  cases s <;> simp [Segment.item?, -Option.map_bind]

private theorem item?_eq_typeGroup_iff {r : Ref} :
    s.item? t refs = some (.typeGroup r) ↔
      ∃ expr T, s = .typeGroup expr ∧ s.target? t = some T ∧ refs.find? T = some r := by
  cases s <;> simp [Segment.item?, Segment.target?, Option.bind_eq_some_iff, -Option.map_bind]

private theorem item?_eq_capability_iff {r : Ref} :
    s.item? t refs = some (.capability r) ↔
      ∃ text, s = .name text ∧ refs.find? (.ofName t.capability text) = some r := by
  cases s <;> simp [Segment.item?, -Option.map_bind]

private theorem item?_eq_choice_iff (t : Token) (refs : ReferenceTable) :
    s.item? t refs = some .choice ↔ s = .choice := by
  cases s <;> simp [Segment.item?, -Option.map_bind]

end Value

/-- The payload holds the references of the segments that have targets, of which there is at least
one: of everything, or of the names and of the type groups, each once. -/
structure Payload.Covers (p : Payload) (t : Token) (refs : ReferenceTable)
    (l : List Value.Segment) : Prop where
  /-- Some segment has a target. -/
  nonempty : ∃ s ∈ l, (s.target? t).isSome
  /-- The references of the payload are those of the segments. -/
  mem_toList {r : Ref} : r ∈ p.toList ↔ ∃ s ∈ l, ∃ T, s.target? t = some T ∧ refs.find? T = some r
  /-- The payload is everything when a segment is. -/
  isAll : p.isAll = true ↔ .all ∈ l
  /-- The capabilities are the references of the names. -/
  mem_capabilities {r : Ref} : r ∈ p.capabilities ↔
    ∃ text, .name text ∈ l ∧ refs.find? (.ofName t.capability text) = some r
  /-- The type groups are the references of the type groups. -/
  mem_typeGroups {r : Ref} : r ∈ p.typeGroups ↔
    ∃ expr T, .typeGroup expr ∈ l ∧ Value.Segment.target? t (.typeGroup expr) = some T ∧
      refs.find? T = some r
  /-- No name comes twice. -/
  nodup_capabilities : p.capabilities.Nodup
  /-- No type group comes twice. -/
  nodup_typeGroups : p.typeGroups.Nodup
  /-- The target of every segment is in the table. -/
  found {s : Value.Segment} {T : Target} (hs : s ∈ l) (hT : s.target? t = some T) :
    (refs.find? T).isSome

namespace Value

/-- Everything does not stand beside other segments. -/
def KeepsAllApart (l : List Segment) : Prop :=
  .all ∈ l → ∀ s ∈ l, s = .all

instance (l : List Segment) : Decidable (KeepsAllApart l) :=
  inferInstanceAs (Decidable (_ → _))

variable {t : Token} {refs refs' : ReferenceTable} {l : List Segment} {items : List Item}

private theorem nodup_eraseDups : ∀ l : List Ref, l.eraseDups.Nodup
  | [] => by simp
  | r :: l => by
    rw [List.eraseDups_cons]
    refine List.nodup_cons.mpr ⟨fun hr => ?_, nodup_eraseDups _⟩
    simpa using List.mem_eraseDups.mp hr
termination_by l => l.length
decreasing_by simpa using Nat.lt_succ_of_le (List.length_filter_le _ l)

theorem all?_eq_some_iff {i : Item} {r : Ref} : i.all? = some r ↔ i = .all r := by
  cases i <;> simp [Item.all?]

private theorem mem_filterMap_capability? {r : Ref} :
    r ∈ items.filterMap Item.capability? ↔ .capability r ∈ items := by
  have hi : ∀ i : Item, i.capability? = some r ↔ i = .capability r := fun i => by
    cases i <;> simp [Item.capability?]
  simp [List.mem_filterMap, hi]

private theorem mem_filterMap_typeGroup? {r : Ref} :
    r ∈ items.filterMap Item.typeGroup? ↔ .typeGroup r ∈ items := by
  have hi : ∀ i : Item, i.typeGroup? = some r ↔ i = .typeGroup r := fun i => by
    cases i <;> simp [Item.typeGroup?]
  simp [List.mem_filterMap, hi]

private theorem payload?_of_all_mem {r : Ref} (h : .all r ∈ items) :
    ∃ r', .all r' ∈ items ∧ payload? items = some (.all r') := by
  cases hfind : items.findSome? Item.all? with
  | none => simpa [Item.all?] using List.findSome?_eq_none_iff.mp hfind _ h
  | some r' =>
    obtain ⟨i, hi, hir⟩ := List.exists_of_findSome?_eq_some hfind
    rw [all?_eq_some_iff] at hir
    exact ⟨r', hir ▸ hi, by rw [payload?, hfind]⟩

private theorem payload?_of_all_not_mem (h : ∀ r, .all r ∉ items) :
    payload? items = if ∀ i ∈ items, i = .choice then none
      else some (.refs (items.filterMap Item.capability?).eraseDups
        (items.filterMap Item.typeGroup?).eraseDups) := by
  have hnone : items.findSome? Item.all? = none :=
    List.findSome?_eq_none_iff.mpr fun i hi => Option.eq_none_iff_forall_ne_some.mpr fun r hr =>
      h r (all?_eq_some_iff.mp hr ▸ hi)
  have hempty : ((items.filterMap Item.capability?).eraseDups.isEmpty &&
      (items.filterMap Item.typeGroup?).eraseDups.isEmpty) = true ↔
        ∀ i ∈ items, i = .choice := by
    rw [Bool.and_eq_true, List.isEmpty_iff, List.isEmpty_iff, List.eq_nil_iff_forall_not_mem,
      List.eq_nil_iff_forall_not_mem]
    simp only [List.mem_eraseDups, mem_filterMap_capability?, mem_filterMap_typeGroup?]
    constructor
    · rintro ⟨hcap, htype⟩ i hi
      cases i with
      | choice => rfl
      | all r => exact absurd hi (h r)
      | typeGroup r => exact absurd hi (htype r)
      | capability r => exact absurd hi (hcap r)
    · intro hchoice
      exact ⟨fun r hr => (nomatch hchoice _ hr), fun r hr => (nomatch hchoice _ hr)⟩
  rw [payload?, hnone]
  simp only [hempty]

/-- Each choice among the segments is a choice among the items. -/
theorem count_choice (h : List.Forall₂ (fun s i => s.item? t refs = some i) l items) :
    l.count .choice = items.countP (· == .choice) := by
  induction h with
  | nil => rfl
  | @cons s i l items hi _ ih =>
    have hchoice : s = .choice ↔ i = .choice := by
      rw [← item?_eq_choice_iff t refs, hi, Option.some_inj]
    simp [List.count_cons, List.countP_cons, ih, hchoice]

/-- The items of accepted segments grant nothing exactly when all segments are choices. -/
theorem payload?_eq_none_iff (h : List.Forall₂ (fun s i => s.item? t refs = some i) l items) :
    payload? items = none ↔ ∀ s ∈ l, s = .choice := by
  have hitems : (∀ i ∈ items, i = .choice) ↔ ∀ s ∈ l, s = .choice := by
    simp only [mem_items_iff h]
    constructor
    · intro hi s hs
      obtain ⟨i, -, hsi⟩ := exists_item h hs
      exact (item?_eq_choice_iff t refs).mp (hi i ⟨s, hs, hsi⟩ ▸ hsi)
    · rintro hl i ⟨s, hs, hsi⟩
      rw [hl s hs] at hsi
      exact (Option.some_inj.mp hsi).symm
  rw [← hitems]
  by_cases hall : ∃ r, .all r ∈ items
  · obtain ⟨r, hr⟩ := hall
    obtain ⟨r', hr', hp⟩ := payload?_of_all_mem hr
    exact iff_of_false (by simp [hp]) fun hi => (nomatch hi _ hr')
  · push Not at hall
    rw [payload?_of_all_not_mem hall]
    simp

/-- Where items grant something, some segment has a target. -/
private theorem exists_target_of_payload?
    (h : List.Forall₂ (fun s i => s.item? t refs = some i) l items) {p : Payload}
    (hp : payload? items = some p) : ∃ s ∈ l, (s.target? t).isSome := by
  -- choices alone would grant nothing
  by_contra hc
  push Not at hc
  refine absurd ((payload?_eq_none_iff h).mpr fun s hs => ?_) (by simp [hp])
  obtain ⟨i, -, hsi⟩ := exists_item h hs
  exact not_not.mp fun hchoice => hc s hs (isSome_target?_of_item? hsi hchoice)

/-- What the items of accepted segments grant covers the segments, if one of them is everything. -/
private theorem covers_all (h : List.Forall₂ (fun s i => s.item? t refs = some i) l items)
    (hapart : KeepsAllApart l) {r : Ref} (hr : .all r ∈ items)
    (hne : ∃ s ∈ l, (s.target? t).isSome) : (Payload.all r).Covers t refs l := by
  obtain ⟨s, hs, hsr⟩ := (mem_items_iff h).mp hr
  obtain ⟨rfl, hfind⟩ := item?_eq_all_iff.mp hsr
  -- all segments are the same, so there is one reference and there are no names
  have hl : ∀ s ∈ l, s = .all := hapart hs
  exact {
    nonempty := hne
    mem_toList := by
      intro r'
      rw [Payload.toList, List.mem_singleton]
      constructor
      · rintro rfl
        exact ⟨.all, hs, _, rfl, hfind⟩
      · rintro ⟨s', hs', T, hT, hr'⟩
        obtain rfl := hl s' hs'
        obtain rfl := Option.some_inj.mp hT
        exact Option.some_inj.mp (hr'.symm.trans hfind)
    isAll := iff_of_true rfl hs
    mem_capabilities := iff_of_false List.not_mem_nil fun ⟨_, hmem, _⟩ => nomatch hl _ hmem
    mem_typeGroups := iff_of_false List.not_mem_nil fun ⟨_, _, hmem, _⟩ => nomatch hl _ hmem
    nodup_capabilities := List.nodup_nil
    nodup_typeGroups := List.nodup_nil
    found := fun {s'} _ hs' hT => by
      obtain ⟨i, -, hsi⟩ := exists_item h hs'
      exact isSome_find?_of_item? hsi hT }

/-- What the items of accepted segments grant covers the segments, if none of them is everything. -/
private theorem covers_refs (h : List.Forall₂ (fun s i => s.item? t refs = some i) l items)
    (hall : ∀ r, .all r ∉ items) (hne : ∃ s ∈ l, (s.target? t).isSome) :
    (Payload.refs (items.filterMap Item.capability?).eraseDups
      (items.filterMap Item.typeGroup?).eraseDups).Covers t refs l := by
  have hnot : .all ∉ l := fun hmem => by
    obtain ⟨i, hi, hsi⟩ := exists_item h hmem
    obtain ⟨r, -, rfl⟩ := Option.map_eq_some_iff.mp hsi
    exact hall r hi
  have hcap : ∀ r, r ∈ (items.filterMap Item.capability?).eraseDups ↔
      ∃ text, .name text ∈ l ∧ refs.find? (.ofName t.capability text) = some r := fun r => by
    rw [List.mem_eraseDups, mem_filterMap_capability?, mem_items_iff h]
    simp only [item?_eq_capability_iff]
    constructor
    · rintro ⟨_, hs, text, rfl, hr⟩
      exact ⟨text, hs, hr⟩
    · rintro ⟨text, hs, hr⟩
      exact ⟨_, hs, text, rfl, hr⟩
  have htype : ∀ r, r ∈ (items.filterMap Item.typeGroup?).eraseDups ↔
      ∃ expr T, .typeGroup expr ∈ l ∧ Segment.target? t (.typeGroup expr) = some T ∧
        refs.find? T = some r := fun r => by
    rw [List.mem_eraseDups, mem_filterMap_typeGroup?, mem_items_iff h]
    simp only [item?_eq_typeGroup_iff]
    constructor
    · rintro ⟨_, hs, expr, T, rfl, hT, hr⟩
      exact ⟨expr, T, hs, hT, hr⟩
    · rintro ⟨expr, T, hs, hT, hr⟩
      exact ⟨_, hs, expr, T, rfl, hT, hr⟩
  exact {
    nonempty := hne
    mem_toList := by
      intro r
      rw [Payload.toList, List.mem_append, hcap, htype]
      constructor
      · rintro (⟨text, hs, hr⟩ | ⟨expr, T, hs, hT, hr⟩)
        · exact ⟨_, hs, _, rfl, hr⟩
        · exact ⟨_, hs, T, hT, hr⟩
      · rintro ⟨s, hs, T, hT, hr⟩
        cases s with
        | choice => cases hT
        | all => exact absurd hs hnot
        | typeGroup expr => exact Or.inr ⟨expr, T, hs, hT, hr⟩
        | name text =>
          obtain rfl := Option.some_inj.mp hT
          exact Or.inl ⟨text, hs, hr⟩
    isAll := iff_of_false Bool.false_ne_true hnot
    mem_capabilities := hcap _
    mem_typeGroups := htype _
    nodup_capabilities := nodup_eraseDups _
    nodup_typeGroups := nodup_eraseDups _
    found := fun {s'} _ hs' hT => by
      obtain ⟨i, -, hsi⟩ := exists_item h hs'
      exact isSome_find?_of_item? hsi hT }

/-- What the items of accepted segments grant covers the segments. -/
theorem covers_payload? (h : List.Forall₂ (fun s i => s.item? t refs = some i) l items)
    (hapart : KeepsAllApart l) {p : Payload} (hp : payload? items = some p) :
    p.Covers t refs l := by
  have hne := exists_target_of_payload? h hp
  -- the payload is cut out by the first item that is everything, if there is one
  by_cases hall : ∃ r, .all r ∈ items
  · obtain ⟨r, hr⟩ := hall
    obtain ⟨r', hr', hp'⟩ := payload?_of_all_mem hr
    obtain rfl := Option.some_inj.mp (hp.symm.trans hp')
    exact covers_all h hapart hr' hne
  · push Not at hall
    rw [payload?_of_all_not_mem hall] at hp
    split at hp
    · cases hp
    · obtain rfl := Option.some_inj.mp hp
      exact covers_refs h hall hne

end Value

/-- What a payload covers does not change as the table grows. -/
theorem Payload.Covers.mono {p : Payload} {t : Token} {refs refs' : ReferenceTable}
    {l : List Value.Segment} (h : p.Covers t refs l) (hext : refs.Extends refs') :
    p.Covers t refs' l := by
  have hfind : ∀ {s T r}, s ∈ l → s.target? t = some T →
      (refs'.find? T = some r ↔ refs.find? T = some r) := fun hs hT => by
    obtain ⟨r₀, hr₀⟩ := Option.isSome_iff_exists.mp (h.found hs hT)
    rw [hr₀, hext.find? hr₀]
  exact { h with
    mem_toList := by
      intro r
      rw [h.mem_toList]
      exact exists_congr fun s => and_congr_right fun hs => exists_congr fun T =>
        and_congr_right fun hT => (hfind hs hT).symm
    mem_capabilities := by
      intro r
      rw [h.mem_capabilities]
      exact exists_congr fun text => and_congr_right fun hs => (hfind hs rfl).symm
    mem_typeGroups := by
      intro r
      rw [h.mem_typeGroups]
      exact exists_congr fun expr => exists_congr fun T => and_congr_right fun hs =>
        and_congr_right fun hT => (hfind hs hT).symm
    found := fun hs hT => by
      obtain ⟨r₀, hr₀⟩ := Option.isSome_iff_exists.mp (h.found hs hT)
      rw [hext.find? hr₀, Option.isSome_some] }

end GrantList
