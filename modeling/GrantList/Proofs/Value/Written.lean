import GrantList.Proofs.Reference.Types
import GrantList.Proofs.Text.Trimming
import GrantList.Proofs.Value.Decoding
import GrantList.Proofs.Value.Segment
import GrantList.Value.Encoding

/-!
# Targets and the texts they are written as

A target that a segment of a value can have (`Token.Writable`) is written as a text that can stand
between separators, and the segment `Target.segment` that means the target is the one the text
should be read as. Everything and type groups always are read as what they were
(`ofText_typeGroupText`). A name is read as the same name unless its text is also that of a marker
or begins like a type group: the blanks that kept it apart are gone.
-/

namespace GrantList

namespace Value

/-- The text can stand between separators and before a condition. -/
def IsFree (s : String) : Prop :=
  separator ∉ s.toList ∧ '[' ∉ s.toList

instance (s : String) : Decidable (IsFree s) :=
  inferInstanceAs (Decidable (_ ∧ _))

end Value

/-- The targets that segments of the token's values can have. -/
inductive Token.Writable (t : Token) : Target → Prop
  /-- Everything. -/
  | all : t.Writable (.allOf t.capability)
  /-- A name without blanks around it. -/
  | name {n : String} (htrim : Text.trim n = n) (hfree : Value.IsFree n) :
    t.Writable (.named t.capability n)
  /-- Types in increasing order. -/
  | typeGroup {types : List String} (hne : types ≠ [])
    (hparts : ∀ part ∈ types, part ≠ "" ∧ '.' ∉ part.toList ∧ Value.IsFree part)
    (horder : Target.InOrder types) : t.Writable (.typed t.typeCategory t.typeBase types)

/-- No two targets of the table mean the same, and all of them can be written. -/
structure ReferenceTable.WellFormed (refs : ReferenceTable) (t : Token) : Prop where
  /-- No two targets mean the same. -/
  distinct : refs.Distinct
  /-- Every target is one that a segment can have. -/
  writable {T : Target} (hT : T ∈ refs.targets) : t.Writable T

/-- The segment that means the target. -/
def Target.segment : Target → Value.Segment
  | .allOf _ => .all
  | .named _ n => .name n
  | .typed _ _ types => .typeGroup (Text.join '.' types)

namespace Value

variable {t : Token} {T : Target} {s text value : String}

/-! ### Segments and their texts -/

/-- No name in an accepted value is empty. -/
theorem name_empty_not_mem {format : ConditionFormat} {v : Value} (h : t.Accepts format value v) :
    .name "" ∉ v.segments := fun hmem => by
  obtain ⟨payload, _, -, -, hempty, hsegments⟩ := ofText_eq_ok_iff.mp h.ofText
  rw [hsegments] at hmem
  obtain ⟨s, hs, hof⟩ := List.mem_map.mp hmem
  exact hempty (Segment.eq_of_ofText_eq_name hof ▸ hs)

/-- The parts of a value hold no separator and no opening bracket. -/
theorem isFree_of_mem_partsOf (h : s ∈ partsOf value) : IsFree s := by
  refine ⟨Text.not_mem_of_mem_split h, fun hb => ?_⟩
  have hmem := Text.mem_of_mem_of_mem_split h hb
  rw [payloadOf, String.toList_ofList] at hmem
  simpa using List.mem_takeWhile_imp hmem

theorem IsFree.of_subset (h : IsFree s) (hsub : text.toList ⊆ s.toList) : IsFree text :=
  ⟨fun hmem => h.1 (hsub hmem), fun hmem => h.2 (hsub hmem)⟩

/-- Every target of a value's segments is writable. -/
theorem writable_of_mem_segmentsOf {seg : Segment} (hseg : seg ∈ segmentsOf t value)
    (hT : seg.target? t = some T) : t.Writable T := by
  obtain ⟨s, hs, rfl⟩ := List.mem_map.mp hseg
  have hfree := isFree_of_mem_partsOf hs
  cases hof : Segment.ofText t s with
  | choice =>
    rw [hof] at hT
    cases hT
  | all =>
    rw [hof] at hT
    cases hT
    exact .all
  | name text =>
    obtain rfl := Segment.eq_of_ofText_eq_name hof
    rw [hof] at hT
    cases hT
    exact .name (Text.trim_trim s) (hfree.of_subset fun _ => Text.mem_of_mem_trim)
  | typeGroup expr =>
    rw [hof, Segment.target?, Target.ofTypes?_eq_some_iff] at hT
    obtain ⟨hempty, rfl⟩ := hT
    obtain ⟨start, -, rfl⟩ := Segment.exists_of_ofText_eq_typeGroup hof
    have hexpr : IsFree expr := hfree.of_subset (by simp)
    refine .typeGroup (Target.sortTypes_distinctTypes_ne_nil (Text.split_ne_nil '.' expr))
      (fun part hpart => ?_) (Target.inOrder_sortTypes_distinctTypes _)
    have hmem := Target.mem_sortTypes_distinctTypes hpart
    exact ⟨fun h => hempty (h ▸ hmem), Text.not_mem_of_mem_split hmem,
      hexpr.of_subset fun _ => Text.mem_of_mem_of_mem_split hmem⟩

end Value

theorem ReferenceTable.wellFormed_empty (t : Token) : ({} : ReferenceTable).WellFormed t where
  distinct := distinct_empty
  writable hT := nomatch hT

/-! ### The segment of a target -/

namespace Target

variable {t : Token} {T : Target}

/-- The segment of a writable target has the target. -/
theorem target?_segment (h : t.Writable T) : T.segment.target? t = some T := by
  cases h with
  | all => rfl
  | name htrim _ => rw [segment, Value.Segment.target?, ofName, htrim]
  | typeGroup hne hparts horder =>
    exact ofTypes?_join hne (fun part hpart => (hparts part hpart).2.1)
      (fun hmem => (hparts "" hmem).1 rfl) horder

theorem segment_ne_choice (T : Target) : T.segment ≠ .choice := by
  cases T <;> exact nofun

end Target

namespace Value

variable {T : Target} {s text : String}

/-! ### The text of a target -/

theorem ofText_canonicalIntro_append (expr : String) :
    Segment.ofText .shieldProf (Token.shieldProf.canonicalIntro ++ expr) = .typeGroup expr :=
  Segment.ofText_eq_typeGroup_iff.mpr (Or.inr rfl)

theorem isFree_typeGroupText (h : Token.shieldProf.Writable T) :
    IsFree (typeGroupText .shieldProf T) := by
  cases h with
  | all => decide
  | name _ hfree => exact hfree
  | @typeGroup types hne hparts horder =>
    have hjoin : ∀ c : Char, c ≠ '.' → (∀ part ∈ types, c ∉ part.toList) →
        c ∉ (Text.join '.' types).toList :=
      fun c hc hnot hmem => (Text.mem_toList_join hmem).elim hc fun ⟨part, hpart, hc⟩ =>
        hnot part hpart hc
    have hintro : IsFree Token.shieldProf.canonicalIntro := by decide
    simp only [typeGroupText, IsFree, String.toList_append, List.mem_append, not_or]
    exact ⟨⟨hintro.1, hjoin _ (by decide) fun part hpart => (hparts part hpart).2.2.1⟩,
      hintro.2, hjoin _ (by decide) fun part hpart => (hparts part hpart).2.2.2⟩

/-- Everything and type groups are read as what they were. -/
theorem ofText_typeGroupText (h : Token.shieldProf.Writable T) (hnamed : T.isNamed = false) :
    Segment.ofText .shieldProf (typeGroupText .shieldProf T) = T.segment := by
  cases h with
  | all => exact Segment.ofText_allMarker _
  | name _ _ => cases hnamed
  | typeGroup hne hparts horder => exact ofText_canonicalIntro_append _

/-- Only a name is read as a name. -/
theorem eq_named_of_ofText_typeGroupText (h : Token.shieldProf.Writable T)
    (hname : Segment.ofText .shieldProf (typeGroupText .shieldProf T) = .name text) :
    T = .named .shieldProf text := by
  cases h with
  | all => cases hname.symm.trans (Segment.ofText_allMarker _)
  | name _ _ => exact congrArg (Target.named .shieldProf) (Segment.eq_of_ofText_eq_name hname)
  | typeGroup hne hparts horder => cases hname.symm.trans (ofText_canonicalIntro_append _)

/-! ### Texts put together -/

variable {t : Token} {format : ConditionFormat} {L : List String} {condition : Option String}

private theorem not_mem_join (hfree : ∀ s ∈ L, IsFree s) :
    '[' ∉ (Text.join separator L).toList := fun hmem =>
  (Text.mem_toList_join hmem).elim (by decide) fun ⟨s, hs, hb⟩ => (hfree s hs).2 hb

private theorem split_join_separator (hne : L ≠ []) (hfree : ∀ s ∈ L, IsFree s) :
    Text.split separator (Text.join separator L) = L :=
  Text.split_join hne fun s hs => (hfree s hs).1

/-- A value put together from the texts of segments is accepted when none of them is empty, its
condition can be read and the segments go together. -/
theorem accepts_withCondition_join {c : Option Condition} (hne : L ≠ [])
    (hfree : ∀ s ∈ L, IsFree s) (hempty : "" ∉ L) (hread : readCondition format condition = .ok c)
    (htargets : HasTargets t (L.map (.ofText t))) (hapart : KeepsAllApart (L.map (.ofText t))) :
    t.Accepts format (withCondition (Text.join separator L) condition)
      ⟨L.map (.ofText t), c⟩ where
  ofText := by
    refine ofText_eq_ok_iff.mpr
      ⟨_, condition, splitCondition?_withCondition (not_mem_join hfree) condition, hread, ?_, ?_⟩
    · rwa [split_join_separator hne hfree]
    · rw [split_join_separator hne hfree]
  hasTargets := htargets
  keepsAllApart := hapart

/-- What an accepted value that was put together from texts of segments says. -/
theorem eq_of_accepts_withCondition_join {v : Value} (hne : L ≠ []) (hfree : ∀ s ∈ L, IsFree s)
    (h : t.Accepts format (withCondition (Text.join separator L) condition) v) :
    v.segments = L.map (.ofText t) ∧ readCondition format condition = .ok v.condition := by
  obtain ⟨payload, raw, hsplit, hread, -, hsegments⟩ := ofText_eq_ok_iff.mp h.ofText
  rw [splitCondition?_withCondition (not_mem_join hfree), Option.some_inj, Prod.mk.injEq] at hsplit
  obtain ⟨rfl, rfl⟩ := hsplit
  rw [split_join_separator hne hfree] at hsegments
  exact ⟨hsegments, hread⟩

/-- Equal texts that are put together from segments and a condition come from the same payload and
the same condition. -/
theorem withCondition_join_inj {L' : List String} {condition' : Option String}
    (hfree : ∀ s ∈ L, IsFree s) (hfree' : ∀ s ∈ L', IsFree s)
    (h : withCondition (Text.join separator L) condition =
      withCondition (Text.join separator L') condition') :
    Text.join separator L = Text.join separator L' ∧ condition = condition' := by
  have hsplit := splitCondition?_withCondition (not_mem_join hfree) condition
  rw [h, splitCondition?_withCondition (not_mem_join hfree'), Option.some_inj] at hsplit
  obtain ⟨hpayload, hcondition⟩ := Prod.mk.inj hsplit
  exact ⟨hpayload.symm, hcondition.symm⟩

theorem partsOf_withCondition_join (hne : L ≠ []) (hfree : ∀ s ∈ L, IsFree s)
    (condition : Option String) :
    partsOf (withCondition (Text.join separator L) condition) = L := by
  rw [partsOf, payloadOf_withCondition (not_mem_join hfree), split_join_separator hne hfree]

/-- A value put together from the texts of segments has these segments. -/
theorem segmentsOf_withCondition_join (hne : L ≠ []) (hfree : ∀ s ∈ L, IsFree s)
    (condition : Option String) :
    segmentsOf t (withCondition (Text.join separator L) condition) = L.map (.ofText t) := by
  rw [segmentsOf_eq, partsOf_withCondition_join hne hfree]

end Value

end GrantList
