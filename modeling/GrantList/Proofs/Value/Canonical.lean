import GrantList.Proofs.Loading
import GrantList.Proofs.Value.Encoding

/-!
# The grammar of written values

A payload is canonical (`Value.IsCanonicalPayload`) when it is the marker of a choice, the marker of
everything, or names in order followed by type groups in order, where a name could not be read as
anything else and the types of a group are in order themselves. Its condition, if it has one, is
kept by reading and writing (`ConditionFormat.Keeps`).

A payload that covers the segments of a canonical text is written as that text
(`Payload.Covers.segmentTexts_eq`), and what is written is canonical as soon as its names are read
as names again (`Payload.Covers.isCanonicalPayload`).
-/

namespace GrantList

/-! ### Conditions -/

namespace ConditionFormat

/-- The text is read as a condition that is written as this text. -/
def Keeps (format : ConditionFormat) (text : String) : Prop :=
  ∃ c, format.read text = .ok c ∧ format.write c = .ok text

/-- Whatever is read can be written, and as a text that is kept. -/
def Stable (format : ConditionFormat) : Prop :=
  ∀ text c, format.read text = .ok c → ∃ s, format.write c = .ok s ∧ format.Keeps s

theorem eq_of_read_verbatim {text : String} {c : Condition} (h : verbatim.read text = .ok c) :
    c = ⟨text⟩ := by
  simp only [verbatim] at h
  split at h
  · cases h
  · split at h
    · cases h
    · exact (Except.ok.inj h).symm

theorem stable_verbatim : verbatim.Stable := fun text c h => by
  obtain rfl := eq_of_read_verbatim h
  exact ⟨text, rfl, ⟨text⟩, h, rfl⟩

end ConditionFormat

namespace Value

variable {t : Token} {format : ConditionFormat} {c : Option Condition} {condition : Option String}

/-- A condition that was read in a stable format has a text, and the text is kept. -/
theorem exists_conditionText (t : Token) (hformat : format.Stable)
    (h : readCondition format condition = .ok c) :
    ∃ text, conditionText t format c = .ok text ∧ ∀ s ∈ text, format.Keeps s := by
  cases condition with
  | none =>
    cases h
    exact ⟨none, rfl, nofun⟩
  | some text =>
    rw [readCondition] at h
    split at h
    · next c' hread =>
      cases h
      obtain ⟨s, hwrite, hkeeps⟩ := hformat text c' hread
      refine ⟨some s, by rw [conditionText, hwrite], ?_⟩
      rintro _ ⟨⟩
      exact hkeeps
    · cases h

/-- A text that is kept is read as a condition with this text. -/
theorem exists_readCondition (t : Token) (h : ∀ s ∈ condition, format.Keeps s) :
    ∃ c, readCondition format condition = .ok c ∧ conditionText t format c = .ok condition := by
  cases condition with
  | none => exact ⟨none, rfl, rfl⟩
  | some text =>
    obtain ⟨c, hread, hwrite⟩ := h text rfl
    exact ⟨some c, by rw [readCondition, hread], by rw [conditionText, hwrite]⟩

/-- Verbatim, a condition is read from its text as it was. -/
theorem eq_of_conditionText_verbatim {c' : Option Condition}
    (hwrite : conditionText t .verbatim c = .ok condition)
    (hread : readCondition .verbatim condition = .ok c') : c' = c := by
  cases c with
  | none =>
    cases hwrite
    cases hread
    rfl
  | some c =>
    cases hwrite
    rw [readCondition] at hread
    split at hread
    · next c'' hc =>
      cases hread
      rw [ConditionFormat.eq_of_read_verbatim hc]
    · cases hread

/-! ### Payloads -/

/-- A name as it is written: it is read as this name and nothing else. -/
structure IsWrittenName (s : String) : Prop where
  /-- There are no blanks around it. -/
  trim_eq : Text.trim s = s
  /-- It is not empty. -/
  ne_empty : s ≠ ""
  /-- It can stand between separators. -/
  isFree : IsFree s
  /-- It is neither a marker nor a type group. -/
  ofText_eq : Segment.ofText .shieldProf s = .name s

/-- A type group as it is written: its types are in order, and none of them is empty. -/
def IsWrittenGroup (s : String) : Prop :=
  ∃ types : List String, types ≠ [] ∧
    (∀ part ∈ types, part ≠ "" ∧ '.' ∉ part.toList ∧ IsFree part) ∧ Target.InOrder types ∧
      s = Token.shieldProf.canonicalIntro ++ Text.join '.' types

/-- The texts are the segments of a payload as it is written. -/
inductive IsCanonicalPayload : List String → Prop
  /-- A choice. -/
  | choice : IsCanonicalPayload [choiceMarker]
  /-- Everything. -/
  | all : IsCanonicalPayload [allMarker]
  /-- Names in order, then type groups in order. -/
  | refs {names groups : List String} (hne : names ++ groups ≠ [])
    (hnames : ∀ s ∈ names, IsWrittenName s) (hgroups : ∀ s ∈ groups, IsWrittenGroup s)
    (hnames_order : names.Pairwise (Text.ltBy Text.lowerCase))
    (hgroups_order : groups.Pairwise (Text.ltBy Text.lowerCase)) :
    IsCanonicalPayload (names ++ groups)

/-- The value is a canonical payload, perhaps with a condition that the format keeps. -/
def IsCanonical (format : ConditionFormat) (value : String) : Prop :=
  ∃ texts condition, IsCanonicalPayload texts ∧ (∀ s ∈ condition, format.Keeps s) ∧
    value = withCondition (Text.join separator texts) condition

/-- The values are what is written of some entity. -/
structure IsCanonicalList (format : ConditionFormat) (values : List String) : Prop where
  /-- There is something to write. -/
  ne_nil : values ≠ []
  /-- The values are in increasing order. -/
  order : values.Pairwise (· < ·)
  /-- Each value is canonical. -/
  isCanonical {value : String} (hvalue : value ∈ values) : IsCanonical format value
  /-- What means the same is spelled the same in all values. -/
  spelling {T T' : Target} (hT : T ∈ Token.shieldProf.targetsIn values)
    (hT' : T' ∈ Token.shieldProf.targetsIn values) (hfold : T.folded = T'.folded) : T = T'
  /-- Everything without condition stands alone. -/
  all_alone (hall : allMarker ∈ values) : values = [allMarker]

variable {s : String} {texts : List String}

theorem IsWrittenName.ofName_eq (h : IsWrittenName s) :
    Target.ofName Token.shieldProf.capability s = .named .shieldProf s :=
  congrArg (Target.named .shieldProf) h.trim_eq

theorem IsWrittenName.target?_eq (h : IsWrittenName s) :
    (Segment.ofText .shieldProf s).target? .shieldProf = some (.named .shieldProf s) := by
  rw [h.ofText_eq, Segment.target?, h.ofName_eq]

/-- A written type group is the text of the target that it is read as. -/
theorem IsWrittenGroup.exists_target (h : IsWrittenGroup s) :
    ∃ types, Token.shieldProf.Writable (.typed .equipment "SHIELD" types) ∧
      s = typeGroupText .shieldProf (.typed .equipment "SHIELD" types) ∧
        Segment.ofText .shieldProf s = .typeGroup (Text.join '.' types) ∧
          (Segment.ofText .shieldProf s).target? .shieldProf =
            some (.typed .equipment "SHIELD" types) := by
  obtain ⟨types, hne, hparts, horder, rfl⟩ := h
  have hwritable : Token.shieldProf.Writable (.typed .equipment "SHIELD" types) :=
    .typeGroup hne hparts horder
  refine ⟨types, hwritable, rfl, ofText_canonicalIntro_append _, ?_⟩
  rw [ofText_canonicalIntro_append]
  exact Target.target?_segment hwritable

/-- Written names and groups are read as names and type groups. -/
theorem ofText_of_mem_written {names groups : List String}
    (hnames : ∀ s ∈ names, IsWrittenName s) (hgroups : ∀ s ∈ groups, IsWrittenGroup s)
    (hs : s ∈ names ++ groups) :
    Segment.ofText .shieldProf s = .name s ∨
      ∃ expr, Segment.ofText .shieldProf s = .typeGroup expr := by
  obtain hs | hs := List.mem_append.mp hs
  · exact Or.inl (hnames s hs).ofText_eq
  · obtain ⟨types, -, -, hof, -⟩ := (hgroups s hs).exists_target
    exact Or.inr ⟨_, hof⟩

namespace IsCanonicalPayload

theorem ne_nil (h : IsCanonicalPayload texts) : texts ≠ [] := by
  cases h with
  | choice => exact List.cons_ne_nil _ _
  | all => exact List.cons_ne_nil _ _
  | refs hne => exact hne

theorem isFree (h : IsCanonicalPayload texts) (hs : s ∈ texts) : IsFree s := by
  cases h with
  | choice =>
    obtain rfl := List.mem_singleton.mp hs
    decide
  | all =>
    obtain rfl := List.mem_singleton.mp hs
    decide
  | refs _ hnames hgroups =>
    obtain hs | hs := List.mem_append.mp hs
    · exact (hnames s hs).isFree
    · obtain ⟨types, hT, rfl, -, -⟩ := (hgroups s hs).exists_target
      exact isFree_typeGroupText hT

theorem empty_not_mem (h : IsCanonicalPayload texts) : "" ∉ texts := fun hs => by
  cases h with
  | choice => exact absurd (List.mem_singleton.mp hs) (by decide)
  | all => exact absurd (List.mem_singleton.mp hs) (by decide)
  | refs _ hnames hgroups =>
    obtain hs | hs := List.mem_append.mp hs
    · exact (hnames "" hs).ne_empty rfl
    · obtain ⟨types, -, -, hof, -⟩ := (hgroups "" hs).exists_target
      have hname : Segment.ofText .shieldProf "" = .name "" := by decide +kernel
      cases hname.symm.trans hof

theorem hasTargets (h : IsCanonicalPayload texts) :
    HasTargets .shieldProf (texts.map (.ofText .shieldProf)) := fun seg hseg hchoice => by
  obtain ⟨s, hs, rfl⟩ := List.mem_map.mp hseg
  cases h with
  | choice =>
    obtain rfl := List.mem_singleton.mp hs
    exact absurd (Segment.ofText_choiceMarker _) hchoice
  | all =>
    obtain rfl := List.mem_singleton.mp hs
    rw [Segment.ofText_allMarker]
    rfl
  | refs _ hnames hgroups =>
    obtain hs | hs := List.mem_append.mp hs
    · rw [(hnames s hs).target?_eq]
      rfl
    · obtain ⟨types, -, -, -, hT⟩ := (hgroups s hs).exists_target
      rw [hT]
      rfl

theorem keepsAllApart (h : IsCanonicalPayload texts) :
    KeepsAllApart (texts.map (.ofText .shieldProf)) := fun hall seg hseg => by
  cases h with
  | choice =>
    rw [List.map_singleton, Segment.ofText_choiceMarker, List.mem_singleton] at hall
    cases hall
  | all =>
    rwa [List.map_singleton, Segment.ofText_allMarker, List.mem_singleton] at hseg
  | refs _ hnames hgroups =>
    obtain ⟨s, hs, hof⟩ := List.mem_map.mp hall
    obtain hof' | ⟨expr, hof'⟩ := ofText_of_mem_written hnames hgroups hs <;>
      cases hof.symm.trans hof'

end IsCanonicalPayload

end Value

/-! ### What payloads are written as -/

namespace Payload.Covers

variable {refs : ReferenceTable} {p : Payload} {l : List Value.Segment} {T : Target}

theorem nodup_filterMap_target? (hrefs : refs.Distinct) {l : List Ref} (hl : l.Nodup) :
    (l.filterMap refs.target?).Nodup :=
  hl.filterMap fun _ _ _ hr hr' => hrefs.ref_unique hr hr' rfl

private theorem exists_of_mem_capabilities {t : Token} (h : p.Covers t refs l)
    (hT : T ∈ p.capabilities.filterMap refs.target?) :
    ∃ n, T = .named t.capability n ∧ T ∈ refs.targets := by
  obtain ⟨r, hr, hT⟩ := List.mem_filterMap.mp hT
  obtain ⟨n, hn⟩ := h.target?_of_mem_capabilities hr
  exact ⟨n, Option.some_inj.mp (hT.symm.trans hn), ReferenceTable.mem_targets_of_target? hT⟩

private theorem exists_of_mem_typeGroups {t : Token} (h : p.Covers t refs l)
    (hT : T ∈ p.typeGroups.filterMap refs.target?) :
    ∃ base types, T = .typed t.typeCategory base types ∧ T ∈ refs.targets := by
  obtain ⟨r, hr, hT⟩ := List.mem_filterMap.mp hT
  obtain ⟨base, types, hn⟩ := h.target?_of_mem_typeGroups hr
  exact ⟨base, types, Option.some_inj.mp (hT.symm.trans hn),
    ReferenceTable.mem_targets_of_target? hT⟩

private theorem isWrittenGroup_typeGroupText {c : Category} {base : String} {types : List String}
    (h : Token.shieldProf.Writable (.typed c base types)) :
    Value.IsWrittenGroup (Value.typeGroupText .shieldProf (.typed c base types)) := by
  cases h with
  | typeGroup hne hparts horder => exact ⟨types, hne, hparts, horder, rfl⟩

/-- Writable type groups are told apart by their texts. -/
private theorem typed_eq_of_typeGroupText {c c' : Category} {base base' : String}
    {types types' : List String} (h : Token.shieldProf.Writable (.typed c base types))
    (h' : Token.shieldProf.Writable (.typed c' base' types'))
    (heq : Value.typeGroupText .shieldProf (.typed c base types) =
      Value.typeGroupText .shieldProf (.typed c' base' types')) :
    Target.typed c base types = .typed c' base' types' := by
  cases h with
  | typeGroup hne hparts _ =>
    cases h' with
    | typeGroup hne' hparts' _ =>
      have hjoin := String.append_right_inj _ |>.mp heq
      rw [Text.join_injective hne hne' (fun s hs => (hparts s hs).2.1)
        (fun s hs => (hparts' s hs).2.1) hjoin]

private theorem nodup_labels {t : Token} (h : p.Covers t refs l) (hrefs : refs.Distinct) :
    ((p.capabilities.filterMap refs.target?).map (·.label)).Nodup := by
  refine (nodup_filterMap_target? hrefs h.nodup_capabilities).map_on fun T hT T' hT' heq => ?_
  obtain ⟨n, rfl, -⟩ := h.exists_of_mem_capabilities hT
  obtain ⟨n', rfl, -⟩ := h.exists_of_mem_capabilities hT'
  exact congrArg (Target.named t.capability) heq

private theorem nodup_groups (h : p.Covers .shieldProf refs l)
    (hrefs : refs.WellFormed .shieldProf) :
    ((p.typeGroups.filterMap refs.target?).map (Value.typeGroupText .shieldProf)).Nodup := by
  refine (nodup_filterMap_target? hrefs.distinct h.nodup_typeGroups).map_on
    fun T hT T' hT' heq => ?_
  obtain ⟨base, types, rfl, hmem⟩ := h.exists_of_mem_typeGroups hT
  obtain ⟨base', types', rfl, hmem'⟩ := h.exists_of_mem_typeGroups hT'
  exact typed_eq_of_typeGroupText (hrefs.writable hmem) (hrefs.writable hmem') heq

/-- What is written is canonical if its names are not empty and are read as names. -/
theorem isCanonicalPayload (h : p.Covers .shieldProf refs l)
    (hrefs : refs.WellFormed .shieldProf)
    (hnames : ∀ n, .named .shieldProf n ∈ p.targets refs →
      n ≠ "" ∧ Value.Segment.ofText .shieldProf n = .name n) :
    Value.IsCanonicalPayload (p.segmentTexts .shieldProf refs) := by
  have hne := h.segmentTexts_ne_nil
  cases hall : p.isAll with
  | true =>
    rw [segmentTexts, hall, if_pos rfl]
    exact .all
  | false =>
    rw [segmentTexts, hall, if_neg Bool.false_ne_true] at hne ⊢
    refine .refs hne (fun s hs => ?_) (fun s hs => ?_)
      (Text.pairwise_mergeSort_of_nodup _ (h.nodup_labels hrefs.distinct))
      (Text.pairwise_mergeSort_of_nodup _ (h.nodup_groups hrefs))
    · obtain ⟨T, hT, rfl⟩ := List.mem_map.mp (List.mem_mergeSort.mp hs)
      obtain ⟨r, hr, hrT⟩ := List.mem_filterMap.mp hT
      obtain ⟨n, rfl, hmem⟩ := h.exists_of_mem_capabilities hT
      obtain ⟨hempty, hname⟩ := hnames n ⟨r, (mem_toList_iff hall).mpr (Or.inl hr), hrT⟩
      cases hrefs.writable hmem with
      | name htrim hfree => exact ⟨htrim, hempty, hfree, hname⟩
    · obtain ⟨T, hT, rfl⟩ := List.mem_map.mp (List.mem_mergeSort.mp hs)
      obtain ⟨base, types, rfl, hmem⟩ := h.exists_of_mem_typeGroups hT
      exact isWrittenGroup_typeGroupText (hrefs.writable hmem)

/-- The names of a payload that covers written names and groups. -/
private theorem mem_filterMap_capabilities_iff {names groups : List String}
    (hnames : ∀ s ∈ names, Value.IsWrittenName s) (hgroups : ∀ s ∈ groups, Value.IsWrittenGroup s)
    (h : p.Covers .shieldProf refs ((names ++ groups).map (.ofText .shieldProf)))
    (hrefs : refs.Distinct) (hspelled : ∀ s ∈ names, .named .shieldProf s ∈ refs.targets) :
    T ∈ p.capabilities.filterMap refs.target? ↔ ∃ s ∈ names, T = .named .shieldProf s := by
  simp only [List.mem_filterMap, h.mem_capabilities, List.mem_map, List.mem_append]
  constructor
  · rintro ⟨r, ⟨text, ⟨s, hs, hof⟩, hfind⟩, hT⟩
    obtain rfl := Value.Segment.eq_of_ofText_eq_name hof
    obtain hs | hs := hs
    · rw [(hnames s hs).ofName_eq, hrefs.find?_eq_some_iff_of_mem (hspelled s hs)] at hfind
      exact ⟨s, hs, Option.some_inj.mp (hT.symm.trans hfind)⟩
    · obtain ⟨types, -, -, hof', -⟩ := (hgroups s hs).exists_target
      cases hof.symm.trans hof'
  · rintro ⟨s, hs, rfl⟩
    obtain ⟨r, hr⟩ := ReferenceTable.exists_target?_of_mem (hspelled s hs)
    refine ⟨r, ⟨s, ⟨s, Or.inl hs, (hnames s hs).ofText_eq⟩, ?_⟩, hr⟩
    rw [(hnames s hs).ofName_eq]
    exact (hrefs.find?_eq_some_iff_of_mem (hspelled s hs)).mpr hr

/-- The type groups of a payload that covers written names and groups. -/
private theorem mem_map_typeGroups_iff {names groups : List String}
    (hnames : ∀ s ∈ names, Value.IsWrittenName s) (hgroups : ∀ s ∈ groups, Value.IsWrittenGroup s)
    (h : p.Covers .shieldProf refs ((names ++ groups).map (.ofText .shieldProf)))
    (hrefs : refs.Distinct)
    (hspelled : ∀ s ∈ groups, ∀ T,
      (Value.Segment.ofText .shieldProf s).target? .shieldProf = some T → T ∈ refs.targets)
    {s : String} :
    s ∈ (p.typeGroups.filterMap refs.target?).map (Value.typeGroupText .shieldProf) ↔
      s ∈ groups := by
  simp only [List.mem_filterMap, h.mem_typeGroups, List.mem_map, List.mem_append]
  constructor
  · rintro ⟨T, ⟨r, ⟨expr, T', ⟨s, hs, hof⟩, hT', hfind⟩, hT⟩, rfl⟩
    obtain hs | hs := hs
    · cases hof.symm.trans (hnames s hs).ofText_eq
    · have hmem := hspelled s hs T' (hof ▸ hT')
      rw [hrefs.find?_eq_some_iff_of_mem hmem] at hfind
      obtain rfl := Option.some_inj.mp (hT.symm.trans hfind)
      obtain ⟨types, -, rfl, -, hgroup⟩ := (hgroups s hs).exists_target
      rw [← hof, hgroup, Option.some_inj] at hT'
      rwa [← hT']
  · intro hs
    obtain ⟨types, -, rfl, hof, hT⟩ := (hgroups s hs).exists_target
    have hmem := hspelled _ hs _ hT
    obtain ⟨r, hr⟩ := ReferenceTable.exists_target?_of_mem hmem
    exact ⟨_, ⟨r, ⟨_, _, ⟨_, Or.inr hs, hof⟩, hof ▸ hT,
      (hrefs.find?_eq_some_iff_of_mem hmem).mpr hr⟩, hr⟩, rfl⟩

/-- A payload that covers the segments of a canonical text is written as that text, in a table that
spells the targets of the text as the text does. -/
theorem segmentTexts_eq {texts : List String} (htexts : Value.IsCanonicalPayload texts)
    (h : p.Covers .shieldProf refs (texts.map (.ofText .shieldProf)))
    (hrefs : refs.WellFormed .shieldProf)
    (hspelled : ∀ s ∈ texts, ∀ T,
      (Value.Segment.ofText .shieldProf s).target? .shieldProf = some T → T ∈ refs.targets) :
    p.segmentTexts .shieldProf refs = texts := by
  cases htexts with
  | choice =>
    obtain ⟨s, hs, hT⟩ := h.nonempty
    rw [List.map_singleton, Value.Segment.ofText_choiceMarker, List.mem_singleton] at hs
    rw [hs] at hT
    cases hT
  | all =>
    have hall : p.isAll = true := by
      rw [h.isAll, List.map_singleton, Value.Segment.ofText_allMarker]
      exact List.mem_cons_self
    rw [segmentTexts, hall, if_pos rfl]
  | @refs names groups hne hnames hgroups hnames_order hgroups_order =>
    have hall : p.isAll = false := Bool.eq_false_iff.mpr fun htrue => by
      obtain ⟨s, hs, hof⟩ := List.mem_map.mp (h.isAll.mp htrue)
      obtain hof' | ⟨expr, hof'⟩ := Value.ofText_of_mem_written hnames hgroups hs <;>
        cases hof.symm.trans hof'
    have hnamed : p.nameTexts refs = names := by
      refine Text.mergeSort_eq_of_pairwise hnames_order ((List.perm_ext_iff_of_nodup
        (h.nodup_labels hrefs.distinct) (Text.nodup_of_pairwise_ltBy hnames_order)).mpr fun s => ?_)
      have hmem : ∀ s ∈ names, .named .shieldProf s ∈ refs.targets := fun s hs =>
        hspelled s (List.mem_append_left _ hs) _ (hnames s hs).target?_eq
      simp only [List.mem_map, mem_filterMap_capabilities_iff hnames hgroups h hrefs.distinct hmem]
      constructor
      · rintro ⟨_, ⟨s, hs, rfl⟩, rfl⟩
        exact hs
      · exact fun hs => ⟨_, ⟨s, hs, rfl⟩, rfl⟩
    have hgrouped : p.groupTexts .shieldProf refs = groups := by
      refine Text.mergeSort_eq_of_pairwise hgroups_order ((List.perm_ext_iff_of_nodup
        (h.nodup_groups hrefs) (Text.nodup_of_pairwise_ltBy hgroups_order)).mpr fun s => ?_)
      exact mem_map_typeGroups_iff hnames hgroups h hrefs.distinct fun s hs =>
        hspelled s (List.mem_append_right _ hs)
    rw [segmentTexts, hall, if_neg Bool.false_ne_true, hnamed, hgrouped]

end Payload.Covers

end GrantList
