import GrantList.Proofs.RoundTrip
import GrantList.Proofs.Sense
import Mathlib.Tactic.TFAE

/-!
# The grammar of what is written

What is written has a grammar of its own, in terms of texts alone (`Grammar.IsProper`). It knows
neither how a segment is read nor what a table is: a line is a payload with or without a condition,
a payload is a marker or names in order before type groups in order, and lines stand in order and
spell what means the same in one way.

Main result: `Grammar.isProper_tfae`. The lists in this grammar are exactly those that are written
of entities that were read from plain values in a new context.
-/

namespace GrantList

namespace Grammar

/-- A name: it has no blanks around it and no special character, is not empty, is not a marker and
does not begin like a type group. -/
structure IsName (s : String) : Prop where
  /-- There are no blanks around it. -/
  trim_eq : Text.trim s = s
  /-- It is not empty. -/
  ne_empty : s ≠ ""
  /-- It is not the marker of a choice. -/
  ne_choice : s ≠ "%LIST"
  /-- It is not the marker of everything, in any case. -/
  not_all : ¬ Text.SameAscii s "ALL"
  /-- It does not begin like a type group. -/
  not_group (expr : String) : ¬ Value.IsGroupText s expr
  /-- It holds no separator. -/
  separator_not_mem : '|' ∉ s.toList
  /-- It opens no bracket. -/
  bracket_not_mem : '[' ∉ s.toList

/-- The types of a type group: none is empty or has a special character, and they stand in strictly
increasing order and differ in more than letter case. -/
structure IsTypes (types : List String) : Prop where
  /-- There is one. -/
  ne_nil : types ≠ []
  /-- None is empty. -/
  empty_not_mem : "" ∉ types
  /-- None holds a special character. -/
  free {part : String} (hpart : part ∈ types) :
    '.' ∉ part.toList ∧ '|' ∉ part.toList ∧ '[' ∉ part.toList
  /-- They are in order. -/
  order : types.Pairwise (Text.ltBy Text.asciiLower)
  /-- No two are the same but for letter case. -/
  distinct : types.Pairwise fun part part' => ¬ Text.SameAscii part part'

/-- The text of a type group. -/
def groupText (types : List String) : String :=
  "SHIELDTYPE=" ++ Text.join '.' types

/-- What a payload is made of. -/
inductive Form where
  /-- The marker of a choice. -/
  | choice
  /-- The marker of everything. -/
  | all
  /-- Names and the types of type groups. -/
  | refs (names : List String) (groups : List (List String))

namespace Form

/-- The segments of the payload. -/
def texts : Form → List String
  | .choice => ["%LIST"]
  | .all => ["ALL"]
  | .refs names groups => names ++ groups.map groupText

/-- The names of the payload. -/
def names : Form → List String
  | .refs names _ => names
  | _ => []

/-- The types of each type group of the payload. -/
def groups : Form → List (List String)
  | .refs _ groups => groups
  | _ => []

/-- The payload is a marker, or has names in order before type groups in order. -/
inductive IsProper : Form → Prop
  /-- The marker of a choice. -/
  | choice : IsProper .choice
  /-- The marker of everything. -/
  | all : IsProper .all
  /-- Names and type groups, at least one. -/
  | refs {names : List String} {groups : List (List String)}
    (hne : names ≠ [] ∨ groups ≠ []) (hnames : ∀ s ∈ names, IsName s)
    (hgroups : ∀ types ∈ groups, IsTypes types)
    (hnames_order : names.Pairwise (Text.ltBy Text.lowerCase))
    (hgroups_order : (groups.map groupText).Pairwise (Text.ltBy Text.lowerCase)) :
    IsProper (.refs names groups)

end Form

/-- A payload with or without a condition. -/
structure Line where
  /-- The payload. -/
  form : Form
  /-- The text of the condition, if there is one. -/
  condition : Option String

/-- The line as it is written. -/
def Line.text (line : Line) : String :=
  Value.withCondition (Text.join '|' line.form.texts) line.condition

/-- The payload is proper, and the condition is not blank and has no bracket. -/
structure Line.IsProper (line : Line) : Prop where
  /-- The payload is proper. -/
  form : line.form.IsProper
  /-- The condition could be read. -/
  condition {text : String} (htext : text ∈ line.condition) :
    Text.isBlankText text = false ∧ '[' ∉ text.toList ∧ ']' ∉ text.toList

/-- The lines are what is written of an entity. -/
structure IsProper (lines : List Line) : Prop where
  /-- There is a line. -/
  ne_nil : lines ≠ []
  /-- They are in strictly increasing order. -/
  order : (lines.map Line.text).Pairwise (· < ·)
  /-- Each line is proper. -/
  line {line : Line} (hline : line ∈ lines) : line.IsProper
  /-- Names with the same key are spelled the same. -/
  name_spelling {line line' : Line} {s s' : String} (hline : line ∈ lines)
    (hline' : line' ∈ lines) (hs : s ∈ line.form.names) (hs' : s' ∈ line'.form.names)
    (hkey : nameKey s = nameKey s') : s = s'
  /-- Type groups with the same types but for letter case are spelled the same. -/
  group_spelling {line line' : Line} {types types' : List String} (hline : line ∈ lines)
    (hline' : line' ∈ lines) (htypes : types ∈ line.form.groups)
    (htypes' : types' ∈ line'.form.groups)
    (hsame : Text.asciiLower '' {part | part ∈ types} = Text.asciiLower '' {part | part ∈ types'}) :
    types = types'
  /-- Everything without condition stands alone. -/
  all_alone (hall : "ALL" ∈ lines.map Line.text) : lines.map Line.text = ["ALL"]

/-! ### Names and type groups -/

variable {s : String} {types : List String}

theorem isWrittenName_iff : Value.IsWrittenName s ↔ IsName s := by
  constructor
  · intro h
    obtain ⟨-, hchoice, hall, hgroup⟩ := Value.Segment.ofText_eq_name_iff.mp h.ofText_eq
    exact ⟨h.trim_eq, h.ne_empty, hchoice, hall, hgroup, h.isFree.1, h.isFree.2⟩
  · intro h
    exact {
      trim_eq := h.trim_eq
      ne_empty := h.ne_empty
      isFree := ⟨h.separator_not_mem, h.bracket_not_mem⟩
      ofText_eq := Value.Segment.ofText_eq_name_iff.mpr
        ⟨rfl, h.ne_choice, h.not_all, h.not_group⟩ }

/-- Texts that differ in more than letter case are in order when their lower-case forms are. -/
private theorem ltBy_asciiLower_iff {t u : String} :
    Text.ltBy Text.asciiLower t u ∧ ¬ Text.SameAscii t u ↔
      Text.asciiLower t < Text.asciiLower u := by
  constructor
  · rintro ⟨⟨hle, -⟩, hdiff⟩
    exact (Text.leBy_iff.mp hle).resolve_right fun h => hdiff h.1
  · exact fun h => ⟨Text.ltBy_of_lt h, h.ne⟩

theorem IsTypes.inOrder (h : IsTypes types) : Target.InOrder types :=
  (List.pairwise_and_iff.mpr ⟨h.order, h.distinct⟩).imp ltBy_asciiLower_iff.mp

theorem isTypes_iff : IsTypes types ↔ types ≠ [] ∧
    (∀ part ∈ types, part ≠ "" ∧ '.' ∉ part.toList ∧ Value.IsFree part) ∧ Target.InOrder types := by
  constructor
  · intro h
    refine ⟨h.ne_nil, fun part hpart => ⟨?_, h.free hpart⟩, h.inOrder⟩
    rintro rfl
    exact h.empty_not_mem hpart
  · rintro ⟨hne, hparts, horder⟩
    obtain ⟨hlt, hdiff⟩ := List.pairwise_and_iff.mp (horder.imp ltBy_asciiLower_iff.mpr)
    exact ⟨hne, fun hempty => (hparts "" hempty).1 rfl, fun hpart => (hparts _ hpart).2, hlt, hdiff⟩

theorem isWrittenGroup_iff :
    Value.IsWrittenGroup s ↔ ∃ types, IsTypes types ∧ groupText types = s := by
  constructor
  · rintro ⟨types, hne, hparts, horder, rfl⟩
    exact ⟨types, isTypes_iff.mpr ⟨hne, hparts, horder⟩, rfl⟩
  · rintro ⟨types, h, rfl⟩
    obtain ⟨hne, hparts, horder⟩ := isTypes_iff.mp h
    exact ⟨types, hne, hparts, horder, rfl⟩

/-- The text of a type group is read as the target with its types. -/
theorem IsTypes.target?_groupText (h : IsTypes types) :
    (Value.Segment.ofText .shieldProf (groupText types)).target? .shieldProf =
      some (.typed .equipment "SHIELD" types) := by
  obtain ⟨hne, hparts, horder⟩ := isTypes_iff.mp h
  have hwritable : Token.shieldProf.Writable (.typed .equipment "SHIELD" types) :=
    .typeGroup hne hparts horder
  have hread : Value.Segment.ofText .shieldProf (groupText types) =
      .typeGroup (Text.join '.' types) := Value.ofText_canonicalIntro_append _
  rw [hread]
  exact Target.target?_segment hwritable

/-! ### Lines -/

/-- The texts of a list are those of things that have a property, if each of them is. -/
private theorem exists_map_eq {α β : Type} {p : α → Prop} {f : α → β} {l : List β}
    (h : ∀ b ∈ l, ∃ a, p a ∧ f a = b) : ∃ l' : List α, (∀ a ∈ l', p a) ∧ l'.map f = l := by
  induction l with
  | nil => exact ⟨[], nofun, rfl⟩
  | cons b l ih =>
    obtain ⟨⟨a, ha, rfl⟩, hl⟩ := List.forall_mem_cons.mp h
    obtain ⟨l', hl', rfl⟩ := ih hl
    exact ⟨a :: l', List.forall_mem_cons.mpr ⟨ha, hl'⟩, rfl⟩

theorem isCanonicalPayload_iff {texts : List String} :
    Value.IsCanonicalPayload texts ↔ ∃ form : Form, form.IsProper ∧ form.texts = texts := by
  constructor
  · intro h
    cases h with
    | choice => exact ⟨.choice, .choice, rfl⟩
    | all => exact ⟨.all, .all, rfl⟩
    | @refs names groups hne hnames hgroups hnames_order hgroups_order =>
      obtain ⟨groups, htypes, rfl⟩ := exists_map_eq fun s hs => isWrittenGroup_iff.mp (hgroups s hs)
      refine ⟨.refs names groups, .refs ?_ (fun s hs => isWrittenName_iff.mp (hnames s hs)) htypes
        hnames_order hgroups_order, rfl⟩
      rwa [Ne, List.append_eq_nil_iff, List.map_eq_nil_iff, not_and_or] at hne
  · rintro ⟨form, hform, rfl⟩
    cases hform with
    | choice => exact .choice
    | all => exact .all
    | refs hne hnames hgroups hnames_order hgroups_order =>
      refine .refs ?_ (fun s hs => isWrittenName_iff.mpr (hnames s hs))
        (List.forall_mem_map.mpr fun types htypes =>
          isWrittenGroup_iff.mpr ⟨types, hgroups types htypes, rfl⟩) hnames_order hgroups_order
      rwa [Ne, List.append_eq_nil_iff, List.map_eq_nil_iff, not_and_or]

theorem keeps_verbatim_iff {text : String} : ConditionFormat.verbatim.Keeps text ↔
    Text.isBlankText text = false ∧ '[' ∉ text.toList ∧ ']' ∉ text.toList := by
  rw [ConditionFormat.Keeps, ConditionFormat.verbatim]
  dsimp only
  split
  · next hblank => simp [hblank]
  · next hblank =>
    split
    · next hbracket => exact iff_of_false (by simp) fun h => hbracket.elim h.2.1 h.2.2
    · next hbracket =>
      exact iff_of_true ⟨_, rfl, rfl⟩ ⟨Bool.eq_false_iff.mpr hblank, not_or.mp hbracket⟩

theorem isCanonical_iff {value : String} :
    Value.IsCanonical .verbatim value ↔ ∃ line : Line, line.IsProper ∧ line.text = value := by
  constructor
  · rintro ⟨texts, condition, htexts, hkeeps, rfl⟩
    obtain ⟨form, hform, rfl⟩ := isCanonicalPayload_iff.mp htexts
    exact ⟨⟨form, condition⟩, ⟨hform, fun htext => keeps_verbatim_iff.mp (hkeeps _ htext)⟩, rfl⟩
  · rintro ⟨line, hline, rfl⟩
    exact ⟨_, _, isCanonicalPayload_iff.mpr ⟨_, hline.form, rfl⟩,
      fun _ htext => keeps_verbatim_iff.mpr (hline.condition htext), rfl⟩

/-! ### The targets of lines -/

/-- The payload has a segment with the target. -/
inductive Form.Names : Form → Target → Prop
  /-- The marker of everything. -/
  | all : Names .all (.allOf .shieldProf)
  /-- A name. -/
  | name {names : List String} {groups : List (List String)} {s : String} (hs : s ∈ names) :
    Names (.refs names groups) (.named .shieldProf s)
  /-- A type group. -/
  | typeGroup {names : List String} {groups : List (List String)} {types : List String}
    (htypes : types ∈ groups) : Names (.refs names groups) (.typed .equipment "SHIELD" types)

variable {T : Target}

theorem Form.names_named {form : Form} (hs : s ∈ form.names) :
    form.Names (.named .shieldProf s) := by
  cases form with
  | choice => cases hs
  | all => cases hs
  | refs names groups => exact .name hs

theorem Form.names_typed {form : Form} (htypes : types ∈ form.groups) :
    form.Names (.typed .equipment "SHIELD" types) := by
  cases form with
  | choice => cases htypes
  | all => cases htypes
  | refs names groups => exact .typeGroup htypes

theorem Form.IsProper.isTypes {form : Form} (h : form.IsProper) (htypes : types ∈ form.groups) :
    IsTypes types := by
  cases h with
  | choice => cases htypes
  | all => cases htypes
  | refs _ _ hgroups _ _ => exact hgroups types htypes

/-- The targets that are read from the segments of a proper payload. -/
theorem Form.IsProper.names_iff {form : Form} (h : form.IsProper) :
    form.Names T ↔
      ∃ s ∈ form.texts, (Value.Segment.ofText .shieldProf s).target? .shieldProf = some T := by
  cases h with
  | choice =>
    have hread : Value.Segment.ofText .shieldProf "%LIST" = .choice :=
      Value.Segment.ofText_choiceMarker _
    refine iff_of_false nofun ?_
    rintro ⟨s, hs, hT⟩
    rw [List.mem_singleton.mp hs, hread] at hT
    cases hT
  | all =>
    have hread : Value.Segment.ofText .shieldProf "ALL" = .all :=
      Value.Segment.ofText_allMarker _
    constructor
    · intro hT
      cases hT
      exact ⟨"ALL", List.mem_singleton_self _, by rw [hread]; rfl⟩
    · rintro ⟨s, hs, hT⟩
      rw [List.mem_singleton.mp hs, hread] at hT
      cases hT
      exact .all
  | @refs names groups _ hnames hgroups _ _ =>
    rw [texts]
    constructor
    · intro hT
      cases hT with
      | name hs =>
        exact ⟨_, List.mem_append_left _ hs, (isWrittenName_iff.mpr (hnames _ hs)).target?_eq⟩
      | typeGroup htypes =>
        exact ⟨_, List.mem_append_right _ (List.mem_map_of_mem htypes),
          (hgroups _ htypes).target?_groupText⟩
    · rintro ⟨s, hs, hT⟩
      obtain hs | hs := List.mem_append.mp hs
      · rw [(isWrittenName_iff.mpr (hnames s hs)).target?_eq] at hT
        cases hT
        exact .name hs
      · obtain ⟨types, htypes, rfl⟩ := List.mem_map.mp hs
        rw [(hgroups types htypes).target?_groupText] at hT
        cases hT
        exact .typeGroup htypes

theorem mem_targetsIn_iff {lines : List Line} (h : ∀ line ∈ lines, line.IsProper) :
    T ∈ Token.shieldProf.targetsIn (lines.map Line.text) ↔ ∃ line ∈ lines, line.form.Names T := by
  have hsegments : ∀ line ∈ lines, Value.segmentsOf .shieldProf line.text =
      line.form.texts.map (.ofText .shieldProf) := by
    intro line hline
    have htexts := isCanonicalPayload_iff.mpr ⟨_, (h line hline).form, rfl⟩
    exact Value.segmentsOf_withCondition_join htexts.ne_nil (fun _ => htexts.isFree) _
  constructor
  · rintro ⟨_, hvalue, seg, hseg, hT⟩
    obtain ⟨line, hline, rfl⟩ := List.mem_map.mp hvalue
    rw [hsegments line hline] at hseg
    obtain ⟨s, hs, rfl⟩ := List.mem_map.mp hseg
    exact ⟨line, hline, (h line hline).form.names_iff.mpr ⟨s, hs, hT⟩⟩
  · rintro ⟨line, hline, hT⟩
    obtain ⟨s, hs, hT⟩ := (h line hline).form.names_iff.mp hT
    exact ⟨_, List.mem_map_of_mem hline, _, hsegments line hline ▸ List.mem_map_of_mem hs, hT⟩

/-! ### Lists of lines -/

/-- Targets of proper lines that mean the same are the same if the spellings are. -/
private theorem IsProper.target_unique {lines : List Line} (h : IsProper lines) {line line' : Line}
    {T' : Target} (hline : line ∈ lines) (hline' : line' ∈ lines) (hT : line.form.Names T)
    (hT' : line'.form.Names T') (hfold : T.folded = T'.folded) : T = T' := by
  obtain ⟨form, condition⟩ := line
  obtain ⟨form', condition'⟩ := line'
  cases hT with
  | all =>
    cases hT' with
    | all => rfl
    | name _ => cases hfold
    | typeGroup _ => cases hfold
  | name hs =>
    cases hT' with
    | all => cases hfold
    | name hs' =>
      rw [h.name_spelling hline hline' hs hs' (Target.named.inj hfold).2]
    | typeGroup _ => cases hfold
  | typeGroup htypes =>
    cases hT' with
    | all => cases hfold
    | name _ => cases hfold
    | typeGroup htypes' =>
      obtain ⟨-, -, hmap⟩ := Target.typed.inj hfold
      have hsame := (Target.image_asciiLower_eq_iff ((h.line hline).form.isTypes htypes).inOrder
        ((h.line hline').form.isTypes htypes').inOrder).mpr hmap
      rw [h.group_spelling hline hline' htypes htypes' hsame]

/-- The grammar of lines is the grammar of what is written with verbatim conditions. -/
theorem isCanonicalList_iff {values : List String} :
    Value.IsCanonicalList .verbatim values ↔
      ∃ lines, IsProper lines ∧ lines.map Line.text = values := by
  constructor
  · intro h
    obtain ⟨lines, hlines, rfl⟩ := exists_map_eq fun value hvalue =>
      isCanonical_iff.mp (h.isCanonical hvalue)
    have hspelling : ∀ {line line' : Line} {T T' : Target}, line ∈ lines → line' ∈ lines →
        line.form.Names T → line'.form.Names T' → T.folded = T'.folded → T = T' :=
      fun hline hline' hT hT' hfold => h.spelling ((mem_targetsIn_iff hlines).mpr ⟨_, hline, hT⟩)
        ((mem_targetsIn_iff hlines).mpr ⟨_, hline', hT'⟩) hfold
    refine ⟨lines, {
      ne_nil := fun hnil => h.ne_nil (List.map_eq_nil_iff.mpr hnil)
      order := h.order
      line := fun hline => hlines _ hline
      name_spelling := fun hline hline' hs hs' hkey => ?_
      group_spelling := fun hline hline' htypes htypes' hsame => ?_
      all_alone := h.all_alone }, rfl⟩
    · have heq := hspelling hline hline' (Form.names_named hs) (Form.names_named hs')
        (congrArg (Target.named .shieldProf) hkey)
      exact (Target.named.inj heq).2
    · have hmap := (Target.image_asciiLower_eq_iff ((hlines _ hline).form.isTypes htypes).inOrder
        ((hlines _ hline').form.isTypes htypes').inOrder).mp hsame
      have heq := hspelling hline hline' (Form.names_typed htypes) (Form.names_typed htypes')
        (congrArg (Target.typed .equipment (Text.asciiLower "SHIELD")) hmap)
      exact (Target.typed.inj heq).2.2
  · rintro ⟨lines, h, rfl⟩
    have hlines : ∀ line ∈ lines, line.IsProper := fun _ => h.line
    refine {
      ne_nil := fun hnil => h.ne_nil (List.map_eq_nil_iff.mp hnil)
      order := h.order
      isCanonical := fun hvalue => ?_
      spelling := fun hT hT' hfold => ?_
      all_alone := h.all_alone }
    · obtain ⟨line, hline, rfl⟩ := List.mem_map.mp hvalue
      exact isCanonical_iff.mpr ⟨line, h.line hline, rfl⟩
    · obtain ⟨line, hline, hT⟩ := (mem_targetsIn_iff hlines).mp hT
      obtain ⟨line', hline', hT'⟩ := (mem_targetsIn_iff hlines).mp hT'
      exact h.target_unique hline hline' hT hT' hfold

/-! ### What is written of plain values -/

/-- The lists of the grammar are those that are written, and are not empty, of an entity onto which
plain values were read in a new context, whether all of them were accepted or some were skipped. -/
theorem isProper_tfae (values : List String) :
    [∃ lines, IsProper lines ∧ lines.map Line.text = values,
      values ≠ [] ∧ ∃ (key : String) (raws : List String) (ctx : LoadContext) (e : Entity),
        (∀ raw ∈ raws, Value.IsPlain raw) ∧
          ({} : LoadContext).decodeAll .shieldProf { key } raws = (ctx, .ok e) ∧
            ctx.encode .shieldProf e = .ok values,
      values ≠ [] ∧ ∃ (key : String) (raws : List String) (ctx : LoadContext) (e : Entity),
        (∀ raw ∈ raws, Value.IsPlain raw) ∧
          ({} : LoadContext).decodeEach .shieldProf { key } raws = (ctx, e) ∧
            ctx.encode .shieldProf e = .ok values].TFAE := by
  rw [← isCanonicalList_iff]
  have hempty : ({} : LoadContext).refs.WellFormed .shieldProf :=
    ReferenceTable.wellFormed_empty .shieldProf
  tfae_have 1 → 2 := by
    intro h
    obtain ⟨ctx, e, hread, hwrite⟩ :=
      LoadContext.encode_of_isCanonicalList hempty h (ReferenceTable.spells_empty values) ""
    exact ⟨h.ne_nil, "", values, ctx, e, fun _ hvalue => (h.isCanonical hvalue).isPlain, hread,
      hwrite⟩
  tfae_have 2 → 3 := by
    rintro ⟨hne, key, raws, ctx, e, hplain, hread, hwrite⟩
    exact ⟨hne, key, raws, ctx, e, hplain, LoadContext.decodeEach_of_decodeAll hread, hwrite⟩
  tfae_have 3 → 1 := by
    rintro ⟨hne, key, raws, ctx, e, hplain, hread, hwrite⟩
    obtain ⟨hformat, hgrows⟩ := LoadContext.decodeEach_table hread
    have he : e.IsLoaded .verbatim ctx.refs raws := LoadContext.isLoaded_of_decodeEach hempty hread
    rw [LoadContext.encode, hformat] at hwrite
    exact he.isCanonicalList ConditionFormat.stable_verbatim
      (Entity.keepsNames_of_isPlain hplain hgrows e) hwrite hne
  tfae_finish

end Grammar

end GrantList
