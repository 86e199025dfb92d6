import GrantList.Proofs.Workspace

/-!
# What a value attaches

Reading a value onto an entity is all or nothing. A reader that fails has left the entity as it was
(`LoadContext.read_all_or_nothing`). A value that is accepted attaches exactly what its segments say
(`Entity.Receives`): a choice for each choice segment, and one grant for all other segments, whose
references are those of the segments in the order in which they first occur (`Payload.IsOf`,
`InFirstOrder`).

Main result: `Workspace.perform_decode`, which also says what a reading leaves alone: the report,
all other entities, and every entry that the table held before.
-/

namespace GrantList

/-! ### First occurrences -/

/-- The list `l'` holds the members of `l` in the order in which they first occur, each once. -/
structure InFirstOrder (l' l : List Ref) : Prop where
  /-- The members are the same. -/
  mem_iff {r : Ref} : r ∈ l' ↔ r ∈ l
  /-- Whatever stands before another member occurs before it. -/
  order : l'.Pairwise fun r r' => l.idxOf r < l.idxOf r'

/-- Erasing repetitions keeps the first occurrences. -/
theorem inFirstOrder_eraseDups (l : List Ref) : InFirstOrder l.eraseDups l where
  mem_iff := List.mem_eraseDups
  order := by
    -- on the last member: it is new and the greatest, or it adds nothing
    induction l using List.reverseRecOn with
    | nil => exact .nil
    | append_singleton l r ih =>
      have hidx : ∀ a ∈ l, (l ++ [r]).idxOf a = l.idxOf a := fun _ => List.idxOf_append_of_mem
      have hold : l.eraseDups.Pairwise fun a b => (l ++ [r]).idxOf a < (l ++ [r]).idxOf b := by
        refine ih.imp_of_mem fun {a b} ha hb hlt => ?_
        rwa [hidx a (List.mem_eraseDups.mp ha), hidx b (List.mem_eraseDups.mp hb)]
      rw [List.eraseDups_append]
      by_cases hr : r ∈ l
      · simpa [List.removeAll, hr] using hold
      · have hnew : ([r].removeAll l).eraseDups = [r] := by
          simp [List.removeAll, hr, List.eraseDups_cons]
        rw [hnew, List.pairwise_append]
        refine ⟨hold, List.pairwise_singleton _ r, fun a ha b hb => ?_⟩
        obtain rfl := List.mem_singleton.mp hb
        have ha := List.mem_eraseDups.mp ha
        rw [hidx a ha, List.idxOf_append_of_notMem hr]
        exact Nat.lt_add_right _ (List.idxOf_lt_length_iff.mpr ha)

/-! ### The payload of segments -/

/-- The text of a segment that is a name. -/
def Value.Segment.name? : Value.Segment → Option String
  | .name text => some text
  | _ => none

/-- The expression of a segment that is a type group. -/
def Value.Segment.typeGroup? : Value.Segment → Option String
  | .typeGroup expr => some expr
  | _ => none

/-- The payload is what the segments `l` grant together, read in the table. -/
inductive Payload.IsOf (t : Token) (refs : ReferenceTable) (l : List Value.Segment) :
    Payload → Prop
  /-- Everything, if the segments are nothing else. -/
  | all {r : Ref} (hmem : .all ∈ l) (hall : ∀ s ∈ l, s = .all)
    (hr : refs.target? r = some (.allOf t.capability)) : IsOf t refs l (.all r)
  /-- Otherwise the references of the names and those of the type groups, both in the order of their
  first occurrences. -/
  | refs {capabilities typeGroups names groups : List Ref} (hmem : .all ∉ l)
    (hnames : List.Forall₂ (fun text r => refs.find? (.ofName t.capability text) = some r)
      (l.filterMap (·.name?)) names)
    (hgroups : List.Forall₂ (fun expr r => ∃ T,
      Target.ofTypes? t.typeCategory t.typeBase expr = some T ∧ refs.find? T = some r)
      (l.filterMap (·.typeGroup?)) groups)
    (hcapabilities : InFirstOrder capabilities names) (htypeGroups : InFirstOrder typeGroups groups) :
    IsOf t refs l (.refs capabilities typeGroups)

/-- The entity `e'` is `e` with exactly what the value attaches, read in the table `refs`. -/
structure Entity.Receives (e e' : Entity) (t : Token) (refs : ReferenceTable) (v : Value) :
    Prop where
  /-- The key stays. -/
  key : e'.key = e.key
  /-- The slots of other tokens stay. -/
  other {name : String} (hname : name ≠ t.name) : e'.grantsIn name = e.grantsIn name
  /-- Each choice segment adds a choice grant after all others. -/
  choices : e'.choices = e.choices ++
    List.replicate (v.segments.count .choice) { source := t.name, condition := v.condition }
  /-- Choices alone add no grant. -/
  grants_of_choices (h : ∀ s ∈ v.segments, s = .choice) : e'.grantsIn t.name = e.grantsIn t.name
  /-- Other segments together add one grant after all others in the slot. -/
  grants (h : ∃ s ∈ v.segments, s ≠ .choice) : ∃ p : Payload, p.IsOf t refs v.segments ∧
    e'.grantsIn t.name = e.grantsIn t.name ++ [{ payload := p, condition := v.condition }]

namespace Value

variable {t : Token} {refs : ReferenceTable} {l : List Segment} {items : List Item}

/-- A name stands for the reference at which its target is found, and so does a type group. Other
segments stand for neither. -/
private theorem rel_of_item? {s : Segment} {i : Item} (hi : s.item? t refs = some i) :
    Option.Rel (fun text r => refs.find? (.ofName t.capability text) = some r)
        s.name? i.capability? ∧
      Option.Rel (fun expr r => ∃ T,
          Target.ofTypes? t.typeCategory t.typeBase expr = some T ∧ refs.find? T = some r)
        s.typeGroup? i.typeGroup? := by
  cases s with
  | choice =>
    cases hi
    exact ⟨.none, .none⟩
  | all =>
    obtain ⟨r, -, rfl⟩ := Option.map_eq_some_iff.mp hi
    exact ⟨.none, .none⟩
  | typeGroup expr =>
    obtain ⟨r, hr, rfl⟩ := Option.map_eq_some_iff.mp hi
    exact ⟨.none, .some (Option.bind_eq_some_iff.mp hr)⟩
  | name text =>
    obtain ⟨r, hr, rfl⟩ := Option.map_eq_some_iff.mp hi
    exact ⟨.some hr, .none⟩

/-- What the items of accepted segments grant is what the segments grant together. -/
theorem isOf_payload? (h : List.Forall₂ (fun s i => s.item? t refs = some i) l items)
    (hapart : KeepsAllApart l) {p : Payload} (hp : payload? items = some p) :
    p.IsOf t refs l := by
  have hcov := covers_payload? h hapart hp
  rw [payload?] at hp
  split at hp
  · next r _ =>
    obtain rfl := Option.some_inj.mp hp
    have hmem : .all ∈ l := hcov.isAll.mp rfl
    exact .all hmem (hapart hmem) hcov.target?_of_all
  · dsimp only at hp
    split at hp
    · cases hp
    · obtain rfl := Option.some_inj.mp hp
      have hmem : .all ∉ l := fun hall => Bool.false_ne_true (hcov.isAll.mpr hall)
      refine .refs hmem ?names ?groups (inFirstOrder_eraseDups _) (inFirstOrder_eraseDups _)
      case names =>
        refine List.rel_filterMap (fun s i hi => ?_) h
        exact (rel_of_item? hi).1
      case groups =>
        refine List.rel_filterMap (fun s i hi => ?_) h
        exact (rel_of_item? hi).2

/-- However the entering of segments ends, the entries that were there stay as they are. -/
theorem appends_internAll (t : Token) (refs : ReferenceTable) (l : List Segment) :
    refs.Appends (internAll t refs l).1 := by
  induction l generalizing refs with
  | nil => exact .refl refs
  | cons s l ih =>
    rw [internAll]
    split
    · exact .refl refs
    · next mid i hi =>
      obtain rfl | ⟨T, -, rfl⟩ := (Segment.intern_eq_ok hi).2
      · exact ih mid
      · exact (refs.appends_intern T).trans (ih _)

end Value

/-! ### Reading a value -/

namespace Token

variable {t : Token} {format : ConditionFormat} {refs refs' : ReferenceTable} {e e' : Entity}
  {value : String}

/-- However the reading of a value ends, the entries that were there stay as they are. -/
theorem appends_enter (t : Token) (format : ConditionFormat) (refs : ReferenceTable)
    (value : String) : refs.Appends (t.enter format refs value) := by
  rw [enter]
  split
  · exact .refl refs
  · exact Value.appends_internAll t refs _

/-- A value that was read is accepted, and the entity has received what it attaches. -/
theorem receives_of_decode (h : t.decode format refs e value = (refs', .ok e')) :
    ∃ v, t.Accepts format value v ∧ e.Receives e' t refs' v := by
  obtain ⟨v, hv, -⟩ := decode_eq_ok h
  obtain ⟨v', items, hv', hitems, hapart, rfl⟩ := decode_eq_ok_iff.mp h
  obtain rfl := Except.ok.inj (hv'.symm.trans hv.ofText)
  have hforall := Value.internAll_items hitems
  refine ⟨v', hv, ?_⟩
  rw [Value.attachAll_attachments]
  exact {
    key := rfl
    other := fun {name} hname => by
      cases Value.payload? items <;> simp [Entity.grantsIn, hname.symm]
    choices := by rw [Value.count_choice hforall]
    grants_of_choices := fun hchoices => by
      simp [Entity.grantsIn, (Value.payload?_eq_none_iff hforall).mpr hchoices]
    grants := fun ⟨s, hs, hne⟩ => by
      cases hp : Value.payload? items with
      | none => exact absurd ((Value.payload?_eq_none_iff hforall).mp hp s hs) hne
      | some p =>
        exact ⟨p, Value.isOf_payload? hforall hapart hp, by simp [Entity.grantsIn]⟩ }

end Token

theorem LoadContext.receives_of_decode {ctx ctx' : LoadContext} {t : Token} {e e' : Entity}
    {value : String} (h : ctx.decode t e value = (ctx', .ok e')) :
    ∃ v, t.Accepts ctx.format value v ∧ e.Receives e' t ctx'.refs v :=
  Token.receives_of_decode (token_decode_eq h)

/-- A reader leaves the report and the format as they are, and of the table all entries that were
there. It fails exactly when the value is not accepted, and then it leaves the entity as it was.
Otherwise the entity has received what the value attaches. -/
theorem LoadContext.read_all_or_nothing (ctx : LoadContext) (t : Token) (e : Entity)
    (value : String) :
    let (s, result) := ctx.read t e value
    s.ctx.report = ctx.report ∧ s.ctx.format = ctx.format ∧ ctx.refs.Appends s.ctx.refs ∧
      match result with
      | .error _ => (∀ v, ¬ t.Accepts ctx.format value v) ∧ s.entity = e
      | .ok _ => ∃ v, t.Accepts ctx.format value v ∧ e.Receives s.entity t s.ctx.refs v := by
  have hctx := ctx.decode_fst t e value
  have happends := t.appends_enter ctx.format ctx.refs value
  rw [read_eq]
  cases hdec : ctx.decode t e value with
  | mk ctx' result =>
    rw [hdec] at hctx
    cases result with
    | error err =>
      have hrejected := LoadContext.not_accepts_of_decode hdec
      obtain rfl : ctx' = _ := hctx
      exact ⟨rfl, rfl, happends, hrejected, rfl⟩
    | ok e' =>
      have hreceives := LoadContext.receives_of_decode hdec
      obtain rfl : ctx' = _ := hctx
      exact ⟨rfl, rfl, happends, hreceives⟩

namespace Workspace

/-- In every load, reading a value of a token onto an entity leaves the report, the format and all
other entities as they are, and the entries of the table with their targets and what they are bound
to. If the reader fails, the value is not one that the token accepts, and the entity is as it was;
otherwise it has received exactly what the value attaches. -/
theorem perform_decode (w : Workspace) (t : Token) (i : Nat) (value : String) :
    (w.perform (.decode t i value)).ctx.report = w.ctx.report ∧
      (w.perform (.decode t i value)).ctx.format = w.ctx.format ∧
      w.ctx.refs.Appends (w.perform (.decode t i value)).ctx.refs ∧
      (∀ j, j ≠ i → (w.perform (.decode t i value)).entities j = w.entities j) ∧
      match (w.ctx.read t (w.entities i) value).2 with
      | .error _ => (∀ v, ¬ t.Accepts w.ctx.format value v) ∧
        (w.perform (.decode t i value)).entities i = w.entities i
      | .ok _ => ∃ v, t.Accepts w.ctx.format value v ∧
        (w.entities i).Receives ((w.perform (.decode t i value)).entities i) t
          (w.perform (.decode t i value)).ctx.refs v := by
  obtain ⟨hreport, hformat, happends, hentity⟩ :=
    w.ctx.read_all_or_nothing t (w.entities i) value
  refine ⟨hreport, hformat, happends, fun j hj => Function.update_of_ne hj _ w.entities, ?_⟩
  have hself : (w.perform (.decode t i value)).entities i =
      (w.ctx.read t (w.entities i) value).1.entity :=
    Function.update_self i _ w.entities
  rw [hself]
  exact hentity

/-- Choices come first wherever they stand in the value, and a name that comes again in another
spelling is granted once. -/
example : ((start .verbatim fun _ => "A").perform
    (.decode .shieldProf 0 "Kite|%LIST|SHIELDTYPE.Heavy|Buckler| kite [x]")).entities 0 =
      { key := "A"
        slots := [("SHIELDPROF", { payload := .refs [0, 2] [1], condition := some ⟨"x"⟩ })]
        choices := [{ source := "SHIELDPROF", condition := some ⟨"x"⟩ }] } := by
  decide +kernel

/-- A choice and a name that were collected before the value is rejected are not attached. The table
keeps the name. -/
example :
    let w := (start .verbatim fun _ => "A").perform (.decode .shieldProf 0 "%LIST|Kite|ALL")
    w.entities 0 = { key := "A" } ∧
      w.ctx.refs.targets = [.named .shieldProf "Kite", .allOf .shieldProf] := by
  decide +kernel

end Workspace

end GrantList
