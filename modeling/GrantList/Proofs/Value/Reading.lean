import GrantList.Loading
import GrantList.Proofs.Value.Interning
import Mathlib.Data.List.Induction

/-!
# The reader and what it does

A reader goes through the segments of a value with a record of what they have said, and attaches
at the very end. What the record holds on the way is told by the items of the segments so far
(`Value.Pending.Collects`), and one more segment keeps it so (`Value.Pending.Collects.add`). Entering
and collecting a segment leaves the entity alone (`Token.run_collect`), and so does the loop over all
segments (`Token.run_foldlM_collect`). A reader that fails there, or when all segments have been
collected, has therefore not touched the entity.

Main result: `Token.run_read`. A reader leaves the table, the entity and the outcome that
`Token.decode` gives.
-/

namespace GrantList

namespace Value

/-! ### What has been collected -/

theorem pushUnique_eraseDups (l : List Ref) (r : Ref) :
    pushUnique l.eraseDups r = (l ++ [r]).eraseDups := by
  rw [pushUnique, List.eraseDups_append]
  by_cases hr : r ∈ l
  · simp [List.removeAll, hr]
  · simp [List.removeAll, hr, List.eraseDups_cons]

namespace Pending

/-- What has been collected once an item is added, where a choice adds the choice grant `c`. -/
def add (c : ChoiceGrant) (p : Pending) : Item → Pending
  | .choice => { p with foundOther := true, choices := p.choices ++ [c] }
  | .all r => { p with foundAll := true, all := some r }
  | .typeGroup r => { p with foundOther := true, typeGroups := pushUnique p.typeGroups r }
  | .capability r => { p with foundOther := true, capabilities := pushUnique p.capabilities r }

/-- What has been collected is what the items say. -/
structure Collects (p : Pending) (c : ChoiceGrant) (items : List Item) : Prop where
  /-- The first flag tells whether an item is everything. -/
  foundAll : p.foundAll = items.any (·.all?.isSome)
  /-- The second flag tells whether an item is something else. -/
  foundOther : p.foundOther = !items.all (·.all?.isSome)
  /-- There is a choice grant for each choice. -/
  choices : p.choices = List.replicate (items.count .choice) c
  /-- The reference of everything is the last one. -/
  all : p.all = items.reverse.findSome? Item.all?
  /-- The references of names are in the order of their first occurrences. -/
  capabilities : p.capabilities = (items.filterMap Item.capability?).eraseDups
  /-- So are the references of type groups. -/
  typeGroups : p.typeGroups = (items.filterMap Item.typeGroup?).eraseDups

variable {p : Pending} {c : ChoiceGrant} {items : List Item}

theorem collects_nil (c : ChoiceGrant) : ({} : Pending).Collects c [] := by
  constructor <;> rfl

/-- One more item keeps the record true. -/
theorem Collects.add (h : p.Collects c items) (i : Item) :
    (p.add c i).Collects c (items ++ [i]) := by
  obtain ⟨hall, hother, hchoices, hlast, hcapabilities, htypeGroups⟩ := h
  refine ⟨?foundAll, ?foundOther, ?choices, ?all, ?capabilities, ?typeGroups⟩
  case foundAll => cases i <;> simp [Pending.add, Item.all?, hall]
  case foundOther => cases i <;> simp [Pending.add, Item.all?, hother]
  case choices => cases i <;> simp [Pending.add, hchoices, List.replicate_succ']
  case all => cases i <;> simp [Pending.add, List.findSome?_cons, Item.all?, hlast]
  case capabilities =>
    rw [List.filterMap_append, List.filterMap_cons]
    cases i <;> simp [Pending.add, Item.capability?, hcapabilities, pushUnique_eraseDups]
  case typeGroups =>
    rw [List.filterMap_append, List.filterMap_cons]
    cases i <;> simp [Pending.add, Item.typeGroup?, htypeGroups, pushUnique_eraseDups]

/-- A record that started empty tells what all items say. -/
theorem collects_foldl (c : ChoiceGrant) (items : List Item) :
    (items.foldl (add c) {}).Collects c items := by
  induction items using List.reverseRecOn with
  | nil => exact collects_nil c
  | append_singleton items i ih =>
    rw [List.foldl_append]
    exact ih.add i

end Pending

/-! ### What is then attached -/

variable {t : Token} {refs : ReferenceTable} {l : List Segment} {items : List Item}

private theorem isSome_all?_of_item? {s : Segment} {i : Item} (hi : s.item? t refs = some i) :
    i.all?.isSome = s.isAll := by
  cases s with
  | choice =>
    cases hi
    rfl
  | _ =>
    obtain ⟨r, -, rfl⟩ := Option.map_eq_some_iff.mp hi
    rfl

/-- An item is everything where its segment is. -/
theorem any_and_all_items (h : List.Forall₂ (fun s i => s.item? t refs = some i) l items) :
    items.any (·.all?.isSome) = l.any (·.isAll) ∧
      items.all (·.all?.isSome) = l.all (·.isAll) := by
  induction h with
  | nil => exact ⟨rfl, rfl⟩
  | cons hi _ ih =>
    simp only [List.any_cons, List.all_cons, ih.1, ih.2, isSome_all?_of_item? hi, and_self]

/-- Where everything has one reference, this is the one that is found. -/
private theorem findSome?_all?_eq_some_iff
    (hunique : ∀ r r', .all r ∈ items → .all r' ∈ items → r = r') {r : Ref} :
    items.findSome? Item.all? = some r ↔ .all r ∈ items := by
  have hfound : ∀ {r}, items.findSome? Item.all? = some r → .all r ∈ items := fun hr => by
    obtain ⟨i, hi, hir⟩ := List.exists_of_findSome?_eq_some hr
    rwa [all?_eq_some_iff.mp hir] at hi
  refine ⟨hfound, fun hr => ?_⟩
  cases hfirst : items.findSome? Item.all? with
  | none => exact nomatch List.findSome?_eq_none_iff.mp hfirst _ hr
  | some r' => rw [hunique r r' hr (hfound hfirst)]

/-- Everything has one reference in a table, so the last one is the first one too. -/
theorem findSome?_all?_reverse (h : List.Forall₂ (fun s i => s.item? t refs = some i) l items) :
    items.reverse.findSome? Item.all? = items.findSome? Item.all? := by
  have hunique : ∀ r r', .all r ∈ items → .all r' ∈ items → r = r' := fun r r' hr hr' => by
    obtain ⟨s, -, hs⟩ := (mem_items_iff h).mp hr
    obtain ⟨s', -, hs'⟩ := (mem_items_iff h).mp hr'
    have hfind := (item?_eq_all_iff.mp hs).2
    exact Option.some_inj.mp (hfind.symm.trans (item?_eq_all_iff.mp hs').2)
  ext r
  rw [findSome?_all?_eq_some_iff hunique,
    findSome?_all?_eq_some_iff (by simpa only [List.mem_reverse] using hunique), List.mem_reverse]

namespace Pending.Collects

variable {p : Pending} {c : ChoiceGrant}

/-- Both flags are set when everything stands beside another segment. -/
theorem flags_eq (hp : p.Collects c items)
    (h : List.Forall₂ (fun s i => s.item? t refs = some i) l items) :
    (p.foundAll && p.foundOther) = (l.any (·.isAll) && !l.all (·.isAll)) := by
  obtain ⟨hany, hall⟩ := any_and_all_items h
  rw [hp.foundAll, hp.foundOther, hany, hall]

theorem payload?_eq (hp : p.Collects c items)
    (h : List.Forall₂ (fun s i => s.item? t refs = some i) l items) :
    p.payload? = Value.payload? items := by
  have hall : p.all = items.findSome? Item.all? := hp.all.trans (findSome?_all?_reverse h)
  cases hfirst : items.findSome? Item.all? with
  | some r => simp [payload?, Value.payload?, hall, hfirst]
  | none => simp [payload?, Value.payload?, hall, hfirst, hp.capabilities, hp.typeGroups]

theorem attachments_eq {condition : Option Condition}
    (hp : p.Collects { source := t.name, condition } items)
    (h : List.Forall₂ (fun s i => s.item? t refs = some i) l items) :
    p.attachments condition = Value.attachments t condition items := by
  rw [attachments, Value.attachments, hp.payload?_eq h, hp.choices, List.map_const',
    List.map_replicate, ← List.countP_eq_length_filter, List.count]

end Pending.Collects

end Value

/-! ### Running a reader -/

@[simp]
theorem DecodeState.refs_withRefs (s : DecodeState) (refs : ReferenceTable) :
    (s.withRefs refs).ctx.refs = refs :=
  rfl

namespace Token

/-- A segment is entered and collected, and nothing else is changed. A refused segment changes
nothing. -/
theorem run_collect (t : Token) (value : String) (condition : Option Condition)
    (p : Value.Pending) (segment : String) (s : DecodeState) :
    (t.collect value condition p segment).run s =
      match (Value.Segment.ofText t segment).intern t s.ctx.refs with
      | .ok (refs, i) => .ok (p.add { source := t.name, condition } i) (s.withRefs refs)
      | .error cause => .error ⟨t.fullName, value, cause⟩ s := by
  rw [collect]
  cases Value.Segment.ofText t segment with
  | choice => rfl
  | all => rfl
  | name text => rfl
  | typeGroup expr =>
    dsimp only
    rw [EStateM.run_bind, EStateM.run_get, Value.Segment.intern]
    dsimp only
    cases s.ctx.refs.internTypes? t.typeCategory t.typeBase expr <;> rfl

/-- Segments are entered and collected up to the first that is refused. The entity has no part in
it. -/
theorem run_foldlM_collect (t : Token) (value : String) (condition : Option Condition)
    (segments : List String) (p : Value.Pending) (s : DecodeState) :
    (segments.foldlM (t.collect value condition) p).run s =
      match Value.internAll t s.ctx.refs (segments.map (.ofText t)) with
      | (refs, .ok items) =>
        .ok (items.foldl (.add { source := t.name, condition }) p) (s.withRefs refs)
      | (refs, .error cause) => .error ⟨t.fullName, value, cause⟩ (s.withRefs refs) := by
  induction segments generalizing p s with
  | nil => rfl
  | cons segment segments ih =>
    rw [List.foldlM_cons, EStateM.run_bind, run_collect, List.map_cons, Value.internAll]
    cases (Value.Segment.ofText t segment).intern t s.ctx.refs with
    | error cause => rfl
    | ok q =>
      obtain ⟨refs, i⟩ := q
      dsimp only
      rw [ih, DecodeState.refs_withRefs]
      cases Value.internAll t refs (segments.map (.ofText t)) with
      | mk last result => cases result <;> rfl

/-- A reader leaves the table, the entity and the outcome that `Token.decode` gives, and changes
nothing else. When it fails, the entity is the one it was given. -/
theorem run_read (t : Token) (value : String) (s : DecodeState) :
    (t.read value).run s =
      match t.decode s.ctx.format s.ctx.refs s.entity value with
      | (refs, .ok e) => .ok () { s.withRefs refs with entity := e }
      | (refs, .error err) => .error err (s.withRefs refs) := by
  rw [read, decode, Value.ofText]
  cases Value.splitCondition? value with
  | none => rfl
  | some q =>
    obtain ⟨payload, text⟩ := q
    dsimp only
    rw [EStateM.run_bind, EStateM.run_get]
    dsimp only
    cases Value.readCondition s.ctx.format text with
    | error cause => rfl
    | ok condition =>
      cases Value.separatorProblem? Value.separator payload with
      | some problem => rfl
      | none =>
        dsimp only
        rw [EStateM.run_bind, run_foldlM_collect, Value.resolve]
        cases hintern : Value.internAll t s.ctx.refs
            ((Text.split Value.separator payload).map (.ofText t)) with
        | mk refs result =>
          cases result with
          | error cause => rfl
          | ok items =>
            have hitems := Value.internAll_items hintern
            have hp := Value.Pending.collects_foldl { source := t.name, condition } items
            dsimp only
            rw [hp.flags_eq hitems, hp.attachments_eq hitems]
            split <;> rfl

end Token

/-! ### Reading in a context -/

namespace LoadContext

variable {ctx ctx' : LoadContext} {t : Token} {e : Entity} {value : String}

/-- The context changes in its table alone. -/
theorem decode_eq (ctx : LoadContext) (t : Token) (e : Entity) (value : String) :
    ctx.decode t e value =
      ({ ctx with refs := (t.decode ctx.format ctx.refs e value).1 },
        (t.decode ctx.format ctx.refs e value).2) := by
  rw [decode, read, t.run_read value ⟨ctx, e⟩]
  cases t.decode ctx.format ctx.refs e value with
  | mk refs result => cases result <;> rfl

theorem token_decode_eq {result : Except DecodeError Entity}
    (h : ctx.decode t e value = (ctx', result)) :
    t.decode ctx.format ctx.refs e value = (ctx'.refs, result) := by
  rw [decode_eq] at h
  obtain ⟨rfl, rfl⟩ := Prod.mk.inj h
  rfl

/-- Where `decode` gives an entity, this is the one that was read onto. Where it gives none, the
entity is as it was. -/
theorem read_eq (ctx : LoadContext) (t : Token) (e : Entity) (value : String) :
    ctx.read t e value =
      match ctx.decode t e value with
      | (ctx', .ok e') => (⟨ctx', e'⟩, .ok ())
      | (ctx', .error err) => (⟨ctx', e⟩, .error err) := by
  rw [decode_eq, read, t.run_read value ⟨ctx, e⟩]
  cases t.decode ctx.format ctx.refs e value with
  | mk refs result => cases result <;> rfl

end LoadContext

end GrantList
