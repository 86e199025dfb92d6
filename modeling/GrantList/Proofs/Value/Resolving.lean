import GrantList.Value.Decoding

/-!
# Reading as a function

What the reading of a value does can be told without a state, as a function of the table, the
entity and the text (`Token.decode`), in three steps. The text is cut into segments and a
condition, which depends on the token and on the format of conditions alone. The segments are then
entered into the table from left to right, up to the first type group that has an empty part. What
they stand for is at last attached to the entity.

That a reader does the same is shown in `GrantList.Proofs.Value.Reading`.
-/

namespace GrantList

/-- A value, cut into its segments and its condition. -/
structure Value where
  /-- The segments, from left to right. -/
  segments : List Value.Segment
  /-- The condition, if there is one. -/
  condition : Option Condition
deriving DecidableEq, Repr

namespace Value

/-- Cuts a text into the segments and the condition of a value of the token. -/
def ofText (t : Token) (format : ConditionFormat) (s : String) :
    Except DecodeError.Cause Value :=
  match splitCondition? s with
  | none => .error .unterminatedCondition
  | some (payload, text) =>
    match readCondition format text with
    | .error cause => .error cause
    | .ok condition =>
      match separatorProblem? separator payload with
      | some problem => .error (.malformedSeparator problem)
      | none => .ok ⟨(Text.split separator payload).map (.ofText t), condition⟩

/-- Whether the segment covers everything. -/
def Segment.isAll : Segment → Bool
  | .all => true
  | _ => false

/-- What a segment stands for once it has been entered into the table. -/
inductive Item where
  /-- A choice list. -/
  | choice
  /-- Everything. -/
  | all (ref : Ref)
  /-- A type group. -/
  | typeGroup (ref : Ref)
  /-- A name. -/
  | capability (ref : Ref)
deriving DecidableEq, Repr

namespace Item

/-- The reference of everything. -/
def all? : Item → Option Ref
  | .all ref => some ref
  | _ => none

/-- The reference of a type group. -/
def typeGroup? : Item → Option Ref
  | .typeGroup ref => some ref
  | _ => none

/-- The reference of a name. -/
def capability? : Item → Option Ref
  | .capability ref => some ref
  | _ => none

end Item

/-- Enters a segment into the table. A type group with an empty part is refused, and the table
then stays as it was. -/
def Segment.intern (t : Token) (refs : ReferenceTable) :
    Segment → Except DecodeError.Cause (ReferenceTable × Item)
  | .choice => .ok (refs, .choice)
  | .all =>
    let (refs, ref) := refs.intern (.allOf t.capability)
    .ok (refs, .all ref)
  | .typeGroup expr =>
    match refs.internTypes? t.typeCategory t.typeBase expr with
    | some (refs, ref) => .ok (refs, .typeGroup ref)
    | none => .error (.unresolvedType (t.typeBase ++ "." ++ expr))
  | .name text =>
    let (refs, ref) := refs.intern (.ofName t.capability text)
    .ok (refs, .capability ref)

/-- Enters segments into the table from left to right, up to the first that is refused. -/
def internAll (t : Token) (refs : ReferenceTable) :
    List Segment → ReferenceTable × Except DecodeError.Cause (List Item)
  | [] => (refs, .ok [])
  | s :: l =>
    match s.intern t refs with
    | .error cause => (refs, .error cause)
    | .ok (refs, item) =>
      let (refs, items) := internAll t refs l
      (refs, items.map (item :: ·))

/-- What the items grant, leaving choice lists aside. -/
def payload? (items : List Item) : Option Payload :=
  match items.findSome? Item.all? with
  | some ref => some (.all ref)
  | none =>
    let capabilities := (items.filterMap Item.capability?).eraseDups
    let typeGroups := (items.filterMap Item.typeGroup?).eraseDups
    if capabilities.isEmpty && typeGroups.isEmpty then none
    else some (.refs capabilities typeGroups)

/-- What a value attaches to an entity: a choice grant for each choice list, then at most one
grant. -/
def attachments (t : Token) (condition : Option Condition) (items : List Item) :
    List Attachment :=
  let choices := (items.filter (· == .choice)).map fun _ =>
    Attachment.choice { source := t.name, condition }
  let grant := (payload? items).map fun payload => Attachment.grant { payload, condition }
  choices ++ grant.toList

/-- Enters the segments of a value into the table and says what the value attaches. Everything
may not be granted together with anything else. -/
def resolve (v : Value) (t : Token) (refs : ReferenceTable) :
    ReferenceTable × Except DecodeError.Cause (List Attachment) :=
  match internAll t refs v.segments with
  | (refs, .error cause) => (refs, .error cause)
  | (refs, .ok items) =>
    if v.segments.any (·.isAll) && !v.segments.all (·.isAll) then (refs, .error .mutualExclusion)
    else (refs, .ok (attachments t v.condition items))

end Value

namespace Token

/-- The table after a value of the token was read onto an entity, and the entity with what the
value attaches if it is accepted. -/
def decode (t : Token) (format : ConditionFormat) (refs : ReferenceTable) (e : Entity)
    (value : String) : ReferenceTable × Except DecodeError Entity :=
  match Value.ofText t format value with
  | .error cause => (refs, .error ⟨t.fullName, value, cause⟩)
  | .ok v =>
    match v.resolve t refs with
    | (refs, .error cause) => (refs, .error ⟨t.fullName, value, cause⟩)
    | (refs, .ok attachments) => (refs, .ok (e.attachAll t.name attachments))

end Token

end GrantList
