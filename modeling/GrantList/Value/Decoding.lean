import GrantList.Entity
import GrantList.LoadContext
import GrantList.Value.Bracket
import GrantList.Value.Error

/-!
# Reading values

A value is read onto an entity in a context. Its condition is cut off and read, and its payload is
checked for empty segments. The segments are then taken from left to right: each is entered into
the table of references, and what it says is collected (`Value.Pending`), up to the first type group
that has an empty part. Everything may not be granted together with anything else. What was
collected is at last attached to the entity: a choice grant for each choice list, and one grant for
all other segments together.

A reader works on the context and the entity themselves (`DecodeState`). A failure stops it where
it stands, and what it has changed by then stays changed.
-/

namespace GrantList

/-- What a reader works on. -/
structure DecodeState where
  /-- The context, whose table the segments are entered into. -/
  ctx : LoadContext
  /-- The entity, which the value is attached to. -/
  entity : Entity

/-- A reader of values. It changes the context and the entity as it goes, and both are left as they
are when it fails. -/
abbrev DecodeM := EStateM DecodeError DecodeState

namespace DecodeState

/-- Puts another table into the context. -/
def withRefs (s : DecodeState) (refs : ReferenceTable) : DecodeState :=
  { s with ctx := { s.ctx with refs } }

/-- Attaches everything in the list to the entity, grants to the given slot. -/
def attachAll (s : DecodeState) (slot : String) (l : List Attachment) : DecodeState :=
  { s with entity := s.entity.attachAll slot l }

end DecodeState

/-- Enters a target into the table of the context and gives its reference. -/
def DecodeM.intern (target : Target) : DecodeM Ref :=
  modifyGet fun s =>
    let (refs, ref) := s.ctx.refs.intern target
    (ref, s.withRefs refs)

namespace Value

/-- Reads the condition of a value, if it has one. -/
def readCondition (format : ConditionFormat) :
    Option String → Except DecodeError.Cause (Option Condition)
  | none => .ok none
  | some text =>
    match format.read text with
    | .ok c => .ok (some c)
    | .error source => .error (.invalidCondition text source)

/-- What the segments of a value have said so far. -/
structure Pending where
  /-- Whether a segment was everything. -/
  foundAll : Bool := false
  /-- Whether a segment was something else. -/
  foundOther : Bool := false
  /-- The choice grants. -/
  choices : List ChoiceGrant := []
  /-- The reference of everything, as it was entered last. -/
  all : Option Ref := none
  /-- The references of names, each once. -/
  capabilities : List Ref := []
  /-- The references of type groups, each once. -/
  typeGroups : List Ref := []
deriving DecidableEq, Repr

/-- Adds a reference at the end, unless it is there already. -/
def pushUnique (refs : List Ref) (r : Ref) : List Ref :=
  if r ∈ refs then refs else refs ++ [r]

namespace Pending

/-- What the segments grant, leaving choice lists aside. -/
def payload? (p : Pending) : Option Payload :=
  match p.all with
  | some ref => some (.all ref)
  | none =>
    if p.capabilities.isEmpty && p.typeGroups.isEmpty then none
    else some (.refs p.capabilities p.typeGroups)

/-- What the value attaches: the choice grants, then at most one grant. -/
def attachments (p : Pending) (condition : Option Condition) : List Attachment :=
  p.choices.map .choice ++ (p.payload?.map fun payload => .grant { payload, condition }).toList

end Pending

end Value

namespace Token

/-- Rejects a value. -/
def reject {α : Type} (t : Token) (value : String) (cause : DecodeError.Cause) : DecodeM α :=
  throw ⟨t.fullName, value, cause⟩

/-- Enters a segment of a value into the table and collects what it says. A type group with an empty
part is refused. -/
def collect (t : Token) (value : String) (condition : Option Condition) (p : Value.Pending)
    (segment : String) : DecodeM Value.Pending := do
  match Value.Segment.ofText t segment with
  | .choice =>
    let grant : ChoiceGrant := { source := t.name, condition }
    return { p with foundOther := true, choices := p.choices ++ [grant] }
  | .all =>
    let ref ← DecodeM.intern (.allOf t.capability)
    return { p with foundAll := true, all := some ref }
  | .typeGroup expr =>
    match (← get).ctx.refs.internTypes? t.typeCategory t.typeBase expr with
    | none => t.reject value (.unresolvedType (t.typeBase ++ "." ++ expr))
    | some (refs, ref) =>
      modify (·.withRefs refs)
      return { p with foundOther := true, typeGroups := Value.pushUnique p.typeGroups ref }
  | .name text =>
    let ref ← DecodeM.intern (.ofName t.capability text)
    return { p with foundOther := true, capabilities := Value.pushUnique p.capabilities ref }

/-- Reads a value of the token and attaches it to the entity. -/
def read (t : Token) (value : String) : DecodeM Unit := do
  match Value.splitCondition? value with
  | none => t.reject value .unterminatedCondition
  | some (payload, text) =>
    match Value.readCondition (← get).ctx.format text with
    | .error cause => t.reject value cause
    | .ok condition =>
      match Value.separatorProblem? Value.separator payload with
      | some problem => t.reject value (.malformedSeparator problem)
      | none =>
        let segments := Text.split Value.separator payload
        let p ← segments.foldlM (t.collect value condition) {}
        if p.foundAll && p.foundOther then
          t.reject value .mutualExclusion
        else
          modify (·.attachAll t.name (p.attachments condition))

end Token

end GrantList
