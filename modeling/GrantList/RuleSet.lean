import GrantList.Loading

/-!
# Rule sets

A rule set lists entities with the values of their grants as they stand in a file. Compiling it
makes an `Entity` of each record. A record without a key, or with the key of an earlier one, is
reported and left out; a value that is rejected is reported and gives nothing.
-/

namespace GrantList

/-- An entity of a rule set. -/
structure EntityRecord where
  /-- The key. -/
  key : String
  /-- The values of its grants. -/
  values : List String := []
deriving DecidableEq, Repr

/-- The content of a rule file. -/
structure RuleSet where
  /-- The entities, in the order of the file. -/
  entities : List EntityRecord := []
deriving DecidableEq, Repr

namespace EntityRecord

/-- Reads the values of a record from position `index` on and attaches them to the entity. -/
def decodeValues (key : String) (index : Nat) (ctx : LoadContext) (e : Entity) :
    List String → LoadContext × Entity
  | [] => (ctx, e)
  | value :: l =>
    match ctx.read .shieldProf e value with
    | (s, .ok ()) => decodeValues key (index + 1) s.ctx s.entity l
    | (s, .error err) =>
      let place := key ++ ".auto_shieldprof[" ++ toString index ++ "]"
      decodeValues key (index + 1) (s.ctx.push .error place err.message) s.entity l

/-- The entity of a record. -/
def compile (record : EntityRecord) (ctx : LoadContext) : LoadContext × Entity :=
  decodeValues record.key 0 ctx { key := record.key } record.values

end EntityRecord

namespace RuleSet

/-- The entities of the records from position `index` on, where `seen` holds the lower-case forms
of the keys before them. -/
def compileFrom (index : Nat) (seen : List String) (ctx : LoadContext) :
    List EntityRecord → LoadContext × List Entity
  | [] => (ctx, [])
  | record :: l =>
    let place := "entities[" ++ toString index ++ "].key"
    let form := Text.lowerCase record.key
    if Text.isBlankText record.key then
      compileFrom (index + 1) seen (ctx.push .error place "missing non-empty 'key'") l
    else if form ∈ seen then
      compileFrom (index + 1) seen
        (ctx.push .error place ("duplicate key '" ++ record.key ++ "'")) l
    else
      let (ctx, e) := record.compile ctx
      let (ctx, entities) := compileFrom (index + 1) (form :: seen) ctx l
      (ctx, e :: entities)

/-- The entities of a rule set, in the order of the file. -/
def compile (rules : RuleSet) (ctx : LoadContext) : LoadContext × List Entity :=
  compileFrom 0 [] ctx rules.entities

/-- The first entity with the given key, without regard to ASCII case. -/
def findEntity? (entities : List Entity) (key : String) : Option Entity :=
  entities.find? fun e => Text.SameAscii e.key key

end RuleSet

end GrantList
