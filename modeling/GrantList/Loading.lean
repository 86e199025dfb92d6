import GrantList.Value.Decoding
import GrantList.Value.Encoding

/-!
# Reading and writing in a context

`LoadContext.read` reads one value onto an entity in a context, and gives the context and the
entity as the reader left them together with the outcome. Where nothing else is done with an entity
once a value was rejected, `LoadContext.decode` gives the entity as the outcome. What a token
attached is written with the format and the table of the context.
-/

namespace GrantList

namespace LoadContext

/-- Reads a value of the token onto the entity: the context and the entity afterwards, and whether
the value was accepted. -/
def read (ctx : LoadContext) (t : Token) (e : Entity) (value : String) :
    DecodeState × Except DecodeError Unit :=
  match (t.read value).run ⟨ctx, e⟩ with
  | .ok _ s => (s, .ok ())
  | .error err s => (s, .error err)

/-- Reads a value of the token onto the entity. The entity is given only if the value is
accepted. -/
def decode (ctx : LoadContext) (t : Token) (e : Entity) (value : String) :
    LoadContext × Except DecodeError Entity :=
  match ctx.read t e value with
  | (s, .ok ()) => (s.ctx, .ok s.entity)
  | (s, .error err) => (s.ctx, .error err)

/-- Reads values one after the other and attaches them to the entity, up to the first that is
rejected. -/
def decodeAll (ctx : LoadContext) (t : Token) (e : Entity) :
    List String → LoadContext × Except DecodeError Entity
  | [] => (ctx, .ok e)
  | value :: l =>
    match ctx.decode t e value with
    | (ctx, .ok e) => ctx.decodeAll t e l
    | (ctx, .error err) => (ctx, .error err)

/-- The values of all that the token attached to the entity. -/
def encode (ctx : LoadContext) (t : Token) (e : Entity) : Except EncodeError (List String) :=
  t.encode ctx.format ctx.refs e

/-- The values of all that the token attached to the entity. A failure is reported, and then there
are no values. -/
def encodeReporting (ctx : LoadContext) (t : Token) (e : Entity) : LoadContext × List String :=
  match ctx.encode t e with
  | .ok values => (ctx, values)
  | .error err => (ctx.pushWriteError (e.key ++ " " ++ t.fullName) err.message, [])

end LoadContext

end GrantList
