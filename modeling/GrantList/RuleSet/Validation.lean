import GrantList.RuleSet

/-!
# Validation of rule sets

A rule set is valid when it compiles without problems and when writing its entities and reading the
result gives the same written form again. With a registry at hand, names that it does not know are
reported as well, as warnings.
-/

namespace GrantList

namespace RuleSet

/-- The text for the values of an entity in a message. -/
def valuesText (values : List String) : String :=
  if values.isEmpty then "None" else "Some(" ++ Text.quoteList values ++ ")"

/-- Writes an entity, reads the values back and writes them again. What goes wrong is reported. -/
def checkRoundTrip (ctx : LoadContext) (e : Entity) : LoadContext :=
  match ctx.encodeReporting .shieldProf e with
  | (ctx, []) => ctx
  | (ctx, values) =>
    match ctx.decodeAll .shieldProf { key := e.key } values with
    | (ctx, .error err) =>
      ctx.push .error e.key
        ("canonical value '" ++ err.value ++ "' does not decode: " ++ err.message)
    | (ctx, .ok copy) =>
      let (ctx, again) := ctx.encodeReporting .shieldProf copy
      if again = values then ctx
      else
        ctx.push .error e.key
          ("round trip changed " ++ Text.quoteList values ++ " into " ++ valuesText again)

/-- Warns of the names that the registry does not know. -/
def warnUnconstructed (ctx : LoadContext) (r : Registry) : LoadContext :=
  (ctx.refs.unconstructed r).foldl
    (fun ctx name =>
      ctx.push .warning Token.shieldProf.fullName ("unconstructed reference '" ++ name ++ "'"))
    ctx

/-- The report on a rule set, with the names checked against a registry if there is one. -/
def validate (rules : RuleSet) (registry : Option Registry) : Report :=
  let (ctx, entities) := rules.compile {}
  let ctx := entities.foldl checkRoundTrip ctx
  (registry.elim ctx (warnUnconstructed ctx)).report

end RuleSet

end GrantList
