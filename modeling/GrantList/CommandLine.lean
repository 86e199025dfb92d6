import GrantList.DataFile
import GrantList.FileTree
import GrantList.Granting
import GrantList.Json
import GrantList.RuleSet.Validation

/-!
# The command line

Three commands work on the values of the token for shield proficiencies. The first reads values and
prints their canonical form, the second validates a rule file, and the third prints what an entity
of a rule file gives. A run reads files through a function that it is given, so it can be followed
on files on a disk and on files in memory alike, and it is given the printer of its results too. What
comes of it is the lines that it prints and its exit code.
-/

namespace GrantList

/-! ### Loading files -/

/-- Why a data file cannot be loaded. -/
inductive DataError where
  /-- The file cannot be read. -/
  | file (path : String) (source : FileError)
  /-- The text of the file is not as it should be. -/
  | yaml (path : String) (source : Yaml.Fault)
deriving DecidableEq, Repr

/-- The message for a data file that cannot be loaded. -/
def DataError.message : DataError → String
  | .file path source => "unable to read '" ++ path ++ "': " ++ source.message
  | .yaml path source => "unable to parse yaml '" ++ path ++ "': " ++ source.message

section Loading

variable {m : Type → Type} [Monad m] (read : String → m (Except FileError String))

/-- Loads a data file. -/
def loadFile {α : Type} (ofYaml : String → Except Yaml.Fault α) (path : String) :
    m (Except DataError α) := do
  match ← read path with
  | .error source => return .error (.file path source)
  | .ok s =>
    match ofYaml s with
    | .error source => return .error (.yaml path source)
    | .ok a => return .ok a

/-- Loads a rule set. -/
def loadRuleSet (path : String) : m (Except DataError RuleSet) :=
  loadFile read RuleSet.ofYaml path

/-- Loads the registry of a catalog. -/
def loadRegistry (path : String) : m (Except DataError Registry) := do
  return (← loadFile read Catalog.ofYaml path).map Registry.ofCatalog

end Loading

namespace CommandLine

/-- A command. -/
inductive Command where
  /-- Reads values and prints their canonical form. -/
  | decode
  /-- Validates a rule file. -/
  | validate
  /-- Prints what an entity gives. -/
  | grant
deriving DecidableEq, Repr

/-- The command with the given name. -/
def Command.ofName? : String → Option Command
  | "decode" => some .decode
  | "validate" => some .validate
  | "grant" => some .grant
  | _ => none

/-- What a run prints, and its exit code. -/
structure Output where
  /-- The exit code. -/
  exitCode : Nat := 0
  /-- The lines of the standard output. -/
  out : List String := []
  /-- The lines of the standard error output. -/
  err : List String := []
deriving DecidableEq, Repr

/-- The text of the given lines. -/
def Output.text (lines : List String) : String :=
  "".intercalate (lines.map (· ++ "\n"))

/-- The output of a run that was called in the wrong way. -/
def usage (s : String) : Output where
  exitCode := 2
  err := ["usage: autoprof " ++ s]

/-- The output of a run that failed. -/
def failure (s : String) : Output where
  exitCode := 1
  err := [s]

/-- The catalog that is used when no other is given. -/
def defaultCatalog : String := "data/catalog.yaml"

/-- The line for a diagnostic. -/
def diagnosticLine (d : Diagnostic) : String :=
  "- " ++ d.line

/-- The output for the report on the rule file at `path`. -/
def validateOutput (path : String) (report : Report) : Output :=
  let lines := report.diagnostics.map diagnosticLine
  if report.hasErrors then
    { exitCode := 1
      err := ("validation failed: " ++ toString report.errorCount ++ " error(s)") :: lines }
  else { out := ["validation passed: " ++ path], err := lines }

section Printing

variable (print : List (String × Json.Value) → String)

/-- Reads values and prints them in canonical form. -/
def decode (values : List String) : Output :=
  if values.isEmpty then usage "decode <value>..."
  else
    match LoadContext.decodeAll {} .shieldProf { key := "cli" } values with
    | (_, .error e) => failure ("decode failed: " ++ e.message)
    | (ctx, .ok entity) =>
      match ctx.encode .shieldProf entity with
      | .error e => failure ("encode failed: " ++ e.message)
      | .ok values =>
        let fields := [("token", .text Token.shieldProf.fullName), ("values", .list values)]
        { out := [print fields] }

/-- Prints what the entity with the given key gives, with the capabilities chosen by name. -/
def grantOutput (rules : RuleSet) (registry : Registry) (key : String) (choices : List String) :
    Output :=
  let (ctx, entities) := rules.compile {}
  let lines := ctx.report.diagnostics.map diagnosticLine
  match RuleSet.findEntity? entities key with
  | none =>
    { exitCode := 1, err := lines ++ ["grant failed: unknown entity '" ++ key ++ "'"] }
  | some e =>
    match e.recipient .shieldProf (ctx.refs.bind registry) registry choices with
    | .error ref =>
      { exitCode := 1, err := lines ++ ["grant failed: " ++ (EncodeError.unknownRef ref).message] }
    | .ok c =>
      let names := c.capabilityIds.filterMap registry.name?
      { out := [print [("entity", .text e.key), ("granted", .list names)]]
        err := lines }

end Printing

section Running

variable {m : Type → Type} [Monad m] (read : String → m (Except FileError String))

/-- Validates the rule file at `path`, with the names checked against a catalog if one is given. -/
def validate (path : String) (catalog : Option String) : m Output := do
  match ← loadRuleSet read path with
  | .error e => return failure ("validation failed: " ++ e.message)
  | .ok rules =>
    match catalog with
    | none => return validateOutput path (rules.validate none)
    | some catalog =>
      match ← loadRegistry read catalog with
      | .error e => return failure ("validation failed: " ++ e.message)
      | .ok registry => return validateOutput path (rules.validate (some registry))

/-- Prints what an entity of the rule file at `path` gives. -/
def grant (print : List (String × Json.Value) → String) (path catalog key : String)
    (choices : List String) : m Output := do
  match ← loadRuleSet read path with
  | .error e => return failure ("grant failed: " ++ e.message)
  | .ok rules =>
    match ← loadRegistry read catalog with
    | .error e => return failure ("grant failed: " ++ e.message)
    | .ok registry => return grantOutput print rules registry key choices

/-- Runs the command that the arguments name. The environment may name a catalog. Results are printed
as JSON unless another printer is given. -/
def run (environmentCatalog : Option String) (args : List String)
    (print : List (String × Json.Value) → String := Json.printObject) : m Output := do
  match args.head?.bind Command.ofName?, args.tail with
  | none, _ => return usage "<decode|validate|grant>"
  | some .decode, values => return decode print values
  | some .validate, path :: l => validate read path (l.head?.or environmentCatalog)
  | some .validate, [] => return usage "validate <rules.yaml> [catalog.yaml]"
  | some .grant, path :: key :: choices =>
    grant read print path (environmentCatalog.getD defaultCatalog) key choices
  | some .grant, _ => return usage "grant <rules.yaml> <entity-key> [choice]..."

end Running

end CommandLine

end GrantList
