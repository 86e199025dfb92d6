import GrantList.Yaml.Document

/-!
# Reading values from documents

A document is read for values of a known shape. Where text is expected every scalar will do, with or
without quotes, and counts as it is written. A list or a record that is left empty is one without
entries. Fields that are not known are passed over, but a known one may not come twice.

Aliases are followed wherever they are met. As they may repeat a part of the document many times
over, at most a hundred of them are followed for each part of the document.
-/

namespace GrantList.Yaml

/-- Reading from a document, with a count of the aliases followed. -/
abbrev ReadM := ReaderT Document (StateT Nat (Except Fault))

namespace Node

/-- The node that an alias stands for. -/
def follow (node : Node) : ReadM Node := do
  match node with
  | .alias anchor =>
    let d ← read
    modify (· + 1)
    if (← get) > 100 * d.size then throw .tooManyAliases
    match d.anchored? anchor with
    | some target => return target
    | none => throw .unknownAnchor
  | node => return node

/-- Whether the node is a plain scalar without text. -/
def isEmptyPlain : Node → Bool
  | .scalar "" true _ => true
  | _ => false

/-- Whether a plain text stands for nothing. -/
def isNullText (s : String) : Bool :=
  s == "null" || s == "Null" || s == "NULL" || s == "~"

/-- Reads text. -/
def text (node : Node) : ReadM String := do
  match ← node.follow with
  | .scalar s _ _ => return s
  | _ => throw .expectedText

/-- Reads text that may be left out. -/
def text? (node : Node) : ReadM (Option String) := do
  match ← node.follow with
  | .scalar s true (some tag) =>
    if tag != "tag:yaml.org,2002:null" then return some s
    else if isNullText s then return none
    else throw .expectedNull
  | .scalar s true none => return if s.isEmpty || isNullText s then none else some s
  | .scalar s false _ => return some s
  | _ => throw .expectedText

/-- Reads a list. -/
def list {α : Type} (item : Node → ReadM α) (node : Node) : ReadM (List α) := do
  let node ← node.follow
  if node.isEmptyPlain then return []
  match node with
  | .sequence items => items.mapM item
  | _ => throw .expectedList

/-- Keeps a field, unless it came before. -/
def addField (known : List String) (fields : List (String × Node)) (name : String)
    (value : Node) : ReadM (List (String × Node)) := do
  if name ∉ known then return fields
  if (fields.lookup name).isSome then throw (.duplicateField name)
  return fields ++ [(name, value)]

/-- Reads the fields of a record, which have the known names. -/
def fields (known : List String) (node : Node) : ReadM (List (String × Node)) := do
  let node ← node.follow
  if node.isEmptyPlain then return []
  match node with
  | .mapping entries =>
    entries.foldlM (fun l (k, v) => do addField known l (← k.text) v) []
  | _ => throw .expectedRecord

end Node

/-- Reads a field that must be given. -/
def field {α : Type} (name : String) (value : Node → ReadM α) (l : List (String × Node)) :
    ReadM α :=
  match l.lookup name with
  | some node => value node
  | none => throw (.missingField name)

/-- Reads a field that may be left out. -/
def fieldD {α : Type} (name : String) (value : Node → ReadM α) (default : α)
    (l : List (String × Node)) : ReadM α :=
  match l.lookup name with
  | some node => value node
  | none => return default

/-- Reads the value that a document holds. An empty text has no node, and the value is then that of
an empty record. -/
def readText {α : Type} (s : String) (value : Node → ReadM α) : Except Fault α := do
  let d ← Document.ofText s
  let (a, _) ← ((value (d.root.getD (.scalar "" true none))).run d).run 0
  return a

end GrantList.Yaml
