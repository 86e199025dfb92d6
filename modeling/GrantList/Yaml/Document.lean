import GrantList.Yaml.Lexeme.Stream
import GrantList.Yaml.Node

/-!
# From lexemes to documents

The grammar of documents. A text holds at most one document here, which may be preceded by
directives. A node is an alias, or a scalar or collection that may have an anchor and a tag; where a
node may be missing, an empty plain scalar takes its place.

The number of an anchor is the number of distinct names given before it. A name that is given again
keeps its place among the names and takes a new number, which need not be unused.
-/

namespace GrantList.Yaml

/-- The state of reading a document. -/
structure Composition where
  /-- The lexemes that follow. -/
  rest : List Lexeme
  /-- What the tag handles stand for. -/
  handles : List (String × String) := []
  /-- The numbers of the anchors, by name. -/
  names : List (String × Nat) := []
  /-- The part of the document that was read. -/
  document : Document := {}

/-- Reading of a document. -/
abbrev ComposeM := StateT Composition (Except Fault)

namespace ComposeM

/-- The next lexeme, unless the text ends here. -/
def peek : ComposeM (Option Lexeme) :=
  return (← get).rest.head?

/-- Passes a lexeme. -/
def next : ComposeM Unit :=
  modify fun s => { s with rest := s.rest.tail }

/-- Whether one of the given lexemes comes next. -/
def comes (l : List Lexeme) : ComposeM Bool :=
  return (← peek).any l.contains

/-- Counts a scalar, an alias or an end of a collection. The result is its place. -/
def count : ComposeM Nat := do
  let s ← get
  set { s with document := { s.document with size := s.document.size + 1 } }
  return s.document.size

/-- Counts the beginning of a node, which gets the anchor. -/
def begin (anchor : Option String) : ComposeM Nat := do
  let place ← count
  match anchor with
  | none => return place
  | some name =>
    modify fun s =>
      let number := s.names.length
      { s with
        names := (name, number) :: s.names.filter (·.1 != name)
        document := { s.document with places := (number, place) :: s.document.places } }
    return place

/-- Keeps a node that has an anchor, by its place. -/
def keep (anchor : Option String) (place : Nat) (node : Node) : ComposeM Node := do
  if anchor.isSome then
    modify fun s =>
      { s with document := { s.document with anchored := (place, node) :: s.document.anchored } }
  return node

/-- A scalar that takes the place of a missing node. -/
def emptyScalar : ComposeM Node := do
  let _ ← count
  return .scalar "" true none

/-- Reads the anchor and the tag before a node, in either order. -/
def properties : ComposeM (Option String × Option (String × String)) := do
  match ← peek with
  | some (.anchor name) =>
    next
    match ← peek with
    | some (.tag handle suffix) =>
      next
      return (some name, some (handle, suffix))
    | _ => return (some name, none)
  | some (.tag handle suffix) =>
    next
    match ← peek with
    | some (.anchor name) =>
      next
      return (some name, some (handle, suffix))
    | _ => return (none, some (handle, suffix))
  | _ => return (none, none)

/-- The tag in full. -/
def fullTag : Option (String × String) → ComposeM (Option String)
  | none => return none
  | some (handle, suffix) => do
    if handle.isEmpty then return some suffix
    match (← get).handles.lookup handle with
    | some start => return some (start ++ suffix)
    | none => throw .unknownHandle

/-- The node for an alias. -/
def aliasNode (name : String) : ComposeM Node := do
  let _ ← count
  match (← get).names.lookup name with
  | some number => return .alias number
  | none => throw .unknownAnchor

/-- Passes the mark between entries of a flow collection, which the first entry does not need. -/
def separator (first : Bool) : ComposeM Unit := do
  if !first then
    if ← comes [.flowEntry] then next else throw .missingComma

/-- The node that has properties and nothing else. -/
def emptyNode (anchor tag : Option String) : ComposeM Node := do
  if anchor.isNone && tag.isNone then throw .missingNode
  let place ← begin anchor
  keep anchor place (.scalar "" true tag)

mutual

/-- Reads a node. Block collections are allowed only within `block`, and entries of a sequence
without its start only where `indentless`. -/
def node (block indentless : Bool) : Nat → ComposeM Node
  | 0 => throw .missingNode
  | depth + 1 => do
    if let some (.alias name) ← peek then
      next
      return ← aliasNode name
    let (anchor, tag) ← properties
    let tag ← fullTag tag
    match ← peek with
    | some .blockEntry =>
      if indentless then
        let place ← begin anchor
        keep anchor place (.sequence (← indentlessItems depth))
      else emptyNode anchor tag
    | some (.scalar text plain) =>
      next
      let place ← begin anchor
      keep anchor place (.scalar text plain tag)
    | some .flowSequenceStart =>
      next
      let place ← begin anchor
      keep anchor place (.sequence (← flowItems true depth))
    | some .flowMappingStart =>
      next
      let place ← begin anchor
      keep anchor place (.mapping (← flowEntries true depth))
    | some .blockSequenceStart =>
      if block then
        next
        let place ← begin anchor
        keep anchor place (.sequence (← blockItems depth))
      else emptyNode anchor tag
    | some .blockMappingStart =>
      if block then
        next
        let place ← begin anchor
        keep anchor place (.mapping (← blockEntries depth))
      else emptyNode anchor tag
    | _ => emptyNode anchor tag

/-- Reads a node, or takes an empty one if one of the given lexemes comes. -/
def nodeUnless (stops : List Lexeme) (block indentless : Bool) : Nat → ComposeM Node
  | 0 => throw .missingNode
  | depth + 1 => do
    if ← comes stops then emptyScalar else node block indentless depth

/-- Reads the entries of a block sequence up to its end. -/
def blockItems : Nat → ComposeM (List Node)
  | 0 => throw .missingNode
  | depth + 1 => do
    match ← peek with
    | some .blockEntry =>
      next
      let item ← nodeUnless [.blockEntry, .blockEnd] true false depth
      return item :: (← blockItems depth)
    | some .blockEnd =>
      next
      let _ ← count
      return []
    | _ => throw .missingDash

/-- Reads the entries of a block sequence that stands at the column of the mapping around it. -/
def indentlessItems : Nat → ComposeM (List Node)
  | 0 => throw .missingNode
  | depth + 1 => do
    if ← comes [.blockEntry] then
      next
      let item ← nodeUnless [.blockEntry, .key, .value, .blockEnd] true false depth
      return item :: (← indentlessItems depth)
    else
      let _ ← count
      return []

/-- Reads the entries of a block mapping up to its end. -/
def blockEntries : Nat → ComposeM (List (Node × Node))
  | 0 => throw .missingNode
  | depth + 1 => do
    match ← peek with
    | some .key =>
      next
      let k ← nodeUnless [.key, .value, .blockEnd] true true depth
      let v ← valueOf [.key, .value, .blockEnd] true depth
      return (k, v) :: (← blockEntries depth)
    | some .blockEnd =>
      next
      let _ ← count
      return []
    | _ => throw .missingKey

/-- Reads the value of a key, which may be missing. -/
def valueOf (stops : List Lexeme) (block : Bool) : Nat → ComposeM Node
  | 0 => throw .missingNode
  | depth + 1 => do
    if ← comes [.value] then
      next
      nodeUnless stops block block depth
    else emptyScalar

/-- Reads the entries of a flow sequence up to its end. An entry may be a mapping of one key. -/
def flowItems (first : Bool) : Nat → ComposeM (List Node)
  | 0 => throw .missingNode
  | depth + 1 => do
    if !(← comes [.flowSequenceEnd]) then separator first
    match ← peek with
    | some .flowSequenceEnd =>
      next
      let _ ← count
      return []
    | some .key =>
      next
      let _ ← count
      let k ←
        if ← comes [.value, .flowEntry, .flowSequenceEnd] then
          -- the mark after a missing key counts as read
          next
          emptyScalar
        else node false false depth
      let v ← valueOf [.flowEntry, .flowSequenceEnd] false depth
      let _ ← count
      return .mapping [(k, v)] :: (← flowItems false depth)
    | _ =>
      let item ← node false false depth
      return item :: (← flowItems false depth)

/-- Reads the entries of a flow mapping up to its end. An entry may be a key alone. -/
def flowEntries (first : Bool) : Nat → ComposeM (List (Node × Node))
  | 0 => throw .missingNode
  | depth + 1 => do
    if !(← comes [.flowMappingEnd]) then separator first
    match ← peek with
    | some .flowMappingEnd =>
      next
      let _ ← count
      return []
    | some .key =>
      next
      let k ← nodeUnless [.value, .flowEntry, .flowMappingEnd] false false depth
      let v ← valueOf [.flowEntry, .flowMappingEnd] false depth
      return (k, v) :: (← flowEntries false depth)
    | _ =>
      let k ← node false false depth
      let v ← emptyScalar
      return (k, v) :: (← flowEntries false depth)

end

/-- Reads the directives before a document, `version` telling whether one for the version came
before. -/
def directives (version : Bool) : List Lexeme → Except Fault (List (String × String))
  | .versionDirective major minor :: l => do
    if version then throw .duplicateDirective
    if major != 1 || (minor != 1 && minor != 2) then throw .unsupportedVersion
    directives true l
  | .tagDirective handle start :: l => do
    let handles ← directives version l
    if (handles.lookup handle).isSome then throw .duplicateDirective
    return (handle, start) :: handles
  | _ => return []

/-- The handles that need no directive. -/
def defaultHandles : List (String × String) :=
  [("!", "!"), ("!!", "tag:yaml.org,2002:")]

/-- Whether a lexeme is a directive. -/
def isDirective : Lexeme → Bool
  | .versionDirective .. => true
  | .tagDirective .. => true
  | _ => false

/-- Reads the one document of a text that is not empty. -/
def document (depth : Nat) : ComposeM Unit := do
  let start := (← get).rest
  let root ←
    if start.head?.any fun x => isDirective x || x == .documentStart then do
      let handles ← directives false start
      modify fun s => { s with handles := handles ++ defaultHandles }
      match start.dropWhile isDirective with
      | .documentStart :: l =>
        modify fun s => { s with rest := l }
        match l with
        | [] => emptyScalar
        | x :: _ =>
          if isDirective x || x == .documentStart || x == .documentEnd then emptyScalar
          else node true false depth
      | _ => throw .missingDocumentStart
    else do
      modify fun s => { s with handles := defaultHandles }
      node true false depth
  match (← get).rest.dropWhile (· == .documentEnd) with
  | [] => modify fun s => { s with document := { s.document with root := some root } }
  | x :: _ =>
    if isDirective x || x == .documentStart then throw .severalDocuments
    else throw .missingDocumentStart

end ComposeM

/-- The document that a list of lexemes makes up. Its nesting is bounded by the number of its
lexemes. -/
def Document.ofLexemes : List Lexeme → Except Fault Document
  | [] => .ok {}
  | l => do
    let (_, s) ← (ComposeM.document (4 * l.length + 8)).run { rest := l }
    return s.document

/-- The document that a text holds. -/
def Document.ofText (s : String) : Except Fault Document := do
  Document.ofLexemes (← lexemes s)

end GrantList.Yaml
