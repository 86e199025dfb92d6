/-!
# Lexemes

The lexemes of a YAML text: the marks of documents, directives, the starts and ends of collections,
the marks of entries, keys and values, the properties of nodes, and scalars. Where a block
collection starts or ends follows from the indentation, so these lexemes stand for no characters.
-/

namespace GrantList.Yaml

/-- A lexeme of a YAML text. -/
inductive Lexeme where
  /-- The directive that names the version of the language. -/
  | versionDirective (major minor : Nat)
  /-- The directive that declares what a tag handle stands for. -/
  | tagDirective (handle start : String)
  /-- The mark that starts a document. -/
  | documentStart
  /-- The mark that ends a document. -/
  | documentEnd
  /-- The start of a sequence by indentation. -/
  | blockSequenceStart
  /-- The start of a mapping by indentation. -/
  | blockMappingStart
  /-- The end of a collection by indentation. -/
  | blockEnd
  /-- The opening bracket of a sequence. -/
  | flowSequenceStart
  /-- The closing bracket of a sequence. -/
  | flowSequenceEnd
  /-- The opening brace of a mapping. -/
  | flowMappingStart
  /-- The closing brace of a mapping. -/
  | flowMappingEnd
  /-- The mark of an entry of a block sequence. -/
  | blockEntry
  /-- The mark between the entries of a flow collection. -/
  | flowEntry
  /-- The mark of a key, written or implied. -/
  | key
  /-- The mark of a value. -/
  | value
  /-- A reference to an anchored node. -/
  | alias (name : String)
  /-- The name given to the node that follows. -/
  | anchor (name : String)
  /-- The tag of the node that follows. -/
  | tag (handle suffix : String)
  /-- A scalar, which is plain or in quotes or a block. -/
  | scalar (text : String) (plain : Bool)
deriving DecidableEq, Repr

end GrantList.Yaml
