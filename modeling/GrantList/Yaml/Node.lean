import GrantList.Yaml.Error

/-!
# Documents

A document is a tree of nodes. A node may have been anchored, and an alias stands for the node that
the anchor was given to; it is followed only when it is read, so a node may even contain an alias of
itself.
-/

namespace GrantList.Yaml

/-- A node of a document. -/
inductive Node where
  /-- The node with an anchor, which is known by its number. -/
  | alias (anchor : Nat)
  /-- A text, which may be plain and may have a tag. -/
  | scalar (text : String) (plain : Bool) (tag : Option String)
  /-- A list of nodes. -/
  | sequence (items : List Node)
  /-- A list of keys with their values. -/
  | mapping (entries : List (Node × Node))

/-- A document. -/
structure Document where
  /-- The node that holds all others. There is none in an empty text. -/
  root : Option Node := none
  /-- The number of scalars, aliases and ends of collections. -/
  size : Nat := 0
  /-- The places at which anchors were given, by the number of the anchor, the last one first. -/
  places : List (Nat × Nat) := []
  /-- The anchored nodes, by place. -/
  anchored : List (Nat × Node) := []

/-- The node that the anchor with number `anchor` was last given to. -/
def Document.anchored? (d : Document) (anchor : Nat) : Option Node :=
  (d.places.lookup anchor).bind fun place => d.anchored.lookup place

end GrantList.Yaml
