import GrantList.Text.AsciiCase
import GrantList.Text.Split
import GrantList.Token

/-!
# Segments

The payload of a value is a list of segments. A segment is the marker of a choice list, the marker
of everything, a type group or a name. The choice marker is recognised only in capitals, the marker
of everything in any case, and a type group by the text that introduces it. All of this is decided
on the segment as it stands: blanks around a name are removed only later.
-/

namespace GrantList.Value

/-- The character between segments. -/
def separator : Char := '|'

/-- The segment that leaves the capabilities to be chosen. -/
def choiceMarker : String := "%LIST"

/-- The segment that covers everything, as it is written. -/
def allMarker : String := "ALL"

/-- A segment of a value. -/
inductive Segment where
  /-- A list from which capabilities are chosen later. -/
  | choice
  /-- Everything of the category. -/
  | all
  /-- The objects with the types of a dotted expression. -/
  | typeGroup (expr : String)
  /-- The object with a name. -/
  | name (text : String)
deriving DecidableEq, Repr

/-- What follows the first of the texts `starts` with which `s` begins. -/
def afterAny? (starts : List String) (s : String) : Option String :=
  starts.findSome? fun start => Text.after? start s

namespace Segment

/-- The segment that a text stands for in the values of a token. -/
def ofText (t : Token) (s : String) : Segment :=
  if s = choiceMarker then .choice
  else if Text.SameAscii s allMarker then .all
  else
    match afterAny? t.typeIntros s with
    | some expr => .typeGroup expr
    | none => .name s

end Segment

end GrantList.Value
