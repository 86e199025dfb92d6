/-!
# Misplaced separators

A list of segments joined by a separator has no empty segment. `Value.separatorProblem?` looks for
the places where one would be: nothing at all, a separator at the start or at the end, or two in a
row. The first of these that applies, in this order, is the problem.
-/

namespace GrantList.Value

/-- Why a text is not a list of segments. -/
inductive SeparatorProblem where
  /-- The text is empty. -/
  | empty
  /-- The text begins with the separator. -/
  | leading
  /-- The text ends with the separator. -/
  | trailing
  /-- The text has two separators in a row. -/
  | doubled
deriving DecidableEq, Repr

/-- The problem in words. -/
def SeparatorProblem.describe (sep : Char) : SeparatorProblem → String
  | .empty => "contains no segments"
  | .leading => "may not start with " ++ sep.toString
  | .trailing => "may not end with " ++ sep.toString
  | .doubled => "may not contain " ++ sep.toString ++ sep.toString

/-- Whether `sep` occurs twice in a row. -/
def hasDoubled (sep : Char) : List Char → Bool
  | [] => false
  | [_] => false
  | c :: d :: l => (c == sep && d == sep) || hasDoubled sep (d :: l)

/-- The reason why the text is not a list of segments joined by `sep`, if there is one. -/
def separatorProblem? (sep : Char) (s : String) : Option SeparatorProblem :=
  let l := s.toList
  if l = [] then some .empty
  else if l.head? = some sep then some .leading
  else if l.getLast? = some sep then some .trailing
  else if hasDoubled sep l then some .doubled
  else none

end GrantList.Value
