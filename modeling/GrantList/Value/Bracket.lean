/-!
# The bracket at the end of a value

A value may end with a condition in brackets. The first opening bracket begins the condition and
the value must then end with a closing one; whatever stands between the two, further brackets
included, is the text of the condition.
-/

namespace GrantList.Value

/-- The characters before the first opening bracket, and those between it and a closing bracket at
the very end if there is an opening one. There is no result if that closing bracket is missing. -/
def cutBracket? (l : List Char) : Option (List Char × Option (List Char)) :=
  let payload := l.takeWhile (· ≠ '[')
  match l.dropWhile (· ≠ '[') with
  | [] => some (payload, none)
  | _ :: rest =>
    if rest.getLast? = some ']' then some (payload, some rest.dropLast) else none

/-- The payload of a value and the text of its condition, if it has one. There is no result if a
bracket is opened and the value does not end with a closing one. -/
def splitCondition? (s : String) : Option (String × Option String) :=
  (cutBracket? s.toList).map fun p => (.ofList p.1, p.2.map .ofList)

/-- A payload with the text of a condition after it, in brackets. -/
def withCondition (payload : String) (condition : Option String) : String :=
  match condition with
  | none => payload
  | some text => payload ++ "[" ++ text ++ "]"

end GrantList.Value
