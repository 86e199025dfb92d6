import GrantList.Text.Blank
import GrantList.Text.LowerCase

/-!
# Keys of names

Two names mean the same when they agree after trimming and lower-casing. `nameKey` is that common
form.
-/

namespace GrantList

/-- The name without blanks at its ends and in lower case. -/
def nameKey (name : String) : String :=
  Text.lowerCase (Text.trim name)

end GrantList
