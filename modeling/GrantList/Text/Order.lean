import GrantList.Text.AsciiCase
import GrantList.Text.LowerCase

/-!
# Orders that disregard letter case

Names are written in the order of their lower-case forms and types in the order of their ASCII
lower-case forms. Texts with the same form are ordered by code points, so both orders are total and
a sorted list does not depend on the order it came in.
-/

namespace GrantList.Text

/-- Whether `s` stands before `t` or is `t`, in the order of the forms that `form` gives, with the
texts themselves to decide between equal forms. -/
def leBy (form : String → String) (s t : String) : Bool :=
  form s < form t || (form s == form t && s ≤ t)

/-- The texts in the order of their lower-case forms. -/
def sortNames (l : List String) : List String :=
  l.mergeSort (leBy lowerCase)

/-- The texts in the order of their ASCII lower-case forms. -/
def sortTypes (l : List String) : List String :=
  l.mergeSort (leBy asciiLower)

end GrantList.Text
