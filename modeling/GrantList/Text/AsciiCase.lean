/-!
# Letter case of ASCII letters

Types, the keyword for everything and the keys of entities are compared without regard to the case
of the letters `A` to `Z`. All other characters, accented letters among them, count as written.
-/

namespace GrantList.Text

/-- The text with the letters `A` to `Z` in lower case and all else as it is. -/
def asciiLower (s : String) : String :=
  s.map Char.toLower

/-- Two texts differ at most in the case of ASCII letters. -/
def SameAscii (s t : String) : Prop :=
  asciiLower s = asciiLower t

instance (s t : String) : Decidable (SameAscii s t) :=
  inferInstanceAs (Decidable (asciiLower s = asciiLower t))

theorem SameAscii.refl (s : String) : SameAscii s s := rfl

theorem SameAscii.symm {s t : String} (h : SameAscii s t) : SameAscii t s := Eq.symm h

theorem SameAscii.trans {s t u : String} (h : SameAscii s t) (h' : SameAscii t u) :
    SameAscii s u :=
  Eq.trans h h'

end GrantList.Text
