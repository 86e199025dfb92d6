/-!
# Sets of code points

A `CodeRanges` is a set of characters given by closed ranges of code points, the form in which the
tables of character properties are written. A character belongs to the set when its code point lies
in one of the ranges.
-/

namespace GrantList

/-- A set of characters, given by closed ranges of code points. -/
structure CodeRanges where
  /-- The least and the greatest code point of each range. -/
  ranges : List (Nat × Nat)
deriving DecidableEq, Repr

namespace CodeRanges

instance : Membership Char CodeRanges where
  mem s c := ∃ r ∈ s.ranges, r.1 ≤ c.toNat ∧ c.toNat ≤ r.2

instance (c : Char) (s : CodeRanges) : Decidable (c ∈ s) :=
  inferInstanceAs (Decidable (∃ r ∈ s.ranges, r.1 ≤ c.toNat ∧ c.toNat ≤ r.2))

theorem mem_iff {c : Char} {s : CodeRanges} :
    c ∈ s ↔ ∃ r ∈ s.ranges, r.1 ≤ c.toNat ∧ c.toNat ≤ r.2 :=
  Iff.rfl

end CodeRanges

end GrantList
