/-!
# Finite sets as increasing lists

Sets of capability ids and of written values are kept as strictly increasing lists, so that a set
has one form and is read out in order. `SortedSet.ofList` collects any list into that form.

Main facts: `mem_ofList` and `pairwise_ofList`, which say that the form has the members of the list
and is strictly increasing.
-/

namespace GrantList.SortedSet

variable {α : Type} [LT α] [DecidableLT α]

/-- Puts `a` into an increasing list at its place, unless it is there already. -/
def insert (a : α) : List α → List α
  | [] => [a]
  | b :: l => if a < b then a :: b :: l else if b < a then b :: insert a l else b :: l

/-- The members of a list, in increasing order and each once. -/
def ofList (l : List α) : List α :=
  l.foldr insert []

/-! ### Members -/

section Members

variable [Std.Trichotomous (α := α) (· < ·)]

theorem mem_insert {x a : α} {l : List α} : x ∈ insert a l ↔ x = a ∨ x ∈ l := by
  induction l with
  | nil => simp [insert]
  | cons b l ih =>
    rw [insert]
    split
    · simp
    · next hab =>
      split
      · simp only [List.mem_cons, ih]
        exact or_left_comm
      · next hba =>
        obtain rfl : a = b := Std.Trichotomous.trichotomous a b hab hba
        simp

theorem mem_ofList {x : α} {l : List α} : x ∈ ofList l ↔ x ∈ l := by
  induction l with
  | nil => simp [ofList]
  | cons a l ih =>
    rw [List.mem_cons, ← ih]
    exact mem_insert

end Members

/-! ### Order -/

section Order

variable [Std.Trichotomous (α := α) (· < ·)] [Trans (α := α) (· < ·) (· < ·) (· < ·)]

theorem pairwise_insert {a : α} {l : List α} (h : l.Pairwise (· < ·)) :
    (insert a l).Pairwise (· < ·) := by
  induction l with
  | nil => simp [insert]
  | cons b l ih =>
    obtain ⟨hb, hl⟩ := List.pairwise_cons.1 h
    rw [insert]
    split
    · next hab =>
      refine List.pairwise_cons.2 ⟨fun x hx => ?_, h⟩
      obtain rfl | hx := List.mem_cons.1 hx
      · exact hab
      · exact Trans.trans hab (hb x hx)
    · split
      · next hba =>
        refine List.pairwise_cons.2 ⟨fun x hx => ?_, ih hl⟩
        obtain rfl | hx := mem_insert.1 hx
        · exact hba
        · exact hb x hx
      · exact h

theorem pairwise_ofList (l : List α) : (ofList l).Pairwise (· < ·) := by
  induction l with
  | nil => simp [ofList]
  | cons a l ih => exact pairwise_insert ih

end Order

end GrantList.SortedSet
