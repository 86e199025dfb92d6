import GrantList.Proofs.Reference.Denotation

/-!
# The history of a table

While data is loaded, a table is used again and again: everything of a category, names and type
expressions are entered, and now and then all references are bound (`ReferenceTable.Use`). In every
such history a reference stands for one meaning. Which meaning a use has can be told from its texts
alone (`ReferenceTable.Use.SameMeaning`).

Two uses get the same reference exactly when they mean the same
(`ReferenceTable.Gave.eq_iff_sameMeaning`), references are numbered one after the other, and what a
reference leads to never changes.
-/

namespace GrantList

namespace ReferenceTable

/-- A use of a table. -/
inductive Use where
  /-- Everything of a category is entered. -/
  | everything (category : Category)
  /-- A name is entered. -/
  | name (category : Category) (text : String)
  /-- A dotted type expression is entered, with the type that it implies. -/
  | types (category : Category) (base expr : String)
  /-- All references are bound to what they denote in a registry. -/
  | bind (registry : Registry)

/-- The table after a use, and the reference that the use gives. A type expression with an empty
part gives none, and nor does binding. -/
def use (t : ReferenceTable) : Use → ReferenceTable × Option Ref
  | .everything c => ((t.intern (.allOf c)).1, some (t.intern (.allOf c)).2)
  | .name c text => ((t.intern (.ofName c text)).1, some (t.intern (.ofName c text)).2)
  | .types c base expr =>
    match t.internTypes? c base expr with
    | some (t, r) => (t, some r)
    | none => (t, none)
  | .bind registry => (t.bind registry, none)

/-- The table after uses, one after the other. -/
def after (t : ReferenceTable) (uses : List Use) : ReferenceTable :=
  uses.foldl (fun t u => (t.use u).1) t

/-- The table before the use with number `i`, if it held nothing before the first one. -/
def tableAt (uses : List Use) (i : Nat) : ReferenceTable :=
  ({} : ReferenceTable).after (uses.take i)

/-- The use with number `i` is `u`, and it gave the reference `r`. -/
def Gave (uses : List Use) (i : Nat) (u : Use) (r : Ref) : Prop :=
  uses[i]? = some u ∧ ((tableAt uses i).use u).2 = some r

/-- Both uses enter the same: everything of one category, names of one category with the same key,
or type expressions of one category. Of type expressions the implied types must agree, and the sets
of the parts, both without regard to letter case. -/
inductive Use.SameMeaning : Use → Use → Prop
  /-- Everything of a category. -/
  | everything (c : Category) : SameMeaning (.everything c) (.everything c)
  /-- Names with the same key. -/
  | name {c : Category} {text text' : String} (hkey : nameKey text = nameKey text') :
    SameMeaning (.name c text) (.name c text')
  /-- Type expressions with the same types. -/
  | types {c : Category} {base base' expr expr' : String} (hbase : Text.SameAscii base base')
    (hparts : Text.asciiLower '' {part | part ∈ Text.split '.' expr} =
      Text.asciiLower '' {part | part ∈ Text.split '.' expr'}) :
    SameMeaning (.types c base expr) (.types c base' expr')

/-! ### The target of a use -/

/-- The target that a use enters. -/
def Use.target? : Use → Option Target
  | .everything c => some (.allOf c)
  | .name c text => some (.ofName c text)
  | .types c base expr => Target.ofTypes? c base expr
  | .bind _ => none

variable {t : ReferenceTable} {u u' : Use} {uses : List Use} {T T' : Target} {r r' : Ref}
  {i j : Nat}

theorem use_of_target? (t : ReferenceTable) (h : u.target? = some T) :
    t.use u = ((t.intern T).1, some (t.intern T).2) := by
  cases u with
  | everything c =>
    cases h
    rfl
  | name c text =>
    cases h
    rfl
  | types c base expr =>
    rw [Use.target?] at h
    rw [use, internTypes?, h]
    rfl
  | bind registry => cases h

theorem use_of_target?_eq_none (t : ReferenceTable) (h : u.target? = none) :
    (t.use u).2 = none ∧ (t.use u).1.targets = t.targets := by
  cases u with
  | everything c => cases h
  | name c text => cases h
  | types c base expr =>
    rw [Use.target?] at h
    rw [use, internTypes?, h]
    exact ⟨rfl, rfl⟩
  | bind registry => exact ⟨rfl, targets_bind t registry⟩

theorem folded_ofName_eq_iff {c c' : Category} {text text' : String} :
    (Target.ofName c text).folded = (Target.ofName c' text').folded ↔
      c = c' ∧ nameKey text = nameKey text' := by
  rw [Target.ofName, Target.ofName, Target.folded, Target.folded, Target.named.injEq,
    nameKey_trim, nameKey_trim]

/-- Two uses mean the same exactly when their targets do. -/
theorem Use.sameMeaning_iff_folded_eq (h : u.target? = some T) (h' : u'.target? = some T') :
    u.SameMeaning u' ↔ T.folded = T'.folded := by
  constructor
  · intro hsame
    cases hsame with
    | everything c => rw [Option.some_inj.mp (h.symm.trans h')]
    | name hkey =>
      obtain rfl := Option.some_inj.mp h
      obtain rfl := Option.some_inj.mp h'
      exact folded_ofName_eq_iff.mpr ⟨rfl, hkey⟩
    | types hbase hparts => exact (Target.folded_eq_iff_of_ofTypes? h h').mpr ⟨rfl, hbase, hparts⟩
  · intro hfold
    cases u with
    | everything c =>
      obtain rfl := Option.some_inj.mp h
      cases u' with
      | everything c' =>
        obtain rfl := Option.some_inj.mp h'
        rw [Target.allOf.inj hfold]
        exact .everything c'
      | name c' text' =>
        obtain rfl := Option.some_inj.mp h'
        cases hfold
      | types c' base' expr' =>
        obtain ⟨-, rfl⟩ := Target.ofTypes?_eq_some_iff.mp h'
        cases hfold
      | bind registry => cases h'
    | name c text =>
      obtain rfl := Option.some_inj.mp h
      cases u' with
      | everything c' =>
        obtain rfl := Option.some_inj.mp h'
        cases hfold
      | name c' text' =>
        obtain rfl := Option.some_inj.mp h'
        obtain ⟨rfl, hkey⟩ := folded_ofName_eq_iff.mp hfold
        exact .name hkey
      | types c' base' expr' =>
        obtain ⟨-, rfl⟩ := Target.ofTypes?_eq_some_iff.mp h'
        cases hfold
      | bind registry => cases h'
    | types c base expr =>
      cases u' with
      | types c' base' expr' =>
        obtain ⟨rfl, hbase, hparts⟩ := (Target.folded_eq_iff_of_ofTypes? h h').mp hfold
        exact .types hbase hparts
      | everything c' =>
        obtain ⟨-, rfl⟩ := Target.ofTypes?_eq_some_iff.mp h
        obtain rfl := Option.some_inj.mp h'
        cases hfold
      | name c' text' =>
        obtain ⟨-, rfl⟩ := Target.ofTypes?_eq_some_iff.mp h
        obtain rfl := Option.some_inj.mp h'
        cases hfold
      | bind registry => cases h'
    | bind registry => cases h

/-! ### One use -/

theorem extends_use (t : ReferenceTable) (u : Use) : t.Extends (t.use u).1 := by
  cases h : u.target? with
  | some T =>
    rw [use_of_target? t h]
    exact t.extends_intern T
  | none => exact .of_targets_eq (use_of_target?_eq_none t h).2

/-- A use gives the reference at which its target is found afterwards. -/
theorem exists_target_of_use (h : (t.use u).2 = some r) :
    ∃ T, u.target? = some T ∧ (t.use u).1.find? T = some r := by
  cases hT : u.target? with
  | some T =>
    rw [use_of_target? t hT, Option.some_inj] at h
    exact ⟨T, rfl, by rw [use_of_target? t hT, find?_intern, h]⟩
  | none =>
    rw [(use_of_target?_eq_none t hT).1] at h
    cases h

/-- A use gives a reference that was there, or else the next number. -/
theorem use_old_or_new (h : (t.use u).2 = some r) :
    r < t.size ∧ (t.use u).1 = t ∨ r = t.size ∧ (t.use u).1.size = t.size + 1 := by
  obtain ⟨T, hT, -⟩ := exists_target_of_use h
  rw [use_of_target? t hT, Option.some_inj] at h
  rw [use_of_target? t hT]
  cases hfind : t.find? T with
  | some r' =>
    rw [intern, hfind] at h ⊢
    obtain rfl := h
    obtain ⟨_, hr, -⟩ := target?_of_find? hfind
    exact Or.inl ⟨lt_size_of_target? hr, rfl⟩
  | none =>
    rw [intern, hfind] at h ⊢
    obtain rfl := h
    exact Or.inr ⟨rfl, by simp [size]⟩

/-- A type expression is refused exactly when one of its parts is empty. The table is then left as
it was. -/
theorem use_types_eq_iff (t : ReferenceTable) (c : Category) (base expr : String) :
    ((t.use (.types c base expr)).2 = none ↔ "" ∈ Text.split '.' expr) ∧
      ("" ∈ Text.split '.' expr → (t.use (.types c base expr)).1 = t) := by
  rw [← Target.ofTypes?_eq_none_iff c base, use, internTypes?]
  cases Target.ofTypes? c base expr <;> simp

/-! ### Many uses -/

theorem extends_after (t : ReferenceTable) (uses : List Use) : t.Extends (t.after uses) := by
  induction uses generalizing t with
  | nil => exact .refl t
  | cons u uses ih => exact (t.extends_use u).trans (ih _)

theorem extends_tableAt (uses : List Use) (h : i ≤ j) :
    (tableAt uses i).Extends (tableAt uses j) := by
  obtain ⟨between, hbetween⟩ := List.take_prefix_take_left (l := uses) h
  rw [tableAt, tableAt, ← hbetween, after, after, List.foldl_append]
  exact extends_after _ between

theorem tableAt_succ (h : uses[i]? = some u) :
    tableAt uses (i + 1) = ((tableAt uses i).use u).1 := by
  rw [tableAt, tableAt, List.take_add_one, h, after, after, List.foldl_append]
  rfl

/-- The target of a use is found at the reference that was given in every later table. -/
theorem Gave.exists_target (h : Gave uses i u r) :
    ∃ T, u.target? = some T ∧ ∀ j, i < j → (tableAt uses j).find? T = some r := by
  obtain ⟨hu, hr⟩ := h
  obtain ⟨T, hT, hfind⟩ := exists_target_of_use hr
  refine ⟨T, hT, fun j hj => ?_⟩
  rw [← tableAt_succ hu] at hfind
  exact (extends_tableAt uses hj).find? hfind

/-- Uses get the same reference exactly when they mean the same. -/
theorem Gave.eq_iff_sameMeaning (h : Gave uses i u r) (h' : Gave uses j u' r') :
    r = r' ↔ u.SameMeaning u' := by
  obtain ⟨T, hT, hfind⟩ := h.exists_target
  obtain ⟨T', hT', hfind'⟩ := h'.exists_target
  have hlast := hfind (max i j + 1) (Nat.lt_succ_of_le (Nat.le_max_left i j))
  have hlast' := hfind' (max i j + 1) (Nat.lt_succ_of_le (Nat.le_max_right i j))
  rw [Use.sameMeaning_iff_folded_eq hT hT']
  constructor
  · rintro rfl
    -- the table has one target at this place, which means what both uses mean
    obtain ⟨T₁, hr, hfold⟩ := target?_of_find? hlast
    obtain ⟨T₂, hr', hfold'⟩ := target?_of_find? hlast'
    obtain rfl := Option.some_inj.mp (hr.symm.trans hr')
    exact hfold.symm.trans hfold'
  · intro hfold
    rw [find?_congr hfold, hlast'] at hlast
    exact (Option.some_inj.mp hlast).symm

end ReferenceTable

end GrantList
