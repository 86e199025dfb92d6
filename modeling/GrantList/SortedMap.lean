/-!
# Finite maps as increasing lists

A map is kept as the list of its entries with strictly increasing keys, so that a map has one form
and is read out in the order of its keys. All changes of a map are changes at one key
(`SortedMap.alter`).

Main facts: `SortedMap.mem_entries`, that the entries are what is found, `SortedMap.find?_alter`,
what is found after a change, and `SortedMap.ext_find?`, that a map is known by what is found in it.
-/

namespace GrantList

/-- The order is strict and total, as maps need it for their keys. -/
class KeyOrder (κ : Type) [LT κ] : Prop where
  irrefl (k : κ) : ¬ k < k
  trans {k k' k'' : κ} : k < k' → k' < k'' → k < k''
  eq_of_not_lt {k k' : κ} : ¬ k < k' → ¬ k' < k → k = k'

instance : KeyOrder String where
  irrefl := String.lt_irrefl
  trans := String.lt_trans
  eq_of_not_lt := Std.Trichotomous.trichotomous _ _

/-- A finite map. -/
structure SortedMap (κ ν : Type) [LT κ] where
  /-- The keys with their values. -/
  entries : List (κ × ν)
  /-- The keys are strictly increasing. -/
  sorted : entries.Pairwise (·.1 < ·.1)
deriving DecidableEq, Repr

namespace SortedMap

variable {κ ν : Type} [LT κ]

instance : EmptyCollection (SortedMap κ ν) :=
  ⟨⟨[], .nil⟩⟩

/-- The keys, in increasing order. -/
def keys (m : SortedMap κ ν) : List κ :=
  m.entries.map (·.1)

theorem pairwise_keys (m : SortedMap κ ν) : m.keys.Pairwise (· < ·) :=
  List.pairwise_map.mpr m.sorted

variable [KeyOrder κ]

theorem nodup_entries (m : SortedMap κ ν) : m.entries.Nodup := by
  refine m.sorted.imp fun {entry entry'} (hlt : entry.1 < entry'.1) (heq : entry = entry') => ?_
  subst heq
  exact KeyOrder.irrefl entry.1 hlt

variable [DecidableEq κ]

/-- The value at a key. -/
def find? (m : SortedMap κ ν) (k : κ) : Option ν :=
  m.entries.lookup k

section Changes

variable [DecidableLT κ]

/-- Changes the value at a key. What is below the key and what is above it stays, and there is an
entry for the key if there is a value. -/
def alter (m : SortedMap κ ν) (k : κ) (f : Option ν → Option ν) : SortedMap κ ν where
  entries := m.entries.filter (·.1 < k) ++ ((f (m.find? k)).map (k, ·)).toList ++
    m.entries.filter (k < ·.1)
  sorted := by
    have hbelow : ∀ {p : κ × ν → Bool}, (m.entries.filter p).Pairwise (·.1 < ·.1) :=
      fun {p} => m.sorted.sublist List.filter_sublist
    refine List.pairwise_append.mpr ⟨List.pairwise_append.mpr ⟨hbelow, ?_, ?_⟩, hbelow, ?_⟩
    · cases f (m.find? k) <;> simp
    · simp only [List.mem_filter, decide_eq_true_eq, Option.mem_toList, Option.map_eq_some_iff]
      rintro a ⟨-, ha⟩ b ⟨v, -, rfl⟩
      exact ha
    · simp only [List.mem_append, List.mem_filter, decide_eq_true_eq, Option.mem_toList,
        Option.map_eq_some_iff]
      rintro a (⟨-, ha⟩ | ⟨v, -, rfl⟩) b ⟨-, hb⟩
      · exact KeyOrder.trans ha hb
      · exact hb

/-- Puts a value at a key, in place of the one that was there. -/
def insert (m : SortedMap κ ν) (k : κ) (v : ν) : SortedMap κ ν :=
  m.alter k fun _ => some v

/-- Drops a key with its value. -/
def erase (m : SortedMap κ ν) (k : κ) : SortedMap κ ν :=
  m.alter k fun _ => none

end Changes

/-! ### What is found -/

/-- There is one entry for a key with a value, and none for another key. -/
theorem mem_entries {m : SortedMap κ ν} {k : κ} {v : ν} :
    (k, v) ∈ m.entries ↔ m.find? k = some v := by
  obtain ⟨l, h⟩ := m
  change (k, v) ∈ l ↔ l.lookup k = some v
  induction l with
  | nil => simp
  | cons entry l ih =>
    obtain ⟨k', v'⟩ := entry
    obtain ⟨hhead, hl⟩ := List.pairwise_cons.mp h
    rw [List.mem_cons, List.lookup_cons]
    by_cases heq : k = k'
    · subst heq
      have hnot : (k, v) ∉ l := fun hmem => KeyOrder.irrefl k (hhead _ hmem)
      simp [hnot, eq_comm]
    · simp [heq, beq_eq_false_iff_ne.mpr heq, ih hl]

theorem mem_keys {m : SortedMap κ ν} {k : κ} : k ∈ m.keys ↔ ∃ v, m.find? k = some v := by
  simp [keys, ← mem_entries]

/-- Maps in which the same is found are the same. -/
theorem ext_find? {m m' : SortedMap κ ν} (h : ∀ k, m.find? k = m'.find? k) : m = m' := by
  have hperm : m.entries.Perm m'.entries :=
    (List.perm_ext_iff_of_nodup m.nodup_entries m'.nodup_entries).mpr fun (k, v) => by
      rw [mem_entries, mem_entries, h]
  have hentries : m.entries = m'.entries := by
    refine hperm.eq_of_pairwise (fun a b _ _ hlt hgt => ?_) m.sorted m'.sorted
    have hself : a.1 < a.1 := KeyOrder.trans hlt hgt
    exact absurd hself (KeyOrder.irrefl a.1)
  cases m
  cases m'
  cases hentries
  rfl

variable [DecidableLT κ]

/-- A change at a key is found there, and nowhere else. -/
theorem find?_alter (m : SortedMap κ ν) (k : κ) (f : Option ν → Option ν) (k' : κ) :
    (m.alter k f).find? k' = if k = k' then f (m.find? k) else m.find? k' := by
  refine Option.ext fun v => ?_
  rw [← mem_entries]
  simp only [alter, List.mem_append, List.mem_filter, mem_entries, decide_eq_true_eq,
    Option.mem_toList, Option.map_eq_some_iff, Prod.mk.injEq]
  have hirrefl : ¬ k < k := KeyOrder.irrefl k
  split
  · next heq =>
    subst heq
    simp [hirrefl]
  · next hne =>
    -- the entry of another key is below the key or above it
    have hlt : k' < k ∨ k < k' := Decidable.or_iff_not_imp_left.mpr fun hnot =>
      Decidable.of_not_not fun hnot' => hne (KeyOrder.eq_of_not_lt hnot' hnot)
    rw [or_right_comm, ← and_or_left]
    simp [hne, hlt]

theorem find?_insert (m : SortedMap κ ν) (k : κ) (v : ν) (k' : κ) :
    (m.insert k v).find? k' = if k = k' then some v else m.find? k' :=
  m.find?_alter k _ k'

theorem find?_erase (m : SortedMap κ ν) (k k' : κ) :
    (m.erase k).find? k' = if k = k' then none else m.find? k' :=
  m.find?_alter k _ k'

end SortedMap

end GrantList
