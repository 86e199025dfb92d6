import GrantList.Proofs.Holdings
import GrantList.Proofs.Registry
import Mathlib.Data.List.Sort

/-!
# Giving a capability and taking it back

A capability that is given comes last in the list of its owner, and taking one takes the first. So
giving a capability and taking it back brings back what was held, but not always the order in which
it was held: an owner who has given the capability before finds it moved to the end of the list.

Main result: `Character.restored_iff_onlyAtEnd`. The character is restored exactly when the list of
the owner has the capability nowhere but at its end, as a list without it has.
-/

namespace GrantList

/-- The list has the capability nowhere but at its end, once or several times or not at all. -/
def OnlyAtEnd (id : CapabilityId) (l : List CapabilityId) : Prop :=
  ∃ before n, l = before ++ List.replicate n id ∧ id ∉ before

theorem onlyAtEnd_of_not_mem {id : CapabilityId} {l : List CapabilityId} (h : id ∉ l) :
    OnlyAtEnd id l :=
  ⟨l, 0, by simp, h⟩

private theorem append_singleton_eq_cons_iff {id : CapabilityId} {l : List CapabilityId} :
    l ++ [id] = id :: l ↔ ∀ x ∈ l, x = id := by
  induction l with
  | nil => simp
  | cons x l ih =>
    rw [List.cons_append, List.cons.injEq, List.forall_mem_cons, ← ih]
    refine and_congr_right ?_
    rintro rfl
    rfl

/-- Behind the first occurrence of a capability there is nothing else. -/
private theorem onlyAtEnd_append_cons_iff {id : CapabilityId} {l l' : List CapabilityId}
    (h : id ∉ l) : OnlyAtEnd id (l ++ id :: l') ↔ ∀ x ∈ l', x = id := by
  constructor
  · rintro ⟨before, n, heq, hbefore⟩ x hx
    -- both splittings have the first occurrence in the same place
    obtain ⟨mid, hmid, htail⟩ | ⟨mid, hmid, htail⟩ := List.append_eq_append_iff.mp heq
    · cases mid with
      | nil =>
        rw [List.nil_append] at htail
        exact List.eq_of_mem_replicate (htail ▸ List.mem_cons_of_mem id hx)
      | cons y mid =>
        obtain ⟨rfl, -⟩ := List.cons.inj htail
        exact absurd (hmid ▸ List.mem_append_right l List.mem_cons_self) hbefore
    · have hmem : x ∈ List.replicate n id :=
        htail ▸ List.mem_append_right mid (List.mem_cons_of_mem id hx)
      exact List.eq_of_mem_replicate hmem
  · intro hall
    refine ⟨l, l'.length + 1, ?_, h⟩
    rw [List.replicate_succ, ← List.eq_replicate_of_mem hall]

/-- Adding at the end and taking the first restores a list exactly when the list has what is added
only at its end. -/
theorem erase_append_singleton_eq_iff {id : CapabilityId} {l : List CapabilityId} :
    (l ++ [id]).erase id = l ↔ OnlyAtEnd id l := by
  by_cases hmem : id ∈ l
  · obtain ⟨before, after, hbefore, rfl, herase⟩ := List.exists_erase_eq hmem
    rw [List.erase_append_left _ hmem, herase, onlyAtEnd_append_cons_iff hbefore,
      ← append_singleton_eq_cons_iff, List.append_assoc, List.append_cancel_left_eq]
  · rw [List.erase_append_right _ hmem, List.erase_cons_head, List.append_nil]
    exact iff_of_true rfl (onlyAtEnd_of_not_mem hmem)

namespace Character

/-- The character is one that some actions have led to. -/
def Reachable (c : Character) : Prop :=
  ∃ (name : String) (actions : List Action), c = ({ name } : Character).run actions

/-- The second character holds what the first one holds, but the list of the owner may be in another
order. -/
structure Reorders (c d : Character) (owner : String) : Prop where
  /-- The name is the same. -/
  name : d.name = c.name
  /-- The owners are the same. -/
  owners : d.owners = c.owners
  /-- The lists of other owners are the same. -/
  ofOwner {owner' : String} (h : owner ≠ owner') : d.ofOwner owner' = c.ofOwner owner'
  /-- The list of the owner has the same members, as often as before. -/
  perm : (d.ofOwner owner).Perm (c.ofOwner owner)

variable {c d : Character} {owner : String} {id : CapabilityId}

theorem Reachable.noIdleOwner (h : c.Reachable) : c.NoIdleOwner := by
  obtain ⟨name, actions, rfl⟩ := h
  exact noIdleOwner_run name actions

theorem Reorders.refl (c : Character) (owner : String) : c.Reorders c owner where
  name := rfl
  owners := rfl
  ofOwner _ := rfl
  perm := .refl _

/-- A reordered character is the same as soon as the list of the owner is. -/
theorem Reorders.eq_iff (h : c.Reorders d owner) (hc : c.NoIdleOwner) (hd : d.NoIdleOwner) :
    d = c ↔ d.ofOwner owner = c.ofOwner owner := by
  refine ⟨fun heq => heq ▸ rfl, fun heq => hd.ext hc h.name fun owner' => ?_⟩
  obtain rfl | hne := eq_or_ne owner owner'
  · exact heq
  · exact h.ofOwner hne

theorem ofOwner_remove_add (c : Character) (owner : String) (id : CapabilityId) (owner' : String) :
    ((c.add owner id).remove owner id).ofOwner owner' =
      if owner = owner' then (c.ofOwner owner' ++ [id]).erase id else c.ofOwner owner' := by
  rw [ofOwner_remove, ofOwner_add]
  split <;> rfl

theorem reorders_remove_add (hc : c.NoIdleOwner) (owner : String) (id : CapabilityId) :
    c.Reorders ((c.add owner id).remove owner id) owner := by
  have hidle : ((c.add owner id).remove owner id).NoIdleOwner := (hc.add owner id).remove owner id
  have hframe : ∀ owner', owner ≠ owner' →
      ((c.add owner id).remove owner id).ofOwner owner' = c.ofOwner owner' := fun owner' hne => by
    rw [ofOwner_remove_add, if_neg hne]
  have hperm : (((c.add owner id).remove owner id).ofOwner owner).Perm (c.ofOwner owner) := by
    have hadded : (c.ofOwner owner ++ [id]).Perm (id :: c.ofOwner owner) :=
      List.perm_append_singleton id _
    rw [ofOwner_remove_add, if_pos rfl]
    simpa using hadded.erase id
  have hmem : ∀ owner', owner' ∈ ((c.add owner id).remove owner id).owners ↔ owner' ∈ c.owners := by
    intro owner'
    rw [hidle.mem_owners, hc.mem_owners]
    obtain rfl | hne := eq_or_ne owner owner'
    · exact exists_congr fun _ => hperm.mem_iff
    · rw [hframe owner' hne]
  exact {
    name := name_remove _ owner id
    owners := (SortedMap.pairwise_keys _).eq_of_mem_iff (SortedMap.pairwise_keys _) hmem
    ofOwner := fun {owner'} => hframe owner'
    perm := hperm }

theorem remove_add_eq_iff (hc : c.NoIdleOwner) (owner : String) (id : CapabilityId) :
    (c.add owner id).remove owner id = c ↔ OnlyAtEnd id (c.ofOwner owner) := by
  rw [(reorders_remove_add hc owner id).eq_iff hc ((hc.add owner id).remove owner id),
    ofOwner_remove_add, if_pos rfl, erase_append_singleton_eq_iff]

/-- Names with the same key lead to one capability, if to any. -/
theorem detach_attach (c : Character) (owner : String) (r : Registry) {name name' : String}
    (h : nameKey name = nameKey name') :
    (c.attach owner r name).detach owner r name' =
      match r.idOf? name with
      | some id => (c.add owner id).remove owner id
      | none => c := by
  rw [attach, detach, ← r.idOf?_congr h]
  cases r.idOf? name <;> rfl

/-- Giving a capability and taking it back never changes what is held, nor by which owner. It
restores the character, with all lists in their order, exactly when the list of the owner has the
capability nowhere but at its end. This is so for capabilities given by number, and for two names
with the same key; an unknown name changes nothing. -/
theorem restored_iff_onlyAtEnd (hc : c.Reachable) (owner : String) :
    (∀ id, c.Reorders ((c.add owner id).remove owner id) owner ∧
        ((c.add owner id).remove owner id = c ↔ OnlyAtEnd id (c.ofOwner owner))) ∧
      ∀ (r : Registry) (name name' : String), nameKey name = nameKey name' →
        c.Reorders ((c.attach owner r name).detach owner r name') owner ∧
          ((c.attach owner r name).detach owner r name' = c ↔
            ∀ id, r.idOf? name = some id → OnlyAtEnd id (c.ofOwner owner)) := by
  have hidle : c.NoIdleOwner := hc.noIdleOwner
  refine ⟨fun id => ⟨reorders_remove_add hidle owner id, remove_add_eq_iff hidle owner id⟩,
    fun r name name' hkey => ?_⟩
  rw [c.detach_attach owner r hkey]
  cases r.idOf? name with
  | none => exact ⟨.refl c owner, iff_of_true rfl nofun⟩
  | some id =>
    simp only [Option.some.injEq, forall_eq']
    exact ⟨reorders_remove_add hidle owner id, remove_add_eq_iff hidle owner id⟩

/-- One owner has the capability at the end of the list, and the list is restored; the other has it
in front of another one, and finds it moved to the end. -/
theorem restored_iff_onlyAtEnd_buckler :
    ∃ c r, c = ({ name := "V" } : Character).run
        [.step (.add "O" 1), .step (.add "O" 0), .step (.add "P" 0), .step (.add "P" 1)] ∧
      r = (({} : Registry).construct "Buckler").construct "Tower" ∧
      nameKey "buckler" = nameKey " Buckler" ∧
      (c.attach "O" r "buckler").detach "O" r " Buckler" = c ∧
      ((c.attach "P" r "buckler").detach "P" r " Buckler").holdings.entries =
        [("O", [1, 0]), ("P", [1, 0])] ∧
      OnlyAtEnd 0 (c.ofOwner "O") ∧ ¬ OnlyAtEnd 0 (c.ofOwner "P") := by
  obtain ⟨c, hc⟩ : ∃ c, c = ({ name := "V" } : Character).run
      [.step (.add "O" 1), .step (.add "O" 0), .step (.add "P" 0), .step (.add "P" 1)] := ⟨_, rfl⟩
  obtain ⟨r, hr⟩ : ∃ r, r = (({} : Registry).construct "Buckler").construct "Tower" := ⟨_, rfl⟩
  have hkey : nameKey "buckler" = nameKey " Buckler" := by decide +kernel
  have hrestored : (c.attach "O" r "buckler").detach "O" r " Buckler" = c := by
    rw [hc, hr]
    decide +kernel
  have hmoved : ((c.attach "P" r "buckler").detach "P" r " Buckler").holdings.entries =
      [("O", [1, 0]), ("P", [1, 0])] := by
    rw [hc, hr]
    decide +kernel
  have hbefore : c.holdings.entries = [("O", [1, 0]), ("P", [0, 1])] := by
    rw [hc]
    decide +kernel
  have hid : r.idOf? "buckler" = some 0 := by
    rw [hr]
    decide +kernel
  have hiff (owner : String) :=
    ((restored_iff_onlyAtEnd ⟨"V", _, hc⟩ owner).2 r "buckler" " Buckler" hkey).2
  simp only [hid, Option.some_inj, forall_eq'] at hiff
  refine ⟨c, r, hc, hr, hkey, hrestored, hmoved, (hiff "O").mp hrestored, mt (hiff "P").mpr ?_⟩
  intro heq
  rw [heq, hbefore] at hmoved
  exact absurd hmoved (by decide)

/-- Giving a capability and taking it back does not always restore a character: a capability that
was in front of another one is behind it afterwards. -/
theorem exists_not_restored :
    (¬ ∀ c : Character, c.Reachable → ∀ (owner : String) (r : Registry) (name name' : String),
        nameKey name = nameKey name' → (c.attach owner r name).detach owner r name' = c) ∧
      ¬ ∀ c : Character, c.Reachable → ∀ (owner : String) (id : CapabilityId),
        (c.add owner id).remove owner id = c := by
  constructor
  · intro h
    have hrestored := h _ ⟨"V", [.step (.add "O" 0), .step (.add "O" 1)], rfl⟩ "O"
      ((({} : Registry).construct "A").construct "B") "A" "A" rfl
    exact absurd hrestored (by decide +kernel)
  · intro h
    have hrestored := h _ ⟨"V", [.step (.add "O" 0), .step (.add "O" 1)], rfl⟩ "O" 0
    exact absurd hrestored (by decide +kernel)

end Character

end GrantList
