import GrantList.Granting
import Mathlib.Data.List.Basic

/-!
# A character as a count of additions and removals

Whatever is done to a character is a series of single steps (`Character.Step`): applying the choices
of an entity is one step for each choice and each name. A step gives one capability on behalf of one
owner, takes one, or does nothing (`Character.Step.change?`). Whether the condition of a choice is
met is decided for the character as it is at that moment, so the changes of a run follow the run
(`Character.changes`). The counter of a holding is read off them (`Change.tally`).

No change leaves an owner with an empty list behind (`Character.NoIdleOwner.change`), so a character
is known by the lists of its owners (`Character.NoIdleOwner.ext`).

Main result: `Character.counts_changes`. A character that began with nothing holds each capability
on behalf of each owner as often as its counter says, and what an owner keeps stays in order.
-/

namespace GrantList

/-- A capability held on behalf of an owner. -/
structure Holding where
  /-- The key of the definition that gave the capability. -/
  owner : String
  /-- The capability. -/
  capability : CapabilityId
deriving DecidableEq, Repr

/-- A change of what a character holds. -/
inductive Change where
  /-- A capability is given on behalf of an owner. -/
  | given (h : Holding)
  /-- A capability of an owner is taken, if there is one. -/
  | taken (h : Holding)
deriving DecidableEq, Repr

namespace Change

/-- The counter of a holding after a change. It goes up as the holding is given, and down as it is
taken, but not below zero. -/
def count (h : Holding) (n : Nat) : Change → Nat
  | .given h' => if h' = h then n + 1 else n
  | .taken h' => if h' = h then n - 1 else n

/-- The counter of a holding after changes, from zero. -/
def tally (changes : List Change) (h : Holding) : Nat :=
  changes.foldl (count h) 0

/-- What a change gives on behalf of an owner. -/
def givenTo? (owner : String) : Change → Option CapabilityId
  | .given h => if h.owner = owner then some h.capability else none
  | .taken _ => none

/-- What changes give on behalf of an owner, in order. -/
def givenTo (changes : List Change) (owner : String) : List CapabilityId :=
  changes.filterMap (givenTo? owner)

end Change

namespace Character

/-- A single step that is taken with a character. -/
inductive Step where
  /-- A capability is given on behalf of an owner. -/
  | add (owner : String) (id : CapabilityId)
  /-- A capability of an owner is taken. -/
  | remove (owner : String) (id : CapabilityId)
  /-- The capability with a name is given. -/
  | attach (owner : String) (r : Registry) (name : String)
  /-- The capability with a name is taken. -/
  | detach (owner : String) (r : Registry) (name : String)
  /-- A choice is made. -/
  | apply (g : ChoiceGrant) (owner : String) (r : Registry) (check : ConditionCheck)
    (name : String)
  /-- A choice is taken back. -/
  | undo (g : ChoiceGrant) (owner : String) (r : Registry) (name : String)

/-- Something that is done to a character. -/
inductive Action where
  /-- A single step. -/
  | step (s : Step)
  /-- All choices of an entity are made. -/
  | applyChoices (e : Entity) (t : Token) (r : Registry) (check : ConditionCheck)
    (names : List String)

/-- The character after a step. -/
def take (c : Character) : Step → Character
  | .add owner id => c.add owner id
  | .remove owner id => c.remove owner id
  | .attach owner r name => c.attach owner r name
  | .detach owner r name => c.detach owner r name
  | .apply g owner r check name => g.apply c owner r check name
  | .undo g owner r name => g.undo c owner r name

/-- The character after an action. -/
def perform (c : Character) : Action → Character
  | .step s => c.take s
  | .applyChoices e t r check names => e.applyChoices t c r check names

/-- The character after actions, one after the other. -/
def run (c : Character) (actions : List Action) : Character :=
  actions.foldl perform c

/-- The steps of an action: a choice for each choice grant of the token and each name. -/
def Action.steps : Action → List Step
  | .step s => [s]
  | .applyChoices e t r check names =>
    (e.choicesFrom t.name).flatMap fun g => names.map fun name => .apply g e.key r check name

/-- What a step changes. A name that is not known changes nothing, and nor does a choice whose
condition the character does not meet. -/
def Step.change? (c : Character) : Step → Option Change
  | .add owner id => some (.given ⟨owner, id⟩)
  | .remove owner id => some (.taken ⟨owner, id⟩)
  | .attach owner r name => (r.idOf? name).map fun id => .given ⟨owner, id⟩
  | .detach owner r name => (r.idOf? name).map fun id => .taken ⟨owner, id⟩
  | .apply g owner r check name =>
    if check.passes g.condition c then (r.idOf? name).map fun id => .given ⟨owner, id⟩ else none
  | .undo _ owner r name => (r.idOf? name).map fun id => .taken ⟨owner, id⟩

/-- What steps change, one after the other. Each step finds the character as the steps before it
left it. -/
def changesOf (c : Character) : List Step → List Change
  | [] => []
  | s :: steps => (s.change? c).toList ++ (c.take s).changesOf steps

/-- What actions change, one after the other. -/
def changes (c : Character) (actions : List Action) : List Change :=
  c.changesOf (actions.flatMap Action.steps)

/-- The character after a change. -/
def change (c : Character) : Change → Character
  | .given h => c.add h.owner h.capability
  | .taken h => c.remove h.owner h.capability

/-- No owner is kept with nothing left. -/
def NoIdleOwner (c : Character) : Prop :=
  ∀ owner, c.holdings.find? owner ≠ some []

/-- The character holds each capability on behalf of each owner as often as the counter says, and
nothing else. -/
structure CountedBy (c : Character) (counter : Holding → Nat) : Prop where
  /-- The list of an owner has a capability as often as its counter says. -/
  count (owner : String) (id : CapabilityId) :
    (c.ofOwner owner).count id = counter ⟨owner, id⟩
  /-- A removal finds the capability exactly when the counter is positive. -/
  holds (owner : String) (id : CapabilityId) :
    c.holds owner id = decide (0 < counter ⟨owner, id⟩)
  /-- A removal leaves the character as it is exactly when the counter is zero. -/
  remove (owner : String) (id : CapabilityId) :
    c.remove owner id = c ↔ counter ⟨owner, id⟩ = 0
  /-- No owner is kept with an empty list. -/
  noIdleOwner : c.NoIdleOwner
  /-- The owners are those with a positive counter. -/
  mem_owners {owner : String} : owner ∈ c.owners ↔ ∃ id, 0 < counter ⟨owner, id⟩
  /-- The capabilities come in order and each once. -/
  sorted : c.capabilityIds.Pairwise (· < ·)
  /-- The capabilities are those with a positive counter under some owner. -/
  mem_capabilityIds {id : CapabilityId} :
    id ∈ c.capabilityIds ↔ ∃ owner, 0 < counter ⟨owner, id⟩

variable {c : Character} {owner owner' : String} {id : CapabilityId} {h : Holding}

/-! ### The list of an owner -/

theorem mem_ofOwner :
    id ∈ c.ofOwner owner ↔ ∃ ids, c.holdings.find? owner = some ids ∧ id ∈ ids := by
  rw [ofOwner]
  cases c.holdings.find? owner <;> simp

theorem ofOwner_add (c : Character) (owner : String) (id : CapabilityId) (owner' : String) :
    (c.add owner id).ofOwner owner' =
      if owner = owner' then c.ofOwner owner' ++ [id] else c.ofOwner owner' := by
  rw [ofOwner, add, SortedMap.find?_alter]
  split
  · next heq => rw [heq]; rfl
  · rfl

/-- What the owner has not given is not found. -/
theorem remove?_of_not_mem (h : id ∉ c.ofOwner owner) : c.remove? owner id = none := by
  rw [remove?]
  cases hfind : c.holdings.find? owner with
  | none => rfl
  | some ids => exact if_neg fun hmem => h (mem_ofOwner.mpr ⟨ids, hfind, hmem⟩)

/-- What the owner has given is taken from its list, and the owner is dropped if that is all. -/
theorem remove?_of_mem (h : id ∈ c.ofOwner owner) :
    ∃ d, c.remove? owner id = some d ∧ d.name = c.name ∧
      ∀ owner', d.holdings.find? owner' =
        if owner = owner' then
          if (c.ofOwner owner).erase id = [] then none else some ((c.ofOwner owner).erase id)
        else c.holdings.find? owner' := by
  obtain ⟨ids, hfind, hmem⟩ := mem_ofOwner.mp h
  have hids : c.ofOwner owner = ids := by rw [ofOwner, hfind, Option.getD_some]
  simp only [remove?, hfind, if_pos hmem, hids]
  refine ⟨_, rfl, rfl, fun owner' => ?_⟩
  by_cases hrest : ids.erase id = []
  · simp only [if_pos hrest, SortedMap.find?_erase]
  · simp only [if_neg hrest, SortedMap.find?_insert]

theorem remove_of_not_mem (h : id ∉ c.ofOwner owner) : c.remove owner id = c := by
  rw [remove, remove?_of_not_mem h, Option.getD_none]

theorem holds_iff : c.holds owner id = true ↔ id ∈ c.ofOwner owner := by
  rw [holds]
  by_cases h : id ∈ c.ofOwner owner
  · obtain ⟨d, hd, -⟩ := remove?_of_mem h
    rw [hd]
    exact iff_of_true rfl h
  · rw [remove?_of_not_mem h]
    exact iff_of_false nofun h

theorem name_remove (c : Character) (owner : String) (id : CapabilityId) :
    (c.remove owner id).name = c.name := by
  by_cases h : id ∈ c.ofOwner owner
  · obtain ⟨d, hd, hname, -⟩ := remove?_of_mem h
    rw [remove, hd, Option.getD_some, hname]
  · rw [remove_of_not_mem h]

/-- Taking a capability removes the first one from the list of its owner. -/
theorem ofOwner_remove (c : Character) (owner : String) (id : CapabilityId) (owner' : String) :
    (c.remove owner id).ofOwner owner' =
      if owner = owner' then (c.ofOwner owner').erase id else c.ofOwner owner' := by
  by_cases h : id ∈ c.ofOwner owner
  · obtain ⟨d, hd, -, hfind⟩ := remove?_of_mem h
    rw [remove, hd, Option.getD_some, ofOwner, hfind]
    split
    · next heq =>
      subst heq
      split
      · next hnil => rw [hnil, Option.getD_none]
      · rfl
    · rfl
  · rw [remove_of_not_mem h]
    split
    · next heq =>
      subst heq
      rw [List.erase_of_not_mem h]
    · rfl

/-- Taking changes nothing exactly when the owner has not given the capability. -/
theorem remove_eq_self_iff : c.remove owner id = c ↔ id ∉ c.ofOwner owner := by
  refine ⟨fun heq => ?_, remove_of_not_mem⟩
  have hlist := c.ofOwner_remove owner id owner
  rw [heq, if_pos rfl] at hlist
  exact List.erase_eq_self_iff.mp hlist.symm

theorem mem_capabilityIds : id ∈ c.capabilityIds ↔ ∃ owner, id ∈ c.ofOwner owner := by
  simp only [capabilityIds, SortedSet.mem_ofList, List.mem_flatMap, Prod.exists,
    SortedMap.mem_entries, mem_ofOwner]

theorem mem_capabilityIds_add {id' : CapabilityId} :
    id ∈ (c.add owner id').capabilityIds ↔ id ∈ c.capabilityIds ∨ id = id' := by
  simp only [mem_capabilityIds, ofOwner_add]
  constructor
  · rintro ⟨owner', hmem⟩
    split at hmem
    · exact (List.mem_append.mp hmem).imp (⟨owner', ·⟩) List.mem_singleton.mp
    · exact Or.inl ⟨owner', hmem⟩
  · rintro (⟨owner', hmem⟩ | rfl)
    · refine ⟨owner', ?_⟩
      split
      · exact List.mem_append_left _ hmem
      · exact hmem
    · exact ⟨owner, by rw [if_pos rfl]; exact List.mem_append_right _ List.mem_cons_self⟩

/-! ### Owners with nothing left -/

namespace NoIdleOwner

variable {d : Character}

theorem new (name : String) : ({ name } : Character).NoIdleOwner :=
  fun _ => nofun

/-- What is kept for an owner is its list. -/
theorem find?_eq (h : c.NoIdleOwner) (owner : String) :
    c.holdings.find? owner = if c.ofOwner owner = [] then none else some (c.ofOwner owner) := by
  rw [ofOwner]
  cases hfind : c.holdings.find? owner with
  | none => rfl
  | some ids =>
    have hne : ids ≠ [] := fun hnil => h owner (hnil ▸ hfind)
    exact (if_neg hne).symm

theorem mem_owners (h : c.NoIdleOwner) : owner ∈ c.owners ↔ ∃ id, id ∈ c.ofOwner owner := by
  rw [owners, SortedMap.mem_keys, h.find?_eq]
  split
  · next hnil => simp [hnil]
  · next hne => exact iff_of_true ⟨_, rfl⟩ (List.exists_mem_of_ne_nil _ hne)

/-- Characters that hold the same on behalf of each owner are the same. -/
theorem ext (hc : c.NoIdleOwner) (hd : d.NoIdleOwner) (hname : c.name = d.name)
    (hlists : ∀ owner, c.ofOwner owner = d.ofOwner owner) : c = d := by
  have hholdings : c.holdings = d.holdings := SortedMap.ext_find? fun owner => by
    rw [hc.find?_eq, hd.find?_eq, hlists]
  cases c
  cases d
  cases hname
  cases hholdings
  rfl

theorem add (h : c.NoIdleOwner) (owner : String) (id : CapabilityId) :
    (c.add owner id).NoIdleOwner := by
  intro owner'
  rw [Character.add, SortedMap.find?_alter]
  split
  · simp
  · exact h owner'

theorem remove (h : c.NoIdleOwner) (owner : String) (id : CapabilityId) :
    (c.remove owner id).NoIdleOwner := by
  by_cases hmem : id ∈ c.ofOwner owner
  · obtain ⟨d, hd, -, hfind⟩ := remove?_of_mem hmem
    intro owner'
    rw [Character.remove, hd, Option.getD_some, hfind]
    split
    · split
      · nofun
      · next hne => exact fun heq => hne (Option.some.inj heq)
    · exact h owner'
  · rwa [remove_of_not_mem hmem]

theorem change (h : c.NoIdleOwner) (ch : Change) : (c.change ch).NoIdleOwner := by
  cases ch with
  | given h' => exact h.add h'.owner h'.capability
  | taken h' => exact h.remove h'.owner h'.capability

end NoIdleOwner

/-! ### One change -/

/-- A change counts the holdings as the counter does. -/
theorem count_ofOwner_change (c : Character) (ch : Change) (owner : String) (id : CapabilityId) :
    ((c.change ch).ofOwner owner).count id =
      ch.count ⟨owner, id⟩ ((c.ofOwner owner).count id) := by
  have heq_iff : ∀ h : Holding, h = ⟨owner, id⟩ ↔ h.owner = owner ∧ h.capability = id := by
    rintro ⟨owner', id'⟩
    rw [Holding.mk.injEq]
  cases ch with
  | given h =>
    rw [change, ofOwner_add, Change.count]
    by_cases howner : h.owner = owner
    · by_cases hid : h.capability = id <;> simp [heq_iff, howner, hid]
    · simp [heq_iff, howner]
  | taken h =>
    rw [change, ofOwner_remove, Change.count]
    by_cases howner : h.owner = owner
    · by_cases hid : h.capability = id <;> simp [heq_iff, howner, hid, List.count_erase]
    · simp [heq_iff, howner]

/-- A change takes from the list of an owner or adds behind it. -/
theorem ofOwner_change_sublist (c : Character) (ch : Change) (owner : String) :
    ((c.change ch).ofOwner owner).Sublist (c.ofOwner owner ++ (ch.givenTo? owner).toList) := by
  cases ch with
  | given h =>
    rw [change, Change.givenTo?, ofOwner_add]
    split
    · rw [Option.toList_some]
    · rw [Option.toList_none, List.append_nil]
  | taken h =>
    rw [change, Change.givenTo?, Option.toList_none, List.append_nil, ofOwner_remove]
    split
    · exact List.erase_sublist
    · exact .refl _

/-! ### One step and one action -/

/-- A step makes its change, if it has one. -/
theorem take_eq (c : Character) (s : Step) :
    c.take s = (s.change? c).toList.foldl change c := by
  have hattach : ∀ (owner : String) (r : Registry) (name : String), c.attach owner r name =
      ((r.idOf? name).map fun id => Change.given ⟨owner, id⟩).toList.foldl change c := by
    intro owner r name
    rw [attach]
    cases r.idOf? name <;> rfl
  have hdetach : ∀ (owner : String) (r : Registry) (name : String), c.detach owner r name =
      ((r.idOf? name).map fun id => Change.taken ⟨owner, id⟩).toList.foldl change c := by
    intro owner r name
    rw [detach]
    cases r.idOf? name <;> rfl
  cases s with
  | add owner id => rfl
  | remove owner id => rfl
  | attach owner r name => exact hattach owner r name
  | detach owner r name => exact hdetach owner r name
  | apply g owner r check name =>
    rw [take, ChoiceGrant.apply, Step.change?]
    split
    · exact hattach owner r name
    · rfl
  | undo g owner r name => exact hdetach owner r name

/-- An action takes its steps one after the other. -/
theorem perform_eq (c : Character) (a : Action) : c.perform a = a.steps.foldl take c := by
  cases a with
  | step s => rfl
  | applyChoices e t r check names =>
    rw [perform, Entity.applyChoices, Action.steps, List.foldl_flatMap]
    simp only [List.foldl_map]
    rfl

/-! ### Many actions -/

theorem run_eq_foldl_take (c : Character) (actions : List Action) :
    c.run actions = (actions.flatMap Action.steps).foldl take c := by
  rw [run, List.foldl_flatMap]
  congr
  funext c a
  exact perform_eq c a

theorem foldl_take_eq (c : Character) (steps : List Step) :
    steps.foldl take c = (c.changesOf steps).foldl change c := by
  induction steps generalizing c with
  | nil => rfl
  | cons s steps ih => rw [List.foldl_cons, changesOf, List.foldl_append, ← take_eq, ih]

/-- A run makes its changes, and nothing else. -/
theorem run_eq_foldl_change (c : Character) (actions : List Action) :
    c.run actions = (c.changes actions).foldl change c := by
  rw [run_eq_foldl_take, foldl_take_eq, changes]

theorem NoIdleOwner.foldl_change (h : c.NoIdleOwner) (changes : List Change) :
    (changes.foldl Character.change c).NoIdleOwner := by
  induction changes generalizing c with
  | nil => exact h
  | cons ch changes ih => exact ih (h.change ch)

theorem noIdleOwner_run (name : String) (actions : List Action) :
    (({ name } : Character).run actions).NoIdleOwner := by
  rw [run_eq_foldl_change]
  exact (NoIdleOwner.new name).foldl_change _

theorem count_ofOwner_foldl_change (c : Character) (changes : List Change) (owner : String)
    (id : CapabilityId) :
    ((changes.foldl change c).ofOwner owner).count id =
      changes.foldl (Change.count ⟨owner, id⟩) ((c.ofOwner owner).count id) := by
  induction changes generalizing c with
  | nil => rfl
  | cons ch changes ih => rw [List.foldl_cons, ih, count_ofOwner_change, List.foldl_cons]

theorem ofOwner_foldl_change_sublist (c : Character) (changes : List Change) (owner : String) :
    ((changes.foldl change c).ofOwner owner).Sublist
      (c.ofOwner owner ++ Change.givenTo changes owner) := by
  induction changes generalizing c with
  | nil => exact List.sublist_append_left _ _
  | cons ch changes ih =>
    have hrest := (ofOwner_change_sublist c ch owner).append_right (Change.givenTo changes owner)
    have hgiven : Change.givenTo (ch :: changes) owner =
        (ch.givenTo? owner).toList ++ Change.givenTo changes owner := by
      rw [Change.givenTo, List.filterMap_cons, Change.givenTo]
      cases ch.givenTo? owner <;> rfl
    rw [hgiven, ← List.append_assoc]
    exact (ih _).trans hrest

/-! ### The counters -/

/-- All else follows from how often the lists of the owners have the capabilities. -/
theorem CountedBy.of_count {counter : Holding → Nat} (hidle : c.NoIdleOwner)
    (h : ∀ owner id, (c.ofOwner owner).count id = counter ⟨owner, id⟩) : c.CountedBy counter := by
  have hmem : ∀ owner id, id ∈ c.ofOwner owner ↔ 0 < counter ⟨owner, id⟩ := fun owner id => by
    rw [← List.count_pos_iff, h]
  exact {
    count := h
    holds := fun owner id => by rw [Bool.eq_iff_iff, holds_iff, hmem, decide_eq_true_iff]
    remove := fun owner id => by rw [remove_eq_self_iff, hmem, Nat.pos_iff_ne_zero, not_not]
    noIdleOwner := hidle
    mem_owners := hidle.mem_owners.trans (exists_congr fun id => hmem _ id)
    sorted := SortedSet.pairwise_ofList _
    mem_capabilityIds :=
      Character.mem_capabilityIds.trans (exists_congr fun owner => hmem owner _) }

/-- Whatever is done to a character that began with nothing, it holds each capability on behalf of
each owner as often as the counter of its additions and removals says. Whatever is done later, what
is left to an owner of the earlier capabilities is in the order it was in, and what is new comes
behind it in the order in which it was given. -/
theorem counts_changes (name : String) (actions : List Action) :
    (({ name } : Character).run actions).CountedBy
        (Change.tally (({ name } : Character).changes actions)) ∧
      ∀ later owner, ∃ kept new,
        ((({ name } : Character).run actions).run later).ofOwner owner = kept ++ new ∧
          kept.Sublist ((({ name } : Character).run actions).ofOwner owner) ∧
          new.Sublist
            (Change.givenTo ((({ name } : Character).run actions).changes later) owner) := by
  refine ⟨.of_count (noIdleOwner_run name actions) fun owner id => ?_, fun later owner => ?_⟩
  · rw [run_eq_foldl_change, count_ofOwner_foldl_change]
    rfl
  · rw [run_eq_foldl_change _ later]
    exact List.sublist_append_iff.mp (ofOwner_foldl_change_sublist _ _ owner)

/-- The check lets a choice pass as long as the character holds at most one capability, so of three
names two are given. The oldest of equal capabilities is taken, and what was behind it stays. -/
example :
    let r : Registry := { names := ["a", "b"] }
    let e : Entity := { key := "O", choices := [⟨"SHIELDPROF", some ⟨"x"⟩⟩] }
    (({ name := "V" } : Character).run [
        .applyChoices e .shieldProf r (fun _ c => c.capabilityIds.length < 2) ["A", "b", "a"],
        .step (.attach "O" r " a "), .step (.detach "O" r "A"),
        .step (.remove "P" 0)]).holdings.entries = [("O", [1, 0])] := by
  decide +kernel

end Character

end GrantList
