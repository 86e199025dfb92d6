import GrantList.Proofs.Loading
import GrantList.Proofs.Reference.History
import GrantList.Proofs.Value.Encoding
import Mathlib.Logic.Function.Basic

/-!
# Entities that share a context

In a load, values of several tokens are read onto several entities, entities are written, and the
table is used, in any order (`Workspace.Action`). All entities share one table, and all tokens share
the list of choices of an entity.

Whatever is done, the table only grows, and the grants of every entity point into it
(`Workspace.Grounded`). Main result: `Workspace.encode_run_of_spares`. What a token attached to an
entity is written in the same way ever after, as long as no value of a token with the same name is
read onto this entity.
-/

namespace GrantList

/-- A load in progress: the context and the entities, by number. -/
structure Workspace where
  /-- The context that the entities share. -/
  ctx : LoadContext
  /-- The entities. -/
  entities : Nat → Entity

namespace Workspace

/-- Something that is done in a load. -/
inductive Action where
  /-- A value of a token is read onto an entity. -/
  | decode (t : Token) (entity : Nat) (value : String)
  /-- What a token attached to an entity is written, and a failure is reported. -/
  | encode (t : Token) (entity : Nat)
  /-- The table is used. -/
  | use (u : ReferenceTable.Use)

/-- The action reads no value of a token called `name` onto the entity. -/
def Action.Spares (a : Action) (name : String) (entity : Nat) : Prop :=
  ∀ t value, a = .decode t entity value → t.name ≠ name

/-- A load that begins. -/
def start (format : ConditionFormat) (keys : Nat → String) : Workspace where
  ctx := { format }
  entities i := { key := keys i }

/-- The load after an action. However the reading of a value ends, the context and the entity are
those that the reader has left. -/
def perform (w : Workspace) : Action → Workspace
  | .decode t i value =>
    let s := (w.ctx.read t (w.entities i) value).1
    ⟨s.ctx, Function.update w.entities i s.entity⟩
  | .encode t i => { w with ctx := (w.ctx.encodeReporting t (w.entities i)).1 }
  | .use u => { w with ctx := { w.ctx with refs := (w.ctx.refs.use u).1 } }

/-- The load after actions, one after the other. -/
def run (w : Workspace) (actions : List Action) : Workspace :=
  actions.foldl perform w

/-- What the token attached to the entity, as it is written now. -/
def encode (w : Workspace) (t : Token) (entity : Nat) : Except EncodeError (List String) :=
  w.ctx.encode t (w.entities entity)

/-- The references in all slots of all entities are in the table. -/
def Grounded (w : Workspace) : Prop :=
  ∀ i slot, (w.entities i).RefersInto slot w.ctx.refs

variable {w : Workspace} {a : Action} {actions : List Action} {t : Token} {i : Nat}

/-! ### One action -/

theorem perform_decode_eq (w : Workspace) (t : Token) (i : Nat) (value : String) :
    w.perform (.decode t i value) =
      match w.ctx.decode t (w.entities i) value with
      | (ctx, .ok e) => ⟨ctx, Function.update w.entities i e⟩
      | (ctx, .error _) => ⟨ctx, w.entities⟩ := by
  rw [perform, LoadContext.read_eq]
  cases w.ctx.decode t (w.entities i) value with
  | mk ctx result =>
    cases result with
    | ok e => rfl
    | error err => dsimp only; rw [Function.update_eq_self]

/-- The format stays, and the table only grows. -/
theorem perform_ctx (w : Workspace) (a : Action) :
    (w.perform a).ctx.format = w.ctx.format ∧ w.ctx.refs.Extends (w.perform a).ctx.refs := by
  cases a with
  | decode t i value =>
    rw [perform_decode_eq]
    cases hdec : w.ctx.decode t (w.entities i) value with
    | mk ctx result =>
      have hformat := LoadContext.format_of_decode hdec
      have hgrown :=
        (LoadContext.growsBy_of_decode hdec (List.mem_singleton_self value)).grown
      cases result <;> exact ⟨hformat, hgrown⟩
  | encode t i =>
    rw [perform, LoadContext.encodeReporting]
    cases w.ctx.encode t (w.entities i) <;> exact ⟨rfl, .refl _⟩
  | use u => exact ⟨rfl, w.ctx.refs.extends_use u⟩

/-- An entity changes only as a value is read onto it. -/
theorem perform_entity (w : Workspace) (a : Action) (i : Nat) :
    (w.perform a).entities i = w.entities i ∨ ∃ t value, a = .decode t i value ∧
      w.ctx.decode t (w.entities i) value =
        ((w.perform a).ctx, .ok ((w.perform a).entities i)) := by
  cases a with
  | decode t j value =>
    rw [perform_decode_eq]
    cases hdec : w.ctx.decode t (w.entities j) value with
    | mk ctx result =>
      cases result with
      | error err => exact Or.inl rfl
      | ok e =>
        obtain rfl | hne := eq_or_ne i j
        · exact Or.inr ⟨t, value, rfl, by simp only [hdec, Function.update_self]⟩
        · exact Or.inl (Function.update_of_ne hne e w.entities)
  | encode t j => exact Or.inl rfl
  | use u => exact Or.inl rfl

theorem Grounded.perform (h : w.Grounded) (a : Action) : (w.perform a).Grounded := by
  intro i slot
  have hgrown := (h i slot).mono (w.perform_ctx a).2
  obtain heq | ⟨t, value, -, hdec⟩ := w.perform_entity a i
  · rwa [heq]
  · obtain rfl | hslot := eq_or_ne t.name slot
    · obtain ⟨v, -, hgains⟩ := LoadContext.decode_eq_ok hdec
      exact hgrown.gains hgains
    · rwa [Entity.RefersInto, (LoadContext.decode_frame hdec hslot).1]

/-- An action that spares what a token attached leaves it in its place. -/
theorem Action.Spares.perform_eq (h : a.Spares t.name i) (w : Workspace) :
    ((w.perform a).entities i).grantsIn t.name = (w.entities i).grantsIn t.name ∧
      ((w.perform a).entities i).choicesFrom t.name = (w.entities i).choicesFrom t.name := by
  obtain heq | ⟨t', value, ha, hdec⟩ := w.perform_entity a i
  · rw [heq]
    exact ⟨rfl, rfl⟩
  · exact LoadContext.decode_frame hdec (h t' value ha)

theorem Grounded.encode_perform (h : w.Grounded) (ha : a.Spares t.name i) :
    (w.perform a).encode t i = w.encode t i := by
  obtain ⟨hformat, hext⟩ := w.perform_ctx a
  obtain ⟨hgrants, hchoices⟩ := ha.perform_eq w
  rw [encode, encode, LoadContext.encode, LoadContext.encode, hformat]
  exact (h i t.name).encode_eq hext hgrants hchoices w.ctx.format

/-! ### Many actions -/

theorem grounded_start (format : ConditionFormat) (keys : Nat → String) :
    (start format keys).Grounded :=
  fun _ _ _ hg => nomatch hg

theorem Grounded.run (h : w.Grounded) (actions : List Action) : (w.run actions).Grounded := by
  induction actions generalizing w with
  | nil => exact h
  | cons a actions ih => exact ih (h.perform a)

theorem Grounded.encode_run (h : w.Grounded) (hactions : ∀ a ∈ actions, a.Spares t.name i) :
    (w.run actions).encode t i = w.encode t i := by
  -- every load on the way is grounded, so each action leaves the text of the entity as it is
  induction actions generalizing w with
  | nil => rfl
  | cons a actions ih =>
    obtain ⟨ha, hactions⟩ := List.forall_mem_cons.mp hactions
    exact (ih (h.perform a) hactions).trans (h.encode_perform ha)

/-- Whatever was done before, what a token attached to an entity is written in the same way ever
after, or refused with the same error, as long as no value of a token with the same name is read
onto this entity. -/
theorem encode_run_of_spares (format : ConditionFormat) (keys : Nat → String)
    (before after : List Action) (t : Token) (i : Nat)
    (hafter : ∀ a ∈ after, a.Spares t.name i) :
    (((start format keys).run before).run after).encode t i =
      ((start format keys).run before).encode t i :=
  ((grounded_start format keys).run before).encode_run hafter

/-- Another token grants the same name to the same entity in another spelling, everything is
granted to another entity and then beside a name, and the table is bound. -/
theorem encode_run_of_spares_weapons :
    ∃ (weapons : Token) (before after : List Action),
      weapons = { Token.shieldProf with name := "WEAPONPROF" } ∧
      before = [.decode .shieldProf 0 "Buckler|%LIST", .decode weapons 0 "Axe[x]"] ∧
      after = [.decode weapons 0 "BUCKLER|%LIST[x]", .decode .shieldProf 1 "ALL",
        .decode .shieldProf 1 "Kite|ALL", .decode .shieldProf 1 "Kite", .encode .shieldProf 1,
        .use (.types .equipment "SHIELD" "Heavy..Large"), .use (.bind { names := ["Kite"] })] ∧
      (∀ a ∈ after, a.Spares Token.shieldProf.name 0) ∧
      ((start .verbatim fun _ => "A").run before).encode .shieldProf 0 =
        .ok ["%LIST", "Buckler"] ∧
      (((start .verbatim fun _ => "A").run before).run after).encode .shieldProf 0 =
        .ok ["%LIST", "Buckler"] := by
  refine ⟨_, _, _, rfl, rfl, rfl, ?hafter, ?hbefore, ?hsame⟩
  case hafter => simp [Action.Spares, Token.shieldProf]
  case hbefore => exact eq_ok_of_toOption_eq_some (by decide +kernel)
  case hsame =>
    rw [encode_run_of_spares .verbatim (fun _ => "A") _ _ .shieldProf 0
      (by simp [Action.Spares, Token.shieldProf])]
    exact eq_ok_of_toOption_eq_some (by decide +kernel)

end Workspace

end GrantList
