import GrantList.Proofs.Value.Decoding
import GrantList.Proofs.Value.Reading
import Mathlib.Data.Set.Insert

/-!
# What a run of readings leaves behind

Reading values one after the other builds up an entity that holds exactly what the accepted values
say (`Entity.Holds`), in a table that has grown by their targets (`ReferenceTable.GrowsBy`). Both
are shown for one value and carried through the two ways of reading a list: `decodeAll`, which
stops at the first value that is rejected, and `decodeEach`, which skips it as the compilation of a
record does.

Main facts: `LoadContext.holds_of_decodeAll` and `LoadContext.holds_of_decodeEach`. What an entity
holds stays true in every later table (`Entity.Holds.mono`).
-/

namespace GrantList

/-- The values that the token accepts among the texts. -/
def Token.accepted (t : Token) (format : ConditionFormat) (values : List String) : Set Value :=
  {v | ∃ value ∈ values, t.Accepts format value v}

/-- The targets of the segments of the texts. -/
def Token.targetsIn (t : Token) (values : List String) : Set Target :=
  {T | ∃ value ∈ values, ∃ s ∈ Value.segmentsOf t value, s.target? t = some T}

/-- What the token attached to the entity is what the values `V` say, read in the table `refs`. -/
structure Entity.Holds (e : Entity) (t : Token) (refs : ReferenceTable) (V : Set Value) :
    Prop where
  /-- Each grant is that of a value. -/
  of_grant {g : Grant} (hg : g ∈ e.grantsIn t.name) :
    ∃ v ∈ V, g.payload.Covers t refs v.segments ∧ g.condition = v.condition
  /-- Each value with a segment that is not a choice has a grant. -/
  exists_grant {v : Value} (hv : v ∈ V) (hs : ∃ s ∈ v.segments, s ≠ .choice) :
    ∃ g ∈ e.grantsIn t.name, g.payload.Covers t refs v.segments ∧ g.condition = v.condition
  /-- Each choice grant is that of a value with a choice. -/
  of_choice {c : ChoiceGrant} (hc : c ∈ e.choicesFrom t.name) :
    ∃ v ∈ V, .choice ∈ v.segments ∧ c.condition = v.condition
  /-- Each value with a choice has a choice grant. -/
  exists_choice {v : Value} (hv : v ∈ V) (hs : .choice ∈ v.segments) :
    ∃ c ∈ e.choicesFrom t.name, c.condition = v.condition

/-- The table `refs'` is `refs` with targets of the values entered after it. -/
structure ReferenceTable.GrowsBy (refs refs' : ReferenceTable) (T : Set Target) : Prop where
  /-- What was in the table stays at its place. -/
  grown : refs.Extends refs'
  /-- No target is entered twice. -/
  distinct (h : refs.Distinct) : refs'.Distinct
  /-- What was entered is among the given targets. -/
  mem_targets {target : Target} (h : target ∈ refs'.targets) : target ∈ refs.targets ∨ target ∈ T

/-! ### Growing tables -/

theorem Token.targetsIn_mono (t : Token) {values values' : List String} (h : values ⊆ values') :
    t.targetsIn values ⊆ t.targetsIn values' :=
  fun _ ⟨value, hvalue, hs⟩ => ⟨value, h hvalue, hs⟩

namespace ReferenceTable.GrowsBy

variable {refs refs' refs'' : ReferenceTable} {T T' : Set Target}

theorem refl (refs : ReferenceTable) (T : Set Target) : refs.GrowsBy refs T where
  grown := .refl refs
  distinct := id
  mem_targets := Or.inl

theorem trans (h : refs.GrowsBy refs' T) (h' : refs'.GrowsBy refs'' T) : refs.GrowsBy refs'' T where
  grown := h.grown.trans h'.grown
  distinct := h'.distinct ∘ h.distinct
  mem_targets hmem := (h'.mem_targets hmem).elim h.mem_targets Or.inr

theorem mono (h : refs.GrowsBy refs' T) (hT : T ⊆ T') : refs.GrowsBy refs' T' :=
  { h with mem_targets := fun hmem => (h.mem_targets hmem).imp_right (hT ·) }

/-- A table grows by the targets of a value that is entered. -/
theorem enter (refs : ReferenceTable) (t : Token) (format : ConditionFormat) (value : String) :
    refs.GrowsBy (t.enter format refs value) (t.targetsIn [value]) :=
  have ⟨hext, hdist, hmem⟩ := t.enter_table format refs value
  { grown := hext
    distinct := hdist
    mem_targets := fun h => (hmem _ h).imp_right fun hs =>
      ⟨value, List.mem_singleton_self value, hs⟩ }

/-- A table grows by the targets of values that are entered one after the other. -/
theorem foldl_enter (refs : ReferenceTable) (t : Token) (format : ConditionFormat)
    (values : List String) :
    refs.GrowsBy (values.foldl (t.enter format) refs) (t.targetsIn values) := by
  induction values generalizing refs with
  | nil => exact .refl refs _
  | cons value values ih =>
    have hvalue : [value] ⊆ value :: values := List.cons_subset_cons value (List.nil_subset values)
    exact ((enter refs t format value).mono (t.targetsIn_mono hvalue)).trans
      ((ih _).mono (t.targetsIn_mono (List.subset_cons_self value values)))

/-- A table filled from nothing holds the given targets alone. -/
theorem mem_of_empty (h : ({} : ReferenceTable).GrowsBy refs T) {target : Target}
    (hmem : target ∈ refs.targets) : target ∈ T :=
  (h.mem_targets hmem).resolve_left (by simp [targets])

end ReferenceTable.GrowsBy

namespace Token

theorem accepted_cons_of_accepts {t : Token} {format : ConditionFormat} {value : String} {v : Value}
    (h : t.Accepts format value v) (values : List String) :
    t.accepted format (value :: values) = insert v (t.accepted format values) := by
  ext v'
  simp only [accepted, Set.mem_insert_iff, Set.mem_ofPred_eq, List.mem_cons, exists_eq_or_imp]
  exact or_congr_left ⟨fun h' => h'.unique h, fun h' => h' ▸ h⟩

theorem accepted_cons_of_not_accepts {t : Token} {format : ConditionFormat} {value : String}
    (h : ∀ v, ¬ t.Accepts format value v) (values : List String) :
    t.accepted format (value :: values) = t.accepted format values := by
  ext v'
  simp only [accepted, Set.mem_ofPred_eq, List.mem_cons, exists_eq_or_imp, h v', false_or]

end Token

/-! ### Growing entities -/

namespace Entity

variable {t : Token} {refs refs' : ReferenceTable} {e e' : Entity} {V : Set Value} {v : Value}

theorem holds_new (key : String) (t : Token) (refs : ReferenceTable) :
    ({ key } : Entity).Holds t refs ∅ where
  of_grant hg := nomatch hg
  exists_grant hv := nomatch hv
  of_choice hc := nomatch hc
  exists_choice hv := nomatch hv

/-- What an entity holds is read alike in every later table. -/
theorem Holds.mono (h : e.Holds t refs V) (hext : refs.Extends refs') : e.Holds t refs' V where
  of_grant hg :=
    let ⟨v, hv, hcov, hc⟩ := h.of_grant hg
    ⟨v, hv, hcov.mono hext, hc⟩
  exists_grant hv hs :=
    let ⟨g, hg, hcov, hc⟩ := h.exists_grant hv hs
    ⟨g, hg, hcov.mono hext, hc⟩
  of_choice := h.of_choice
  exists_choice := h.exists_choice

/-- An entity that gains what a value says holds that value too. -/
theorem Holds.gains (h : e.Holds t refs V) (hgains : e.Gains e' t refs v) :
    e'.Holds t refs (insert v V) where
  of_grant {g} hg := by
    obtain ⟨-, heq⟩ | ⟨p, hp, heq⟩ := hgains.grants
    · obtain ⟨v', hv', hcov⟩ := h.of_grant (heq ▸ hg)
      exact ⟨v', Or.inr hv', hcov⟩
    · rw [heq, List.mem_append, List.mem_singleton] at hg
      obtain hg | rfl := hg
      · obtain ⟨v', hv', hcov⟩ := h.of_grant hg
        exact ⟨v', Or.inr hv', hcov⟩
      · exact ⟨v, Or.inl rfl, hp, rfl⟩
  exists_grant {v'} hv' hs := by
    obtain ⟨hchoice, heq⟩ | ⟨p, hp, heq⟩ := hgains.grants
    · rw [heq]
      obtain rfl | hv' := hv'
      · obtain ⟨s, hs, hne⟩ := hs
        exact absurd (hchoice s hs) hne
      · exact h.exists_grant hv' hs
    · rw [heq]
      obtain rfl | hv' := hv'
      · exact ⟨_, List.mem_append_right _ (List.mem_singleton_self _), hp, rfl⟩
      · obtain ⟨g, hg, hcov⟩ := h.exists_grant hv' hs
        exact ⟨g, List.mem_append_left _ hg, hcov⟩
  of_choice {c} hc := by
    rw [hgains.choices, List.mem_append, List.mem_replicate] at hc
    obtain hc | ⟨hcount, rfl⟩ := hc
    · obtain ⟨v', hv', hcov⟩ := h.of_choice hc
      exact ⟨v', Or.inr hv', hcov⟩
    · exact ⟨v, Or.inl rfl, List.count_pos_iff.mp (Nat.pos_of_ne_zero hcount), rfl⟩
  exists_choice {v'} hv' hs := by
    rw [hgains.choices]
    obtain rfl | hv' := hv'
    · refine ⟨_, List.mem_append_right _ (List.mem_replicate.mpr ⟨?_, rfl⟩), rfl⟩
      exact (List.count_pos_iff.mpr hs).ne'
    · obtain ⟨c, hc, hcond⟩ := h.exists_choice hv' hs
      exact ⟨c, List.mem_append_left _ hc, hcond⟩

end Entity

/-! ### Reading in a context -/

namespace LoadContext

variable {ctx ctx' : LoadContext} {t : Token} {e e' : Entity} {value : String}
  {values : List String} {V : Set Value}

@[simp]
theorem decode_format (ctx : LoadContext) (t : Token) (e : Entity) (value : String) :
    (ctx.decode t e value).1.format = ctx.format := by
  rw [decode_eq]

/-- However a reading ends, the value was entered into the table. -/
theorem decode_fst (ctx : LoadContext) (t : Token) (e : Entity) (value : String) :
    (ctx.decode t e value).1 = { ctx with refs := t.enter ctx.format ctx.refs value } := by
  rw [decode_eq, t.decode_fst]

theorem growsBy_decode (ctx : LoadContext) (t : Token) (e : Entity) (value : String) :
    ctx.refs.GrowsBy (ctx.decode t e value).1.refs (t.targetsIn [value]) := by
  rw [decode_fst]
  exact .enter ctx.refs t ctx.format value

theorem growsBy_of_decode {result : Except DecodeError Entity}
    (h : ctx.decode t e value = (ctx', result)) (hvalue : value ∈ values) :
    ctx.refs.GrowsBy ctx'.refs (t.targetsIn values) := by
  have := ctx.growsBy_decode t e value
  rw [h] at this
  exact this.mono (t.targetsIn_mono (by simpa using hvalue))

theorem format_of_decode {result : Except DecodeError Entity}
    (h : ctx.decode t e value = (ctx', result)) : ctx'.format = ctx.format := by
  rw [← ctx.decode_format t e value, h]

/-- A value that was read is accepted, and the entity has gained what it says. -/
theorem decode_eq_ok (h : ctx.decode t e value = (ctx', .ok e')) :
    ∃ v, t.Accepts ctx.format value v ∧ e.Gains e' t ctx'.refs v :=
  Token.decode_eq_ok (token_decode_eq h)

/-- Reading a value leaves alone what other tokens attached. -/
theorem decode_frame (h : ctx.decode t e value = (ctx', .ok e')) {name : String}
    (hname : t.name ≠ name) :
    e'.grantsIn name = e.grantsIn name ∧ e'.choicesFrom name = e.choicesFrom name :=
  Token.decode_frame (token_decode_eq h) hname

theorem decode_of_accepts {v : Value} (h : t.Accepts ctx.format value v) (e : Entity) :
    ∃ ctx' e', ctx.decode t e value = (ctx', .ok e') := by
  obtain ⟨refs', e', h⟩ := Token.decode_of_accepts h ctx.refs e
  exact ⟨{ ctx with refs := refs' }, e', by rw [decode_eq, h]⟩

theorem not_accepts_of_decode {err : DecodeError} (h : ctx.decode t e value = (ctx', .error err))
    (v : Value) : ¬ t.Accepts ctx.format value v := fun hv => by
  obtain ⟨_, _, h'⟩ := decode_of_accepts hv e
  rw [h] at h'
  cases h'

/-- Reading one value brings what it says to what the entity holds. -/
theorem holds_of_decode (h : ctx.decode t e value = (ctx', .ok e')) (he : e.Holds t ctx.refs V) :
    ∃ v, t.Accepts ctx.format value v ∧ e'.Holds t ctx'.refs (insert v V) := by
  obtain ⟨v, hv, hgains⟩ := decode_eq_ok h
  exact ⟨v, hv,
    (he.mono (growsBy_of_decode h (List.mem_singleton_self value)).grown).gains hgains⟩

/-! ### Reading up to the first rejected value -/

theorem decodeAll_table {result : Except DecodeError Entity}
    (h : ctx.decodeAll t e values = (ctx', result)) :
    ctx'.format = ctx.format ∧ ctx.refs.GrowsBy ctx'.refs (t.targetsIn values) := by
  induction values generalizing ctx e with
  | nil =>
    cases h
    exact ⟨rfl, .refl _ _⟩
  | cons value values ih =>
    rw [decodeAll] at h
    split at h
    · next mid e₁ hdec =>
      obtain ⟨hformat, hgrows⟩ := ih h
      exact ⟨hformat.trans (format_of_decode hdec),
        (growsBy_of_decode hdec List.mem_cons_self).trans
          (hgrows.mono (t.targetsIn_mono (List.subset_cons_self value values)))⟩
    · next mid err hdec =>
      cases h
      exact ⟨format_of_decode hdec, growsBy_of_decode hdec List.mem_cons_self⟩

/-- Values whose targets are all in the table leave the context as it is. -/
theorem decodeAll_fst_of_found (h : ∀ T ∈ t.targetsIn values, (ctx.refs.find? T).isSome) :
    (ctx.decodeAll t e values).1 = ctx := by
  induction values generalizing e with
  | nil => rfl
  | cons value values ih =>
    have hfst : (ctx.decode t e value).1 = ctx := by
      rw [decode_fst, Token.enter_of_found fun s hs T hT =>
        h T ⟨value, List.mem_cons_self, s, hs, hT⟩]
    rw [decodeAll]
    split
    · next mid e₁ hdec =>
      rw [hdec] at hfst
      obtain rfl : mid = ctx := hfst
      exact ih fun T hT => h T (t.targetsIn_mono (List.subset_cons_self value values) hT)
    · next mid err hdec =>
      rw [hdec] at hfst
      exact hfst

/-- An entity onto which a list was read holds all that the values of the list say. -/
theorem holds_of_decodeAll (h : ctx.decodeAll t e values = (ctx', .ok e'))
    (he : e.Holds t ctx.refs V) :
    e'.Holds t ctx'.refs (t.accepted ctx.format values ∪ V) := by
  -- what the entity holds already is carried along, and each value is added to it
  induction values generalizing ctx e V with
  | nil =>
    cases h
    simpa [Token.accepted] using he
  | cons value values ih =>
    rw [decodeAll] at h
    split at h
    · next mid e₁ hdec =>
      obtain ⟨v, hv, he₁⟩ := holds_of_decode hdec he
      have := ih h he₁
      rwa [format_of_decode hdec, Set.union_insert, ← Set.insert_union,
        ← Token.accepted_cons_of_accepts hv] at this
    · cases h

/-- A list is read to its end exactly when all its values are accepted. -/
theorem decodeAll_isOk_iff :
    (∃ ctx' e', ctx.decodeAll t e values = (ctx', .ok e')) ↔
      ∀ value ∈ values, ∃ v, t.Accepts ctx.format value v := by
  induction values generalizing ctx e with
  | nil => simp [decodeAll]
  | cons value values ih =>
    rw [List.forall_mem_cons, decodeAll]
    cases hdec : ctx.decode t e value with
    | mk mid result =>
      cases result with
      | error err =>
        -- nothing after a rejected value is read
        exact iff_of_false (by simp) fun h =>
          h.1.elim (not_accepts_of_decode hdec)
      | ok e₁ =>
        dsimp only
        rw [ih, format_of_decode hdec, and_iff_right]
        exact (decode_eq_ok hdec).imp fun _ hv => hv.1

end LoadContext

/-! ### Reading past rejected values -/

namespace LoadContext

variable {ctx ctx' : LoadContext} {t : Token} {e e' : Entity} {values : List String} {V : Set Value}

/-- Reads values one after the other and attaches those that are accepted to the entity. -/
def decodeEach (ctx : LoadContext) (t : Token) (e : Entity) : List String → LoadContext × Entity
  | [] => (ctx, e)
  | value :: l =>
    let s := (ctx.read t e value).1
    s.ctx.decodeEach t s.entity l

theorem decodeEach_cons (ctx : LoadContext) (t : Token) (e : Entity) (value : String)
    (l : List String) :
    ctx.decodeEach t e (value :: l) =
      match ctx.decode t e value with
      | (ctx, .ok e) => ctx.decodeEach t e l
      | (ctx, .error _) => ctx.decodeEach t e l := by
  rw [decodeEach, read_eq]
  cases ctx.decode t e value with
  | mk mid result => cases result <;> rfl

/-- All values are entered into the table, those that are rejected among them. -/
theorem decodeEach_fst (ctx : LoadContext) (t : Token) (e : Entity) (values : List String) :
    (ctx.decodeEach t e values).1 =
      { ctx with refs := values.foldl (t.enter ctx.format) ctx.refs } := by
  induction values generalizing ctx e with
  | nil => rfl
  | cons value values ih =>
    have hmid := ctx.decode_fst t e value
    rw [decodeEach_cons]
    split
    · next mid e₁ hdec =>
      rw [hdec] at hmid
      obtain rfl : mid = _ := hmid
      exact ih _ e₁
    · next mid err hdec =>
      rw [hdec] at hmid
      obtain rfl : mid = _ := hmid
      exact ih _ e

theorem decodeEach_table (h : ctx.decodeEach t e values = (ctx', e')) :
    ctx'.format = ctx.format ∧ ctx.refs.GrowsBy ctx'.refs (t.targetsIn values) := by
  have hfst := ctx.decodeEach_fst t e values
  rw [h] at hfst
  obtain rfl := hfst
  exact ⟨rfl, .foldl_enter ctx.refs t ctx.format values⟩

/-- An entity onto which a list was read holds all that the accepted values of the list say. -/
theorem holds_of_decodeEach (h : ctx.decodeEach t e values = (ctx', e'))
    (he : e.Holds t ctx.refs V) :
    e'.key = e.key ∧ e'.Holds t ctx'.refs (t.accepted ctx.format values ∪ V) := by
  induction values generalizing ctx e V with
  | nil =>
    cases h
    exact ⟨rfl, by simpa [Token.accepted] using he⟩
  | cons value values ih =>
    rw [decodeEach_cons] at h
    split at h
    · next mid e₁ hdec =>
      obtain ⟨v, hv, he₁⟩ := holds_of_decode hdec he
      obtain ⟨hkey, hholds⟩ := ih h he₁
      obtain ⟨_, -, hgains⟩ := decode_eq_ok hdec
      rw [format_of_decode hdec, Set.union_insert, ← Set.insert_union,
        ← Token.accepted_cons_of_accepts hv] at hholds
      exact ⟨hkey.trans hgains.key, hholds⟩
    · next mid err hdec =>
      -- the entity stays as it was, in a table that may have grown
      have hgrown := (growsBy_of_decode hdec (List.mem_singleton_self value)).grown
      obtain ⟨hkey, hholds⟩ := ih h (he.mono hgrown)
      rw [format_of_decode hdec,
        ← Token.accepted_cons_of_not_accepts (not_accepts_of_decode hdec)] at hholds
      exact ⟨hkey, hholds⟩

/-- Where no value is rejected, none is skipped. -/
theorem decodeEach_of_decodeAll (h : ctx.decodeAll t e values = (ctx', .ok e')) :
    ctx.decodeEach t e values = (ctx', e') := by
  induction values generalizing ctx e with
  | nil =>
    cases h
    rfl
  | cons value values ih =>
    rw [decodeAll] at h
    split at h
    · next mid e₁ hdec =>
      rw [decodeEach_cons, hdec]
      exact ih h
    · cases h

/-- The report has no part in reading. -/
theorem decodeEach_report (ctx : LoadContext) (report : Report) (t : Token) (e : Entity)
    (values : List String) :
    { ctx with report }.decodeEach t e values =
      ({ (ctx.decodeEach t e values).1 with report }, (ctx.decodeEach t e values).2) := by
  induction values generalizing ctx e with
  | nil => rfl
  | cons value values ih =>
    cases hdec : t.decode ctx.format ctx.refs e value with
    | mk refs result =>
      cases result <;> simp only [decodeEach_cons, decode_eq, hdec] <;> exact ih { ctx with refs } _

end LoadContext

end GrantList
