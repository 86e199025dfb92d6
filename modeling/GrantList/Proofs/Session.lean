import GrantList.Proofs.RoundTrip
import GrantList.Proofs.Sense

/-!
# Many entities in one context

The definitions of a load are read into one context, value by value and in any order. Each entity
holds what the accepted ones among its own values say, whatever was read onto others in between
(`LoadContext.isLoaded_of_decodeOnto`). Only the spellings in the table are shared.

Main result: `LoadContext.encode_eq_iff_said_eq`. In a context that has seen nothing but plain
values, two entities are written as the same list exactly when their values say the same.
-/

namespace GrantList

/-- A value that is to be read onto an entity. -/
structure Reading where
  /-- The number of the entity. -/
  entity : Nat
  /-- The value. -/
  value : String
deriving DecidableEq, Repr

/-- The values that are read onto one entity, in their order. -/
def Reading.valuesOf (entity : Nat) (readings : List Reading) : List String :=
  (readings.filter (·.entity == entity)).map (·.value)

namespace Reading

theorem valuesOf_cons_self (r : Reading) (readings : List Reading) :
    valuesOf r.entity (r :: readings) = r.value :: valuesOf r.entity readings := by
  simp [valuesOf]

theorem valuesOf_cons_of_ne {r : Reading} {i : Nat} (h : r.entity ≠ i) (readings : List Reading) :
    valuesOf i (r :: readings) = valuesOf i readings := by
  simp [valuesOf, h]

end Reading

namespace LoadContext

/-- Reads values onto entities, one after the other, and attaches those that are accepted. -/
def decodeOnto (ctx : LoadContext) (t : Token) (entities : Nat → Entity) :
    List Reading → LoadContext × (Nat → Entity)
  | [] => (ctx, entities)
  | r :: l =>
    let s := (ctx.read t (entities r.entity) r.value).1
    s.ctx.decodeOnto t (Function.update entities r.entity s.entity) l

variable {ctx ctx' : LoadContext} {t : Token} {entities entities' : Nat → Entity}
  {readings : List Reading} {values values' : List String}

theorem decodeOnto_cons (ctx : LoadContext) (t : Token) (entities : Nat → Entity) (r : Reading)
    (l : List Reading) :
    ctx.decodeOnto t entities (r :: l) =
      match ctx.decode t (entities r.entity) r.value with
      | (ctx, .ok e) => ctx.decodeOnto t (Function.update entities r.entity e) l
      | (ctx, .error _) => ctx.decodeOnto t entities l := by
  rw [decodeOnto, read_eq]
  cases ctx.decode t (entities r.entity) r.value with
  | mk mid result =>
    cases result with
    | ok e => rfl
    | error err => dsimp only; rw [Function.update_eq_self]

/-- All values are entered into the one table, in the order in which they are read. -/
theorem decodeOnto_fst (ctx : LoadContext) (t : Token) (entities : Nat → Entity)
    (readings : List Reading) :
    (ctx.decodeOnto t entities readings).1 =
      { ctx with refs := (readings.map (·.value)).foldl (t.enter ctx.format) ctx.refs } := by
  induction readings generalizing ctx entities with
  | nil => rfl
  | cons r readings ih =>
    have hmid := ctx.decode_fst t (entities r.entity) r.value
    rw [decodeOnto_cons]
    split
    · next mid e hdec =>
      rw [hdec] at hmid
      obtain rfl : mid = _ := hmid
      exact ih _ _
    · next mid err hdec =>
      rw [hdec] at hmid
      obtain rfl : mid = _ := hmid
      exact ih _ _

theorem decodeOnto_table (h : ctx.decodeOnto t entities readings = (ctx', entities')) :
    ctx'.format = ctx.format ∧
      ctx.refs.GrowsBy ctx'.refs (t.targetsIn (readings.map (·.value))) := by
  have hfst := ctx.decodeOnto_fst t entities readings
  rw [h] at hfst
  obtain rfl := hfst
  exact ⟨rfl, .foldl_enter ctx.refs t ctx.format _⟩

/-- An entity holds what the accepted ones of its own values say. -/
theorem holds_of_decodeOnto (h : ctx.decodeOnto t entities readings = (ctx', entities'))
    (i : Nat) {V : Set Value} (he : (entities i).Holds t ctx.refs V) :
    (entities' i).Holds t ctx'.refs
      (t.accepted ctx.format (Reading.valuesOf i readings) ∪ V) := by
  induction readings generalizing ctx entities V with
  | nil =>
    cases h
    simpa [Reading.valuesOf, Token.accepted] using he
  | cons r readings ih =>
    rw [decodeOnto_cons] at h
    cases hdec : ctx.decode t (entities r.entity) r.value with
    | mk mid result =>
      have hgrown := (growsBy_of_decode hdec (List.mem_singleton_self r.value)).grown
      rw [hdec] at h
      by_cases hi : r.entity = i
      · subst hi
        rw [Reading.valuesOf_cons_self]
        cases result with
        | ok e =>
          obtain ⟨v, hv, he₁⟩ := holds_of_decode hdec he
          have hholds := ih h (by rwa [Function.update_self])
          rwa [format_of_decode hdec, Set.union_insert, ← Set.insert_union,
            ← Token.accepted_cons_of_accepts hv] at hholds
        | error err =>
          have hholds := ih h (he.mono hgrown)
          rwa [format_of_decode hdec,
            ← Token.accepted_cons_of_not_accepts (not_accepts_of_decode hdec)] at hholds
      · -- what is read onto another entity only grows the table
        rw [Reading.valuesOf_cons_of_ne hi, ← format_of_decode hdec]
        cases result with
        | ok e => exact ih h (by rw [Function.update_of_ne (Ne.symm hi)]; exact he.mono hgrown)
        | error err => exact ih h (he.mono hgrown)

/-- Every entity of a context that was empty at first is loaded with its own values. -/
theorem isLoaded_of_decodeOnto {keys : Nat → String}
    (hread : ({} : LoadContext).decodeOnto .shieldProf (fun i => { key := keys i }) readings =
      (ctx, entities)) (i : Nat) :
    (entities i).IsLoaded .verbatim ctx.refs (Reading.valuesOf i readings) where
  holds := by
    have hholds := holds_of_decodeOnto hread i (Entity.holds_new (keys i) .shieldProf {})
    rwa [Set.union_empty] at hholds
  wellFormed := (decodeOnto_table hread).2.wellFormed (ReferenceTable.wellFormed_empty .shieldProf)

/-- In a context in which only plain values have been read, accepted or not, two entities are
written as the same list exactly when their values say the same. -/
theorem encode_eq_iff_said_eq {keys : Nat → String}
    (hplain : ∀ r ∈ readings, Value.IsPlain r.value)
    (hread : ({} : LoadContext).decodeOnto .shieldProf (fun i => { key := keys i }) readings =
      (ctx, entities)) {i j : Nat}
    (hwrite : ctx.encode .shieldProf (entities i) = .ok values)
    (hwrite' : ctx.encode .shieldProf (entities j) = .ok values') :
    values = values' ↔
      Value.grantsSaid (Reading.valuesOf i readings) =
          Value.grantsSaid (Reading.valuesOf j readings) ∧
        Value.choicesSaid (Reading.valuesOf i readings) =
          Value.choicesSaid (Reading.valuesOf j readings) := by
  have he := isLoaded_of_decodeOnto hread i
  have he' := isLoaded_of_decodeOnto hread j
  obtain ⟨hformat, hgrows⟩ := decodeOnto_table hread
  have hnames : ∀ e : Entity, e.KeepsNames ctx.refs :=
    Entity.keepsNames_of_isPlain (List.forall_mem_map.mpr hplain) hgrows
  have hback := he.readsBack_of_keepsNames (hnames _)
  have hback' := he'.readsBack_of_keepsNames (hnames _)
  rw [encode, hformat] at hwrite hwrite'
  rw [← he.shapes_eq_iff_said_eq he']
  constructor
  · rintro rfl
    exact he.shapes_eq_of_encode_eq he' hback hback' hwrite hwrite'
  · rintro ⟨hgrants, hchoices⟩
    have hsame := he.encode_eq_of_shapes_eq he' ConditionFormat.stable_verbatim hgrants hchoices
    exact Except.ok.inj (hwrite.symm.trans (hsame.trans hwrite'))

/-- A name with a blank and the same name twice in other cases, beside a choice or not, and a value
that is rejected in between: the two entities say the same. -/
theorem encode_eq_iff_said_eq_interleaved :
    ∃ readings : List Reading, readings = [⟨0, "buckler |%LIST"⟩, ⟨1, "%LIST"⟩, ⟨1, "Kite|ALL"⟩,
        ⟨0, "Tower[x]"⟩, ⟨1, "tower[x]"⟩, ⟨1, "Buckler|BUCKLER"⟩] ∧
      (∀ r ∈ readings, Value.IsPlain r.value) ∧
        ∃ ctx entities, ({} : LoadContext).decodeOnto .shieldProf (fun _ => { key := "A" })
            readings = (ctx, entities) ∧
          ctx.encode .shieldProf (entities 0) = .ok ["%LIST", "Tower[x]", "buckler"] ∧
          ctx.encode .shieldProf (entities 1) = .ok ["%LIST", "Tower[x]", "buckler"] ∧
          Value.grantsSaid (Reading.valuesOf 0 readings) =
              Value.grantsSaid (Reading.valuesOf 1 readings) ∧
            Value.choicesSaid (Reading.valuesOf 0 readings) =
              Value.choicesSaid (Reading.valuesOf 1 readings) := by
  obtain ⟨readings, hreadings⟩ : ∃ readings : List Reading, readings =
      [⟨0, "buckler |%LIST"⟩, ⟨1, "%LIST"⟩, ⟨1, "Kite|ALL"⟩, ⟨0, "Tower[x]"⟩, ⟨1, "tower[x]"⟩,
        ⟨1, "Buckler|BUCKLER"⟩] := ⟨_, rfl⟩
  have hplain : ∀ r ∈ readings, Value.IsPlain r.value := by
    rw [hreadings]
    decide +kernel
  have hwrites : ∀ i ∈ [0, 1],
      ((({} : LoadContext).decodeOnto .shieldProf (fun _ => { key := "A" }) readings).1.encode
        .shieldProf ((({} : LoadContext).decodeOnto .shieldProf (fun _ => { key := "A" })
          readings).2 i)).toOption = some ["%LIST", "Tower[x]", "buckler"] := by
    rw [hreadings]
    decide +kernel
  obtain ⟨ctx, entities, hread⟩ : ∃ ctx entities,
      ({} : LoadContext).decodeOnto .shieldProf (fun _ => { key := "A" }) readings =
        (ctx, entities) := ⟨_, _, rfl⟩
  rw [hread] at hwrites
  have hwrite := eq_ok_of_toOption_eq_some (hwrites 0 (by decide))
  have hwrite' := eq_ok_of_toOption_eq_some (hwrites 1 (by decide))
  exact ⟨readings, hreadings, hplain, ctx, entities, hread, hwrite, hwrite',
    (encode_eq_iff_said_eq hplain hread hwrite hwrite').mp rfl⟩

end LoadContext

end GrantList
