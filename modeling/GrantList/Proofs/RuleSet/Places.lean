import GrantList.Proofs.Loading
import GrantList.Proofs.Text.LetterCase
import GrantList.Proofs.Value.Fault
import GrantList.RuleSet
import Mathlib.Data.List.Induction

/-!
# What compiling makes of each record

Compiling threads a table, a report and the keys seen so far through all records and their values.
What comes of a record can be told without following the run, from the record and those before it
(`RuleSet.Place`). It counts if its key is not blank and no earlier one is the same in lower case.
A record that counts gives the entity that its values are read onto, and one error for each of them
that is rejected. Any other record gives one error, and its values are not read.

Main result: `RuleSet.compile_accounts_for_records`.
-/

namespace GrantList

/-! ### Errors for rejected values -/

/-- The error with which the token rejects the value, if it does. It is the same for every table and
every entity (`Token.rejection?_eq_some_iff`). -/
def Token.rejection? (t : Token) (format : ConditionFormat) (value : String) :
    Option DecodeError :=
  match (LoadContext.read { format } t { key := "" } value).2 with
  | .ok _ => none
  | .error err => some err

namespace Token

variable {t : Token} {format : ConditionFormat} {refs : ReferenceTable} {e e' : Entity}
  {value : String} {err : DecodeError}

theorem rejection?_eq (t : Token) (format : ConditionFormat) (value : String) :
    t.rejection? format value =
      match (t.decode format {} { key := "" } value).2 with
      | .ok _ => none
      | .error err => some err := by
  rw [rejection?, LoadContext.read_eq, LoadContext.decode_eq]
  cases (t.decode format {} { key := "" } value).2 <;> rfl

theorem rejection?_of_error (h : (t.decode format refs e value).2 = .error err) :
    t.rejection? format value = some err := by
  rw [rejection?_eq]
  obtain ⟨cause, hres, hfirst⟩ | ⟨⟨e', hres⟩, hno⟩ := t.decode_result format refs e value
  · obtain ⟨cause', hres', hfirst'⟩ | ⟨-, hno⟩ := t.decode_result format {} { key := "" } value
    · rw [hres', hfirst'.unique hfirst, Except.error.inj (h.symm.trans hres)]
    · exact absurd hfirst.1 (hno cause)
  · cases h.symm.trans hres

theorem rejection?_of_ok (h : (t.decode format refs e value).2 = .ok e') :
    t.rejection? format value = none := by
  rw [rejection?_eq]
  obtain ⟨cause, hres, -⟩ | ⟨-, hno⟩ := t.decode_result format refs e value
  · cases h.symm.trans hres
  · obtain ⟨cause, -, hfirst⟩ | ⟨⟨e', hres'⟩, -⟩ := t.decode_result format {} { key := "" } value
    · exact absurd hfirst.1 (hno cause)
    · rw [hres']

end Token

/-- The context with diagnostics added at the end of its report. -/
def LoadContext.pushAll (ctx : LoadContext) (l : List Diagnostic) : LoadContext :=
  { ctx with report := { diagnostics := ctx.report.diagnostics ++ l } }

namespace LoadContext

theorem pushAll_nil (ctx : LoadContext) : ctx.pushAll [] = ctx := by
  rw [pushAll, List.append_nil]

theorem pushAll_append (ctx : LoadContext) (l l' : List Diagnostic) :
    ctx.pushAll (l ++ l') = (ctx.pushAll l).pushAll l' := by
  rw [pushAll, pushAll, pushAll, List.append_assoc]

theorem push_eq_pushAll (ctx : LoadContext) (severity : Severity) (context message : String) :
    ctx.push severity context message = ctx.pushAll [{ severity, context, message }] :=
  rfl

/-- What was reported before has no part in reading, and stays in the report. -/
theorem decodeEach_pushAll (ctx : LoadContext) (l : List Diagnostic) (t : Token) (e : Entity)
    (values : List String) :
    (ctx.pushAll l).decodeEach t e values =
      ((ctx.decodeEach t e values).1.pushAll l, (ctx.decodeEach t e values).2) := by
  rw [pushAll, decodeEach_report, pushAll, decodeEach_fst]

end LoadContext

namespace EntityRecord

/-- The errors for the values that are rejected, from position `index` on. -/
def rejectionsFrom (key : String) (format : ConditionFormat) (index : Nat)
    (values : List String) : List Diagnostic :=
  (values.zipIdx index).filterMap fun (value, j) =>
    (Token.shieldProf.rejection? format value).map fun err =>
      { severity := .error
        context := key ++ ".auto_shieldprof[" ++ toString j ++ "]"
        message := err.message }

/-- The errors for the values of a record that are rejected. -/
def rejections (record : EntityRecord) (format : ConditionFormat) : List Diagnostic :=
  rejectionsFrom record.key format 0 record.values

/-- Values are read as if none were reported, and then one error is there for each that was
rejected. -/
theorem decodeValues_eq_decodeEach (key : String) (index : Nat) (ctx : LoadContext) (e : Entity)
    (values : List String) :
    decodeValues key index ctx e values =
      ((ctx.decodeEach .shieldProf e values).1.pushAll
          (rejectionsFrom key ctx.format index values),
        (ctx.decodeEach .shieldProf e values).2) := by
  induction values generalizing ctx e index with
  | nil => exact Prod.ext (LoadContext.pushAll_nil ctx).symm rfl
  | cons value values ih =>
    rw [decodeValues, LoadContext.read_eq, LoadContext.decodeEach_cons, rejectionsFrom,
      List.zipIdx_cons, List.filterMap_cons]
    cases hdec : ctx.decode .shieldProf e value with
    | mk mid result =>
      have hformat : mid.format = ctx.format := LoadContext.format_of_decode hdec
      have hresult := congrArg Prod.snd (LoadContext.token_decode_eq hdec)
      cases result with
      | ok e₁ =>
        dsimp only
        rw [Token.rejection?_of_ok hresult, ih, hformat]
        rfl
      | error err =>
        dsimp only
        rw [Token.rejection?_of_error hresult, LoadContext.push_eq_pushAll, ih,
          LoadContext.decodeEach_pushAll, ← LoadContext.pushAll_append, ← hformat]
        rfl

theorem compile_eq_decodeEach (record : EntityRecord) (ctx : LoadContext) :
    record.compile ctx =
      ((ctx.decodeEach .shieldProf { key := record.key } record.values).1.pushAll
          (record.rejections ctx.format),
        (ctx.decodeEach .shieldProf { key := record.key } record.values).2) :=
  decodeValues_eq_decodeEach record.key 0 ctx { key := record.key } record.values

end EntityRecord

namespace RuleSet

/-! ### Records at their places -/

/-- A record with the records that stand before it. -/
structure Place where
  /-- The records before it. -/
  before : List EntityRecord
  /-- The record. -/
  record : EntityRecord

/-- The record counts: its key is not blank, and it differs in lower case from every earlier key
that is not blank. -/
def Place.Counts (p : Place) : Prop :=
  Text.isBlankText p.record.key = false ∧ ∀ earlier ∈ p.before,
    Text.isBlankText earlier.key = false →
      Text.lowerCase earlier.key ≠ Text.lowerCase p.record.key

instance : DecidablePred Place.Counts := fun _ =>
  inferInstanceAs (Decidable (_ ∧ _))

/-- The places of records that come after the records `before`. -/
def placesFrom (before : List EntityRecord) : List EntityRecord → List Place
  | [] => []
  | record :: l => ⟨before, record⟩ :: placesFrom (before ++ [record]) l

/-- The places of records. -/
def places (records : List EntityRecord) : List Place :=
  placesFrom [] records

/-- The places of the records that count. -/
def counted (records : List EntityRecord) : List Place :=
  (places records).filter (·.Counts)

/-- The context after the values of the records that count have been entered into the table, in the
order of the records and of the values. Nothing is reported. -/
def contextAfter (ctx : LoadContext) (records : List EntityRecord) : LoadContext :=
  { ctx with
    refs := ((counted records).flatMap (·.record.values)).foldl
      (Token.shieldProf.enter ctx.format) ctx.refs }

/-- The entity onto which the values of the record are read, those that are rejected left out. -/
def Place.entity (p : Place) (ctx : LoadContext) : Entity :=
  ((contextAfter ctx p.before).decodeEach .shieldProf { key := p.record.key } p.record.values).2

/-- What is reported of the record: the values that are rejected if it counts, and otherwise why it
is left out. -/
def Place.diagnostics (p : Place) (format : ConditionFormat) : List Diagnostic :=
  if p.Counts then p.record.rejections format
  else
    [{ severity := .error
       context := "entities[" ++ toString p.before.length ++ "].key"
       message :=
        if Text.isBlankText p.record.key then "missing non-empty 'key'"
        else "duplicate key '" ++ p.record.key ++ "'" }]

variable {before records : List EntityRecord} {record : EntityRecord} {p : Place}
  {ctx : LoadContext} {seen : List String}

theorem placesFrom_append (before l l' : List EntityRecord) :
    placesFrom before (l ++ l') = placesFrom before l ++ placesFrom (before ++ l) l' := by
  induction l generalizing before with
  | nil => rw [placesFrom, List.nil_append, List.nil_append, List.append_nil]
  | cons record l ih =>
    rw [List.cons_append, placesFrom, placesFrom, ih, List.append_assoc]
    rfl

theorem places_append_singleton (before : List EntityRecord) (record : EntityRecord) :
    places (before ++ [record]) = places before ++ [⟨before, record⟩] :=
  placesFrom_append [] before [record]

/-- A place is a way to cut the records in two before one of them. -/
theorem mem_places_iff : p ∈ places records ↔ ∃ later, records = p.before ++ p.record :: later := by
  induction records using List.reverseRecOn with
  | nil => exact ⟨nofun, fun ⟨later, h⟩ => by simp at h⟩
  | append_singleton before record ih =>
    rw [places_append_singleton, List.mem_append, List.mem_singleton, ih]
    constructor
    · rintro (⟨later, rfl⟩ | rfl)
      · exact ⟨later ++ [record], by rw [List.append_assoc, List.cons_append]⟩
      · exact ⟨[], rfl⟩
    · rintro ⟨later, h⟩
      obtain rfl | ⟨later, last, rfl⟩ := List.eq_nil_or_concat later
      · obtain ⟨hbefore, hrecord⟩ := List.append_inj' h rfl
        obtain rfl := List.cons.inj hrecord |>.1
        exact Or.inr (by rw [hbefore])
      · rw [List.concat_eq_append, ← List.cons_append, ← List.append_assoc] at h
        exact Or.inl ⟨later, (List.append_inj' h rfl).1⟩

theorem record_mem_of_mem_places (h : p ∈ places records) : p.record ∈ records := by
  obtain ⟨later, heq⟩ := mem_places_iff.mp h
  rw [heq]
  exact List.mem_append_right _ List.mem_cons_self

/-! ### The records that count -/

theorem counted_append (before later : List EntityRecord) :
    counted (before ++ later) =
      counted before ++ (placesFrom before later).filter (·.Counts) := by
  rw [counted, places, placesFrom_append, List.filter_append]
  rfl

theorem counted_append_singleton (before : List EntityRecord) (record : EntityRecord) :
    counted (before ++ [record]) =
      counted before ++ if Place.Counts ⟨before, record⟩ then [⟨before, record⟩] else [] := by
  rw [counted_append, placesFrom, placesFrom, List.filter_singleton]
  simp only [Bool.cond_decide]

/-- The keys of the records that count differ in lower case. -/
theorem pairwise_counted (records : List EntityRecord) :
    (counted records).Pairwise fun p q =>
      Text.lowerCase p.record.key ≠ Text.lowerCase q.record.key := by
  induction records using List.reverseRecOn with
  | nil => exact .nil
  | append_singleton before record ih =>
    rw [counted_append_singleton]
    split
    · next hcounts =>
      refine List.pairwise_append.mpr ⟨ih, List.pairwise_singleton _ _, fun p hp q hq => ?_⟩
      obtain rfl := List.mem_singleton.mp hq
      obtain ⟨hplace, hp⟩ := List.mem_filter.mp hp
      exact hcounts.2 _ (record_mem_of_mem_places hplace) (of_decide_eq_true hp).1
    · rwa [List.append_nil]

theorem contextAfter_append_of_counts (h : Place.Counts ⟨before, record⟩) (ctx : LoadContext) :
    contextAfter ctx (before ++ [record]) =
      ((contextAfter ctx before).decodeEach .shieldProf { key := record.key } record.values).1 := by
  rw [LoadContext.decodeEach_fst, contextAfter, counted_append_singleton, if_pos h,
    List.flatMap_append, List.foldl_append, List.flatMap_singleton]
  rfl

theorem contextAfter_append_of_not_counts (h : ¬ Place.Counts ⟨before, record⟩)
    (ctx : LoadContext) : contextAfter ctx (before ++ [record]) = contextAfter ctx before := by
  rw [contextAfter, counted_append_singleton, if_neg h, List.append_nil]
  rfl

theorem Place.key_entity (p : Place) (ctx : LoadContext) : (p.entity ctx).key = p.record.key :=
  (LoadContext.holds_of_decodeEach (rfl : LoadContext.decodeEach _ _ _ _ = (_, p.entity ctx))
    (Entity.holds_new _ _ _)).1

/-! ### The run through the records -/

/-- The list holds the lower-case forms of the keys of the records that are not blank. -/
def Remembers (seen : List String) (before : List EntityRecord) : Prop :=
  ∀ form, form ∈ seen ↔
    ∃ earlier ∈ before, Text.isBlankText earlier.key = false ∧ Text.lowerCase earlier.key = form

theorem remembers_nil : Remembers [] [] := fun form => by simp

theorem Remembers.counts_iff (h : Remembers seen before) :
    Place.Counts ⟨before, record⟩ ↔
      Text.isBlankText record.key = false ∧ Text.lowerCase record.key ∉ seen := by
  rw [Place.Counts, h]
  simp only [not_exists, not_and, ne_eq]

/-- The form of a key that counts is added, while that of a blank one or of one that is there
already is not. -/
theorem Remembers.append (h : Remembers seen before) (record : EntityRecord) :
    Remembers
      (if Place.Counts ⟨before, record⟩ then Text.lowerCase record.key :: seen else seen)
      (before ++ [record]) := by
  intro form
  simp only [List.mem_append, List.mem_singleton, or_and_right, exists_or, exists_eq_left,
    ← h form]
  split
  · next hcounts =>
    rw [List.mem_cons, or_comm, eq_comm, and_iff_right hcounts.1]
  · next hcounts =>
    rw [h.counts_iff, not_and, not_not] at hcounts
    refine (or_iff_left_of_imp ?_).symm
    rintro ⟨hkey, rfl⟩
    exact hcounts hkey

theorem compileFrom_cons_of_counts (hseen : Remembers seen before)
    (h : Place.Counts ⟨before, record⟩) (index : Nat) (ctx : LoadContext)
    (l : List EntityRecord) :
    compileFrom index seen ctx (record :: l) =
      let (ctx, e) := record.compile ctx
      let (ctx, entities) := compileFrom (index + 1) (Text.lowerCase record.key :: seen) ctx l
      (ctx, e :: entities) := by
  obtain ⟨hkey, hnew⟩ := hseen.counts_iff.mp h
  rw [compileFrom]
  simp only [hkey, Bool.false_eq_true, if_false, if_neg hnew]

theorem compileFrom_cons_of_not_counts (hseen : Remembers seen before)
    (h : ¬ Place.Counts ⟨before, record⟩) (ctx : LoadContext) (l : List EntityRecord) :
    compileFrom before.length seen ctx (record :: l) =
      compileFrom (before.length + 1) seen
        (ctx.pushAll (Place.diagnostics ⟨before, record⟩ ctx.format)) l := by
  rw [compileFrom, Place.diagnostics, if_neg h]
  cases hkey : Text.isBlankText record.key with
  | true => rfl
  | false =>
    have hknown : Text.lowerCase record.key ∈ seen := by
      by_contra hnew
      exact h (hseen.counts_iff.mpr ⟨hkey, hnew⟩)
    simp only [Bool.false_eq_true, if_false, if_pos hknown]
    rfl

/-- The run through the records `records` after `before`, where `errors` is what has been reported
so far. -/
theorem compileFrom_eq (hseen : Remembers seen before) (ctx : LoadContext)
    (errors : List Diagnostic) (records : List EntityRecord) :
    compileFrom before.length seen ((contextAfter ctx before).pushAll errors) records =
      ((contextAfter ctx (before ++ records)).pushAll
          (errors ++ (placesFrom before records).flatMap (·.diagnostics ctx.format)),
        ((placesFrom before records).filter (·.Counts)).map (·.entity ctx)) := by
  induction records generalizing before seen errors with
  | nil => simp [compileFrom, placesFrom]
  | cons record records ih =>
    have hnext := hseen.append record
    have hlength : (before ++ [record]).length = before.length + 1 := List.length_append
    have happend : before ++ [record] ++ records = before ++ record :: records :=
      List.append_cons before record records |>.symm
    rw [placesFrom, List.flatMap_cons, List.filter_cons]
    by_cases hcounts : Place.Counts ⟨before, record⟩
    · -- the record is compiled, and its errors come before those of the rest
      rw [if_pos hcounts] at hnext
      have hrest := ih hnext (errors ++ record.rejections ctx.format)
      rw [contextAfter_append_of_counts hcounts, happend, hlength] at hrest
      rw [compileFrom_cons_of_counts hseen hcounts, EntityRecord.compile_eq_decodeEach,
        LoadContext.decodeEach_pushAll, ← LoadContext.pushAll_append,
        if_pos (decide_eq_true hcounts), Place.diagnostics, if_pos hcounts, ← List.append_assoc,
        List.map_cons]
      exact congrArg (fun run => (run.1, _ :: run.2)) hrest
    · rw [if_neg hcounts] at hnext
      have hrest := ih hnext (errors ++ Place.diagnostics ⟨before, record⟩ ctx.format)
      rw [contextAfter_append_of_not_counts hcounts, happend, hlength] at hrest
      rw [compileFrom_cons_of_not_counts hseen hcounts, ← LoadContext.pushAll_append,
        if_neg (mt of_decide_eq_true hcounts), ← List.append_assoc]
      exact hrest

theorem compile_eq (rules : RuleSet) (ctx : LoadContext) :
    rules.compile ctx =
      ((contextAfter ctx rules.entities).pushAll
          ((places rules.entities).flatMap (·.diagnostics ctx.format)),
        (counted rules.entities).map (·.entity ctx)) := by
  have hrun := compileFrom_eq remembers_nil ctx [] rules.entities
  rwa [LoadContext.pushAll_nil] at hrun

/-! ### Looking up -/

/-- The keys of the entities differ in lower case. -/
theorem pairwise_key_compile (rules : RuleSet) (ctx : LoadContext) :
    (rules.compile ctx).2.Pairwise fun e e' => Text.lowerCase e.key ≠ Text.lowerCase e'.key := by
  rw [compile_eq, List.pairwise_map]
  simp only [Place.key_entity]
  exact pairwise_counted rules.entities

end RuleSet

end GrantList
