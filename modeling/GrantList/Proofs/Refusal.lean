import GrantList.Proofs.Shape

/-!
# When writing is refused

An entity is inconsistent (`Entity.IsInconsistent`) when it grants everything without condition and
has anything else beside it: another grant, or a choice. The writer does not see this. It compares
texts, and a single name may be written like the marker of everything, since the blanks that kept
the two apart in reading are gone. It refuses an entity that looks inconsistent
(`Entity.LooksInconsistent`), and the two agree as soon as no name is spelled `ALL`.

Main results:

* `Entity.IsLoaded.exists_encode_eq`: an entity is written unless it looks inconsistent, and
  `Entity.IsLoaded.exists_encode_eq_of_readsBack`: unless it is inconsistent, if its names are read
  back.
* `LoadContext.encode_refused_iff`: which entities are refused, in terms of the values they were
  read from.
-/

namespace GrantList

/-- The grant gives everything without condition. -/
def Grant.IsEverything (g : Grant) : Prop :=
  g.payload.isAll = true ∧ g.condition = none

instance : DecidablePred Grant.IsEverything :=
  fun _ => inferInstanceAs (Decidable (_ ∧ _))

/-- The token granted everything without condition to the entity, and something else beside it. -/
def Entity.IsInconsistent (e : Entity) (t : Token) : Prop :=
  (∃ g ∈ e.grantsIn t.name, g.IsEverything) ∧
    (e.choicesFrom t.name ≠ [] ∨ ∃ g ∈ e.grantsIn t.name, ¬ g.IsEverything)

instance (e : Entity) (t : Token) : Decidable (e.IsInconsistent t) :=
  inferInstanceAs (Decidable (_ ∧ _))

/-- The payload is a single name that is spelled like the marker of everything. -/
def Payload.IsNamedAll (p : Payload) (refs : ReferenceTable) : Prop :=
  ∃ r, p = .refs [r] [] ∧ refs.target? r = some (.named .shieldProf Value.allMarker)

/-- The grant is written like everything without condition: it is that, or a single name that is
spelled like the marker. -/
def Grant.LooksLikeEverything (g : Grant) (refs : ReferenceTable) : Prop :=
  (g.payload.isAll = true ∨ g.payload.IsNamedAll refs) ∧ g.condition = none

/-- Some grant of the token is written like everything without condition, and there is something
else beside it that is not. -/
def Entity.LooksInconsistent (e : Entity) (t : Token) (refs : ReferenceTable) : Prop :=
  (∃ g ∈ e.grantsIn t.name, g.LooksLikeEverything refs) ∧
    (e.choicesFrom t.name ≠ [] ∨ ∃ g ∈ e.grantsIn t.name, ¬ g.LooksLikeEverything refs)

/-- An entity looks inconsistent only if it is, provided that no grant merely looks like
everything. -/
theorem Entity.looksInconsistent_iff {e : Entity} {t : Token} {refs : ReferenceTable}
    (h : ∀ g ∈ e.grantsIn t.name, ¬ g.payload.IsNamedAll refs) :
    e.LooksInconsistent t refs ↔ e.IsInconsistent t := by
  have hlooks : ∀ g ∈ e.grantsIn t.name, (g.LooksLikeEverything refs ↔ g.IsEverything) :=
    fun g hg => by rw [Grant.LooksLikeEverything, or_iff_left (h g hg), Grant.IsEverything]
  have hsome : (∃ g ∈ e.grantsIn t.name, g.LooksLikeEverything refs) ↔
      ∃ g ∈ e.grantsIn t.name, g.IsEverything :=
    exists_congr fun g => and_congr_right (hlooks g)
  have hother : (∃ g ∈ e.grantsIn t.name, ¬ g.LooksLikeEverything refs) ↔
      ∃ g ∈ e.grantsIn t.name, ¬ g.IsEverything :=
    exists_congr fun g => and_congr_right fun hg => not_congr (hlooks g hg)
  rw [LooksInconsistent, IsInconsistent, hsome, hother]

namespace Value

variable {t : Token} {format : ConditionFormat}

/-- Only a missing condition has no text. -/
theorem conditionText_eq_none_iff {condition : Option Condition} :
    conditionText t format condition = .ok none ↔ condition = none := by
  cases condition with
  | none => simp [conditionText]
  | some condition =>
    rw [conditionText]
    cases format.write condition <;> simp

theorem segmentsOf_allMarker (t : Token) : segmentsOf t allMarker = [.all] := by
  have hparts : partsOf allMarker = [allMarker] := by decide
  rw [segmentsOf_eq, hparts, List.map_singleton, Segment.ofText_allMarker]

/-- One of the names in the value is the text, when the blanks around it are gone. -/
def Names (text value : String) : Prop :=
  ∃ s ∈ segmentsOf .shieldProf value, s.target? .shieldProf = some (.named .shieldProf text)

instance (text value : String) : Decidable (Names text value) :=
  inferInstanceAs (Decidable (∃ s ∈ segmentsOf .shieldProf value, _))

/-- The text of a choice is never the marker of everything. -/
theorem choiceText_ne_allMarker (c : ChoiceGrant) : choiceText t format c ≠ .ok allMarker := by
  intro h
  have hsegments := (segmentsOf_allMarker t).symm.trans (segmentsOf_choiceText h)
  cases hsegments

end Value

namespace Payload.Covers

variable {refs : ReferenceTable} {p : Payload} {l : List Value.Segment}

/-- A payload with a single name is written as that name. -/
private theorem segmentTexts_singleton {r : Ref} {n : String} (t : Token)
    (h : refs.target? r = some (.named .shieldProf n)) :
    (Payload.refs [r] []).segmentTexts t refs = [n] := by
  simp [segmentTexts, Payload.isAll, nameTexts, groupTexts, capabilities, typeGroups, h,
    Text.sortNames, Target.label]

/-- A payload is written as the marker of everything alone when it is everything, or a single name
that is spelled like the marker. -/
theorem segmentTexts_eq_allMarker_iff (h : p.Covers .shieldProf refs l)
    (hrefs : refs.WellFormed .shieldProf) :
    p.segmentTexts .shieldProf refs = [Value.allMarker] ↔ p.isAll = true ∨ p.IsNamedAll refs := by
  constructor
  · intro htexts
    cases p with
    | all r => exact Or.inl rfl
    | refs capabilities typeGroups =>
      have htext : ∀ r ∈ capabilities ++ typeGroups, ∀ T, refs.target? r = some T →
          Value.typeGroupText .shieldProf T = Value.allMarker := fun r hr T hT => by
        have hmem := h.mem_segmentTexts.mpr ⟨T, ⟨r, hr, hT⟩, rfl⟩
        rwa [htexts, List.mem_singleton] at hmem
      -- a type group is never written like the marker, so there is none
      obtain rfl : typeGroups = [] := List.eq_nil_iff_forall_not_mem.mpr fun r hr => by
        obtain ⟨base, types, hT⟩ := h.target?_of_mem_typeGroups hr
        have hgroup : Value.IsGroupText
            (Value.typeGroupText .shieldProf (.typed .equipment base types)) _ := Or.inr rfl
        have heq := htext r (List.mem_append_right _ hr) _ hT
        exact hgroup.not_sameAscii_allMarker (congrArg Text.asciiLower heq)
      have hnamed : ∀ r ∈ capabilities,
          refs.target? r = some (.named .shieldProf Value.allMarker) := fun r hr => by
        obtain ⟨n, hn⟩ := h.target?_of_mem_capabilities hr
        rw [hn, ← htext r (List.mem_append_left _ hr) _ hn]
        rfl
      -- one reference has this target, so there is one name
      cases capabilities with
      | nil =>
        obtain ⟨_, _, hr, -⟩ := h.exists_mem_targets
        cases hr
      | cons r rest =>
        have hrest : rest = [] := List.eq_nil_iff_forall_not_mem.mpr fun r' hr' => by
          obtain rfl := hrefs.distinct.ref_unique (hnamed r List.mem_cons_self)
            (hnamed r' (List.mem_cons_of_mem r hr')) rfl
          exact (List.nodup_cons.mp h.nodup_capabilities).1 hr'
        exact Or.inr ⟨r, by rw [hrest], hnamed r List.mem_cons_self⟩
  · rintro (hall | ⟨r, rfl, hr⟩)
    · rw [segmentTexts, if_pos hall]
    · exact segmentTexts_singleton _ hr

end Payload.Covers

namespace Entity.IsLoaded

variable {e : Entity} {format : ConditionFormat} {refs : ReferenceTable} {raws : List String}
  {g : Grant} {value : String}

/-- A grant is written as the marker of everything when it looks like everything. -/
theorem grantText_eq_allMarker_iff (he : e.IsLoaded format refs raws)
    (hg : g ∈ e.grantsIn Token.shieldProf.name)
    (h : Value.grantText .shieldProf format refs g = .ok value) :
    value = Value.allMarker ↔ g.LooksLikeEverything refs := by
  obtain ⟨v, hcov, -⟩ := he.exists_covers hg
  obtain ⟨condition, hcondition, rfl⟩ := (he.grantText_eq_ok_iff hg).mp h
  have hmarker : Value.allMarker =
      Value.withCondition (Text.join Value.separator [Value.allMarker]) none := by
    rw [Text.join_singleton, Value.withCondition]
  rw [Grant.LooksLikeEverything, ← hcov.segmentTexts_eq_allMarker_iff he.wellFormed]
  constructor
  · intro htext
    rw [hmarker] at htext
    obtain ⟨hjoin, rfl⟩ := Value.withCondition_join_inj
      (fun _ => he.isFree_of_mem_segmentTexts hg) (by decide) htext
    have htexts := Text.join_injective hcov.segmentTexts_ne_nil (List.cons_ne_nil _ _)
      (fun _ hs => (he.isFree_of_mem_segmentTexts hg hs).1) (by decide) hjoin
    exact ⟨htexts, Value.conditionText_eq_none_iff.mp hcondition⟩
  · rintro ⟨htexts, hnone⟩
    rw [Value.conditionText_eq_none_iff.mpr hnone] at hcondition
    obtain rfl := Except.ok.inj hcondition
    rw [htexts, ← hmarker]

/-- If all conditions can be written, an entity is written as the increasing list of its texts,
unless it looks inconsistent. It is then refused with this list. -/
theorem exists_encode_eq (he : e.IsLoaded format refs raws) (hformat : format.Stable) :
    ∃ values : List String, values.Pairwise (· < ·) ∧
      (∀ value, value ∈ values ↔ Token.shieldProf.Writes format refs e value) ∧
      (e.LooksInconsistent .shieldProf refs →
        Token.shieldProf.encode format refs e =
          .error (.inconsistent Token.shieldProf.fullName values)) ∧
      (¬ e.LooksInconsistent .shieldProf refs →
        Token.shieldProf.encode format refs e = .ok values) := by
  have htexts : ∀ g ∈ e.grantsIn Token.shieldProf.name,
      ∃ value, Value.grantText .shieldProf format refs g = .ok value := fun _ =>
    he.exists_grantText hformat
  obtain ⟨values, hsorted, hmem, heq⟩ := Token.exists_encode_eq
    (fun _ => he.exists_choiceText hformat) htexts
  have hall : Value.allMarker ∈ values ↔
      ∃ g ∈ e.grantsIn Token.shieldProf.name, g.LooksLikeEverything refs := by
    rw [hmem]
    constructor
    · rintro (⟨c, -, htext⟩ | ⟨g, hg, htext⟩)
      · exact absurd htext (Value.choiceText_ne_allMarker c)
      · exact ⟨g, hg, (he.grantText_eq_allMarker_iff hg htext).mp rfl⟩
    · rintro ⟨g, hg, hg'⟩
      obtain ⟨value, htext⟩ := htexts g hg
      obtain rfl := (he.grantText_eq_allMarker_iff hg htext).mpr hg'
      exact Or.inr ⟨g, hg, htext⟩
  have hother : (∃ value ∈ values, value ≠ Value.allMarker) ↔
      e.choicesFrom Token.shieldProf.name ≠ [] ∨
        ∃ g ∈ e.grantsIn Token.shieldProf.name, ¬ g.LooksLikeEverything refs := by
    simp only [hmem]
    constructor
    · rintro ⟨value, ⟨c, hc, -⟩ | ⟨g, hg, htext⟩, hne⟩
      · exact Or.inl (List.ne_nil_of_mem hc)
      · exact Or.inr ⟨g, hg, mt (he.grantText_eq_allMarker_iff hg htext).mpr hne⟩
    · rintro (hchoices | ⟨g, hg, hg'⟩)
      · obtain ⟨c, hc⟩ := List.exists_mem_of_ne_nil _ hchoices
        obtain ⟨value, htext⟩ := he.exists_choiceText hformat hc
        refine ⟨value, Or.inl ⟨c, hc, htext⟩, ?_⟩
        rintro rfl
        exact Value.choiceText_ne_allMarker c htext
      · obtain ⟨value, htext⟩ := htexts g hg
        exact ⟨value, Or.inr ⟨g, hg, htext⟩,
          mt (he.grantText_eq_allMarker_iff hg htext).mp hg'⟩
  have hinconsistent : Value.allMarker ∈ values ∧ values ≠ [Value.allMarker] ↔
      e.LooksInconsistent .shieldProf refs := by
    rw [LooksInconsistent, ← hall, ← hother]
    exact and_congr_right fun hmarker => Text.ne_singleton_iff_of_pairwise hsorted hmarker
  rw [← hinconsistent]
  exact ⟨values, hsorted, hmem, fun h => heq.trans (if_pos h), fun h => heq.trans (if_neg h)⟩

/-- A single name that is spelled like the marker of everything is not read back. -/
theorem not_isNamedAll_of_readsBack (hback : e.ReadsBack refs)
    (hg : g ∈ e.grantsIn Token.shieldProf.name) : ¬ g.payload.IsNamedAll refs := by
  rintro ⟨r, hp, hr⟩
  have hmem : r ∈ g.payload.toList := by
    rw [hp]
    exact List.mem_cons_self
  have hread : Value.Segment.ofText .shieldProf Value.allMarker = .name Value.allMarker :=
    hback g hg _ ⟨r, hmem, hr⟩
  cases hread.symm.trans (Value.Segment.ofText_allMarker _)

/-- If all names are read back and all conditions can be written, an entity is written as the
increasing list of its texts, unless it is inconsistent. It is then refused with this list. -/
theorem exists_encode_eq_of_readsBack (he : e.IsLoaded format refs raws) (hformat : format.Stable)
    (hback : e.ReadsBack refs) :
    ∃ values : List String, values.Pairwise (· < ·) ∧
      (∀ value, value ∈ values ↔ Token.shieldProf.Writes format refs e value) ∧
      Token.shieldProf.encode format refs e =
        if e.IsInconsistent .shieldProf then
          .error (.inconsistent Token.shieldProf.fullName values)
        else .ok values := by
  obtain ⟨values, hsorted, hmem, hrefused, hwritten⟩ := he.exists_encode_eq hformat
  rw [looksInconsistent_iff fun _ => not_isNamedAll_of_readsBack hback] at hrefused hwritten
  refine ⟨values, hsorted, hmem, ?_⟩
  split
  · next h => exact hrefused h
  · next h => exact hwritten h

end Entity.IsLoaded

namespace LoadContext

variable {ctx : LoadContext} {e e' : Entity} {key : String} {raws : List String}

/-- A grant of an entity that was read from values in a new context is a single name spelled like
the marker of everything only if some value has such a name. -/
private theorem not_isNamedAll (hraws : ∀ raw ∈ raws, ¬ Value.Names "ALL" raw)
    (h : ({} : LoadContext).decodeEach .shieldProf e raws = (ctx, e')) (p : Payload) :
    ¬ p.IsNamedAll ctx.refs := by
  rintro ⟨r, -, hr⟩
  obtain ⟨raw, hraw, hnames⟩ :=
    (decodeEach_table h).2.mem_of_empty (ReferenceTable.mem_targets_of_target? hr)
  exact hraws raw hraw hnames

/-- An entity that was read from values in a new context is refused exactly when it looks
inconsistent, and is written otherwise. If none of the names is `ALL`, it is refused exactly when it
is inconsistent, and so it is written if it has no grant of everything. -/
theorem encode_refused_iff
    (h : ({} : LoadContext).decodeEach .shieldProf { key } raws = (ctx, e)) :
    ((∃ values, ctx.encode .shieldProf e = .error (.inconsistent "AUTO:SHIELDPROF" values)) ↔
        e.LooksInconsistent .shieldProf ctx.refs) ∧
      ((∃ values, ctx.encode .shieldProf e = .ok values) ↔
        ¬ e.LooksInconsistent .shieldProf ctx.refs) ∧
      ((∀ raw ∈ raws, ¬ Value.Names "ALL" raw) →
        ((∃ values, ctx.encode .shieldProf e = .error (.inconsistent "AUTO:SHIELDPROF" values)) ↔
          e.IsInconsistent .shieldProf) ∧
        ((∀ g ∈ e.grantsIn "SHIELDPROF", g.payload.isAll = false) →
          ∃ values, ctx.encode .shieldProf e = .ok values)) := by
  have he : e.IsLoaded .verbatim ctx.refs raws :=
    isLoaded_of_decodeEach (ReferenceTable.wellFormed_empty .shieldProf) h
  have hformat : ctx.format = .verbatim := (decodeEach_table h).1
  obtain ⟨values, -, -, hrefused, hwritten⟩ := he.exists_encode_eq ConditionFormat.stable_verbatim
  rw [← hformat, ← encode] at hrefused hwritten
  have hok : (∃ values, ctx.encode .shieldProf e = .ok values) ↔
      ¬ e.LooksInconsistent .shieldProf ctx.refs := by
    constructor
    · rintro ⟨_, hvalues⟩ hlooks
      cases hvalues.symm.trans (hrefused hlooks)
    · exact fun hlooks => ⟨values, hwritten hlooks⟩
  have herror : (∃ values, ctx.encode .shieldProf e =
      .error (.inconsistent "AUTO:SHIELDPROF" values)) ↔
        e.LooksInconsistent .shieldProf ctx.refs := by
    constructor
    · rintro ⟨_, hvalues⟩
      by_contra hlooks
      cases hvalues.symm.trans (hwritten hlooks)
    · exact fun hlooks => ⟨values, hrefused hlooks⟩
  refine ⟨herror, hok, fun hraws => ?_⟩
  have hagree : e.LooksInconsistent .shieldProf ctx.refs ↔ e.IsInconsistent .shieldProf :=
    Entity.looksInconsistent_iff fun g _ => not_isNamedAll hraws h g.payload
  refine ⟨herror.trans hagree, fun hnone => hok.mpr ?_⟩
  rw [hagree]
  rintro ⟨⟨g, hg, hall, -⟩, -⟩
  cases hall.symm.trans (hnone g hg)

/-- Everything is refused beside a name that differs from the marker by its case, and was told apart
by its blanks; a value that is rejected has no part in this. -/
theorem encode_refused_iff_beside_name :
    ∃ ctx e, ({} : LoadContext).decodeEach .shieldProf { key := "A" } ["ALL", " all ", "Kite|ALL"] =
        (ctx, e) ∧
      (∀ raw ∈ ["ALL", " all ", "Kite|ALL"], ¬ Value.Names "ALL" raw) ∧
      ctx.encode .shieldProf e = .error (.inconsistent "AUTO:SHIELDPROF" ["ALL", "all"]) ∧
      e.LooksInconsistent .shieldProf ctx.refs ∧ e.IsInconsistent .shieldProf := by
  have hraws : ∀ raw ∈ ["ALL", " all ", "Kite|ALL"], ¬ Value.Names "ALL" raw := by decide +kernel
  have hencode :
      let p := ({} : LoadContext).decodeEach .shieldProf { key := "A" } ["ALL", " all ", "Kite|ALL"]
      p.1.encode .shieldProf p.2 = .error (.inconsistent "AUTO:SHIELDPROF" ["ALL", "all"]) := by
    decide +kernel
  obtain ⟨hlooks, -, hnamed⟩ := encode_refused_iff (Prod.eta <|
    ({} : LoadContext).decodeEach .shieldProf { key := "A" } ["ALL", " all ", "Kite|ALL"]).symm
  exact ⟨_, _, rfl, hraws, hencode, hlooks.mp ⟨_, hencode⟩, (hnamed hraws).1.mp ⟨_, hencode⟩⟩

/-- An entity may be refused without being inconsistent: a choice beside a name that the writer
takes for everything. -/
theorem exists_refused_though_consistent :
    ¬ ∀ (key : String) (raws : List String) (ctx : LoadContext) (e : Entity),
      ({} : LoadContext).decodeEach .shieldProf { key } raws = (ctx, e) →
        ((∃ values, ctx.encode .shieldProf e =
            .error (.inconsistent "AUTO:SHIELDPROF" values)) ↔ e.IsInconsistent .shieldProf) := by
  intro h
  have hencode :
      let p := ({} : LoadContext).decodeEach .shieldProf { key := "A" } ["%LIST| ALL"]
      p.1.encode .shieldProf p.2 = .error (.inconsistent "AUTO:SHIELDPROF" ["%LIST", "ALL"]) := by
    decide +kernel
  have hconsistent : ¬ (({} : LoadContext).decodeEach .shieldProf { key := "A" }
      ["%LIST| ALL"]).2.IsInconsistent .shieldProf := by decide +kernel
  exact hconsistent ((h "A" ["%LIST| ALL"] _ _ rfl).mp ⟨_, hencode⟩)

end LoadContext

end GrantList
