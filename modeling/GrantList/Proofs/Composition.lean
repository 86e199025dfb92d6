import GrantList.Proofs.Saving

/-!
# Values are written one by one

What values attach to an entity can be told value by value, once the table holds the targets of all
of them (`Token.attachmentsOf`). So the texts of an entity are those of its values, each read alone
onto a new entity in the same context. All that writing adds is the order, and the refusal of
everything beside something else.

Main result: `LoadContext.encode_eq_of_alone`.
-/

namespace GrantList

/-! ### The attachments of a value in a table -/

/-- What a value attaches, told by a table that holds the targets of all its segments. -/
def Token.attachmentsOf (t : Token) (format : ConditionFormat) (refs : ReferenceTable)
    (value : String) : List Attachment :=
  match Value.ofText t format value with
  | .ok v => Value.attachments t v.condition (v.segments.filterMap (·.item? t refs))
  | .error _ => []

/-- The text that the attachment is written as. -/
def Attachment.text (t : Token) (format : ConditionFormat) (refs : ReferenceTable) :
    Attachment → Except EncodeError String
  | .grant g => Value.grantText t format refs g
  | .choice c => Value.choiceText t format c

/-- The texts that come of writing: those that are written, or those that a refusal lists. -/
def EncodeError.textsOf : Except EncodeError (List String) → List String
  | .ok values => values
  | .error (.inconsistent _ values) => values
  | .error _ => []

variable {t : Token} {format : ConditionFormat} {refs refs' last : ReferenceTable}
  {e e' : Entity} {value text : String}

/-- Items that stand for segments, in the table or in a later one, are found there. -/
private theorem filterMap_item? {l : List Value.Segment} {items : List Value.Item}
    (h : List.Forall₂ (fun s i => s.item? t refs = some i) l items) (hext : refs.Extends last) :
    l.filterMap (·.item? t last) = items := by
  induction h with
  | nil => rfl
  | cons hi _ ih => rw [List.filterMap_cons_some (Value.Segment.item?_mono hext hi), ih]

/-- A value that was read attached what every later table says that it attaches. -/
theorem Token.decode_eq_attachAll (h : t.decode format refs e value = (refs', .ok e'))
    (hext : refs'.Extends last) :
    e' = e.attachAll t.name (t.attachmentsOf format last value) := by
  obtain ⟨v, items, hv, hitems, -, rfl⟩ := decode_eq_ok_iff.mp h
  rw [attachmentsOf, hv]
  dsimp only
  rw [filterMap_item? (Value.internAll_items hitems) hext]

/-- All choices that a value attaches come from the token. -/
theorem Token.source_of_mem_attachmentsOf {c : ChoiceGrant}
    (h : .choice c ∈ t.attachmentsOf format refs value) : c.source = t.name := by
  rw [attachmentsOf] at h
  split at h
  · obtain h | h := List.mem_append.mp h
    · obtain ⟨_, -, hc⟩ := List.mem_map.mp h
      rw [← Attachment.choice.inj hc]
    · obtain ⟨p, -, hp⟩ := Option.map_eq_some_iff.mp (Option.mem_toList.mp h)
      cases hp
  · cases h

/-! ### The texts of attachments -/

namespace Token

theorem not_writes_new (t : Token) (format : ConditionFormat) (refs : ReferenceTable)
    (key text : String) : ¬ t.Writes format refs { key } text := by
  rintro (⟨c, hc, -⟩ | ⟨g, hg, -⟩)
  · cases hc
  · cases hg

/-- Something that the token attaches brings its text to the texts of the entity. -/
theorem writes_attach {a : Attachment} (ha : ∀ c, a = .choice c → c.source = t.name) :
    t.Writes format refs (e.attach t.name a) text ↔
      t.Writes format refs e text ∨ a.text t format refs = .ok text := by
  cases a with
  | grant g =>
    have hgrants : (e.attach t.name (.grant g)).grantsIn t.name = e.grantsIn t.name ++ [g] := by
      simp [Entity.attach, Entity.addGrant, Entity.grantsIn]
    have hchoices : (e.attach t.name (.grant g)).choicesFrom t.name = e.choicesFrom t.name := rfl
    rw [Writes, Writes, hgrants, hchoices, or_assoc]
    simp [or_and_right, exists_or, Attachment.text]
  | choice c =>
    have hsource : c.source = t.name := ha c rfl
    have hgrants : (e.attach t.name (.choice c)).grantsIn t.name = e.grantsIn t.name := rfl
    have hchoices : (e.attach t.name (.choice c)).choicesFrom t.name =
        e.choicesFrom t.name ++ [c] := by
      simp [Entity.attach, Entity.addChoice, Entity.choicesFrom, hsource]
    rw [Writes, Writes, hgrants, hchoices, or_right_comm]
    simp [or_and_right, exists_or, Attachment.text]

/-- What the token attaches brings its texts to the texts of the entity. -/
theorem writes_attachAll {l : List Attachment} (hl : ∀ c, .choice c ∈ l → c.source = t.name) :
    t.Writes format refs (e.attachAll t.name l) text ↔
      t.Writes format refs e text ∨ ∃ a ∈ l, a.text t format refs = .ok text := by
  induction l generalizing e with
  | nil => simp [Entity.attachAll]
  | cons a l ih =>
    have ha : ∀ c, a = .choice c → c.source = t.name := fun c hc =>
      hl c (hc ▸ List.mem_cons_self)
    rw [Entity.attachAll, List.foldl_cons, ← Entity.attachAll,
      ih fun c hc => hl c (List.mem_cons_of_mem a hc), writes_attach ha, List.exists_mem_cons_iff,
      or_assoc]

end Token

/-- Verbatim, everything that the token attached has a text if all its references are in the
table. -/
theorem Entity.RefersInto.exists_texts (h : e.RefersInto t.name refs) :
    (∀ c ∈ e.choicesFrom t.name, ∃ value, Value.choiceText t .verbatim c = .ok value) ∧
      ∀ g ∈ e.grantsIn t.name, ∃ value, Value.grantText t .verbatim refs g = .ok value := by
  constructor
  · intro c _
    exact ⟨_, Value.choiceText_eq_ok_iff.mpr ⟨_, Value.conditionText_verbatim t c.condition, rfl⟩⟩
  · intro g hg
    obtain ⟨payload, hpayload⟩ := Value.exists_payloadText t (h g hg)
    exact ⟨_, Value.grantText_eq_ok_iff.mpr
      ⟨payload, _, hpayload, Value.conditionText_verbatim t g.condition, rfl⟩⟩

/-- Verbatim, the texts that come of writing an entity are the texts of what was attached to it. -/
theorem Entity.RefersInto.mem_textsOf_encode_iff (h : e.RefersInto t.name refs) :
    text ∈ EncodeError.textsOf (t.encode .verbatim refs e) ↔ t.Writes .verbatim refs e text := by
  obtain ⟨hchoices, hgrants⟩ := h.exists_texts
  obtain ⟨values, -, hmem, heq⟩ := Token.exists_encode_eq hchoices hgrants
  rw [heq, ← hmem]
  split <;> rfl

/-- An entity that gained a value has a text. -/
theorem Entity.Gains.exists_writes {v : Value} (h : e.Gains e' t refs v)
    (hrefs : e'.RefersInto t.name refs) (hne : v.segments ≠ []) :
    ∃ text, t.Writes .verbatim refs e' text := by
  obtain ⟨hchoices, hgrants⟩ := hrefs.exists_texts
  obtain ⟨s, hs⟩ := List.exists_mem_of_ne_nil _ hne
  obtain ⟨hall, -⟩ | ⟨p, -, heq⟩ := h.grants
  · -- all segments are choices, and there is one
    have hcount : v.segments.count .choice ≠ 0 :=
      (List.count_pos_iff.mpr (hall s hs ▸ hs)).ne'
    have hc : { source := t.name, condition := v.condition } ∈ e'.choicesFrom t.name := by
      rw [h.choices]
      exact List.mem_append_right _ (List.mem_replicate.mpr ⟨hcount, rfl⟩)
    exact (hchoices _ hc).imp fun _ htext => Or.inl ⟨_, hc, htext⟩
  · have hg : { payload := p, condition := v.condition } ∈ e'.grantsIn t.name := by
      rw [heq]
      exact List.mem_append_right _ (List.mem_singleton_self _)
    exact (hgrants _ hg).imp fun _ htext => Or.inr ⟨_, hg, htext⟩

namespace LoadContext

variable {ctx ctx' : LoadContext} {key : String} {raws : List String}

/-! ### Values of a list, and alone -/

/-- An entity onto which a list was read has what its values attach, told by every later table. -/
theorem decodeAll_eq_attachAll (h : ctx.decodeAll t e raws = (ctx', .ok e'))
    (hext : ctx'.refs.Extends last) :
    e' = e.attachAll t.name (raws.flatMap (t.attachmentsOf ctx.format last)) := by
  induction raws generalizing ctx e with
  | nil =>
    cases h
    rfl
  | cons value raws ih =>
    rw [decodeAll] at h
    split at h
    · next mid e₁ hdec =>
      have hformat := format_of_decode hdec
      have hmid : mid.refs.Extends last := (decodeAll_table h).2.grown.trans hext
      rw [ih h, hformat, Token.decode_eq_attachAll (token_decode_eq hdec) hmid, List.flatMap_cons,
        Entity.attachAll_append]
    · cases h

/-- A table in which a list was read holds all targets of its values. -/
theorem found_of_decodeAll (h : ctx.decodeAll t { key } raws = (ctx', .ok e)) {T : Target}
    (hT : T ∈ t.targetsIn raws) : (ctx'.refs.find? T).isSome := by
  obtain ⟨raw, hraw, s, hs, hT⟩ := hT
  obtain ⟨v, hv⟩ := decodeAll_isOk_iff.mp ⟨ctx', e, h⟩ raw hraw
  have hs : s ∈ v.segments := Value.segments_eq hv.ofText ▸ hs
  have hne : s ≠ .choice := by
    rintro rfl
    cases hT
  have hholds := holds_of_decodeAll h (Entity.holds_new key t ctx.refs)
  obtain ⟨g, -, hcov, -⟩ := hholds.exists_grant (Or.inl ⟨raw, hraw, hv⟩) ⟨s, hs, hne⟩
  exact hcov.found hs hT

/-- A value of a list that was read is read alone in the same context, and leaves it as it is. -/
theorem exists_decode_alone (h : ctx.decodeAll t { key } raws = (ctx', .ok e)) {raw : String}
    (hraw : raw ∈ raws) (key' : String) :
    ∃ alone, ctx'.decode t { key := key' } raw = (ctx', .ok alone) := by
  obtain ⟨v, hv⟩ := decodeAll_isOk_iff.mp ⟨ctx', e, h⟩ raw hraw
  rw [← (decodeAll_table h).1] at hv
  obtain ⟨ctx'', alone, hdec⟩ := decode_of_accepts hv { key := key' }
  have hfst : ctx'' = ctx' := by
    have hctx := ctx'.decode_fst t { key := key' } raw
    rw [hdec, Token.enter_of_found fun s hs T hT =>
      found_of_decodeAll h ⟨raw, hraw, s, hs, hT⟩] at hctx
    exact hctx
  exact ⟨alone, by rw [hdec, hfst]⟩

/-- The texts of an entity onto which a list was read are those of its values alone. -/
theorem writes_iff_of_decodeAll (h : ctx.decodeAll t { key } raws = (ctx', .ok e))
    (key' : String) :
    t.Writes ctx'.format ctx'.refs e text ↔ ∃ raw ∈ raws, ∃ alone,
      ctx'.decode t { key := key' } raw = (ctx', .ok alone) ∧
        t.Writes ctx'.format ctx'.refs alone text := by
  have hformat : ctx'.format = ctx.format := (decodeAll_table h).1
  have halone : ∀ {raw alone}, ctx'.decode t { key := key' } raw = (ctx', .ok alone) →
      (t.Writes ctx'.format ctx'.refs alone text ↔
        ∃ a ∈ t.attachmentsOf ctx'.format ctx'.refs raw,
          a.text t ctx'.format ctx'.refs = .ok text) := fun {raw alone} hdec => by
    rw [Token.decode_eq_attachAll (token_decode_eq hdec) (.refl _),
      Token.writes_attachAll fun _ => Token.source_of_mem_attachmentsOf,
      or_iff_right (t.not_writes_new _ _ key' text)]
  have hsource : ∀ c, .choice c ∈ raws.flatMap (t.attachmentsOf ctx.format ctx'.refs) →
      c.source = t.name := fun c hc => by
    obtain ⟨raw, -, hc⟩ := List.mem_flatMap.mp hc
    exact Token.source_of_mem_attachmentsOf hc
  rw [decodeAll_eq_attachAll h (.refl _), Token.writes_attachAll hsource,
    or_iff_right (t.not_writes_new _ _ key text), ← hformat]
  constructor
  · rintro ⟨a, ha, htext⟩
    obtain ⟨raw, hraw, ha⟩ := List.mem_flatMap.mp ha
    obtain ⟨alone, hdec⟩ := exists_decode_alone h hraw key'
    exact ⟨raw, hraw, alone, hdec, (halone hdec).mpr ⟨a, ha, htext⟩⟩
  · rintro ⟨raw, hraw, alone, hdec, hwrites⟩
    obtain ⟨a, ha, htext⟩ := (halone hdec).mp hwrites
    exact ⟨a, List.mem_flatMap.mpr ⟨raw, hraw, ha⟩, htext⟩

/-- An entity onto which a list of values was read is written as the texts of its values, each read
alone onto a new entity in the same context, in increasing order and without repetition. It is
refused with this list if everything without condition and another text are among them. -/
theorem encode_eq_of_alone (hformat : ctx.format = .verbatim)
    (h : ctx.decodeAll t { key } raws = (ctx', .ok e)) (key' : String) :
    (∀ raw ∈ raws, ∃ alone, ctx'.decode t { key := key' } raw = (ctx', .ok alone)) ∧
      ∃ values : List String, values.Pairwise (· < ·) ∧
        (∀ text, text ∈ values ↔ ∃ raw ∈ raws, ∃ alone,
          ctx'.decode t { key := key' } raw = (ctx', .ok alone) ∧
            text ∈ EncodeError.textsOf (ctx'.encode t alone)) ∧
        (values = [] ↔ raws = []) ∧
        ctx'.encode t e =
          if Value.allMarker ∈ values ∧ ∃ text ∈ values, text ≠ Value.allMarker then
            .error (.inconsistent t.fullName values)
          else .ok values := by
  have hverbatim : ctx'.format = .verbatim := (decodeAll_table h).1.trans hformat
  have halone : ∀ {raw alone}, ctx'.decode t { key := key' } raw = (ctx', .ok alone) →
      alone.RefersInto t.name ctx'.refs := fun {raw alone} hdec => by
    obtain ⟨v, -, hholds⟩ := holds_of_decode hdec (Entity.holds_new key' t ctx'.refs)
    exact hholds.refersInto
  have hrefs : e.RefersInto t.name ctx'.refs :=
    (holds_of_decodeAll h (Entity.holds_new key t ctx.refs)).refersInto
  obtain ⟨hchoices, hgrants⟩ := hrefs.exists_texts
  obtain ⟨values, hsorted, hwrites, heq⟩ := Token.exists_encode_eq hchoices hgrants
  have hmem : ∀ text, text ∈ values ↔ ∃ raw ∈ raws, ∃ alone,
      ctx'.decode t { key := key' } raw = (ctx', .ok alone) ∧
        text ∈ EncodeError.textsOf (ctx'.encode t alone) := by
    intro text
    have htexts : ∀ {raw alone}, ctx'.decode t { key := key' } raw = (ctx', .ok alone) →
        (text ∈ EncodeError.textsOf (ctx'.encode t alone) ↔
          t.Writes ctx'.format ctx'.refs alone text) := fun hdec => by
      rw [encode, hverbatim, (halone hdec).mem_textsOf_encode_iff]
    rw [hwrites, ← hverbatim, writes_iff_of_decodeAll h key']
    exact exists_congr fun raw => and_congr_right fun _ => exists_congr fun alone =>
      and_congr_right fun hdec => (htexts hdec).symm
  refine ⟨fun raw hraw => exists_decode_alone h hraw key', values, hsorted, hmem, ?_, ?_⟩
  · constructor
    · rintro rfl
      -- a value of the list would have a text of its own
      refine List.eq_nil_iff_forall_not_mem.mpr fun raw hraw => ?_
      obtain ⟨alone, hdec⟩ := exists_decode_alone h hraw key'
      obtain ⟨v, hv, hgains⟩ := decode_eq_ok hdec
      obtain ⟨text, htext⟩ := hgains.exists_writes (halone hdec) (Value.segments_ne_nil hv.ofText)
      refine List.not_mem_nil ((hmem text).mpr ⟨raw, hraw, alone, hdec, ?_⟩)
      rw [encode, hverbatim, (halone hdec).mem_textsOf_encode_iff]
      exact htext
    · rintro rfl
      refine List.eq_nil_iff_forall_not_mem.mpr fun text htext => ?_
      obtain ⟨raw, hraw, -⟩ := (hmem text).mp htext
      cases hraw
  · rw [encode, hverbatim, heq]
    refine if_congr (and_congr_right fun hmarker => ?_) rfl rfl
    exact Text.ne_singleton_iff_of_pairwise hsorted hmarker

/-- In a context that spells a name in its own way, the values of an entity contradict each other.
The refusal lists the texts that each of them has alone. -/
theorem encode_eq_of_alone_contradictory :
    ∃ ctx ctx' e, ctx = (({} : LoadContext).decode .shieldProf { key := "B" } "BUCKLER").1 ∧
      ctx.format = .verbatim ∧
      ctx.decodeAll .shieldProf { key := "A" } ["buckler|%LIST", "Tower[x]", "ALL", "Buckler"] =
        (ctx', .ok e) ∧
      ctx'.encode .shieldProf e =
        .error (.inconsistent "AUTO:SHIELDPROF" ["%LIST", "ALL", "BUCKLER", "Tower[x]"]) ∧
      ∀ text, text ∈ ["%LIST", "ALL", "BUCKLER", "Tower[x]"] ↔
        ∃ raw ∈ ["buckler|%LIST", "Tower[x]", "ALL", "Buckler"], ∃ alone,
          ctx'.decode .shieldProf { key := "C" } raw = (ctx', .ok alone) ∧
            text ∈ EncodeError.textsOf (ctx'.encode .shieldProf alone) := by
  have hevaluated :
      let ctx := (({} : LoadContext).decode .shieldProf { key := "B" } "BUCKLER").1
      let p := ctx.decodeAll .shieldProf { key := "A" }
        ["buckler|%LIST", "Tower[x]", "ALL", "Buckler"]
      p.2.toOption.map (p.1.encode .shieldProf) = some
        (.error (.inconsistent "AUTO:SHIELDPROF" ["%LIST", "ALL", "BUCKLER", "Tower[x]"])) := by
    decide +kernel
  obtain ⟨e, he, hencode⟩ := Option.map_eq_some_iff.mp hevaluated
  have hread : (({} : LoadContext).decode .shieldProf { key := "B" } "BUCKLER").1.decodeAll
      .shieldProf { key := "A" } ["buckler|%LIST", "Tower[x]", "ALL", "Buckler"] = (_, .ok e) :=
    Prod.ext rfl (eq_ok_of_toOption_eq_some he)
  have hformat : (({} : LoadContext).decode .shieldProf { key := "B" } "BUCKLER").1.format =
      .verbatim :=
    decode_format ..
  obtain ⟨-, values, -, hmem, -, heq⟩ := encode_eq_of_alone hformat hread "C"
  rw [hencode] at heq
  split at heq
  · obtain rfl := (EncodeError.inconsistent.inj (Except.error.inj heq)).2
    exact ⟨_, _, e, rfl, hformat, hread, hencode, hmem⟩
  · cases heq

end LoadContext

end GrantList
