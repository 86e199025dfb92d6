import GrantList.Proofs.Value.Bracket

/-!
# The offsets of the brackets

A text is kept as bytes, and a part of it is named by two offsets, which count bytes. Not every two
offsets name a part: they have to be in order, and each of them has to lie at the boundary of a
character (`Text.Spans`). A value can be split by the offset of its first opening bracket and by its
size (`Value.splitByOffsets`). The offsets that come up always name a part, and the parts are the
payload and the text of the condition.

Main result: `Value.splitCondition?_inverts_withCondition`. Splitting undoes appending a condition,
and nothing else splits into the same two parts.
-/

namespace GrantList

namespace Text

/-- The two offsets, in bytes, name a part of the text. -/
structure Spans (s : String) (first last : Nat) : Prop where
  /-- The offsets are in order. -/
  le : first ≤ last
  /-- The part begins at the boundary of a character. -/
  isValid_first : (⟨first⟩ : String.Pos.Raw).IsValid s
  /-- The part ends at the boundary of a character. -/
  isValid_last : (⟨last⟩ : String.Pos.Raw).IsValid s

instance (s : String) (first last : Nat) : Decidable (Spans s first last) :=
  decidable_of_iff (first ≤ last ∧ (⟨first⟩ : String.Pos.Raw).IsValid s ∧
      (⟨last⟩ : String.Pos.Raw).IsValid s)
    ⟨fun h => ⟨h.1, h.2.1, h.2.2⟩, fun h => ⟨h.le, h.isValid_first, h.isValid_last⟩⟩

/-- The part of the text between two offsets. The failure names offsets that name no part. -/
def slice (s : String) (first last : Nat) : Except (Nat × Nat) String :=
  if h : Spans s first last then
    .ok (s.extract (s.pos ⟨first⟩ h.isValid_first) (s.pos ⟨last⟩ h.isValid_last))
  else .error (first, last)

/-- The sizes of what stands before a part and of the part name it. -/
theorem spans_append (before part rest : String) :
    Spans (before ++ part ++ rest) before.utf8ByteSize (before ++ part).utf8ByteSize where
  le := by simp
  isValid_first :=
    String.Pos.Raw.isValid_iff_exists_append.mpr ⟨before, part ++ rest, String.append_assoc, rfl⟩
  isValid_last := String.Pos.Raw.isValid_iff_exists_append.mpr ⟨before ++ part, rest, rfl, rfl⟩

theorem slice_append (before part rest : String) :
    slice (before ++ part ++ rest) before.utf8ByteSize (before ++ part).utf8ByteSize =
      .ok part := by
  rw [slice, dif_pos (spans_append before part rest), Except.ok.injEq, ← String.toByteArray_inj,
    String.toByteArray_extract, String.offset_pos, String.offset_pos, String.utf8ByteSize_append,
    String.toByteArray_append, String.toByteArray_append, ByteArray.append_assoc]
  exact (ByteArray.extract_append_size_add' (i := 0) String.size_toByteArray.symm).trans
    (ByteArray.extract_append_eq_left String.size_toByteArray.symm)

theorem spans_of_slice {s part : String} {first last : Nat}
    (h : slice s first last = .ok part) : Spans s first last := by
  by_contra hspans
  rw [slice, dif_neg hspans] at h
  cases h

/-- The first character of this text takes two bytes, and no part begins between them. -/
example : Spans "é[]" 0 2 ∧ Spans "é[]" 3 3 ∧ ¬ Spans "é[]" 1 3 ∧ ¬ Spans "é[]" 3 2 := by
  decide

end Text

namespace Value

/-- Splits a value at the offsets of its brackets: what stands before the first opening one, and
what stands between the byte after it and the last byte. The failure names offsets that name no
part of the value. -/
def splitByOffsets (s : String) : Except (Nat × Nat) (Option (String × Option String)) :=
  match s.find? '[' with
  | none => .ok (some (s, none))
  | some pos =>
    if s.endsWith ']' then do
      let payload ← Text.slice s 0 pos.offset.byteIdx
      let text ← Text.slice s (pos.offset.byteIdx + 1) (s.utf8ByteSize - 1)
      return some (payload, some text)
    else .ok none

variable {s payload text : String}

theorem find?_bracket_eq_none_iff : s.find? '[' = none ↔ '[' ∉ s.toList := by
  rw [String.find?_eq_find?_toSlice, Option.map_eq_none_iff, String.Slice.find?_eq_none_iff]
  simp

theorem endsWith_bracket_iff : s.endsWith ']' = true ↔ s.toList.getLast? = some ']' := by
  rw [String.endsWith_char_eq_getLast?, beq_iff_eq]

/-! ### The offsets of a value with a condition -/

/-- The first opening bracket stands where the payload ends. -/
theorem find?_bracket_withCondition (h : '[' ∉ payload.toList) (text : String) :
    ∃ pos, (withCondition payload (some text)).find? '[' = some pos ∧
      pos.offset.byteIdx = payload.utf8ByteSize := by
  have hs : withCondition payload (some text) =
      payload ++ (String.singleton '[' ++ (text ++ "]")) := by
    rw [withCondition, String.append_assoc, String.append_assoc]
    rfl
  have hvalid : payload.rawEndPos.IsValid (withCondition payload (some text)) :=
    String.Pos.Raw.isValid_iff_exists_append.mpr ⟨payload, _, hs, rfl⟩
  have hsplits : ((withCondition payload (some text)).pos payload.rawEndPos hvalid).Splits payload
      (String.singleton '[' ++ (text ++ "]")) := ⟨hs, rfl⟩
  exact ⟨_, String.find?_char_eq_some_iff_splits.mpr ⟨payload, _, hsplits, h⟩, rfl⟩

theorem endsWith_bracket_withCondition (payload text : String) :
    (withCondition payload (some text)).endsWith ']' = true :=
  String.endsWith_char_iff_exists_append.mpr ⟨payload ++ "[" ++ text, rfl⟩

theorem slice_payload (payload text : String) :
    Text.slice (withCondition payload (some text)) 0 payload.utf8ByteSize = .ok payload := by
  have hslice := Text.slice_append "" payload ("[" ++ text ++ "]")
  rwa [String.empty_append, ← String.append_assoc, ← String.append_assoc] at hslice

/-- The text of the condition begins one byte after the payload and ends one byte before the end of
the value. -/
theorem slice_condition (payload text : String) :
    Text.slice (withCondition payload (some text)) (payload.utf8ByteSize + 1)
      ((withCondition payload (some text)).utf8ByteSize - 1) = .ok text := by
  have hopen : (payload ++ "[").utf8ByteSize = payload.utf8ByteSize + 1 :=
    String.utf8ByteSize_append
  have hclose : (withCondition payload (some text)).utf8ByteSize =
      (payload ++ "[" ++ text).utf8ByteSize + 1 := String.utf8ByteSize_append
  rw [hclose, Nat.add_sub_cancel, ← hopen]
  exact Text.slice_append (payload ++ "[") text "]"

/-! ### Splitting by the offsets -/

theorem splitByOffsets_withCondition (h : '[' ∉ payload.toList) (text : String) :
    splitByOffsets (withCondition payload (some text)) = .ok (some (payload, some text)) := by
  obtain ⟨pos, hpos, hoffset⟩ := find?_bracket_withCondition h text
  rw [splitByOffsets, hpos]
  simp only [endsWith_bracket_withCondition, if_true, hoffset, slice_payload, slice_condition]
  rfl

/-- The offsets never fail, and what they give is the split of the characters. -/
theorem splitByOffsets_eq (s : String) : splitByOffsets s = .ok (splitCondition? s) := by
  cases hsplit : splitCondition? s with
  | none =>
    obtain ⟨hopen, hlast⟩ := splitCondition?_eq_none_iff.mp hsplit
    obtain ⟨pos, hpos⟩ := Option.ne_none_iff_exists'.mp
      (mt find?_bracket_eq_none_iff.mp (not_not.mpr hopen))
    rw [splitByOffsets, hpos]
    exact if_neg (mt endsWith_bracket_iff.mp hlast)
  | some parts =>
    obtain ⟨payload, condition⟩ := parts
    obtain ⟨hpayload, rfl⟩ := splitCondition?_eq_some_iff.mp hsplit
    cases condition with
    | none => rw [splitByOffsets, withCondition, find?_bracket_eq_none_iff.mpr hpayload]
    | some text => exact splitByOffsets_withCondition hpayload text

/-- Where a value opens a bracket and ends with a closing one, the offsets name parts of it. -/
theorem spans_of_find?_bracket {pos : s.Pos} (hpos : s.find? '[' = some pos)
    (hends : s.endsWith ']' = true) :
    Text.Spans s 0 pos.offset.byteIdx ∧
      Text.Spans s (pos.offset.byteIdx + 1) (s.utf8ByteSize - 1) := by
  have hopen : s.find? '[' ≠ none := by
    rw [hpos]
    exact Option.some_ne_none pos
  cases hsplit : splitCondition? s with
  | none => exact absurd (endsWith_bracket_iff.mp hends) (splitCondition?_eq_none_iff.mp hsplit).2
  | some parts =>
    obtain ⟨payload, condition⟩ := parts
    obtain ⟨hpayload, rfl⟩ := splitCondition?_eq_some_iff.mp hsplit
    cases condition with
    | none => exact absurd (find?_bracket_eq_none_iff.mpr hpayload) hopen
    | some text =>
      obtain ⟨pos', hpos', hoffset⟩ := find?_bracket_withCondition hpayload text
      obtain rfl := Option.some_inj.mp (hpos.symm.trans hpos')
      rw [hoffset]
      exact ⟨Text.spans_of_slice (slice_payload payload text),
        Text.spans_of_slice (slice_condition payload text)⟩

/-- Splitting undoes appending a condition, and nothing else. A value without an opening bracket is
all payload. A value splits into a payload and the text of a condition exactly when it is made of
them and the payload holds no opening bracket, whatever the text holds, and it is made of no other
payload and text. Only a value that opens a bracket and does not end with a closing one does not
split. In bytes, the offsets by which a value is split name parts of it, and the parts are these. -/
theorem splitCondition?_inverts_withCondition :
    (∀ s payload, splitCondition? s = some (payload, none) ↔ '[' ∉ s.toList ∧ payload = s) ∧
      (∀ s payload text, splitCondition? s = some (payload, some text) ↔
        '[' ∉ payload.toList ∧ s = payload ++ "[" ++ text ++ "]") ∧
      (∀ s payload text payload' text',
        '[' ∉ payload.toList → '[' ∉ payload'.toList →
        s = payload ++ "[" ++ text ++ "]" → s = payload' ++ "[" ++ text' ++ "]" →
        payload = payload' ∧ text = text') ∧
      (∀ s, splitCondition? s = none ↔ '[' ∈ s.toList ∧ ¬ ∃ rest, s = rest ++ "]") ∧
      (∀ s (pos : s.Pos), s.find? '[' = some pos → (∃ rest, s = rest ++ "]") →
        Text.Spans s 0 pos.offset.byteIdx ∧
          Text.Spans s (pos.offset.byteIdx + 1) (s.utf8ByteSize - 1)) ∧
      (∀ s, splitByOffsets s = .ok (splitCondition? s)) ∧
      ∀ payload text, '[' ∉ payload.toList →
        splitCondition? (withCondition payload (some text)) = some (payload, some text) := by
  have hends : ∀ {s : String}, (∃ rest, s = rest ++ "]") ↔ s.endsWith ']' = true := by
    intro s
    rw [String.endsWith_char_iff_exists_append]
    rfl
  refine ⟨fun s payload => ?_, fun s payload text => splitCondition?_eq_some_iff,
    fun s payload text payload' text' h h' hs hs' => ?_, fun s => ?_, fun s pos hpos hs =>
    spans_of_find?_bracket hpos (hends.mp hs), splitByOffsets_eq, fun payload text h =>
    splitCondition?_withCondition h (some text)⟩
  · rw [splitCondition?_eq_some_iff, withCondition, eq_comm (a := payload)]
    exact and_congr_left fun hs => by rw [hs]
  · have hsplit : splitCondition? s = some (payload, some text) :=
      splitCondition?_eq_some_iff.mpr ⟨h, hs⟩
    have hsplit' : splitCondition? s = some (payload', some text') :=
      splitCondition?_eq_some_iff.mpr ⟨h', hs'⟩
    obtain ⟨rfl, htext⟩ := Prod.mk.inj (Option.some_inj.mp (hsplit.symm.trans hsplit'))
    exact ⟨rfl, Option.some_inj.mp htext⟩
  · rw [splitCondition?_eq_none_iff, hends, endsWith_bracket_iff]

end Value

end GrantList
