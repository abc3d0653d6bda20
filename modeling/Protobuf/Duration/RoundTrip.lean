import Protobuf.Duration.Heap

/-!
# Serializing, then parsing

`_InternalSerialize` of a covered object writes a sequence of records: a varint record of field 1
for a nonzero `seconds`, one of field 2 for a nonzero `nanos` (sign-extended to ten bytes when
negative), then the unknown fields as they were read. On a valid object each of these records is
framed, so a parse splits the output back into exactly these records and applies them in order.

Results:
* `parse_internalSerialize`: parsing what `_InternalSerialize` writes for a reachable object gives
  its fields and unknown fields back, with a has bit set exactly for each nonzero field.
* `parse_append_eq_mergeImpl`: parsing two reachable objects' outputs one after the other gives
  the fields and unknown fields `MergeImpl` gives.
* `Duration.mergeFromString_append`: parsing a concatenation is parsing its parts in turn.
* `internalSerialize_mergeImpl_keeps_unknown`: after parsing buffers and merging the results,
  the output ends with every unknown record of the buffers, byte for byte and in order.
-/

namespace Protobuf

/-! ## The records of the two fields -/

/-- The record `WriteInt64ToArrayWithField<1>` writes. -/
def secondsRecord (value : BitVec 64) : WireRecord :=
  ⟨writeTagToArray 1 0, writeVarint64ToArray value.toNat⟩

/-- The record `WriteInt32ToArrayWithField<2>` writes: the value sign-extended to 64 bits. -/
def nanosRecord (value : BitVec 32) : WireRecord :=
  ⟨writeTagToArray 2 0, writeVarint64ToArray (value.signExtend 64).toNat⟩

theorem secondsRecord_framed (maxSize : Nat) (value : BitVec 64) :
    (secondsRecord value).Framed maxSize :=
  readRecord_varint (by decide) (by decide) value.isLt

theorem nanosRecord_framed (maxSize : Nat) (value : BitVec 32) : (nanosRecord value).Framed maxSize :=
  readRecord_varint (by decide) (by decide) (value.signExtend 64).isLt

theorem secondsRecord_tag (value : BitVec 64) : (secondsRecord value).tag = makeTag 1 0 :=
  tag_writeTagToArray (by decide) _

theorem nanosRecord_tag (value : BitVec 32) : (nanosRecord value).tag = makeTag 2 0 :=
  tag_writeTagToArray (by decide) _

theorem secondsRecord_value (value : BitVec 64) : (secondsRecord value).value = value := by
  rw [secondsRecord, WireRecord.value, varintValue_writeVarint64ToArray, BitVec.ofNat_toNat,
    BitVec.setWidth_eq]

/-- A negative `nanos`, written sign-extended, reads back as itself once cut to 32 bits. -/
theorem nanosRecord_value (value : BitVec 32) : (nanosRecord value).value.setWidth 32 = value := by
  rw [nanosRecord, WireRecord.value, varintValue_writeVarint64ToArray, BitVec.ofNat_toNat,
    BitVec.setWidth_eq, ← BitVec.ofNat_toNat, ofNat_signExtend]

namespace Duration

/-- The field records `_InternalSerialize` writes for an object whose presence is read from its
values. -/
def fieldRecords (d : Duration) : List WireRecord :=
  (if d.seconds ≠ 0 then [secondsRecord d.seconds] else []) ++
  (if d.nanos ≠ 0 then [nanosRecord d.nanos] else [])

/-- All the records `_InternalSerialize` writes for a covered object. -/
def records (d : Duration) : List WireRecord := d.fieldRecords ++ d.unknownFields

theorem serializeByValue_eq_flatMap (d : Duration) :
    d.serializeByValue = d.records.flatMap WireRecord.bytes := by
  rw [serializeByValue, records, fieldRecords, internalSerializeUnknownFieldsToArray,
    List.flatMap_append, List.flatMap_append]
  split <;> split <;>
    simp [secondsRecord, nanosRecord, WireRecord.bytes, writeInt64ToArrayWithField,
      writeInt32ToArrayWithField]

theorem Valid.records_framed {maxSize : Nat} {d : Duration} (valid : d.Valid maxSize) :
    ∀ r ∈ d.records, r.Framed maxSize := by
  rw [records, fieldRecords]
  refine List.forall_mem_append.2 ⟨List.forall_mem_append.2 ⟨?_, ?_⟩, fun r mem => (valid.unknown r mem).1⟩ <;>
    split <;> simp [secondsRecord_framed, nanosRecord_framed]

/-- What the records of a valid object do when applied to any object `e`: each nonzero field
overwrites `e`'s and sets its has bit, and the unknown fields are appended. -/
theorem Valid.foldl_records {maxSize : Nat} {d : Duration} (valid : d.Valid maxSize) (e : Duration) :
    d.records.foldl Duration.applyRecord e =
      { e with
        seconds := if d.seconds ≠ 0 then d.seconds else e.seconds
        nanos := if d.nanos ≠ 0 then d.nanos else e.nanos
        hasBits := e.hasBits ||| (if d.seconds ≠ 0 then 1#32 else 0#32) |||
          (if d.nanos ≠ 0 then 2#32 else 0#32)
        unknownFields := e.unknownFields ++ d.unknownFields } := by
  have distinct : makeTag 2 0 ≠ makeTag 1 0 := by decide
  rw [records, List.foldl_append, foldl_applyRecord_of_unknown fun r mem => (valid.unknown r mem).2]
  by_cases seconds : d.seconds = 0#64 <;> by_cases nanos : d.nanos = 0#32 <;>
    simp [fieldRecords, Duration.applyRecord, seconds, nanos, secondsRecord_tag, nanosRecord_tag,
      secondsRecord_value, nanosRecord_value, distinct, BitVec.or_assoc]

/-- A parse of the output of a valid object reads its records. -/
theorem Valid.mergeFromString_records {maxSize : Nat} (ds : List Duration)
    (valid : ∀ d ∈ ds, d.Valid maxSize) (e : Duration) :
    e.mergeFromString maxSize (ds.flatMap internalSerialize) =
      .ok ((ds.flatMap records).foldl Duration.applyRecord e) := by
  have output : ds.flatMap internalSerialize = (ds.flatMap records).flatMap WireRecord.bytes := by
    rw [List.flatMap_assoc]
    exact List.flatMap_congr fun d mem => by
      rw [internalSerialize_of_covered (valid d mem).covered, serializeByValue_eq_flatMap]
  have framed : ∀ r ∈ ds.flatMap records, r.Framed maxSize := by
    intro r mem
    obtain ⟨d, mem, inD⟩ := List.mem_flatMap.1 mem
    exact (valid d mem).records_framed r inD
  rw [mergeFromString_eq, output, readRecords_flatMap framed]
  rfl

theorem parseFromString_sharedCtor (maxSize : Nat) (bytes : List Byte) :
    sharedCtor.parseFromString maxSize bytes = sharedCtor.mergeFromString maxSize bytes := by
  rw [parseFromString, clear_of_covered Covered.sharedCtor]

end Duration

/-! ## Round trips -/

/-- Parsing what `_InternalSerialize` writes for a reachable object gives the fold of its
records. -/
theorem parseFromString_internalSerialize {maxSize : Nat} {d : Duration} (reach : d.Reachable maxSize) :
    Duration.sharedCtor.parseFromString maxSize d.internalSerialize =
      .ok (d.records.foldl Duration.applyRecord Duration.sharedCtor) := by
  rw [Duration.parseFromString_sharedCtor, ← List.flatMap_singleton Duration.internalSerialize d,
    Duration.Valid.mergeFromString_records [d] fun d' mem => (List.mem_singleton.1 mem).symm ▸ reach.valid,
    List.flatMap_singleton]

/-- Parsing what `_InternalSerialize` writes for a reachable object succeeds, consuming every
byte, and gives back its fields, negative `nanos` included, and its unknown fields in order; a
has bit is set exactly for each nonzero field. -/
theorem parse_internalSerialize {maxSize : Nat} {d : Duration} (reach : d.Reachable maxSize) :
    ∃ d', Duration.sharedCtor.parseFromString maxSize d.internalSerialize = .ok d' ∧
      d'.seconds = d.seconds ∧ d'.nanos = d.nanos ∧ d'.unknownFields = d.unknownFields ∧
      (d'.hasBits.getLsbD 0 = true ↔ d.seconds ≠ 0) ∧ (d'.hasBits.getLsbD 1 = true ↔ d.nanos ≠ 0) := by
  have parsed := parseFromString_internalSerialize reach
  rw [reach.valid.foldl_records] at parsed
  refine ⟨_, parsed, ?_⟩
  by_cases seconds : d.seconds = 0#64 <;> by_cases nanos : d.nanos = 0#32 <;>
    simp [Duration.sharedCtor, seconds, nanos]

theorem parse_internalSerialize_negativeNanos :
    negativeNanos.Reachable 0 ∧
      ∃ d', Duration.sharedCtor.parseFromString 0 negativeNanos.internalSerialize = .ok d' ∧
        d'.seconds = negativeNanos.seconds ∧ d'.nanos = negativeNanos.nanos ∧
        d'.unknownFields = negativeNanos.unknownFields ∧
        (d'.hasBits.getLsbD 0 = true ↔ negativeNanos.seconds ≠ 0) ∧
        (d'.hasBits.getLsbD 1 = true ↔ negativeNanos.nanos ≠ 0) :=
  ⟨negativeNanos_reachable 0, parse_internalSerialize (negativeNanos_reachable 0)⟩

/-- Parsing two reachable objects' outputs one after the other gives the fields and unknown
fields that `MergeImpl` gives on a copy of the first with the second as source: the last
occurrence of a field wins, and the serializer writes no zero that would overwrite. -/
theorem parse_append_eq_mergeImpl {maxSize : Nat} {x y : Duration} (reachX : x.Reachable maxSize)
    (reachY : y.Reachable maxSize) :
    ∃ d, Duration.sharedCtor.parseFromString maxSize (x.internalSerialize ++ y.internalSerialize) = .ok d ∧
      d.seconds = (Duration.mergeImpl (Duration.copyCtor x) y).seconds ∧
      d.nanos = (Duration.mergeImpl (Duration.copyCtor x) y).nanos ∧
      d.unknownFields = (Duration.mergeImpl (Duration.copyCtor x) y).unknownFields := by
  have validX := reachX.valid
  have validY := reachY.valid
  have parsed := Duration.Valid.mergeFromString_records [x, y]
    (fun d mem => by rcases List.mem_pair.1 mem with rfl | rfl <;> assumption) Duration.sharedCtor
  simp only [List.flatMap_cons, List.flatMap_nil, List.append_nil, List.foldl_append,
    validX.foldl_records, validY.foldl_records] at parsed
  refine ⟨_, (Duration.parseFromString_sharedCtor maxSize _).trans parsed, ?_⟩
  rw [Duration.mergeImpl_of_covered _ validY.covered]
  by_cases seconds : x.seconds = 0#64 <;> by_cases nanos : x.nanos = 0#32 <;>
    simp [Duration.mergeByValue, Duration.copyCtor, Duration.sharedCtor, seconds, nanos]

theorem parse_append_eq_mergeImpl_pair :
    negativeNanos.Reachable 0 ∧ fiveSeconds.Reachable 0 ∧
      ∃ d, Duration.sharedCtor.parseFromString 0
          (negativeNanos.internalSerialize ++ fiveSeconds.internalSerialize) = .ok d ∧
        d.seconds = (Duration.mergeImpl (Duration.copyCtor negativeNanos) fiveSeconds).seconds ∧
        d.nanos = (Duration.mergeImpl (Duration.copyCtor negativeNanos) fiveSeconds).nanos ∧
        d.unknownFields = (Duration.mergeImpl (Duration.copyCtor negativeNanos) fiveSeconds).unknownFields :=
  ⟨negativeNanos_reachable 0, fiveSeconds_reachable 0,
    parse_append_eq_mergeImpl (negativeNanos_reachable 0) (fiveSeconds_reachable 0)⟩

/-! ## Parsing a concatenation -/

/-- Parsing a concatenation is parsing its parts in turn, once the first part parses: a later
occurrence of a field overwrites, and unknown records accumulate in order. -/
theorem Duration.mergeFromString_append {maxSize : Nat} {d d' : Duration} {first : List Byte}
    (parsed : d.mergeFromString maxSize first = .ok d') (second : List Byte) :
    d.mergeFromString maxSize (first ++ second) = d'.mergeFromString maxSize second := by
  rw [Duration.mergeFromString_eq] at parsed ⊢
  obtain ⟨records, read, rfl⟩ := Except.map_eq_ok.1 parsed
  rw [readRecords_append read, Duration.mergeFromString_eq]
  cases readRecords maxSize second <;> simp [Except.map, List.foldl_append]

theorem mergeFromString_append_serialized :
    Duration.sharedCtor.mergeFromString 0 ([fiveSeconds].flatMap Duration.internalSerialize) =
        .ok (fiveSeconds.records.foldl Duration.applyRecord Duration.sharedCtor) ∧
      Duration.sharedCtor.mergeFromString 0 ([fiveSeconds].flatMap Duration.internalSerialize ++ [8#8, 7#8]) =
        (fiveSeconds.records.foldl Duration.applyRecord Duration.sharedCtor).mergeFromString 0 [8#8, 7#8] :=
  have parsed := Duration.Valid.mergeFromString_records [fiveSeconds]
    (fun _ mem => (List.mem_singleton.1 mem).symm ▸ (fiveSeconds_reachable 0).valid) Duration.sharedCtor
  ⟨parsed, Duration.mergeFromString_append parsed [8#8, 7#8]⟩

/-! ## Unknown fields survive parse, merge and serialize -/

namespace Duration

/-- What a parse into a new object keeps as unknown fields: the unknown records of the buffer. -/
theorem unknownFields_parseFromString {maxSize : Nat} {bytes : List Byte} {d : Duration}
    (parsed : sharedCtor.parseFromString maxSize bytes = .ok d) :
    ∃ records, readRecords maxSize bytes = .ok records ∧
      d.unknownFields = records.filter fun r => decide r.IsUnknown := by
  rw [parseFromString_sharedCtor, mergeFromString_eq] at parsed
  obtain ⟨records, read, rfl⟩ := Except.map_eq_ok.1 parsed
  exact ⟨records, read, unknownFields_foldl_applyRecord sharedCtor records⟩

theorem unknownFields_foldl_mergeImpl (d : Duration) (ds : List Duration) :
    (ds.foldl mergeImpl d).unknownFields = (d :: ds).flatMap unknownFields := by
  induction ds generalizing d with
  | nil => simp
  | cons d' ds ih => simp [ih, mergeImpl_eq]

/-- `_InternalSerialize` ends with the unknown fields. -/
theorem internalSerialize_unknown_suffix (d : Duration) :
    ∃ front, d.internalSerialize = front ++ d.unknownFields.flatMap WireRecord.bytes := by
  rw [internalSerialize_eq]
  exact ⟨_, rfl⟩

end Duration

/-- The records of each parsed buffer, with what each parse keeps as unknown. -/
theorem forall₂_parse_records {maxSize : Nat} {inputs : List (List Byte)} {ds : List Duration}
    (parsed : List.Forall₂ (fun bytes d => Duration.sharedCtor.parseFromString maxSize bytes = .ok d) inputs ds) :
    ∃ records : List (List WireRecord),
      List.Forall₂ (fun bytes rs => readRecords maxSize bytes = .ok rs ∧ bytes = rs.flatMap WireRecord.bytes)
        inputs records ∧
      ds.flatMap Duration.unknownFields = records.flatMap fun rs => rs.filter fun r => decide r.IsUnknown := by
  induction parsed with
  | nil => exact ⟨[], .nil, rfl⟩
  | cons first _ ih =>
    obtain ⟨rs, read, unknown⟩ := Duration.unknownFields_parseFromString first
    obtain ⟨records, each, rest⟩ := ih
    refine ⟨rs :: records, .cons ⟨read, (readRecords_eq_ok read).2.symm⟩ each, ?_⟩
    rw [List.flatMap_cons, List.flatMap_cons, unknown, rest]

/-- Parse buffers, merge the second and later results into the first in order, serialize: the
output ends with the records of the buffers that the parse did not map to a field, byte for byte
as they are in the buffers, which the records make up, and in their order. -/
theorem internalSerialize_mergeImpl_keeps_unknown {maxSize : Nat} {inputs : List (List Byte)}
    {d : Duration} {ds : List Duration}
    (parsed : List.Forall₂ (fun bytes d => Duration.sharedCtor.parseFromString maxSize bytes = .ok d)
      inputs (d :: ds)) :
    ∃ (records : List (List WireRecord)) (front : List Byte),
      List.Forall₂ (fun bytes rs => readRecords maxSize bytes = .ok rs ∧ bytes = rs.flatMap WireRecord.bytes)
        inputs records ∧
      (ds.foldl Duration.mergeImpl d).internalSerialize =
        front ++ (records.flatMap fun rs => rs.filter fun r => decide r.IsUnknown).flatMap WireRecord.bytes := by
  obtain ⟨records, each, unknown⟩ := forall₂_parse_records parsed
  obtain ⟨front, output⟩ := (ds.foldl Duration.mergeImpl d).internalSerialize_unknown_suffix
  refine ⟨records, front, each, ?_⟩
  rw [output, Duration.unknownFields_foldl_mergeImpl, unknown]

/-- The buffers `18 05 08 01` (field 3 as a varint, then `seconds = 1`) and `2a 02 61 62`
(field 5, the two bytes `ab` length-delimited) each carry one unknown record; merged and
written, both come out at the end, in order. -/
theorem internalSerialize_mergeImpl_keeps_unknown_pair :
    List.Forall₂ (fun bytes d => Duration.sharedCtor.parseFromString 2 bytes = .ok d)
        [[24#8, 5#8, 8#8, 1#8], [42#8, 2#8, 97#8, 98#8]]
        [{ Duration.sharedCtor with hasBits := 1#32, seconds := 1#64, unknownFields := [⟨[24#8], [5#8]⟩] },
          { Duration.sharedCtor with unknownFields := [⟨[42#8], [2#8, 97#8, 98#8]⟩] }] ∧
      ∃ (records : List (List WireRecord)) (front : List Byte),
        List.Forall₂ (fun bytes rs => readRecords 2 bytes = .ok rs ∧ bytes = rs.flatMap WireRecord.bytes)
          [[24#8, 5#8, 8#8, 1#8], [42#8, 2#8, 97#8, 98#8]] records ∧
        ([{ Duration.sharedCtor with unknownFields := [⟨[42#8], [2#8, 97#8, 98#8]⟩] }].foldl
            Duration.mergeImpl
            { Duration.sharedCtor with
              hasBits := 1#32, seconds := 1#64, unknownFields := [⟨[24#8], [5#8]⟩] }).internalSerialize =
          front ++ (records.flatMap fun rs => rs.filter fun r => decide r.IsUnknown).flatMap WireRecord.bytes :=
  have first : Duration.sharedCtor.parseFromString 2 [24#8, 5#8, 8#8, 1#8] =
      .ok { Duration.sharedCtor with hasBits := 1#32, seconds := 1#64, unknownFields := [⟨[24#8], [5#8]⟩] } := by
    rw [Duration.parseFromString_sharedCtor, Duration.mergeFromString_eq, readRecords_eq_upTo (le_refl _)]
    rfl
  have second : Duration.sharedCtor.parseFromString 2 [42#8, 2#8, 97#8, 98#8] =
      .ok { Duration.sharedCtor with unknownFields := [⟨[42#8], [2#8, 97#8, 98#8]⟩] } := by
    rw [Duration.parseFromString_sharedCtor, Duration.mergeFromString_eq, readRecords_eq_upTo (le_refl _)]
    rfl
  ⟨.cons first (.cons second .nil), internalSerialize_mergeImpl_keeps_unknown (.cons first (.cons second .nil))⟩

end Protobuf
