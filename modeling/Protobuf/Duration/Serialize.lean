import Protobuf.Duration.Message

/-!
# Serializing a `Duration`

`_InternalSerialize` writes `seconds` as field 1 and `nanos` as field 2, each only when its has
bit is set and its value is not zero, and then the unknown fields. `ByteSizeLong` computes the
length of that output with the runtime's sizing helpers and stores it in `_cached_size_`. The
helpers (`WireFormatLite::WriteInt64ToArrayWithField`, `Int64SizePlusOne`, ... and the
unknown-field writers) are not under src/; they are modelled from the spec's wire format: an
`int64` is written as its two's complement, an `int32` sign-extended to 64 bits (spec §6 keeps
zigzag for the `sint` types), and the unknown fields verbatim (spec §4.3).

Results:
* `byteSizeLong_eq_length`: on every state, `ByteSizeLong` returns the length of what
  `_InternalSerialize` writes and stores it in the cached size, changing nothing else. The two
  functions test the has bits differently (`ByteSizeLong` first tests `& 0x3u`), and size a
  negative `int32` as ten bytes while the writer sign-extends it.
* `byteSizeLong_le`: the two fields never take more than 22 bytes.
* `internalSerialize_of_covered`, `byteSizeLong_of_covered`: on a covered state both functions
  treat a field as present exactly when its value is not zero.
-/

namespace Protobuf

/-! ## Sign extension of `int32` -/

theorem toNat_signExtend (value : BitVec 32) :
    (value.signExtend 64).toNat = if value.msb then value.toNat + (2 ^ 64 - 2 ^ 32) else value.toNat := by
  cases msb : value.msb
  · rw [BitVec.signExtend_eq_not_setWidth_not_of_msb_false msb, BitVec.toNat_setWidth,
      Nat.mod_eq_of_lt (lt_trans value.isLt (by decide))]
    rfl
  · rw [BitVec.signExtend_eq_not_setWidth_not_of_msb_true msb, BitVec.toNat_not, BitVec.toNat_setWidth,
      BitVec.toNat_not]
    have := value.isLt
    rw [Nat.mod_eq_of_lt (by omega), if_pos rfl]
    omega

theorem toInt_neg_iff_msb (value : BitVec 32) : value.toInt < 0 ↔ value.msb = true := by
  rw [BitVec.toInt_neg_iff, BitVec.msb_eq_decide, decide_eq_true_iff]
  omega

/-- Truncating the sign-extended value to 32 bits, as `static_cast<uint32_t>` does when the
parser stores it, gives the `int32` back. -/
theorem ofNat_signExtend (value : BitVec 32) : BitVec.ofNat 32 (value.signExtend 64).toNat = value := by
  rw [BitVec.ofNat_toNat]
  ext i
  simp only [BitVec.getLsbD_setWidth, BitVec.getLsbD_signExtend]
  simp [i.isLt, show (i : Nat) < 64 by omega]

/-! ## The runtime helpers -/

/-- Modelled from the spec: `WireFormatLite::WriteTagToArray` writes the tag as a varint. -/
def writeTagToArray (fieldNumber wireType : Nat) : List Byte :=
  writeVarint64ToArray (makeTag fieldNumber wireType)

/-- Modelled from the spec: `WireFormatLite::WriteInt64ToArrayWithField`: the varint tag, then
the value's two's complement as a varint. -/
def writeInt64ToArrayWithField (fieldNumber : Nat) (value : BitVec 64) : List Byte :=
  writeTagToArray fieldNumber 0 ++ writeVarint64ToArray value.toNat

/-- Modelled from the spec: `WireFormatLite::WriteInt32ToArrayWithField`: the varint tag, then
the value sign-extended to 64 bits as a varint, ten bytes for a negative value. -/
def writeInt32ToArrayWithField (fieldNumber : Nat) (value : BitVec 32) : List Byte :=
  writeTagToArray fieldNumber 0 ++ writeVarint64ToArray (value.signExtend 64).toNat

/-- Modelled from the spec: `WireFormatLite::Int64SizePlusOne`, the size of the value's varint
and of a one-byte tag. -/
def int64SizePlusOne (value : BitVec 64) : Nat := varintSize64 value.toNat + 1

/-- Modelled from the spec: `WireFormatLite::Int32SizePlusOne`: eleven bytes for a negative value
(ten for its sign-extended varint), otherwise the size of its varint and of a one-byte tag. -/
def int32SizePlusOne (value : BitVec 32) : Nat :=
  if value.toInt < 0 then 11 else varintSize64 value.toNat + 1

/-- Modelled from the spec: `WireFormat::InternalSerializeUnknownFieldsToArray` writes the stored
records verbatim, in order (spec §4.3, §4.5). -/
def internalSerializeUnknownFieldsToArray (fields : List WireRecord) : List Byte :=
  fields.flatMap WireRecord.bytes

/-- Modelled from the spec: `WireFormat::ComputeUnknownFieldsSize`, the number of bytes of the
stored records. -/
def computeUnknownFieldsSize (fields : List WireRecord) : Nat :=
  fields.foldr (fun field size => field.bytes.length + size) 0

/-- A tag below 128 is written as one byte. -/
theorem length_writeTagToArray {fieldNumber wireType : Nat} (small : makeTag fieldNumber wireType < 128) :
    (writeTagToArray fieldNumber wireType).length = 1 := by
  rw [writeTagToArray, writeVarint64ToArray_of_lt small, List.length_singleton]

/-- A record whose tag bytes `WriteTagToArray` wrote reads back the tag. -/
theorem tag_writeTagToArray {fieldNumber wireType : Nat} (fits : makeTag fieldNumber wireType < 2 ^ 64)
    (valueBytes : List Byte) :
    (⟨writeTagToArray fieldNumber wireType, valueBytes⟩ : WireRecord).tag = makeTag fieldNumber wireType := by
  rw [WireRecord.tag, writeTagToArray, varintValue_writeVarint64ToArray, BitVec.toNat_ofNat,
    Nat.mod_eq_of_lt fits]

theorem length_writeInt64ToArrayWithField (value : BitVec 64) :
    (writeInt64ToArrayWithField 1 value).length = int64SizePlusOne value := by
  rw [writeInt64ToArrayWithField, List.length_append, length_writeTagToArray (by decide),
    length_writeVarint64ToArray, int64SizePlusOne, Nat.add_comm]

theorem length_writeInt32ToArrayWithField (value : BitVec 32) :
    (writeInt32ToArrayWithField 2 value).length = int32SizePlusOne value := by
  rw [writeInt32ToArrayWithField, List.length_append, length_writeTagToArray (by decide),
    length_writeVarint64ToArray, int32SizePlusOne, toNat_signExtend, Nat.add_comm]
  have := value.isLt
  by_cases negative : value.toInt < 0
  · have msb := (toInt_neg_iff_msb value).1 negative
    rw [BitVec.msb_eq_decide, decide_eq_true_iff] at msb
    rw [if_pos negative, if_pos ((toInt_neg_iff_msb value).1 negative),
      varintSize64_eq_ten (by omega) (by omega)]
  · rw [if_neg negative, if_neg (mt (toInt_neg_iff_msb value).2 negative)]

theorem length_internalSerializeUnknownFieldsToArray (fields : List WireRecord) :
    (internalSerializeUnknownFieldsToArray fields).length = computeUnknownFieldsSize fields := by
  induction fields with
  | nil => rfl
  | cons field fields ih =>
    rw [internalSerializeUnknownFieldsToArray, List.flatMap_cons, List.length_append] at *
    rw [ih]
    rfl

namespace Duration

/-- `_internal_metadata_.have_unknown_fields()`. -/
def haveUnknownFields (d : Duration) : Bool := !d.unknownFields.isEmpty

/-- `_InternalSerialize`: field 1 if its has bit is set and it is not zero, field 2 likewise,
then the unknown fields. -/
def internalSerialize (d : Duration) : List Byte :=
  (if d.hasBits &&& 1#32 ≠ 0#32 then
      if d.seconds ≠ 0 then writeInt64ToArrayWithField 1 d.seconds else []
    else []) ++
  (if d.hasBits &&& 2#32 ≠ 0#32 then
      if d.nanos ≠ 0 then writeInt32ToArrayWithField 2 d.nanos else []
    else []) ++
  (if d.haveUnknownFields then internalSerializeUnknownFieldsToArray d.unknownFields else [])

/-- Modelled from the spec: `MaybeComputeUnknownFieldsSize(total_size, &_cached_size_)`, the end
of the sizing pass (spec §4.3): add the size of the unknown fields, if there are any, and store
the total in the cached size. -/
def maybeComputeUnknownFieldsSize (d : Duration) (totalSize : Nat) : Nat × Duration :=
  let totalSize :=
    if d.haveUnknownFields then totalSize + computeUnknownFieldsSize d.unknownFields else totalSize
  (totalSize, { d with cachedSize := totalSize })

/-- `ByteSizeLong`: returns the size and the object with its cached size updated. -/
def byteSizeLong (d : Duration) : Nat × Duration :=
  let cachedHasBits := d.hasBits
  let totalSize :=
    if cachedHasBits &&& 3#32 ≠ 0#32 then
      (if cachedHasBits &&& 1#32 ≠ 0#32 then
          if d.seconds ≠ 0 then int64SizePlusOne d.seconds else 0
        else 0) +
      (if cachedHasBits &&& 2#32 ≠ 0#32 then
          if d.nanos ≠ 0 then int32SizePlusOne d.nanos else 0
        else 0)
    else 0
  maybeComputeUnknownFieldsSize d totalSize

/-- The output of `_InternalSerialize`, with each guard read as a has bit and a value test. -/
theorem internalSerialize_eq (d : Duration) :
    d.internalSerialize =
      (if d.hasBits.getLsbD 0 = true ∧ d.seconds ≠ 0 then writeInt64ToArrayWithField 1 d.seconds else []) ++
      (if d.hasBits.getLsbD 1 = true ∧ d.nanos ≠ 0 then writeInt32ToArrayWithField 2 d.nanos else []) ++
      internalSerializeUnknownFieldsToArray d.unknownFields := by
  have unknown : (if d.haveUnknownFields then internalSerializeUnknownFieldsToArray d.unknownFields else []) =
      internalSerializeUnknownFieldsToArray d.unknownFields := by
    cases fields : d.unknownFields <;> simp [haveUnknownFields, fields, internalSerializeUnknownFieldsToArray]
  rw [internalSerialize, unknown]
  by_cases b0 : d.hasBits.getLsbD 0 = true <;> by_cases b1 : d.hasBits.getLsbD 1 = true <;>
    simp [and_bit_eq_zero 1 0 rfl (by decide), and_bit_eq_zero 2 1 rfl (by decide), b0, b1]

/-- `ByteSizeLong`, with each guard read as a has bit and a value test. -/
theorem byteSizeLong_eq (d : Duration) :
    d.byteSizeLong =
      let size :=
        (if d.hasBits.getLsbD 0 = true ∧ d.seconds ≠ 0 then int64SizePlusOne d.seconds else 0) +
        (if d.hasBits.getLsbD 1 = true ∧ d.nanos ≠ 0 then int32SizePlusOne d.nanos else 0) +
        computeUnknownFieldsSize d.unknownFields
      (size, { d with cachedSize := size }) := by
  have unknown : ∀ n, (if d.haveUnknownFields then n + computeUnknownFieldsSize d.unknownFields else n) =
      n + computeUnknownFieldsSize d.unknownFields := by
    intro n; cases fields : d.unknownFields <;> simp [haveUnknownFields, fields, computeUnknownFieldsSize]
  rw [byteSizeLong, maybeComputeUnknownFieldsSize]
  simp only [unknown]
  by_cases b0 : d.hasBits.getLsbD 0 = true <;> by_cases b1 : d.hasBits.getLsbD 1 = true <;>
    simp [and_bit_eq_zero 1 0 rfl (by decide), and_bit_eq_zero 2 1 rfl (by decide), and_three_eq_zero,
      b0, b1]

/-- The size `ByteSizeLong` returns and caches is the length of what `_InternalSerialize`
writes, and nothing else changes. -/
theorem byteSizeLong_eq_length (d : Duration) :
    d.byteSizeLong = (d.internalSerialize.length, { d with cachedSize := d.internalSerialize.length }) := by
  have length : d.internalSerialize.length =
      (if d.hasBits.getLsbD 0 = true ∧ d.seconds ≠ 0 then int64SizePlusOne d.seconds else 0) +
      (if d.hasBits.getLsbD 1 = true ∧ d.nanos ≠ 0 then int32SizePlusOne d.nanos else 0) +
      computeUnknownFieldsSize d.unknownFields := by
    rw [internalSerialize_eq, List.length_append, List.length_append,
      length_internalSerializeUnknownFieldsToArray]
    split <;> split <;>
      simp only [length_writeInt64ToArrayWithField, length_writeInt32ToArrayWithField, List.length_nil]
  rw [byteSizeLong_eq, length]

/-- The two fields take at most 22 bytes: a one-byte tag and at most ten varint bytes each, a
negative `nanos` included. -/
theorem byteSizeLong_le (d : Duration) :
    d.byteSizeLong.1 ≤ 22 + computeUnknownFieldsSize d.unknownFields := by
  have seconds : int64SizePlusOne d.seconds ≤ 11 := by
    have := varintSize64_le_ten d.seconds.isLt
    rw [int64SizePlusOne]
    omega
  have nanos : int32SizePlusOne d.nanos ≤ 11 := by
    have := varintSize64_le_ten (Nat.lt_trans d.nanos.isLt (by decide))
    rw [int32SizePlusOne]
    split <;> omega
  rw [byteSizeLong_eq]
  dsimp only
  split <;> split <;> omega

/-! ## Presence read from the value -/

/-- `_InternalSerialize` read with proto3's implicit presence (spec §4.3): a field is written when
its value is not zero, whatever its has bit. -/
def serializeByValue (d : Duration) : List Byte :=
  (if d.seconds ≠ 0 then writeInt64ToArrayWithField 1 d.seconds else []) ++
  (if d.nanos ≠ 0 then writeInt32ToArrayWithField 2 d.nanos else []) ++
  internalSerializeUnknownFieldsToArray d.unknownFields

/-- `ByteSizeLong`'s size read with proto3's implicit presence. -/
def byteSizeByValue (d : Duration) : Nat :=
  (if d.seconds ≠ 0 then int64SizePlusOne d.seconds else 0) +
  (if d.nanos ≠ 0 then int32SizePlusOne d.nanos else 0) +
  computeUnknownFieldsSize d.unknownFields

theorem internalSerialize_of_covered {d : Duration} (covered : d.Covered) :
    d.internalSerialize = d.serializeByValue := by
  simp only [internalSerialize_eq, serializeByValue, covered.seconds_guard, covered.nanos_guard]

theorem byteSizeLong_of_covered {d : Duration} (covered : d.Covered) :
    d.byteSizeLong.1 = d.byteSizeByValue := by
  simp only [byteSizeLong_eq, byteSizeByValue, covered.seconds_guard, covered.nanos_guard]

end Duration

end Protobuf
