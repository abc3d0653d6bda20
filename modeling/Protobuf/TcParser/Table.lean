import Protobuf.Duration.Message

/-!
# The parse table `Duration::_table_`

The table-driven parser (`TcParser`, generated_message_tctable_impl.h) is not under src/; the
table `duration.pb.cc` hands it is. This module models the parts of the table the parser reads:
the fast-path entries, selected by `(coded_tag & fast_idx_mask) >> 3`; the field entries, found
through the 32-bit skip map; and, for each entry, the field's storage, has bit and
representation. `findFieldEntry` is `TcParser::FindFieldEntry` as the spec describes the lookup
(spec §4.2).

Results:
* `findFieldEntry_table`: on `Duration::_table_`, field 1 finds the `seconds` entry, field 2 the
  `nanos` entry, and every other field number finds nothing.
* `fastEntry_table`: the fast entry a first byte selects accepts that byte exactly when it is the
  coded tag 8 or 16.
-/

namespace Protobuf

/-- A field's storage in `Duration`: `PROTOBUF_FIELD_OFFSET(Duration, _impl_.seconds_)` or
`..._impl_.nanos_`. -/
inductive Slot
  | seconds
  | nanos
deriving DecidableEq, Repr

/-- How a varint field is kept: `field_layout::kRep64Bits` (`uint64_t`) or `kRep32Bits`
(`uint32_t`). -/
inductive FieldRep
  | rep32Bits
  | rep64Bits
deriving DecidableEq, Repr

/-- The representation of the C++ member at a slot. -/
def Slot.rep : Slot → FieldRep
  | .seconds => .rep64Bits
  | .nanos => .rep32Bits

/-- `field_layout::kFcSingular` or `kFcOptional`: whether the parser sets a has bit. -/
inductive FieldCard
  | singular
  | optional
deriving DecidableEq, Repr

/-- The `type_card` of a field entry: `kFcOptional | kInt64` is `⟨.optional, .rep64Bits⟩`. Both
kinds of this table are varints (`kFkVarint`). -/
structure TypeCard where
  card : FieldCard
  rep : FieldRep
deriving DecidableEq, Repr

/-- `TcParseTableBase::FieldEntry`: the field's offset, its has-bit index (the table stores
`_Internal::kHasBitsOffset + i`, the bit `i` of `_has_bits_`) and its type card. protoc gives each
entry the representation of its member. -/
structure FieldEntry where
  offset : Slot
  hasIdx : Nat
  typeCard : TypeCard
  rep_offset : typeCard.rep = offset.rep
deriving DecidableEq

/-- The fast-path function of a fast entry, with its template arguments:
`SingularVarintNoZag1<FieldType, data_offset, hasbit_idx>`; `FieldType` is the type of the member
at `data_offset`. -/
inductive FastParser
  | singularVarintNoZag1 (fieldType : FieldRep) (dataOffset : Slot) (hasbitIdx : Nat)
      (rep_offset : fieldType = dataOffset.rep)

/-- `TcParseTableBase::FastFieldEntry`: the function and the coded tag its `TcFieldData` holds. -/
structure FastFieldEntry where
  target : FastParser
  codedTag : Nat

/-- The part of `TcParseTable` the parser reads. The fast table has one entry for each value of
`(coded_tag & fast_idx_mask) >> 3`. -/
structure TcParseTable where
  fastIdxMask : Nat
  skipmap32 : Nat
  fastEntries : List FastFieldEntry
  fieldEntries : List FieldEntry
  fastEntries_length : fastEntries.length = fastIdxMask >>> 3 + 1

/-- The number of bits set among the low 32 (`absl::popcount` of a `uint32_t`). -/
def popcount32 (n : Nat) : Nat := ((List.range 32).filter n.testBit).length

/-- Modelled from the spec: `TcParser::FindFieldEntry`. A field number from 1 to 32 is looked up
in the skip map: a set bit means no entry, otherwise the entry's index is the field's position
less the number of skipped fields below it. The lookup table that follows the skip map for
larger numbers holds only its end marker `65535, 65535` in `Duration::_table_`, so every larger
number, like field number 0, finds nothing. -/
def findFieldEntry (table : TcParseTable) (fieldNum : Nat) : Option FieldEntry :=
  let adjFnum := fieldNum - 1
  if fieldNum ≠ 0 ∧ adjFnum < 32 then
    let skipbit := 1 <<< adjFnum
    if table.skipmap32 &&& skipbit ≠ 0 then none
    else table.fieldEntries[adjFnum - popcount32 (table.skipmap32 &&& (skipbit - 1))]?
  else none

/-- The index `TagDispatch` computes from the first byte of a tag is always an index of the fast
table. -/
theorem fastIdx_lt (table : TcParseTable) (codedTag : Nat) :
    (codedTag &&& table.fastIdxMask) >>> 3 < table.fastEntries.length := by
  rw [table.fastEntries_length, Nat.shiftRight_eq_div_pow, Nat.shiftRight_eq_div_pow, Nat.lt_succ_iff]
  exact Nat.div_le_div_right Nat.and_le_right

/-- The fast entry `TagDispatch` selects for a tag starting with byte `codedTag`. -/
def TcParseTable.fastEntry (table : TcParseTable) (codedTag : Nat) : FastFieldEntry :=
  table.fastEntries.get ⟨(codedTag &&& table.fastIdxMask) >>> 3, fastIdx_lt table codedTag⟩

/-! ## `Duration::_table_` -/

/-- The `seconds` entry: `{offset of seconds_, kHasBitsOffset + 0, 0, kFcOptional | kInt64}`. -/
def secondsEntry : FieldEntry := ⟨.seconds, 0, ⟨.optional, .rep64Bits⟩, rfl⟩

/-- The `nanos` entry: `{offset of nanos_, kHasBitsOffset + 1, 0, kFcOptional | kInt32}`. -/
def nanosEntry : FieldEntry := ⟨.nanos, 1, ⟨.optional, .rep32Bits⟩, rfl⟩

/-- `Duration::_table_`: `fast_idx_mask` 8, skip map 4294967292 (fields 1 and 2 present), the
fast entries for `nanos` (coded tag 16) and `seconds` (coded tag 8), and the two field
entries. -/
def Duration.table : TcParseTable where
  fastIdxMask := 8
  skipmap32 := 4294967292
  fastEntries :=
    [⟨.singularVarintNoZag1 .rep32Bits .nanos 1 rfl, 16⟩,
     ⟨.singularVarintNoZag1 .rep64Bits .seconds 0 rfl, 8⟩]
  fieldEntries := [secondsEntry, nanosEntry]
  fastEntries_length := rfl

theorem findFieldEntry_table (fieldNum : Nat) :
    findFieldEntry Duration.table fieldNum =
      if fieldNum = 1 then some secondsEntry else if fieldNum = 2 then some nanosEntry else none := by
  have lookup : ∀ k < 32, findFieldEntry Duration.table (k + 1) =
      if k + 1 = 1 then some secondsEntry else if k + 1 = 2 then some nanosEntry else none := by
    decide
  rcases fieldNum with _ | k
  · rfl
  · by_cases small : k < 32
    · exact lookup k small
    · have large : ¬(k + 1 ≠ 0 ∧ k + 1 - 1 < 32) := by omega
      simp only [findFieldEntry, if_neg large]
      rw [if_neg (by omega), if_neg (by omega)]

theorem fastEntry_table (b : Byte) :
    (Duration.table.fastEntry b.toNat).codedTag ^^^ b.toNat = 0 ↔ b = 8#8 ∨ b = 16#8 := by
  revert b
  decide

example : Duration.table.fastEntry 8 = ⟨.singularVarintNoZag1 .rep64Bits .seconds 0 rfl, 8⟩ := rfl

example : Duration.table.fastEntry 16 = ⟨.singularVarintNoZag1 .rep32Bits .nanos 1 rfl, 16⟩ := rfl

end Protobuf
