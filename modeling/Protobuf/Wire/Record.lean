import Protobuf.Wire.Varint

/-!
# Records of the wire format

A message on the wire is a sequence of records, each a varint tag `field_number << 3 |
wire_type` followed by a value whose shape the wire type gives (spec §6): a varint, eight or
four bytes, or a varint length and that many bytes. `readRecord` splits one record off the front
of a buffer and keeps the bytes of its tag and of its value as they were read, the pair the
Unknown Field Store keeps (spec §3, §4.5). None of this is under src/: the framing is modelled
from the spec.

Results:
* `readRecord_consumes`, `readRecord_framed`: a record read from a buffer is read back from its
  own bytes whatever follows them.
* `readRecords_flatMap`, `readRecords_eq_ok`: a buffer made of framed records splits back into
  exactly those records, and a buffer that splits is made of the framed records it splits into.
* `readRecord_varint`: a varint record as the serializer writes it reads back as itself.
* `readRecords_eq_upTo`: the records of a buffer can be computed by a structural reader.
-/

namespace Protobuf

theorem Except.bind_eq_ok {ε α β : Type} {x : Except ε α} {f : α → Except ε β} {b : β} :
    x >>= f = .ok b ↔ ∃ a, x = .ok a ∧ f a = .ok b := by
  cases x <;> simp [bind, Except.bind]

theorem Except.map_eq_ok {ε α β : Type} {x : Except ε α} {f : α → β} {b : β} :
    x.map f = .ok b ↔ ∃ a, x = .ok a ∧ f a = b := by
  cases x <;> simp [Except.map]

/-- Modelled from the spec: `WireFormatLite::MakeTag`, the tag of a record is
`field_number << 3 | wire_type`. -/
def makeTag (fieldNumber wireType : Nat) : Nat := fieldNumber <<< 3 ||| wireType

theorem makeTag_eq {fieldNumber wireType : Nat} (small : wireType < 8) :
    makeTag fieldNumber wireType = 8 * fieldNumber + wireType := by
  rw [makeTag, Nat.shiftLeft_eq, Nat.mul_comm, ← Nat.mul_add_lt_is_or small]

/-- Modelled from the spec: `n` bytes taken as they are, a fixed-width value or the body of a
length-delimited one; `Truncated` when fewer remain (spec §4.2). -/
def readFixed (n : Nat) (bytes : List Byte) : Except ParseError (List Byte × List Byte) :=
  if bytes.length < n then .error .truncated else .ok (bytes.take n, bytes.drop n)

/-- Modelled from the spec: the raw bytes of one value of wire type `wireType`. A
length-delimited value is its length varint and that many bytes; a length above `maxSize` is
`ExcessiveSize` (spec §4.2). A wire type other than the four of spec §6 is refused. -/
def readPayload (maxSize wireType : Nat) (bytes : List Byte) :
    Except ParseError (List Byte × List Byte) :=
  match wireType with
  | 0 => readVarintBytes bytes
  | 1 => readFixed 8 bytes
  | 2 =>
    readVarintBytes bytes >>= fun (lengthBytes, rest) =>
      let length := (BitVec.ofNat 64 (varintValue lengthBytes)).toNat
      if maxSize < length then .error .excessiveSize
      else (readFixed length rest).map fun (body, rest) => (lengthBytes ++ body, rest)
  | 5 => readFixed 4 bytes
  | _ => .error .invalidTag

/-- One record as it was read: the bytes of its tag and the bytes of its value. -/
structure WireRecord where
  tagBytes : List Byte
  valueBytes : List Byte
deriving DecidableEq, Repr

namespace WireRecord

/-- The record's bytes on the wire. -/
def bytes (r : WireRecord) : List Byte := r.tagBytes ++ r.valueBytes

/-- The record's tag, as the `uint64_t` its varint decodes to. -/
def tag (r : WireRecord) : Nat := (BitVec.ofNat 64 (varintValue r.tagBytes)).toNat

/-- The value of a varint record, as the `uint64_t` its varint decodes to. -/
def value (r : WireRecord) : BitVec 64 := BitVec.ofNat 64 (varintValue r.valueBytes)

end WireRecord

/-- Modelled from the spec: the record at the front of `bytes`, a varint tag and then a value
of the tag's wire type. Field number 0 is refused. -/
def readRecord (maxSize : Nat) (bytes : List Byte) : Except ParseError (WireRecord × List Byte) :=
  readVarintBytes bytes >>= fun (tagBytes, rest) =>
    let tag := (BitVec.ofNat 64 (varintValue tagBytes)).toNat
    if tag >>> 3 = 0 then .error .invalidTag
    else (readPayload maxSize (tag &&& 7) rest).map fun (valueBytes, rest) => (⟨tagBytes, valueBytes⟩, rest)

/-! ## Each reader takes exactly what it returns -/

theorem readFixed_consumes (n : Nat) : Consumes (readFixed n) := by
  intro bytes taken rest read
  unfold readFixed at read
  split at read
  · cases read
  · next enough =>
    cases read
    have : (bytes.take n).length = n := List.length_take_of_le (by omega)
    refine ⟨(List.take_append_drop n bytes).symm, fun extra => ?_⟩
    simp [readFixed, this, List.take_left', List.drop_left']

theorem readPayload_lengthDelimited {maxSize : Nat} {bytes taken rest : List Byte}
    (read : readPayload maxSize 2 bytes = .ok (taken, rest)) :
    ∃ lengthBytes body middle, readVarintBytes bytes = .ok (lengthBytes, middle) ∧
      ¬maxSize < (BitVec.ofNat 64 (varintValue lengthBytes)).toNat ∧
      readFixed (BitVec.ofNat 64 (varintValue lengthBytes)).toNat middle = .ok (body, rest) ∧
      taken = lengthBytes ++ body := by
  obtain ⟨⟨lengthBytes, middle⟩, length, read⟩ := Except.bind_eq_ok.1 read
  dsimp only at read
  split at read
  · cases read
  · next fits =>
    obtain ⟨⟨body, rest'⟩, fixed, done⟩ := Except.map_eq_ok.1 read
    cases done
    exact ⟨lengthBytes, body, middle, length, fits, fixed, rfl⟩

theorem readPayload_consumes (maxSize wireType : Nat) : Consumes (readPayload maxSize wireType) := by
  intro bytes taken rest read
  match wireType, read with
  | 0, read => exact readVarintBytes_consumes read
  | 1, read => exact readFixed_consumes 8 read
  | 5, read => exact readFixed_consumes 4 read
  | 2, read =>
    obtain ⟨lengthBytes, body, middle, length, fits, fixed, rfl⟩ := readPayload_lengthDelimited read
    obtain ⟨split, again⟩ := readVarintBytes_consumes length
    obtain ⟨split', again'⟩ := readFixed_consumes _ fixed
    refine ⟨by rw [split, split', List.append_assoc], fun extra => ?_⟩
    simp only [readPayload, List.append_assoc, again, bind, Except.bind, if_neg fits, again',
      Except.map]
  | 3, read | 4, read | _ + 6, read => cases read

/-- The pieces of a record `readRecord` read. -/
theorem readRecord_eq_ok {maxSize : Nat} {bytes rest : List Byte} {r : WireRecord}
    (read : readRecord maxSize bytes = .ok (r, rest)) :
    ∃ middle, readVarintBytes bytes = .ok (r.tagBytes, middle) ∧ r.tag >>> 3 ≠ 0 ∧
      readPayload maxSize (r.tag &&& 7) middle = .ok (r.valueBytes, rest) := by
  obtain ⟨⟨tagBytes, middle⟩, tagRead, read⟩ := Except.bind_eq_ok.1 read
  dsimp only at read
  split at read
  · cases read
  · next field =>
    obtain ⟨⟨valueBytes, rest'⟩, valueRead, done⟩ := Except.map_eq_ok.1 read
    cases done
    exact ⟨middle, tagRead, field, valueRead⟩

theorem readRecord_consumes {maxSize : Nat} {bytes rest : List Byte} {r : WireRecord}
    (read : readRecord maxSize bytes = .ok (r, rest)) :
    bytes = r.bytes ++ rest ∧ ∀ extra, readRecord maxSize (r.bytes ++ extra) = .ok (r, extra) := by
  obtain ⟨middle, tagRead, field, valueRead⟩ := readRecord_eq_ok read
  obtain ⟨split, again⟩ := readVarintBytes_consumes tagRead
  obtain ⟨split', again'⟩ := readPayload_consumes _ _ valueRead
  refine ⟨by rw [split, split', WireRecord.bytes, List.append_assoc], fun extra => ?_⟩
  simp only [WireRecord.tag] at field again'
  simp only [readRecord, WireRecord.bytes, List.append_assoc, again, bind, Except.bind, if_neg field,
    again', Except.map]

/-- `r` is what `readRecord` reads from its own bytes, whatever follows them. -/
def WireRecord.Framed (maxSize : Nat) (r : WireRecord) : Prop :=
  ∀ extra, readRecord maxSize (r.bytes ++ extra) = .ok (r, extra)

theorem readRecord_framed {maxSize : Nat} {bytes rest : List Byte} {r : WireRecord}
    (read : readRecord maxSize bytes = .ok (r, rest)) : r.Framed maxSize :=
  (readRecord_consumes read).2

theorem readRecord_length {maxSize : Nat} {bytes rest : List Byte} {r : WireRecord}
    (read : readRecord maxSize bytes = .ok (r, rest)) : rest.length < bytes.length := by
  obtain ⟨middle, tagRead, -, valueRead⟩ := readRecord_eq_ok read
  have tagShorter := readVarintBytes_length tagRead
  have split := (readPayload_consumes _ _ valueRead).1
  have : rest.length ≤ middle.length := by rw [split, List.length_append]; omega
  omega

theorem WireRecord.Framed.bytes_ne_nil {maxSize : Nat} {r : WireRecord} (framed : r.Framed maxSize) :
    r.bytes ≠ [] := by
  intro empty
  have read := framed []
  rw [empty] at read
  cases read

/-! ## Whole buffers -/

/-- Modelled from the spec: the records of a whole buffer, in order; the first error of `readRecord`
if there is one. -/
def readRecords (maxSize : Nat) (bytes : List Byte) : Except ParseError (List WireRecord) :=
  match bytes with
  | [] => .ok []
  | b :: bs =>
    match read : readRecord maxSize (b :: bs) with
    | .ok (r, rest) =>
      have : rest.length < (b :: bs).length := readRecord_length read
      (readRecords maxSize rest).map (r :: ·)
    | .error e => .error e
termination_by bytes.length

theorem readRecords_cons_ok {maxSize : Nat} {b : Byte} {bs rest : List Byte} {r : WireRecord}
    (read : readRecord maxSize (b :: bs) = .ok (r, rest)) :
    readRecords maxSize (b :: bs) = (readRecords maxSize rest).map (r :: ·) := by
  rw [readRecords]
  split
  · next again => rw [read] at again; cases again; rfl
  · next again => rw [read] at again; cases again

theorem readRecords_cons_error {maxSize : Nat} {b : Byte} {bs : List Byte} {e : ParseError}
    (read : readRecord maxSize (b :: bs) = .error e) : readRecords maxSize (b :: bs) = .error e := by
  rw [readRecords]
  split
  · next again => rw [read] at again; cases again
  · next again => rw [read] at again; cases again; rfl

theorem readRecords_framed {maxSize : Nat} {r : WireRecord} (framed : r.Framed maxSize)
    (rest : List Byte) :
    readRecords maxSize (r.bytes ++ rest) = (readRecords maxSize rest).map (r :: ·) := by
  obtain ⟨b, bs, split⟩ := List.exists_cons_of_ne_nil framed.bytes_ne_nil
  have read := framed rest
  rw [split, List.cons_append] at read ⊢
  exact readRecords_cons_ok read

/-- A buffer that starts with framed records splits into those records, then the records of the
rest. -/
theorem readRecords_flatMap_append {maxSize : Nat} {records : List WireRecord}
    (framed : ∀ r ∈ records, r.Framed maxSize) (rest : List Byte) :
    readRecords maxSize (records.flatMap WireRecord.bytes ++ rest) =
      (readRecords maxSize rest).map (records ++ ·) := by
  induction records with
  | nil =>
    rw [List.flatMap_nil, List.nil_append]
    cases readRecords maxSize rest <;> rfl
  | cons r records ih =>
    rw [List.flatMap_cons, List.append_assoc, readRecords_framed (framed r (List.mem_cons_self r records)),
      ih fun r' mem => framed r' (List.mem_cons_of_mem r mem)]
    cases readRecords maxSize rest <;> rfl

theorem readRecords_flatMap {maxSize : Nat} {records : List WireRecord}
    (framed : ∀ r ∈ records, r.Framed maxSize) :
    readRecords maxSize (records.flatMap WireRecord.bytes) = .ok records := by
  have whole := readRecords_flatMap_append framed []
  rw [List.append_nil, readRecords] at whole
  rw [whole]
  exact congrArg Except.ok (List.append_nil records)

/-- A buffer that splits without error is made of framed records: each reads back from its own
bytes, and their bytes, in order, are the buffer. -/
theorem readRecords_eq_ok {maxSize : Nat} {bytes : List Byte} {records : List WireRecord}
    (read : readRecords maxSize bytes = .ok records) :
    (∀ r ∈ records, r.Framed maxSize) ∧ records.flatMap WireRecord.bytes = bytes := by
  induction bytes using readRecords.induct maxSize generalizing records with
  | case1 =>
    rw [readRecords] at read
    cases read
    exact ⟨fun _ none => absurd none (List.not_mem_nil _), rfl⟩
  | case2 b bs r rest first _ ih =>
    rw [readRecords_cons_ok first] at read
    obtain ⟨records, again, rfl⟩ := Except.map_eq_ok.1 read
    obtain ⟨framed, split⟩ := ih again
    refine ⟨List.forall_mem_cons.2 ⟨readRecord_framed first, framed⟩, ?_⟩
    rw [List.flatMap_cons, split, ← (readRecord_consumes first).1]
  | case3 b bs e first =>
    rw [readRecords_cons_error first] at read
    cases read

/-- A buffer that splits, followed by anything: its records, then the records of what follows. -/
theorem readRecords_append {maxSize : Nat} {first : List Byte} {records : List WireRecord}
    (read : readRecords maxSize first = .ok records) (second : List Byte) :
    readRecords maxSize (first ++ second) = (readRecords maxSize second).map (records ++ ·) := by
  obtain ⟨framed, split⟩ := readRecords_eq_ok read
  rw [← split, readRecords_flatMap_append framed]

/-! ## Reading by evaluation -/

/-- `readRecords` with room for at most `fuel` records. It is structural, so the records of a fixed
buffer can be computed by evaluation; `readRecords_eq_upTo` says it is `readRecords` once `fuel`
covers the buffer. -/
def readRecordsUpTo (maxSize : Nat) : Nat → List Byte → Except ParseError (List WireRecord)
  | _, [] => .ok []
  | 0, _ :: _ => .error .truncated
  | fuel + 1, b :: bs =>
    match readRecord maxSize (b :: bs) with
    | .ok (r, rest) => (readRecordsUpTo maxSize fuel rest).map (r :: ·)
    | .error e => .error e

theorem readRecords_eq_upTo {maxSize fuel : Nat} {bytes : List Byte} (enough : bytes.length ≤ fuel) :
    readRecords maxSize bytes = readRecordsUpTo maxSize fuel bytes := by
  induction fuel generalizing bytes with
  | zero =>
    rw [List.length_eq_zero.1 (Nat.le_zero.1 enough), readRecords]
    rfl
  | succ fuel ih =>
    match bytes with
    | [] => rw [readRecords]; rfl
    | b :: bs =>
      cases read : readRecord maxSize (b :: bs) with
      | error e => rw [readRecords_cons_error read, readRecordsUpTo, read]
      | ok step =>
        obtain ⟨r, rest⟩ := step
        have shorter : rest.length ≤ fuel := by
          have := readRecord_length read
          simp only [List.length_cons] at enough this
          omega
        rw [readRecords_cons_ok read, readRecordsUpTo, read, ih shorter]

/-! ## Varint records -/

/-- A varint record of field `fieldNumber` as the serializer writes it reads back as itself. -/
theorem readRecord_varint {maxSize fieldNumber value : Nat} (field : 0 < fieldNumber)
    (fieldFits : makeTag fieldNumber 0 < 2 ^ 64) (fits : value < 2 ^ 64) (rest : List Byte) :
    readRecord maxSize (writeVarint64ToArray (makeTag fieldNumber 0) ++ writeVarint64ToArray value ++ rest) =
      .ok (⟨writeVarint64ToArray (makeTag fieldNumber 0), writeVarint64ToArray value⟩, rest) := by
  have tag : (BitVec.ofNat 64 (varintValue (writeVarint64ToArray (makeTag fieldNumber 0)))).toNat =
      8 * fieldNumber := by
    rw [varintValue_writeVarint64ToArray, BitVec.toNat_ofNat, Nat.mod_eq_of_lt fieldFits,
      makeTag_eq (by decide), Nat.add_zero]
  have number : ¬(8 * fieldNumber) >>> 3 = 0 := by rw [Nat.shiftRight_eq_div_pow]; omega
  have wire : 8 * fieldNumber &&& 7 = 0 := by
    rw [show 7 = 2 ^ 3 - 1 from rfl, Nat.and_pow_two_sub_one_eq_mod]; omega
  simp only [readRecord, List.append_assoc, readVarintBytes_writeVarint64ToArray fieldFits, bind,
    Except.bind, tag, if_neg number, wire, readPayload, readVarintBytes_writeVarint64ToArray fits,
    Except.map]

end Protobuf
