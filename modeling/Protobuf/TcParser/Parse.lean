import Protobuf.TcParser.Table

/-!
# The table-driven parser

`TcParser` is not under src/; it is modelled from the spec (§4.2) over the table of
`Table.lean`. `ParseLoop` takes one record at a time through `TagDispatch`, the fast path: the
first byte of the tag selects a fast entry, which reads the varint after the tag when the byte is
its coded tag and otherwise hands over to `MiniParse`, the generic path. `MiniParse` reads the tag
as a varint, finds its field through `FindFieldEntry` and reads a varint field with `MpVarint`;
a record of another field, or of the wrong wire type, goes to `GenericFallback`, which keeps it
as an unknown field. A parse error ends the call and the object is to be discarded (spec §7):
the model returns the error.

Results:
* `miniParse_table`, `tagDispatch_table`: on `Duration::_table_`, a step of either path reads one
  record and applies it as `Duration.applyRecord`, the spec's reading of a record, says.
* `parseLoop_eq_readRecords`: a loop of such steps is the fold of `applyRecord` over the records
  of the buffer.
* `fastPath_eq_genericPath`: the fast table changes no outcome, on any buffer.
-/

namespace Protobuf

theorem shiftRight_three (tag : Nat) : tag >>> 3 = tag / 8 := Nat.shiftRight_eq_div_pow tag 3

theorem and_seven (tag : Nat) : tag &&& 7 = tag % 8 := Nat.and_pow_two_sub_one_eq_mod tag 3

namespace Duration

/-- Modelled from the spec: `SetHas`, and the fast path's `hasbits |= 1 << hasbit_idx`: set has bit
`i`. -/
def setHasBit (d : Duration) (i : Nat) : Duration := { d with hasBits := d.hasBits ||| 1#32 <<< i }

/-- Modelled from the spec: `RefAt<T>(msg, offset) = value`: store a varint in a slot at the slot's
width, as `static_cast<uint32_t>` does for `nanos_`. -/
def refAt (d : Duration) (slot : Slot) (value : BitVec 64) : Duration :=
  match slot with
  | .seconds => { d with seconds := value }
  | .nanos => { d with nanos := value.setWidth 32 }

/-- Modelled from the spec: what one record does to a `Duration` (spec §4.2): a varint record of
field 1 or 2 writes the field and sets its has bit, so that the last occurrence wins; any other
record, a wire-type mismatch included, is kept verbatim as an unknown field. -/
def applyRecord (d : Duration) (r : WireRecord) : Duration :=
  if r.tag = makeTag 1 0 then { d with seconds := r.value, hasBits := d.hasBits ||| 1#32 }
  else if r.tag = makeTag 2 0 then { d with nanos := r.value.setWidth 32, hasBits := d.hasBits ||| 2#32 }
  else { d with unknownFields := d.unknownFields ++ [r] }

end Duration

/-- A record `applyRecord` keeps as an unknown field: its tag is not that of a varint `seconds`
or `nanos`. -/
def WireRecord.IsUnknown (r : WireRecord) : Prop := r.tag ≠ makeTag 1 0 ∧ r.tag ≠ makeTag 2 0

instance (r : WireRecord) : Decidable r.IsUnknown := inferInstanceAs (Decidable (_ ∧ _))

theorem Duration.applyRecord_unknown {d : Duration} {r : WireRecord} (unknown : r.IsUnknown) :
    d.applyRecord r = { d with unknownFields := d.unknownFields ++ [r] } := by
  rw [Duration.applyRecord, if_neg unknown.1, if_neg unknown.2]

/-- A step of the parse loop. What it leaves of the buffer is shorter than what it was given. -/
structure ParseStep where
  run : Duration → List Byte → Except ParseError (Duration × List Byte)
  consumes : ∀ {d bytes d' rest}, run d bytes = .ok (d', rest) → rest.length < bytes.length

/-- Modelled from the spec: `TcParser::ParseLoop` over a whole buffer: while input remains, take a
step. -/
def parseLoop (step : ParseStep) (d : Duration) (bytes : List Byte) : Except ParseError Duration :=
  match bytes with
  | [] => .ok d
  | b :: bs =>
    match read : step.run d (b :: bs) with
    | .ok (d', rest) =>
      have : rest.length < (b :: bs).length := step.consumes read
      parseLoop step d' rest
    | .error e => .error e
termination_by bytes.length

section Steps

variable (maxSize : Nat) (table : TcParseTable)

/-- Modelled from the spec: `TcParser::GenericFallback` with `UnknownFieldParse`: a zero tag or an
end-group marker ends the message, which at the top level is an error; a record of field 0 is
refused; any other record is read by its wire type and kept verbatim as an unknown field. -/
def genericFallback (tag : Nat) (tagBytes : List Byte) (d : Duration) (rest : List Byte) :
    Except ParseError (Duration × List Byte) :=
  if tag &&& 7 = 4 ∨ tag = 0 then .error .invalidTag
  else if tag >>> 3 = 0 then .error .invalidTag
  else (readPayload maxSize (tag &&& 7) rest).map fun (valueBytes, rest) =>
    ({ d with unknownFields := d.unknownFields ++ [⟨tagBytes, valueBytes⟩] }, rest)

/-- Modelled from the spec: `TcParser::MpVarint`: a record whose wire type is not varint goes to the
fallback; otherwise the varint is read, the has bit of an optional field set, and the value stored.
-/
def mpVarint (entry : FieldEntry) (tag : Nat) (tagBytes : List Byte) (d : Duration)
    (rest : List Byte) : Except ParseError (Duration × List Byte) :=
  if tag &&& 7 ≠ 0 then genericFallback maxSize tag tagBytes d rest
  else (readVarint rest).map fun (tmp, rest) =>
    let d := match entry.typeCard.card with
      | .optional => d.setHasBit entry.hasIdx
      | .singular => d
    (d.refAt entry.offset tmp, rest)

/-- Modelled from the spec: `TcParser::MiniParse`: read the tag, find its field entry, and go to
`MpVarint`, or to the fallback when the field has no entry. -/
def miniParse (d : Duration) (bytes : List Byte) : Except ParseError (Duration × List Byte) :=
  readVarintBytes bytes >>= fun (tagBytes, rest) =>
    let tag := (BitVec.ofNat 64 (varintValue tagBytes)).toNat
    match findFieldEntry table (tag >>> 3) with
    | some entry => mpVarint maxSize entry tag tagBytes d rest
    | none => genericFallback maxSize tag tagBytes d rest

/-- Modelled from the spec: `TcParser::TagDispatch` and the fast function it jumps to. The first
byte of the tag selects a fast entry by `(coded_tag & fast_idx_mask) >> 3`. `SingularVarintNoZag1`
compares that byte with the entry's coded tag (`coded_tag<uint8_t>()`: the dispatch loads two bytes,
but for a one-byte coded tag only the first takes part); on a match it reads the varint that follows
and stores it with its has bit, otherwise it goes to `MiniParse`. -/
def tagDispatch (d : Duration) (bytes : List Byte) : Except ParseError (Duration × List Byte) :=
  match bytes with
  | [] => miniParse maxSize table d bytes
  | b :: rest =>
    let entry := table.fastEntry b.toNat
    match entry.target with
    | .singularVarintNoZag1 _ dataOffset hasbitIdx _ =>
      if entry.codedTag ^^^ b.toNat ≠ 0 then miniParse maxSize table d bytes
      else (readVarint rest).map fun (res, rest) => ((d.refAt dataOffset res).setHasBit hasbitIdx, rest)

/-! ## Every step consumes input -/

theorem readVarint_length {bytes rest : List Byte} {value : BitVec 64}
    (read : readVarint bytes = .ok (value, rest)) : rest.length < bytes.length := by
  obtain ⟨⟨taken, rest'⟩, span, done⟩ := Except.map_eq_ok.1 read
  cases done
  exact readVarintBytes_length span

theorem readPayload_length {wireType : Nat} {bytes taken rest : List Byte}
    (read : readPayload maxSize wireType bytes = .ok (taken, rest)) : rest.length ≤ bytes.length := by
  rw [(readPayload_consumes maxSize wireType read).1, List.length_append]
  omega

theorem genericFallback_length {tag : Nat} {tagBytes rest rest' : List Byte} {d d' : Duration}
    (read : genericFallback maxSize tag tagBytes d rest = .ok (d', rest')) : rest'.length ≤ rest.length := by
  unfold genericFallback at read
  split at read
  · cases read
  · split at read
    · cases read
    · obtain ⟨⟨valueBytes, rest''⟩, payload, done⟩ := Except.map_eq_ok.1 read
      cases done
      exact readPayload_length maxSize payload

theorem mpVarint_length {entry : FieldEntry} {tag : Nat} {tagBytes rest rest' : List Byte}
    {d d' : Duration} (read : mpVarint maxSize entry tag tagBytes d rest = .ok (d', rest')) :
    rest'.length ≤ rest.length := by
  unfold mpVarint at read
  split at read
  · exact genericFallback_length maxSize read
  · obtain ⟨⟨tmp, rest''⟩, varint, done⟩ := Except.map_eq_ok.1 read
    cases done
    exact Nat.le_of_lt (readVarint_length varint)

theorem miniParse_length {d d' : Duration} {bytes rest : List Byte}
    (read : miniParse maxSize table d bytes = .ok (d', rest)) : rest.length < bytes.length := by
  obtain ⟨⟨tagBytes, middle⟩, tagRead, read⟩ := Except.bind_eq_ok.1 read
  have shorter := readVarintBytes_length tagRead
  dsimp only at read
  split at read
  · exact lt_of_le_of_lt (mpVarint_length maxSize read) shorter
  · exact lt_of_le_of_lt (genericFallback_length maxSize read) shorter

theorem tagDispatch_length {d d' : Duration} {bytes rest : List Byte}
    (read : tagDispatch maxSize table d bytes = .ok (d', rest)) : rest.length < bytes.length := by
  unfold tagDispatch at read
  split at read
  · exact miniParse_length maxSize table read
  · next b tail =>
    dsimp only at read
    split at read
    · exact miniParse_length maxSize table read
    · obtain ⟨⟨res, rest'⟩, varint, done⟩ := Except.map_eq_ok.1 read
      cases done
      exact Nat.lt_succ_of_lt (readVarint_length varint)

/-- The generic path as a loop step. -/
def miniParseStep : ParseStep := ⟨miniParse maxSize table, miniParse_length maxSize table⟩

/-- The fast path as a loop step. -/
def tagDispatchStep : ParseStep := ⟨tagDispatch maxSize table, tagDispatch_length maxSize table⟩

/-! ## Both paths read one record and apply it -/

/-- The spec's parse step: read one record and apply it. -/
def recordStep (d : Duration) (bytes : List Byte) : Except ParseError (Duration × List Byte) :=
  (readRecord maxSize bytes).map fun (r, rest) => (d.applyRecord r, rest)

theorem genericFallback_eq (tag : Nat) (tagBytes : List Byte) (d : Duration) (rest : List Byte) :
    genericFallback maxSize tag tagBytes d rest =
      if tag >>> 3 = 0 then .error .invalidTag
      else (readPayload maxSize (tag &&& 7) rest).map fun (valueBytes, rest) =>
        ({ d with unknownFields := d.unknownFields ++ [⟨tagBytes, valueBytes⟩] }, rest) := by
  unfold genericFallback
  by_cases endGroup : tag &&& 7 = 4
  · have payload : readPayload maxSize 4 rest = .error .invalidTag := rfl
    simp [endGroup, payload, Except.map]
  · by_cases zero : tag = 0 <;> simp [endGroup, zero]

/-- A record of a tag that names no field of `Duration` is kept as an unknown field. -/
theorem map_applyRecord_unknown {tag : Nat} {tagBytes : List Byte} (d : Duration)
    (decoded : (BitVec.ofNat 64 (varintValue tagBytes)).toNat = tag) (notSeconds : tag ≠ 8)
    (notNanos : tag ≠ 16) (payload : Except ParseError (List Byte × List Byte)) :
    payload.map (fun (valueBytes, rest) => (d.applyRecord ⟨tagBytes, valueBytes⟩, rest)) =
      payload.map fun (valueBytes, rest) =>
        ({ d with unknownFields := d.unknownFields ++ [⟨tagBytes, valueBytes⟩] }, rest) := by
  cases payload with
  | error e => rfl
  | ok span =>
    simp only [Except.map, @Duration.applyRecord_unknown d ⟨tagBytes, span.1⟩
      (And.intro (decoded.trans_ne notSeconds) (decoded.trans_ne notNanos))]

/-- `MpVarint` on an optional field and a varint record: read the varint, set the has bit, store. -/
theorem mpVarint_varint {entry : FieldEntry} {tag : Nat} (tagBytes : List Byte) (d : Duration)
    (rest : List Byte) (optional : entry.typeCard.card = .optional) (varint : tag % 8 = 0) :
    mpVarint maxSize entry tag tagBytes d rest =
      (readVarintBytes rest).map fun (valueBytes, rest) =>
        ((d.setHasBit entry.hasIdx).refAt entry.offset (BitVec.ofNat 64 (varintValue valueBytes)), rest) := by
  rw [mpVarint, if_neg (by rw [and_seven]; exact not_not.2 varint), readVarint]
  cases readVarintBytes rest <;> simp [Except.map, optional]

/-- The fallback keeps a record of a field `Duration` does not know as `applyRecord` does. -/
theorem genericFallback_unknown {tag : Nat} {tagBytes : List Byte} (d : Duration) (rest : List Byte)
    (decoded : (BitVec.ofNat 64 (varintValue tagBytes)).toNat = tag) (field : tag / 8 ≠ 0)
    (notSeconds : tag ≠ 8) (notNanos : tag ≠ 16) :
    genericFallback maxSize tag tagBytes d rest =
      (readPayload maxSize (tag &&& 7) rest).map fun (valueBytes, rest) =>
        (d.applyRecord ⟨tagBytes, valueBytes⟩, rest) := by
  rw [genericFallback_eq, shiftRight_three, if_neg field,
    map_applyRecord_unknown d decoded notSeconds notNanos]

/-- `MpVarint` through the entry of field 1 or 2 reads and applies the record, given that storing a
varint through the entry is what `applyRecord` does with a varint record of the tag. -/
theorem mpVarint_entry {entry : FieldEntry} {tag : Nat} {tagBytes : List Byte} (d : Duration)
    (rest : List Byte) (decoded : (BitVec.ofNat 64 (varintValue tagBytes)).toNat = tag)
    (optional : entry.typeCard.card = .optional) (field : tag / 8 = 1 ∨ tag / 8 = 2)
    (stores : tag % 8 = 0 → ∀ valueBytes : List Byte,
      (d.setHasBit entry.hasIdx).refAt entry.offset (BitVec.ofNat 64 (varintValue valueBytes)) =
        d.applyRecord ⟨tagBytes, valueBytes⟩) :
    mpVarint maxSize entry tag tagBytes d rest =
      (readPayload maxSize (tag &&& 7) rest).map fun (valueBytes, rest) =>
        (d.applyRecord ⟨tagBytes, valueBytes⟩, rest) := by
  by_cases varint : tag % 8 = 0
  · rw [mpVarint_varint maxSize tagBytes d rest optional varint, and_seven, varint]
    congr 1
    funext ⟨valueBytes, rest⟩
    exact congrArg (Prod.mk · rest) (stores varint valueBytes)
  · rw [mpVarint, if_pos (by rw [and_seven]; exact varint)]
    exact genericFallback_unknown maxSize d rest decoded (by omega) (by omega) (by omega)

/-- After its tag, `MiniParse` on `Duration::_table_` reads and applies the rest of the record. -/
theorem dispatch_table {tag : Nat} {tagBytes : List Byte} (d : Duration) (rest : List Byte)
    (decoded : (BitVec.ofNat 64 (varintValue tagBytes)).toNat = tag) :
    (match findFieldEntry Duration.table (tag >>> 3) with
      | some entry => mpVarint maxSize entry tag tagBytes d rest
      | none => genericFallback maxSize tag tagBytes d rest) =
    if tag >>> 3 = 0 then .error .invalidTag
    else (readPayload maxSize (tag &&& 7) rest).map fun (valueBytes, rest) =>
      (d.applyRecord ⟨tagBytes, valueBytes⟩, rest) := by
  have eight : makeTag 1 0 = 8 := rfl
  have sixteen : makeTag 2 0 = 16 := rfl
  rw [findFieldEntry_table, shiftRight_three]
  by_cases one : tag / 8 = 1
  · simp only [if_pos one, if_neg (show tag / 8 ≠ 0 by omega)]
    refine mpVarint_entry maxSize d rest decoded rfl (.inl one) fun _ valueBytes => ?_
    simp [Duration.applyRecord, WireRecord.tag, decoded, eight, show tag = 8 by omega,
      Duration.setHasBit, Duration.refAt, secondsEntry, WireRecord.value]
  · by_cases two : tag / 8 = 2
    · simp only [if_neg one, if_pos two, if_neg (show tag / 8 ≠ 0 by omega)]
      refine mpVarint_entry maxSize d rest decoded rfl (.inr two) fun _ valueBytes => ?_
      simp [Duration.applyRecord, WireRecord.tag, decoded, eight, sixteen, show tag = 16 by omega,
        Duration.setHasBit, Duration.refAt, nanosEntry, WireRecord.value]
    · simp only [if_neg one, if_neg two]
      split
      · rw [genericFallback_eq, shiftRight_three, if_pos ‹_›]
      · exact genericFallback_unknown maxSize d rest decoded ‹_› (by omega) (by omega)

/-- The generic path on `Duration::_table_` reads one record and applies it. -/
theorem miniParse_table (d : Duration) (bytes : List Byte) :
    miniParse maxSize Duration.table d bytes = recordStep maxSize d bytes := by
  unfold miniParse recordStep readRecord
  cases readVarintBytes bytes with
  | error e => rfl
  | ok span =>
    obtain ⟨tagBytes, rest⟩ := span
    simp only [bind, Except.bind]
    rw [dispatch_table maxSize d rest rfl]
    split
    · rfl
    · cases readPayload maxSize _ rest <;> rfl

/-- The fast path on `Duration::_table_` reads one record and applies it: a first byte 8 or 16
is a one-byte tag of `seconds` or `nanos`, and any other byte goes to the generic path. -/
theorem tagDispatch_table (d : Duration) (bytes : List Byte) :
    tagDispatch maxSize Duration.table d bytes = recordStep maxSize d bytes := by
  match bytes with
  | [] => exact miniParse_table maxSize d []
  | b :: rest =>
    by_cases hit : (Duration.table.fastEntry b.toNat).codedTag ^^^ b.toNat = 0
    · rw [← miniParse_table]
      rcases (fastEntry_table b).1 hit with rfl | rfl <;> rfl
    · rw [← miniParse_table]
      simp only [tagDispatch, hit, ne_eq, not_false_eq_true, if_true]

end Steps

/-! ## Whole buffers -/

theorem parseLoop_cons_ok {step : ParseStep} {d d' : Duration} {b : Byte} {bs rest : List Byte}
    (read : step.run d (b :: bs) = .ok (d', rest)) : parseLoop step d (b :: bs) = parseLoop step d' rest := by
  rw [parseLoop]
  split
  · next again => rw [read] at again; cases again; rfl
  · next again => rw [read] at again; cases again

theorem parseLoop_cons_error {step : ParseStep} {d : Duration} {b : Byte} {bs : List Byte}
    {e : ParseError} (read : step.run d (b :: bs) = .error e) : parseLoop step d (b :: bs) = .error e := by
  rw [parseLoop]
  split
  · next again => rw [read] at again; cases again
  · next again => rw [read] at again; cases again; rfl

/-- A loop of steps that each read one record and apply it is the fold of `applyRecord` over the
records of the buffer; it fails, with the same error, exactly when splitting the buffer into
records does. -/
theorem parseLoop_eq_readRecords {maxSize : Nat} {step : ParseStep}
    (agrees : ∀ d bytes, step.run d bytes = recordStep maxSize d bytes) (d : Duration)
    (bytes : List Byte) :
    parseLoop step d bytes = (readRecords maxSize bytes).map (·.foldl Duration.applyRecord d) := by
  obtain ⟨n, length⟩ : ∃ n, bytes.length = n := ⟨_, rfl⟩
  induction n using Nat.strong_induction_on generalizing d bytes with
  | _ n ih =>
    match bytes with
    | [] => rw [parseLoop, readRecords]; rfl
    | b :: bs =>
      cases read : readRecord maxSize (b :: bs) with
      | error e =>
        have run : step.run d (b :: bs) = .error e := by rw [agrees, recordStep, read]; rfl
        rw [parseLoop_cons_error run, readRecords_cons_error read]
        rfl
      | ok span =>
        obtain ⟨r, rest⟩ := span
        have run : step.run d (b :: bs) = .ok (d.applyRecord r, rest) := by
          rw [agrees, recordStep, read]; rfl
        rw [parseLoop_cons_ok run, readRecords_cons_ok read,
          ih rest.length (length ▸ readRecord_length read) _ _ rfl]
        cases readRecords maxSize rest <;> rfl

/-- The fast table changes no outcome: on every buffer, parsing with `TagDispatch` first gives the
same result, success or error, state and all, as parsing with `MiniParse` alone. -/
theorem fastPath_eq_genericPath (maxSize : Nat) (d : Duration) (bytes : List Byte) :
    parseLoop (tagDispatchStep maxSize Duration.table) d bytes =
      parseLoop (miniParseStep maxSize Duration.table) d bytes := by
  rw [parseLoop_eq_readRecords (tagDispatch_table maxSize), parseLoop_eq_readRecords (miniParse_table maxSize)]

/-- Modelled from the spec: `MergeFromString` (through `_InternalParse`): the table-driven parse of
a whole buffer into `d`, fast path first. -/
def Duration.mergeFromString (maxSize : Nat) (d : Duration) (bytes : List Byte) :
    Except ParseError Duration :=
  parseLoop (tagDispatchStep maxSize Duration.table) d bytes

/-- Modelled from the spec: `ParseFromString`: `Clear`, then `MergeFromString`. -/
def Duration.parseFromString (maxSize : Nat) (d : Duration) (bytes : List Byte) :
    Except ParseError Duration :=
  Duration.mergeFromString maxSize d.clear bytes

theorem Duration.mergeFromString_eq (maxSize : Nat) (d : Duration) (bytes : List Byte) :
    d.mergeFromString maxSize bytes = (readRecords maxSize bytes).map (·.foldl Duration.applyRecord d) :=
  parseLoop_eq_readRecords (tagDispatch_table maxSize) d bytes

/-! ## What a parse keeps as unknown fields -/

namespace Duration

theorem applyRecord_unknownFields (d : Duration) (r : WireRecord) :
    (d.applyRecord r).unknownFields = d.unknownFields ++ if r.IsUnknown then [r] else [] := by
  unfold applyRecord WireRecord.IsUnknown
  by_cases seconds : r.tag = makeTag 1 0
  · simp [seconds]
  · by_cases nanos : r.tag = makeTag 2 0
    · rw [if_neg seconds, if_pos nanos, if_neg fun unknown => unknown.2 nanos, List.append_nil]
    · rw [if_neg seconds, if_neg nanos, if_pos ⟨seconds, nanos⟩]

/-- The unknown fields a run of records leaves are those it had, then its unknown records, in
order. -/
theorem unknownFields_foldl_applyRecord (d : Duration) (records : List WireRecord) :
    (records.foldl applyRecord d).unknownFields =
      d.unknownFields ++ records.filter fun r => decide r.IsUnknown := by
  induction records generalizing d with
  | nil => simp
  | cons r records ih =>
    rw [List.foldl_cons, ih, applyRecord_unknownFields, List.filter_cons]
    split <;> simp_all

/-- Records that are all unknown only append themselves to the unknown fields. -/
theorem foldl_applyRecord_of_unknown {records : List WireRecord} (unknown : ∀ r ∈ records, r.IsUnknown)
    (d : Duration) : records.foldl applyRecord d = { d with unknownFields := d.unknownFields ++ records } := by
  induction records generalizing d with
  | nil => simp
  | cons r records ih =>
    rw [List.foldl_cons, applyRecord_unknown (unknown r (List.mem_cons_self r records)),
      ih fun r' mem => unknown r' (List.mem_cons_of_mem r mem)]
    simp

end Duration

end Protobuf
