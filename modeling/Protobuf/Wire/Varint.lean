import Mathlib.Data.BitVec
import Mathlib.Data.Nat.Bitwise

/-!
# Base-128 varints

The wire format writes tags, lengths and integer values as varints: seven payload bits per
byte, lowest group first, with the continuation bit `0x80` set on every byte but the last
(spec §6). The writer `CodedOutputStream::WriteVarint64ToArray`, the sizing helper
`WireFormatLite::VarintSize64` and the parse engine's decoder are not under src/; they are
modelled from the spec. The decoder fails with `MalformedVarint` when the varint runs past ten
bytes or past the end of the buffer, and with `Truncated` when no byte of it is there at all
(spec §4.2 and §8).

Results:
* `readVarint_writeVarint64ToArray`: the decoder reads back every `uint64_t` the writer wrote,
  whatever follows it.
* `length_writeVarint64ToArray`, `varintSize64_le_ten`, `varintSize64_eq_ten`: the writer
  writes `varintSize64` bytes, at most ten, and exactly ten for a value with bit 63 set.
* `readVarintBytes_consumes`: the decoder takes exactly the bytes it returns off the front of
  its input, and reads them the same way whatever follows.
-/

namespace Protobuf

/-- A byte of the wire format. -/
abbrev Byte := BitVec 8

/-- Why a parse call fails (spec §7). `invalidTag` is a tag the format does not define: field
number 0, an end-group marker at the top level, or a wire type other than the four of spec §6;
the spec's taxonomy names no kind for it. -/
inductive ParseError
  | malformedVarint
  | truncated
  | excessiveSize
  | invalidTag
deriving DecidableEq, Repr

/-! ## Writing -/

/-- Modelled from the spec: `CodedOutputStream::WriteVarint64ToArray` is not under src/.
While the value does not fit in seven bits, write its low seven bits with the continuation bit
and shift it right by seven; then write what is left. -/
def writeVarint64ToArray (value : Nat) : List Byte :=
  if value < 128 then [BitVec.ofNat 8 value]
  else BitVec.ofNat 8 (value % 128 + 128) :: writeVarint64ToArray (value / 128)
termination_by value
decreasing_by omega

/-- Modelled from the spec: `WireFormatLite::VarintSize64` is not under src/. The number of
seven-bit groups of the value, at least one. -/
def varintSize64 (value : Nat) : Nat :=
  if value < 128 then 1 else varintSize64 (value / 128) + 1
termination_by value
decreasing_by omega

theorem writeVarint64ToArray_of_lt {value : Nat} (small : value < 128) :
    writeVarint64ToArray value = [BitVec.ofNat 8 value] := by
  rw [writeVarint64ToArray, if_pos small]

theorem writeVarint64ToArray_of_ge {value : Nat} (large : ¬value < 128) :
    writeVarint64ToArray value =
      BitVec.ofNat 8 (value % 128 + 128) :: writeVarint64ToArray (value / 128) := by
  rw [writeVarint64ToArray, if_neg large]

theorem length_writeVarint64ToArray (value : Nat) :
    (writeVarint64ToArray value).length = varintSize64 value := by
  induction value using writeVarint64ToArray.induct with
  | case1 value small => rw [writeVarint64ToArray_of_lt small, varintSize64, if_pos small]; rfl
  | case2 value large ih =>
    rw [writeVarint64ToArray_of_ge large, varintSize64, if_neg large, List.length_cons, ih]

theorem two_pow_seven_succ (groups : Nat) : 2 ^ (7 * (groups + 1)) = 2 ^ (7 * groups) * 128 := by
  rw [Nat.mul_succ, Nat.pow_add]

theorem varintSize64_le {value : Nat} (groups : Nat) (fits : value < 2 ^ (7 * (groups + 1))) :
    varintSize64 value ≤ groups + 1 := by
  induction groups generalizing value with
  | zero => rw [varintSize64, if_pos (by simpa using fits)]
  | succ groups ih =>
    rw [varintSize64]
    split
    · omega
    · have shifted : value / 128 < 2 ^ (7 * (groups + 1)) := by
        rw [Nat.div_lt_iff_lt_mul (by decide)]
        exact two_pow_seven_succ (groups + 1) ▸ fits
      have := ih shifted
      omega

theorem le_varintSize64 {value : Nat} (groups : Nat) (large : 2 ^ (7 * groups) ≤ value) :
    groups + 1 ≤ varintSize64 value := by
  induction groups generalizing value with
  | zero => rw [varintSize64]; split <;> omega
  | succ groups ih =>
    have big : 2 ^ (7 * groups) * 128 ≤ value := two_pow_seven_succ groups ▸ large
    have shifted : 2 ^ (7 * groups) ≤ value / 128 := (Nat.le_div_iff_mul_le (by decide)).2 big
    have positive : 0 < 2 ^ (7 * groups) := Nat.two_pow_pos _
    rw [varintSize64, if_neg (by omega)]
    have := ih shifted
    omega

/-- Every 64-bit value takes at most ten bytes. -/
theorem varintSize64_le_ten {value : Nat} (fits : value < 2 ^ 64) : varintSize64 value ≤ 10 :=
  varintSize64_le 9 (lt_of_lt_of_le fits (Nat.pow_le_pow_right (by decide) (by decide)))

/-- A 64-bit value with bit 63 set, such as a negative `int32` widened to 64 bits, takes
exactly ten bytes. -/
theorem varintSize64_eq_ten {value : Nat} (high : 2 ^ 63 ≤ value) (fits : value < 2 ^ 64) :
    varintSize64 value = 10 :=
  Nat.le_antisymm (varintSize64_le_ten fits)
    (le_varintSize64 9 (le_trans (Nat.pow_le_pow_right (by decide) (by decide)) high))

/-! ## Reading -/

/-- The bytes of the varint at the front of `bytes`, up to and including the first one without
the continuation bit, and the bytes after them; `none` past `budget` bytes or at the end of the
buffer. -/
def varintSpan : Nat → List Byte → Option (List Byte × List Byte)
  | 0, _ => none
  | _ + 1, [] => none
  | budget + 1, b :: rest =>
    if b.toNat < 128 then some ([b], rest)
    else (varintSpan budget rest).map fun span => (b :: span.1, span.2)

/-- The value of a varint's bytes: their seven-bit groups, lowest first. -/
def varintValue : List Byte → Nat
  | [] => 0
  | b :: rest => b.toNat % 128 + 128 * varintValue rest

/-- Modelled from the spec: the parse engine's varint decoder is not under src/. The bytes of
one varint of at most ten bytes, and the bytes after it. -/
def readVarintBytes (bytes : List Byte) : Except ParseError (List Byte × List Byte) :=
  match bytes with
  | [] => .error .truncated
  | _ :: _ =>
    match varintSpan 10 bytes with
    | some span => .ok span
    | none => .error .malformedVarint

/-- Modelled from the spec: a varint read as the `uint64_t` the parse engine keeps; the bits a
ten-byte varint holds past bit 63 are dropped. -/
def readVarint (bytes : List Byte) : Except ParseError (BitVec 64 × List Byte) :=
  (readVarintBytes bytes).map fun (taken, rest) => (BitVec.ofNat 64 (varintValue taken), rest)

/-- `read` takes exactly the bytes it returns off the front of its input, and reads them the
same way whatever follows them. -/
def Consumes (read : List Byte → Except ParseError (List Byte × List Byte)) : Prop :=
  ∀ ⦃bytes taken rest : List Byte⦄, read bytes = .ok (taken, rest) →
    bytes = taken ++ rest ∧ ∀ extra, read (taken ++ extra) = .ok (taken, extra)

theorem varintSpan_append : ∀ {budget : Nat} {bytes taken rest : List Byte},
    varintSpan budget bytes = some (taken, rest) →
      taken ≠ [] ∧ bytes = taken ++ rest ∧ ∀ extra, varintSpan budget (taken ++ extra) = some (taken, extra)
  | 0, _, _, _, found => by simp [varintSpan] at found
  | _ + 1, [], _, _, found => by simp [varintSpan] at found
  | budget + 1, b :: bytes, taken, rest, found => by
    unfold varintSpan at found
    split at found
    · next last =>
      obtain ⟨rfl, rfl⟩ := Prod.mk.inj (Option.some.inj found)
      exact ⟨List.cons_ne_nil _ _, rfl, fun extra => by simp [varintSpan, last]⟩
    · next more =>
      obtain ⟨span, inner, outer⟩ := Option.map_eq_some'.1 found
      obtain ⟨rfl, rfl⟩ := Prod.mk.inj outer.symm
      obtain ⟨-, split, again⟩ := varintSpan_append inner
      exact ⟨List.cons_ne_nil _ _, by rw [split]; rfl,
        fun extra => by simp [varintSpan, more, again extra]⟩

theorem varintSpan_of_readVarintBytes {bytes taken rest : List Byte}
    (read : readVarintBytes bytes = .ok (taken, rest)) : varintSpan 10 bytes = some (taken, rest) := by
  unfold readVarintBytes at read
  split at read
  · cases read
  · split at read
    · next found => cases read; exact found
    · cases read

theorem readVarintBytes_consumes : Consumes readVarintBytes := by
  intro bytes taken rest read
  obtain ⟨nonempty, split, again⟩ := varintSpan_append (varintSpan_of_readVarintBytes read)
  refine ⟨split, fun extra => ?_⟩
  obtain ⟨b, tail, rfl⟩ := List.exists_cons_of_ne_nil nonempty
  have again := again extra
  simp only [List.cons_append] at again ⊢
  simp [readVarintBytes, again]

theorem readVarintBytes_length {bytes taken rest : List Byte}
    (read : readVarintBytes bytes = .ok (taken, rest)) : rest.length < bytes.length := by
  obtain ⟨nonempty, split, -⟩ := varintSpan_append (varintSpan_of_readVarintBytes read)
  have : taken.length ≠ 0 := by simpa using nonempty
  rw [split, List.length_append]
  omega

/-! ## Reading what was written -/

theorem varintSpan_writeVarint64ToArray (value : Nat) (rest : List Byte) :
    ∀ budget, varintSize64 value ≤ budget →
      varintSpan budget (writeVarint64ToArray value ++ rest) = some (writeVarint64ToArray value, rest) := by
  induction value using writeVarint64ToArray.induct with
  | case1 value small =>
    intro budget room
    rw [varintSize64, if_pos small] at room
    obtain ⟨budget, rfl⟩ : ∃ b, budget = b + 1 := ⟨budget - 1, by omega⟩
    have byte : (BitVec.ofNat 8 value).toNat = value := Nat.mod_eq_of_lt (by omega)
    simp [writeVarint64ToArray_of_lt small, varintSpan, byte, small]
  | case2 value large ih =>
    intro budget room
    rw [varintSize64, if_neg large] at room
    obtain ⟨budget, rfl⟩ : ∃ b, budget = b + 1 := ⟨budget - 1, by omega⟩
    have byte : (BitVec.ofNat 8 (value % 128 + 128)).toNat = value % 128 + 128 := Nat.mod_eq_of_lt (by omega)
    simp [writeVarint64ToArray_of_ge large, varintSpan, byte, ih budget (by omega)]

theorem varintValue_writeVarint64ToArray (value : Nat) :
    varintValue (writeVarint64ToArray value) = value := by
  induction value using writeVarint64ToArray.induct with
  | case1 value small =>
    have byte : (BitVec.ofNat 8 value).toNat = value := Nat.mod_eq_of_lt (by omega)
    simp [writeVarint64ToArray_of_lt small, varintValue, byte, Nat.mod_eq_of_lt small]
  | case2 value large ih =>
    have byte : (BitVec.ofNat 8 (value % 128 + 128)).toNat = value % 128 + 128 := Nat.mod_eq_of_lt (by omega)
    simp only [writeVarint64ToArray_of_ge large, varintValue, ih, byte]
    omega

theorem readVarintBytes_writeVarint64ToArray {value : Nat} (fits : value < 2 ^ 64) (rest : List Byte) :
    readVarintBytes (writeVarint64ToArray value ++ rest) = .ok (writeVarint64ToArray value, rest) := by
  have span := varintSpan_writeVarint64ToArray value rest 10 (varintSize64_le_ten fits)
  obtain ⟨nonempty, -, -⟩ := varintSpan_append span
  obtain ⟨b, tail, written⟩ := List.exists_cons_of_ne_nil nonempty
  rw [written] at span ⊢
  simp only [List.cons_append] at span ⊢
  simp [readVarintBytes, span]

theorem readVarint_writeVarint64ToArray (value : BitVec 64) (rest : List Byte) :
    readVarint (writeVarint64ToArray value.toNat ++ rest) = .ok (value, rest) := by
  rw [readVarint, readVarintBytes_writeVarint64ToArray value.isLt]
  simp only [Except.map, varintValue_writeVarint64ToArray, BitVec.ofNat_toNat, BitVec.setWidth_eq]

end Protobuf
