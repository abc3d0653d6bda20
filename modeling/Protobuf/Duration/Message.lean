import Protobuf.Wire.Record

/-!
# The `Duration` object

`google.protobuf.Duration` has two proto3 fields, `int64 seconds = 1` and `int32 nanos = 2`.
Its generated class (`duration.pb.cc`) keeps a has-bit word beside the two values, bit 0 for
`seconds` and bit 1 for `nanos`, a cached size, and the unknown fields of
`_internal_metadata_`. This module models that state and the member functions that change it:
the constructors, `Clear`, `MergeImpl`, `InternalSwap`, and the field setters of the header
(duration.pb.h is not under src/; they follow spec §4.1).

Every member function tests a has bit with a mask (`& 0x1u`, `& 0x2u`, `& 0x3u`); the lemmas
`and_bit_eq_zero` (one bit, its index a parameter) and `and_three_eq_zero` read those tests as
bits of the word.
`Duration.Covered` is the presence invariant: a nonzero field has its has bit set. Each member
function keeps it (`Covered.clear`, `Covered.mergeImpl`, ...), and on a covered object `Clear`
zeroes both fields even when it skips its `memset` (`clear_of_covered`), `MergeImpl` from it
copies exactly its nonzero fields (`mergeImpl_of_covered`), and `CopyFrom` gives what the copy
constructor gives (`copyFrom_of_covered`).
-/

namespace Protobuf

/-! ## Has-bit masks -/

theorem and_ne_zero_iff {h m : BitVec 32} :
    h &&& m ≠ 0#32 ↔ ∃ i, m.getLsbD i = true ∧ h.getLsbD i = true := by
  constructor
  · intro nonzero
    by_contra none
    apply nonzero
    ext i
    have := not_exists.1 none i
    cases hm : m.getLsbD i <;> cases hh : h.getLsbD i <;> simp_all
  · rintro ⟨i, hm, hh⟩ zero
    have := congrArg (fun x : BitVec 32 => x.getLsbD i) zero
    simp [hm, hh] at this

theorem getLsbD_mask_of_ge {m i : Nat} (small : m < 4) (ge : 2 ≤ i) :
    (BitVec.ofNat 32 m).getLsbD i = false := by
  rw [BitVec.getLsbD_ofNat,
    Nat.testBit_lt_two_pow (lt_of_lt_of_le small (Nat.pow_le_pow_right Nat.two_pos ge)), Bool.and_false]

/-- The test `h & (1u << i)` of the single has bit `i`, as the masks `0x1u` and `0x2u` are. -/
theorem and_bit_eq_zero {h : BitVec 32} (mask i : Nat) (bit : mask = 2 ^ i) (lt : i < 32) :
    h &&& BitVec.ofNat 32 mask = 0#32 ↔ h.getLsbD i = false := by
  rw [← not_iff_not, ← ne_eq, and_ne_zero_iff, Bool.not_eq_false, bit]
  refine ⟨fun ⟨j, hm, hh⟩ => ?_, fun hh => ⟨i, by simp [BitVec.getLsbD_ofNat, lt], hh⟩⟩
  simp only [BitVec.getLsbD_ofNat, Nat.testBit_two_pow, Bool.and_eq_true, decide_eq_true_eq] at hm
  exact hm.2 ▸ hh

theorem and_three_eq_zero {h : BitVec 32} :
    h &&& 3#32 = 0#32 ↔ h.getLsbD 0 = false ∧ h.getLsbD 1 = false := by
  rw [← not_iff_not, ← ne_eq, and_ne_zero_iff, not_and_or, Bool.not_eq_false, Bool.not_eq_false]
  refine ⟨fun ⟨i, hm, hh⟩ => ?_, fun hh => hh.elim (⟨0, rfl, ·⟩) (⟨1, rfl, ·⟩)⟩
  rcases i with _ | _ | i
  · exact .inl hh
  · exact .inr hh
  · rw [getLsbD_mask_of_ge (by decide) (by omega)] at hm; cases hm

/-! ## State and member functions -/

/-- The state of a `Duration` object: the has-bit word, the cached size and the two fields of
`_impl_`, and the unknown fields of `_internal_metadata_`. The arena pointer is left out: no
function modelled here reads it. The cached size is a `Nat`; the runtime's `CachedSize` holds a
32-bit int, which the sizes of this model reach only with unknown fields of 2 GiB or more. -/
structure Duration where
  hasBits : BitVec 32
  cachedSize : Nat
  seconds : BitVec 64
  nanos : BitVec 32
  unknownFields : List WireRecord
deriving DecidableEq, Repr

namespace Duration

/-- `SharedCtor`, run by `Duration(Arena*)`: `Impl_` zeroes the has bits and the cached size, and
the `memset` zeroes `seconds_` through `nanos_`. The unknown-field set starts empty. -/
def sharedCtor : Duration := ⟨0, 0, 0, 0, []⟩

/-- `Duration(Arena*, const Duration& from)`: `_impl_(from._impl_)` copies the has bits, the
cached size and both fields; then `from`'s unknown fields are merged into the new, empty set. -/
def copyCtor (fromMsg : Duration) : Duration :=
  { hasBits := fromMsg.hasBits, cachedSize := fromMsg.cachedSize, seconds := fromMsg.seconds,
    nanos := fromMsg.nanos, unknownFields := [] ++ fromMsg.unknownFields }

/-- `Clear`: zero both fields if one of their has bits is set, then clear the has bits and the
unknown fields. The cached size is left as it was. -/
def clear (d : Duration) : Duration :=
  let cachedHasBits := d.hasBits
  let d := if cachedHasBits &&& 3#32 ≠ 0#32 then { d with seconds := 0, nanos := 0 } else d
  { d with hasBits := 0, unknownFields := [] }

/-- `MergeImpl(to_msg, from_msg)`: a field of `from_msg` is copied when its has bit is set and
its value is not zero; the has bits are OR-ed in and the unknown fields appended. -/
def mergeImpl (toMsg fromMsg : Duration) : Duration :=
  let cachedHasBits := fromMsg.hasBits
  let toMsg :=
    if cachedHasBits &&& 3#32 ≠ 0#32 then
      let toMsg :=
        if cachedHasBits &&& 1#32 ≠ 0#32 then
          if fromMsg.seconds ≠ 0 then { toMsg with seconds := fromMsg.seconds } else toMsg
        else toMsg
      if cachedHasBits &&& 2#32 ≠ 0#32 then
        if fromMsg.nanos ≠ 0 then { toMsg with nanos := fromMsg.nanos } else toMsg
      else toMsg
    else toMsg
  { toMsg with hasBits := toMsg.hasBits ||| cachedHasBits,
               unknownFields := toMsg.unknownFields ++ fromMsg.unknownFields }

/-- `InternalSwap(other)`: the unknown fields, the has-bit word and the two fields change places;
each object keeps its cached size. -/
def internalSwap (d other : Duration) : Duration × Duration :=
  ({ d with unknownFields := other.unknownFields, hasBits := other.hasBits,
            seconds := other.seconds, nanos := other.nanos },
   { other with unknownFields := d.unknownFields, hasBits := d.hasBits,
                seconds := d.seconds, nanos := d.nanos })

/-- Modelled from the spec: `set_seconds` is in duration.pb.h, not under src/. It writes the
value and sets the field's has bit (spec §4.1). -/
def setSeconds (d : Duration) (value : BitVec 64) : Duration :=
  { d with seconds := value, hasBits := d.hasBits ||| 1#32 }

/-- Modelled from the spec: `set_nanos`, as `setSeconds`, with has bit 1. -/
def setNanos (d : Duration) (value : BitVec 32) : Duration :=
  { d with nanos := value, hasBits := d.hasBits ||| 2#32 }

/-- Modelled from the spec: `clear_seconds` resets the value to its default and clears the has
bit (spec §4.1). -/
def clearSeconds (d : Duration) : Duration :=
  { d with seconds := 0, hasBits := d.hasBits &&& ~~~1#32 }

/-- Modelled from the spec: `clear_nanos`, as `clearSeconds`, with has bit 1. -/
def clearNanos (d : Duration) : Duration :=
  { d with nanos := 0, hasBits := d.hasBits &&& ~~~2#32 }

/-! ## What each member function does, field by field -/

/-- `MergeImpl` copies a field when its has bit is set in `from_msg` and its value is not zero. -/
theorem mergeImpl_eq (toMsg fromMsg : Duration) :
    mergeImpl toMsg fromMsg =
      { toMsg with
        seconds := if fromMsg.hasBits.getLsbD 0 = true ∧ fromMsg.seconds ≠ 0 then fromMsg.seconds
          else toMsg.seconds
        nanos := if fromMsg.hasBits.getLsbD 1 = true ∧ fromMsg.nanos ≠ 0 then fromMsg.nanos
          else toMsg.nanos
        hasBits := toMsg.hasBits ||| fromMsg.hasBits
        unknownFields := toMsg.unknownFields ++ fromMsg.unknownFields } := by
  unfold mergeImpl
  by_cases b0 : fromMsg.hasBits.getLsbD 0 = true <;> by_cases b1 : fromMsg.hasBits.getLsbD 1 = true <;>
    by_cases s : fromMsg.seconds = 0#64 <;> by_cases n : fromMsg.nanos = 0#32 <;>
    simp [and_bit_eq_zero 1 0 rfl (by decide), and_bit_eq_zero 2 1 rfl (by decide), and_three_eq_zero,
      b0, b1, s, n]

/-- `Clear` zeroes the fields only when one of their has bits is set. -/
theorem clear_eq (d : Duration) :
    d.clear =
      { d with
        seconds := if d.hasBits.getLsbD 0 = true ∨ d.hasBits.getLsbD 1 = true then 0 else d.seconds
        nanos := if d.hasBits.getLsbD 0 = true ∨ d.hasBits.getLsbD 1 = true then 0 else d.nanos
        hasBits := 0
        unknownFields := [] } := by
  unfold clear
  by_cases b0 : d.hasBits.getLsbD 0 = true <;> by_cases b1 : d.hasBits.getLsbD 1 = true <;>
    simp [and_three_eq_zero, b0, b1]

/-! ## The presence invariant -/

/-- A nonzero field has its has bit set. -/
structure Covered (d : Duration) : Prop where
  seconds_hasBit : d.seconds ≠ 0 → d.hasBits.getLsbD 0 = true
  nanos_hasBit : d.nanos ≠ 0 → d.hasBits.getLsbD 1 = true

theorem Covered.sharedCtor : sharedCtor.Covered :=
  ⟨fun nonzero => absurd rfl nonzero, fun nonzero => absurd rfl nonzero⟩

theorem Covered.copyCtor {d : Duration} (covered : d.Covered) : (copyCtor d).Covered :=
  ⟨covered.seconds_hasBit, covered.nanos_hasBit⟩

theorem Covered.setSeconds {d : Duration} (covered : d.Covered) (value : BitVec 64) :
    (d.setSeconds value).Covered :=
  ⟨fun _ => by simp [Duration.setSeconds], fun nonzero => by
    simp [Duration.setSeconds, covered.nanos_hasBit nonzero]⟩

theorem Covered.setNanos {d : Duration} (covered : d.Covered) (value : BitVec 32) :
    (d.setNanos value).Covered :=
  ⟨fun nonzero => by simp [Duration.setNanos, covered.seconds_hasBit nonzero], fun _ => by
    simp [Duration.setNanos]⟩

theorem Covered.clearSeconds {d : Duration} (covered : d.Covered) : d.clearSeconds.Covered :=
  ⟨fun nonzero => absurd rfl nonzero, fun nonzero => by
    simp [Duration.clearSeconds, BitVec.getLsbD_not, covered.nanos_hasBit nonzero]⟩

theorem Covered.clearNanos {d : Duration} (covered : d.Covered) : d.clearNanos.Covered :=
  ⟨fun nonzero => by simp [Duration.clearNanos, BitVec.getLsbD_not, covered.seconds_hasBit nonzero],
    fun nonzero => absurd rfl nonzero⟩

/-- On a covered object `Clear` zeroes both fields: when it skips the `memset`, both has bits are
clear, so both fields are already zero. -/
theorem clear_of_covered {d : Duration} (covered : d.Covered) :
    d.clear = { sharedCtor with cachedSize := d.cachedSize } := by
  rw [clear_eq]
  by_cases set : d.hasBits.getLsbD 0 = true ∨ d.hasBits.getLsbD 1 = true
  · simp only [set, if_true]; rfl
  · obtain ⟨b0, b1⟩ := not_or.1 set
    have seconds : d.seconds = 0 := by_contra (b0 ∘ covered.seconds_hasBit)
    have nanos : d.nanos = 0 := by_contra (b1 ∘ covered.nanos_hasBit)
    simp only [set, if_false, seconds, nanos]; rfl

theorem Covered.clear {d : Duration} (covered : d.Covered) : d.clear.Covered := by
  rw [clear_of_covered covered]
  exact ⟨fun nonzero => absurd rfl nonzero, fun nonzero => absurd rfl nonzero⟩

/-- `MergeImpl` keeps the invariant of its target whatever its source: a field it copies has its
has bit set in the source, and that bit is OR-ed into the target. -/
theorem Covered.mergeImpl {toMsg : Duration} (coveredTo : toMsg.Covered) (fromMsg : Duration) :
    (mergeImpl toMsg fromMsg).Covered := by
  rw [mergeImpl_eq]
  constructor
  · intro nonzero
    dsimp only at nonzero
    simp only [BitVec.getLsbD_or, Bool.or_eq_true]
    split at nonzero
    · next copied => exact .inr copied.1
    · exact .inl (coveredTo.seconds_hasBit nonzero)
  · intro nonzero
    dsimp only at nonzero
    simp only [BitVec.getLsbD_or, Bool.or_eq_true]
    split at nonzero
    · next copied => exact .inr copied.1
    · exact .inl (coveredTo.nanos_hasBit nonzero)

theorem Covered.seconds_guard {d : Duration} (covered : d.Covered) :
    (d.hasBits.getLsbD 0 = true ∧ d.seconds ≠ 0) ↔ d.seconds ≠ 0 :=
  ⟨And.right, fun nonzero => ⟨covered.seconds_hasBit nonzero, nonzero⟩⟩

theorem Covered.nanos_guard {d : Duration} (covered : d.Covered) :
    (d.hasBits.getLsbD 1 = true ∧ d.nanos ≠ 0) ↔ d.nanos ≠ 0 :=
  ⟨And.right, fun nonzero => ⟨covered.nanos_hasBit nonzero, nonzero⟩⟩

theorem Covered.internalSwap {d other : Duration} (covered : d.Covered) (coveredOther : other.Covered) :
    (internalSwap d other).1.Covered ∧ (internalSwap d other).2.Covered :=
  ⟨⟨coveredOther.seconds_hasBit, coveredOther.nanos_hasBit⟩,
    ⟨covered.seconds_hasBit, covered.nanos_hasBit⟩⟩

/-! ## Presence read from the value -/

/-- `MergeImpl` read with proto3's implicit presence (spec §4.1): a field of `fromMsg` is copied
when it is not zero, whatever its has bit. -/
def mergeByValue (toMsg fromMsg : Duration) : Duration :=
  { toMsg with
    seconds := if fromMsg.seconds ≠ 0 then fromMsg.seconds else toMsg.seconds
    nanos := if fromMsg.nanos ≠ 0 then fromMsg.nanos else toMsg.nanos
    hasBits := toMsg.hasBits ||| fromMsg.hasBits
    unknownFields := toMsg.unknownFields ++ fromMsg.unknownFields }

/-- From a covered source, `MergeImpl`'s has-bit tests change nothing. -/
theorem mergeImpl_of_covered (toMsg : Duration) {fromMsg : Duration} (covered : fromMsg.Covered) :
    mergeImpl toMsg fromMsg = mergeByValue toMsg fromMsg := by
  simp only [mergeImpl_eq, mergeByValue, covered.seconds_guard, covered.nanos_guard]

/-- `CopyFrom(from)` when `from` is another object: `Clear`, then `MergeFrom(from)`. The test
`&from == this` compares addresses and is made where objects have them, in `Heap.step`. -/
def copyFrom (d fromMsg : Duration) : Duration := mergeImpl d.clear fromMsg

/-- Between covered objects, `CopyFrom` gives the source's state; the target keeps its cached
size. -/
theorem copyFrom_of_covered {d fromMsg : Duration} (covered : d.Covered) (coveredFrom : fromMsg.Covered) :
    copyFrom d fromMsg = { copyCtor fromMsg with cachedSize := d.cachedSize } := by
  rw [copyFrom, clear_of_covered covered, mergeImpl_of_covered _ coveredFrom]
  by_cases seconds : fromMsg.seconds = 0#64 <;> by_cases nanos : fromMsg.nanos = 0#32 <;>
    simp [mergeByValue, sharedCtor, copyCtor, seconds, nanos]

end Duration

end Protobuf
