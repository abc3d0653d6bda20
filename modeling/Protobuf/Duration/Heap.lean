import Protobuf.Duration.Serialize
import Protobuf.TcParser.Parse

/-!
# The objects of a program, and the states they reach

A program holds `Duration` objects and calls their members: the two constructors, the field
setters, `Clear`, `ByteSizeLong`, `MergeFrom`, `CopyFrom`, `InternalSwap` and the two parse entry
points. `Heap.step` is one such call on a list of objects named by their index. A call the code
rejects ends the run: `MergeFrom` of an object into itself, which `MergeImpl`'s
`ABSL_DCHECK_NE(&from, _this)` forbids, and a parse that fails, after which spec §7 has the caller
discard the object. `Heap.Reachable` holds of the heaps a program builds from no objects, and
`Duration.Reachable` of the objects they hold.

`Duration.Valid` is what every member keeps: the presence invariant `Covered`, and unknown fields
that are framed records no parse maps to a field.

Results:
* `Heap.Reachable.valid`: every object of a reachable heap is valid; one step keeps validity
  (`Heap.step_valid`).
* `reachable_presence`: on a reachable object a nonzero field has its has bit set, so
  `_InternalSerialize`, `ByteSizeLong` and `MergeImpl` read presence from the value alone.
* `mergeFrom_reachable`: `MergeFrom` from a reachable object, field by field, touching no other
  object.
* `mergeImpl_assoc_reachable`: `MergeFrom` is associative on reachable objects.
* `clear_reachable`: `Clear` of a reachable object is the default object.
* `copyFrom_reachable`: `CopyFrom` between reachable objects gives the copy constructor's state.
-/

namespace Protobuf

namespace Duration

/-! ## Validity -/

/-- What every member function keeps: a nonzero field has its has bit set, and each unknown
field is a framed record that a parse keeps as unknown. -/
structure Valid (maxSize : Nat) (d : Duration) : Prop where
  covered : d.Covered
  unknown : ∀ r ∈ d.unknownFields, r.Framed maxSize ∧ r.IsUnknown

theorem Covered.applyRecord {d : Duration} (covered : d.Covered) (r : WireRecord) :
    (d.applyRecord r).Covered := by
  unfold Duration.applyRecord
  split
  · exact covered.setSeconds r.value
  · split
    · exact covered.setNanos (r.value.setWidth 32)
    · exact ⟨covered.seconds_hasBit, covered.nanos_hasBit⟩

section Valid

variable {maxSize : Nat} {d : Duration}

theorem Valid.sharedCtor : sharedCtor.Valid maxSize :=
  ⟨Covered.sharedCtor, fun _ none => absurd none (List.not_mem_nil _)⟩

theorem Valid.copyCtor (valid : d.Valid maxSize) : (copyCtor d).Valid maxSize :=
  ⟨valid.covered.copyCtor, valid.unknown⟩

theorem Valid.setSeconds (valid : d.Valid maxSize) (value : BitVec 64) :
    (d.setSeconds value).Valid maxSize :=
  ⟨valid.covered.setSeconds value, valid.unknown⟩

theorem Valid.setNanos (valid : d.Valid maxSize) (value : BitVec 32) :
    (d.setNanos value).Valid maxSize :=
  ⟨valid.covered.setNanos value, valid.unknown⟩

theorem Valid.clearSeconds (valid : d.Valid maxSize) : d.clearSeconds.Valid maxSize :=
  ⟨valid.covered.clearSeconds, valid.unknown⟩

theorem Valid.clearNanos (valid : d.Valid maxSize) : d.clearNanos.Valid maxSize :=
  ⟨valid.covered.clearNanos, valid.unknown⟩

theorem Valid.clear (valid : d.Valid maxSize) : d.clear.Valid maxSize := by
  refine ⟨valid.covered.clear, ?_⟩
  rw [clear_of_covered valid.covered]
  exact fun _ none => absurd none (List.not_mem_nil _)

theorem Valid.byteSizeLong (valid : d.Valid maxSize) : d.byteSizeLong.2.Valid maxSize := by
  rw [byteSizeLong_eq]
  exact ⟨⟨valid.covered.seconds_hasBit, valid.covered.nanos_hasBit⟩, valid.unknown⟩

theorem Valid.mergeImpl {toMsg fromMsg : Duration} (validTo : toMsg.Valid maxSize)
    (validFrom : fromMsg.Valid maxSize) : (mergeImpl toMsg fromMsg).Valid maxSize := by
  refine ⟨validTo.covered.mergeImpl fromMsg, fun r mem => ?_⟩
  rw [mergeImpl_eq] at mem
  rcases List.mem_append.1 mem with old | new
  · exact validTo.unknown r old
  · exact validFrom.unknown r new

theorem Valid.copyFrom {fromMsg : Duration} (valid : d.Valid maxSize)
    (validFrom : fromMsg.Valid maxSize) : (copyFrom d fromMsg).Valid maxSize :=
  valid.clear.mergeImpl validFrom

theorem Valid.internalSwap {other : Duration} (valid : d.Valid maxSize)
    (validOther : other.Valid maxSize) :
    (internalSwap d other).1.Valid maxSize ∧ (internalSwap d other).2.Valid maxSize :=
  ⟨⟨(valid.covered.internalSwap validOther.covered).1, validOther.unknown⟩,
    ⟨(valid.covered.internalSwap validOther.covered).2, valid.unknown⟩⟩

/-- A framed record keeps validity: it writes a field and sets its has bit, or it is kept as an
unknown field. -/
theorem Valid.applyRecord (valid : d.Valid maxSize) {r : WireRecord} (framed : r.Framed maxSize) :
    (d.applyRecord r).Valid maxSize := by
  refine ⟨valid.covered.applyRecord r, fun r' mem => ?_⟩
  rw [applyRecord_unknownFields, List.mem_append] at mem
  rcases mem with old | new
  · exact valid.unknown r' old
  · split at new
    · next unknown =>
      rw [List.mem_singleton] at new
      exact new ▸ ⟨framed, unknown⟩
    · cases new

theorem Valid.foldl_applyRecord {records : List WireRecord} (framed : ∀ r ∈ records, r.Framed maxSize)
    (valid : d.Valid maxSize) : (records.foldl Duration.applyRecord d).Valid maxSize := by
  induction records generalizing d with
  | nil => exact valid
  | cons r records ih =>
    exact ih (fun r' mem => framed r' (List.mem_cons_of_mem r mem))
      (valid.applyRecord (framed r (List.mem_cons_self r records)))

theorem Valid.mergeFromString {bytes : List Byte} {d' : Duration} (valid : d.Valid maxSize)
    (parsed : d.mergeFromString maxSize bytes = .ok d') : d'.Valid maxSize := by
  rw [mergeFromString_eq] at parsed
  obtain ⟨records, read, rfl⟩ := Except.map_eq_ok.1 parsed
  exact valid.foldl_applyRecord (readRecords_eq_ok read).1

theorem Valid.parseFromString {bytes : List Byte} {d' : Duration} (valid : d.Valid maxSize)
    (parsed : d.parseFromString maxSize bytes = .ok d') : d'.Valid maxSize :=
  valid.clear.mergeFromString parsed

end Valid

end Duration

/-! ## Programs -/

/-- The `Duration` objects a program holds, named by their index. -/
abbrev Heap := List Duration

/-- A call of a program: a constructor, or a member of the object at an index. -/
inductive Op
  | new
  | copyNew (src : Nat)
  | setSeconds (i : Nat) (value : BitVec 64)
  | setNanos (i : Nat) (value : BitVec 32)
  | clearSeconds (i : Nat)
  | clearNanos (i : Nat)
  | clear (i : Nat)
  | byteSizeLong (i : Nat)
  | mergeFrom (i src : Nat)
  | copyFrom (i src : Nat)
  | swap (i j : Nat)
  | mergeFromString (i : Nat) (bytes : List Byte)
  | parseFromString (i : Nat) (bytes : List Byte)
deriving DecidableEq, Repr

/-- Apply a member function to the object at index `i`; a program calls no member of an object
it does not hold. -/
def updateAt {α : Type} (h : List α) (i : Nat) (f : α → α) : Option (List α) :=
  h[i]?.map fun d => h.set i (f d)

/-- Parse into the object at index `i`; a failed parse ends the run. -/
def parseAt {α : Type} (h : List α) (i : Nat) (parse : α → Except ParseError α) : Option (List α) :=
  h[i]?.bind fun d =>
    match parse d with
    | .ok d' => some (h.set i d')
    | .error _ => none

namespace Heap

/-- One call. `MergeFrom(from)` is `MergeImpl(*this, from)`; `CopyFrom` returns at once when
`from` is the object itself; `Swap` exchanges two objects' state through `InternalSwap`. -/
def step (maxSize : Nat) (h : Heap) : Op → Option Heap
  | .new => some (h ++ [Duration.sharedCtor])
  | .copyNew src => h[src]?.map fun s => h ++ [Duration.copyCtor s]
  | .setSeconds i value => updateAt h i (·.setSeconds value)
  | .setNanos i value => updateAt h i (·.setNanos value)
  | .clearSeconds i => updateAt h i Duration.clearSeconds
  | .clearNanos i => updateAt h i Duration.clearNanos
  | .clear i => updateAt h i Duration.clear
  | .byteSizeLong i => updateAt h i fun d => d.byteSizeLong.2
  | .mergeFrom i src =>
    if i = src then none else h[src]?.bind fun s => updateAt h i (Duration.mergeImpl · s)
  | .copyFrom i src =>
    if i = src then updateAt h i id else h[src]?.bind fun s => updateAt h i (Duration.copyFrom · s)
  | .swap i j =>
    match h[i]?, h[j]? with
    | some d, some other => some ((h.set i (d.internalSwap other).1).set j (d.internalSwap other).2)
    | _, _ => none
  | .mergeFromString i bytes => parseAt h i (Duration.mergeFromString maxSize · bytes)
  | .parseFromString i bytes => parseAt h i (Duration.parseFromString maxSize · bytes)

/-- The heaps a program builds from no objects. -/
inductive Reachable (maxSize : Nat) : Heap → Prop
  | empty : Reachable maxSize []
  | step {h h' : Heap} (op : Op) : Reachable maxSize h → step maxSize h op = some h' →
      Reachable maxSize h'

end Heap

/-! ## A small program -/

/-- `set_nanos(-1)` on a new object. -/
def negativeNanos : Duration := Duration.sharedCtor.setNanos (-1)

/-- `set_seconds(5)` on a new object. -/
def fiveSeconds : Duration := Duration.sharedCtor.setSeconds 5

/-- A program of four calls: two new objects, then `set_seconds(5)` on the second and
`set_nanos(-1)` on the first. -/
theorem reachable_pair (maxSize : Nat) : Heap.Reachable maxSize [negativeNanos, fiveSeconds] :=
  .step (.setNanos 0 (-1)) (.step (.setSeconds 1 5) (.step .new (.step .new .empty rfl) rfl) rfl) rfl

namespace Heap

/-! ## Every step keeps validity -/

section Steps

variable {P : Duration → Prop} {h h' : Heap}

theorem set_all {i : Nat} {d : Duration} (all : ∀ x ∈ h, P x) (new : P d) : ∀ x ∈ h.set i d, P x :=
  fun x mem => (List.mem_or_eq_of_mem_set mem).elim (all x) fun same => same ▸ new

theorem updateAt_all {i : Nat} {f : Duration → Duration} (all : ∀ d ∈ h, P d)
    (keeps : ∀ d ∈ h, P (f d)) (updated : updateAt h i f = some h') : ∀ d ∈ h', P d := by
  obtain ⟨d, found, rfl⟩ := Option.map_eq_some'.1 updated
  exact set_all all (keeps d (List.getElem?_mem found))

theorem parseAt_all {i : Nat} {parse : Duration → Except ParseError Duration}
    (all : ∀ d ∈ h, P d) (keeps : ∀ d ∈ h, ∀ d', parse d = .ok d' → P d')
    (parsed : parseAt h i parse = some h') : ∀ d ∈ h', P d := by
  obtain ⟨d, found, stored⟩ := Option.bind_eq_some.1 parsed
  split at stored
  · next d' result =>
    cases stored
    exact set_all all (keeps d (List.getElem?_mem found) d' result)
  · cases stored

/-! The calls whose step has more than one branch, each taken apart once. -/

theorem step_mergeFrom {maxSize i src : Nat} (stepped : step maxSize h (.mergeFrom i src) = some h') :
    ∃ s ∈ h, updateAt h i (Duration.mergeImpl · s) = some h' := by
  simp only [step] at stepped
  split at stepped
  · cases stepped
  · obtain ⟨s, found, updated⟩ := Option.bind_eq_some.1 stepped
    exact ⟨s, List.getElem?_mem found, updated⟩

theorem step_copyFrom {maxSize i src : Nat} (stepped : step maxSize h (.copyFrom i src) = some h') :
    updateAt h i id = some h' ∨ ∃ s ∈ h, updateAt h i (Duration.copyFrom · s) = some h' := by
  simp only [step] at stepped
  split at stepped
  · exact .inl stepped
  · obtain ⟨s, found, updated⟩ := Option.bind_eq_some.1 stepped
    exact .inr ⟨s, List.getElem?_mem found, updated⟩

theorem step_swap {maxSize i j : Nat} (stepped : step maxSize h (.swap i j) = some h') :
    ∃ d ∈ h, ∃ other ∈ h, h' = (h.set i (d.internalSwap other).1).set j (d.internalSwap other).2 := by
  simp only [step] at stepped
  split at stepped
  · next d other foundD foundOther =>
    exact ⟨d, List.getElem?_mem foundD, other, List.getElem?_mem foundOther, (Option.some.inj stepped).symm⟩
  · cases stepped

/-- One call keeps every object valid. -/
theorem step_valid {maxSize : Nat} {op : Op} (valid : ∀ d ∈ h, d.Valid maxSize)
    (stepped : step maxSize h op = some h') : ∀ d ∈ h', d.Valid maxSize := by
  cases op with
  | new =>
    cases stepped
    exact List.forall_mem_append.2 ⟨valid, List.forall_mem_singleton.2 Duration.Valid.sharedCtor⟩
  | copyNew src =>
    obtain ⟨s, found, rfl⟩ := Option.map_eq_some'.1 stepped
    exact List.forall_mem_append.2
      ⟨valid, List.forall_mem_singleton.2 (valid s (List.getElem?_mem found)).copyCtor⟩
  | setSeconds i value => exact updateAt_all valid (fun d mem => (valid d mem).setSeconds value) stepped
  | setNanos i value => exact updateAt_all valid (fun d mem => (valid d mem).setNanos value) stepped
  | clearSeconds i => exact updateAt_all valid (fun d mem => (valid d mem).clearSeconds) stepped
  | clearNanos i => exact updateAt_all valid (fun d mem => (valid d mem).clearNanos) stepped
  | clear i => exact updateAt_all valid (fun d mem => (valid d mem).clear) stepped
  | byteSizeLong i => exact updateAt_all valid (fun d mem => (valid d mem).byteSizeLong) stepped
  | mergeFrom i src =>
    obtain ⟨s, mem, updated⟩ := step_mergeFrom stepped
    exact updateAt_all valid (fun d dMem => (valid d dMem).mergeImpl (valid s mem)) updated
  | copyFrom i src =>
    rcases step_copyFrom stepped with updated | ⟨s, mem, updated⟩
    · exact updateAt_all valid valid updated
    · exact updateAt_all valid (fun d dMem => (valid d dMem).copyFrom (valid s mem)) updated
  | swap i j =>
    obtain ⟨d, memD, other, memOther, rfl⟩ := step_swap stepped
    have swapped := (valid d memD).internalSwap (valid other memOther)
    exact set_all (set_all valid swapped.1) swapped.2
  | mergeFromString i bytes =>
    exact parseAt_all valid (fun d mem _ parsed => (valid d mem).mergeFromString parsed) stepped
  | parseFromString i bytes =>
    exact parseAt_all valid (fun d mem _ parsed => (valid d mem).parseFromString parsed) stepped

end Steps

/-- Every object of a reachable heap is valid. -/
theorem Reachable.valid {maxSize : Nat} {h : Heap} (reach : Reachable maxSize h) :
    ∀ d ∈ h, d.Valid maxSize := by
  induction reach with
  | empty => exact fun _ none => absurd none (List.not_mem_nil _)
  | step _ _ stepped ih => exact step_valid ih stepped

end Heap

/-- An object some program holds. -/
def Duration.Reachable (maxSize : Nat) (d : Duration) : Prop := ∃ h, Heap.Reachable maxSize h ∧ d ∈ h

theorem Duration.Reachable.valid {maxSize : Nat} {d : Duration} (reach : d.Reachable maxSize) :
    d.Valid maxSize :=
  let ⟨_, reachHeap, mem⟩ := reach
  reachHeap.valid d mem

theorem negativeNanos_reachable (maxSize : Nat) : negativeNanos.Reachable maxSize :=
  ⟨_, reachable_pair maxSize, List.mem_cons_self _ _⟩

theorem fiveSeconds_reachable (maxSize : Nat) : fiveSeconds.Reachable maxSize :=
  ⟨_, reachable_pair maxSize, List.mem_cons_of_mem _ (List.mem_singleton_self _)⟩

/-! ## Presence on reachable objects -/

/-- On every reachable object a nonzero field has its has bit set; so `_InternalSerialize`,
`ByteSizeLong` and `MergeImpl` from it treat a field as present exactly when it is not zero. -/
theorem reachable_presence {maxSize : Nat} {d : Duration} (reach : d.Reachable maxSize) :
    (d.seconds ≠ 0 → d.hasBits.getLsbD 0 = true) ∧ (d.nanos ≠ 0 → d.hasBits.getLsbD 1 = true) ∧
      d.internalSerialize = d.serializeByValue ∧ d.byteSizeLong.1 = d.byteSizeByValue ∧
      ∀ toMsg, Duration.mergeImpl toMsg d = Duration.mergeByValue toMsg d :=
  have covered := reach.valid.covered
  ⟨covered.seconds_hasBit, covered.nanos_hasBit, Duration.internalSerialize_of_covered covered,
    Duration.byteSizeLong_of_covered covered, fun toMsg => Duration.mergeImpl_of_covered toMsg covered⟩

theorem reachable_presence_fiveSeconds :
    fiveSeconds.Reachable 0 ∧
      (fiveSeconds.seconds ≠ 0 → fiveSeconds.hasBits.getLsbD 0 = true) ∧
      (fiveSeconds.nanos ≠ 0 → fiveSeconds.hasBits.getLsbD 1 = true) ∧
      fiveSeconds.internalSerialize = fiveSeconds.serializeByValue ∧
      fiveSeconds.byteSizeLong.1 = fiveSeconds.byteSizeByValue ∧
      ∀ toMsg, Duration.mergeImpl toMsg fiveSeconds = Duration.mergeByValue toMsg fiveSeconds :=
  ⟨fiveSeconds_reachable 0, reachable_presence (fiveSeconds_reachable 0)⟩

/-! ## `MergeFrom`, `Clear` and `CopyFrom` on reachable objects -/

/-- `MergeFrom` of a reachable object into another object: each nonzero field of the source
overwrites the target's, the has bits are OR-ed, the unknown fields appended, and every other
object, the source first, is left as it was. -/
theorem mergeFrom_reachable {maxSize : Nat} {h : Heap} {i src : Nat} {d s : Duration}
    (distinct : i ≠ src) (atDst : h[i]? = some d) (atSrc : h[src]? = some s) (reach : s.Reachable maxSize) :
    ∃ h', Heap.step maxSize h (.mergeFrom i src) = some h' ∧
      h'[i]? = some { d with
        seconds := if s.seconds ≠ 0 then s.seconds else d.seconds
        nanos := if s.nanos ≠ 0 then s.nanos else d.nanos
        hasBits := d.hasBits ||| s.hasBits
        unknownFields := d.unknownFields ++ s.unknownFields } ∧
      ∀ k ≠ i, h'[k]? = h[k]? := by
  have bound : i < h.length := (List.getElem?_eq_some_iff.1 atDst).1
  refine ⟨h.set i (Duration.mergeImpl d s), ?_, ?_, fun k other => ?_⟩
  · simp only [Heap.step, if_neg distinct, atSrc, Option.some_bind, updateAt, atDst, Option.map_some']
  · rw [List.getElem?_set_self bound, Duration.mergeImpl_of_covered d reach.valid.covered]
    rfl
  · exact List.getElem?_set_ne (Ne.symm other)

theorem mergeFrom_reachable_pair :
    (1 : Nat) ≠ 0 ∧ [negativeNanos, fiveSeconds][1]? = some fiveSeconds ∧
      [negativeNanos, fiveSeconds][0]? = some negativeNanos ∧ negativeNanos.Reachable 0 ∧
      ∃ h', Heap.step 0 [negativeNanos, fiveSeconds] (.mergeFrom 1 0) = some h' ∧
        h'[1]? = some { fiveSeconds with
          seconds := if negativeNanos.seconds ≠ 0 then negativeNanos.seconds else fiveSeconds.seconds
          nanos := if negativeNanos.nanos ≠ 0 then negativeNanos.nanos else fiveSeconds.nanos
          hasBits := fiveSeconds.hasBits ||| negativeNanos.hasBits
          unknownFields := fiveSeconds.unknownFields ++ negativeNanos.unknownFields } ∧
        ∀ k ≠ 1, h'[k]? = [negativeNanos, fiveSeconds][k]? :=
  ⟨by decide, rfl, rfl, negativeNanos_reachable 0,
    mergeFrom_reachable (by decide) rfl rfl (negativeNanos_reachable 0)⟩

/-- `MergeFrom` is associative on reachable objects: merging `b` and then `c` into `a` gives what
merging into `a` the merge of `c` into `b` gives. -/
theorem mergeImpl_assoc_reachable {maxSize : Nat} {b c : Duration} (reachB : b.Reachable maxSize)
    (reachC : c.Reachable maxSize) (a : Duration) :
    Duration.mergeImpl (Duration.mergeImpl a b) c = Duration.mergeImpl a (Duration.mergeImpl b c) := by
  have coveredB := reachB.valid.covered
  have coveredC := reachC.valid.covered
  rw [Duration.mergeImpl_of_covered _ coveredC, Duration.mergeImpl_of_covered _ coveredB,
    Duration.mergeImpl_of_covered _ (coveredB.mergeImpl c), Duration.mergeImpl_of_covered _ coveredC]
  by_cases seconds : c.seconds = 0#64 <;> by_cases nanos : c.nanos = 0#32 <;>
    simp [Duration.mergeByValue, seconds, nanos, BitVec.or_assoc]

theorem mergeImpl_assoc_reachable_pair :
    negativeNanos.Reachable 0 ∧ fiveSeconds.Reachable 0 ∧
      Duration.mergeImpl (Duration.mergeImpl Duration.sharedCtor negativeNanos) fiveSeconds =
        Duration.mergeImpl Duration.sharedCtor (Duration.mergeImpl negativeNanos fiveSeconds) :=
  ⟨negativeNanos_reachable 0, fiveSeconds_reachable 0,
    mergeImpl_assoc_reachable (negativeNanos_reachable 0) (fiveSeconds_reachable 0) _⟩

/-- `Clear` of a reachable object gives the object `SharedCtor` builds, the cached size apart,
even though it zeroes the fields only when a has bit is set; so `Clear` is idempotent, and after
it `ByteSizeLong` is 0 and `_InternalSerialize` writes nothing. -/
theorem clear_reachable {maxSize : Nat} {d : Duration} (reach : d.Reachable maxSize) :
    d.clear = { Duration.sharedCtor with cachedSize := d.cachedSize } ∧ d.clear.clear = d.clear ∧
      d.clear.byteSizeLong.1 = 0 ∧ d.clear.internalSerialize = [] := by
  have covered := reach.valid.covered
  have cleared := Duration.clear_of_covered covered
  have empty : d.clear.internalSerialize = [] := by
    rw [cleared]
    simp [Duration.internalSerialize_eq, Duration.sharedCtor, internalSerializeUnknownFieldsToArray]
  refine ⟨cleared, ?_, ?_, empty⟩
  · rw [Duration.clear_of_covered covered.clear, cleared]
  · rw [Duration.byteSizeLong_of_covered covered.clear, cleared]
    simp [Duration.byteSizeByValue, Duration.sharedCtor, computeUnknownFieldsSize]

theorem clear_reachable_negativeNanos :
    negativeNanos.Reachable 0 ∧
      negativeNanos.clear = { Duration.sharedCtor with cachedSize := negativeNanos.cachedSize } ∧
      negativeNanos.clear.clear = negativeNanos.clear ∧ negativeNanos.clear.byteSizeLong.1 = 0 ∧
      negativeNanos.clear.internalSerialize = [] :=
  ⟨negativeNanos_reachable 0, clear_reachable (negativeNanos_reachable 0)⟩

/-- `CopyFrom` between reachable objects, the same one or two: the target gets the source's has
bits, fields and unknown fields, the state the copy constructor builds from the source, and
keeps its cached size. -/
theorem copyFrom_reachable {maxSize : Nat} {h : Heap} {i src : Nat} {d s : Duration}
    (atDst : h[i]? = some d) (atSrc : h[src]? = some s) (reachDst : d.Reachable maxSize)
    (reachSrc : s.Reachable maxSize) :
    ∃ d', Heap.step maxSize h (.copyFrom i src) = some (h.set i d') ∧
      d'.hasBits = s.hasBits ∧ d'.seconds = s.seconds ∧ d'.nanos = s.nanos ∧
      d'.unknownFields = s.unknownFields ∧ d' = { Duration.copyCtor s with cachedSize := d.cachedSize } := by
  refine ⟨{ Duration.copyCtor s with cachedSize := d.cachedSize }, ?_, rfl, rfl, rfl, rfl, rfl⟩
  by_cases same : i = src
  · subst same
    cases atDst.symm.trans atSrc
    simp only [Heap.step, if_true, updateAt, atDst, Option.map_some', id]
    rfl
  · simp only [Heap.step, if_neg same, atSrc, Option.some_bind, updateAt, atDst, Option.map_some',
      Duration.copyFrom_of_covered reachDst.valid.covered reachSrc.valid.covered]

theorem copyFrom_reachable_pair :
    [negativeNanos, fiveSeconds][0]? = some negativeNanos ∧
      [negativeNanos, fiveSeconds][1]? = some fiveSeconds ∧
      negativeNanos.Reachable 0 ∧ fiveSeconds.Reachable 0 ∧
      ∃ d', Heap.step 0 [negativeNanos, fiveSeconds] (.copyFrom 0 1) =
          some ([negativeNanos, fiveSeconds].set 0 d') ∧
        d'.hasBits = fiveSeconds.hasBits ∧ d'.seconds = fiveSeconds.seconds ∧
        d'.nanos = fiveSeconds.nanos ∧ d'.unknownFields = fiveSeconds.unknownFields ∧
        d' = { Duration.copyCtor fiveSeconds with cachedSize := negativeNanos.cachedSize } :=
  ⟨rfl, rfl, negativeNanos_reachable 0, fiveSeconds_reachable 0,
    copyFrom_reachable rfl rfl (negativeNanos_reachable 0) (fiveSeconds_reachable 0)⟩

end Protobuf
