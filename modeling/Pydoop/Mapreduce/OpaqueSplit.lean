import Pydoop.Mapreduce.BinaryProtocol

/-! Opaque input splits (`pipes.py`): `OpaqueSplit` objects written by `write_opaque_splits`
and read back by `read_opaque_splits`, each one the pickle of its payload in the layout of a
Hadoop `BytesWritable`, which the Java `OpaqueSplit` reads and writes. The count and the lengths
go through `struct.pack(">i", n)`, which raises `struct.error` outside the `int32` range. The
file is an `io.BytesIO`: the readers see the bytes after its position, the writers the bytes
written so far. -/

namespace Pydoop.Mapreduce

open Effect HadoopUtils
open Sercore hiding OUTPUT PARTITIONED_OUTPUT

/-- `INT_WRITABLE_SIZE = struct.calcsize(">i")`. -/
def INT_WRITABLE_SIZE : Nat := 4

/-- `struct.pack(">i", n)`. -/
def packInt (n : Int) : Except PyExc Bytes :=
  if -2 ^ 31 ≤ n ∧ n < 2 ^ 31 then .ok (BigEndian.bytes 4 (n % 2 ^ 32).toNat)
  else .error (.structError "'i' format requires -2147483648 <= number <= 2147483647")

/-- `struct.unpack(">i", buf)[0]`. -/
def unpackInt (buf : Bytes) : Except PyExc Int :=
  if buf.length = INT_WRITABLE_SIZE then .ok ((BigEndian.value buf : Int).bmod (2 ^ 32))
  else .error (.structError "unpack requires a buffer of 4 bytes")

namespace BytesFile

/-- `f.read(size)`: at most `size` bytes, all that is left for a negative size. -/
def read (size : Int) : Effect PyExc Bytes Bytes :=
  modifyGet fun rest =>
    if size < 0 then (rest, []) else (rest.take size.toNat, rest.drop size.toNat)

/-- `f.write(b)`. -/
def write (b : Bytes) : Effect PyExc Bytes Unit := modify (· ++ b)

end BytesFile

/-- `read_int_writable(f)`. -/
def readIntWritable : Effect PyExc Bytes Int := do
  let buf ← BytesFile.read INT_WRITABLE_SIZE
  MonadExcept.ofExcept (unpackInt buf)

/-- `write_int_writable(n, f)`. -/
def writeIntWritable (n : Int) : Effect PyExc Bytes Unit := do
  BytesFile.write (← MonadExcept.ofExcept (packInt n))

/-- `read_bytes_writable(f)`. -/
def readBytesWritable : Effect PyExc Bytes Bytes := do
  let length ← readIntWritable
  let buf ← BytesFile.read length
  let found := buf.length
  if (found : Int) < length then throw (.runtimeError s!"expected {length} bytes, found {found}")
  return buf

/-- `write_bytes_writable(s, f)`. -/
def writeBytesWritable (s : Bytes) : Effect PyExc Bytes Unit := do
  writeIntWritable s.length
  if s.length > 0 then BytesFile.write s

variable (rt : Runtime)

/-- `OpaqueSplit.read(f)`: the payload unpickled. -/
def OpaqueSplit.read : Effect PyExc Bytes PyObj := do
  MonadExcept.ofExcept (rt.loads (← readBytesWritable))

/-- `OpaqueSplit(payload).write(f)`: the payload pickled. -/
def OpaqueSplit.write (payload : PyObj) : Effect PyExc Bytes Unit :=
  writeBytesWritable (rt.dumps payload)

/-- `write_opaque_splits(splits, f)`, the splits by their payloads. -/
def writeOpaqueSplits (splits : List PyObj) : Effect PyExc Bytes Unit := do
  writeIntWritable splits.length
  splits.forM (OpaqueSplit.write rt)

/-- `read_opaque_splits(f)`: as many splits as the count says, none for a negative count. -/
def readOpaqueSplits : Effect PyExc Bytes (List PyObj) := do
  let n ← readIntWritable
  (List.range n.toNat).mapM fun _ => OpaqueSplit.read rt

section Layout

/-- A Hadoop `BytesWritable`: its length as a big-endian `int32`, then its bytes. -/
def bytesWritable (s : Bytes) : Bytes := BigEndian.bytes 4 s.length ++ s

theorem packInt_natCast {n : Nat} (short : n < 2 ^ 31) :
    packInt n = .ok (BigEndian.bytes 4 n) := by
  have inRange : -2 ^ 31 ≤ (n : Int) ∧ (n : Int) < 2 ^ 31 := ⟨by omega, by omega⟩
  have reduced : ((n : Int) % 2 ^ 32).toNat = n := by omega
  rw [packInt, if_pos inRange, reduced]

theorem unpackInt_bytes {n : Nat} (short : n < 2 ^ 31) :
    unpackInt (BigEndian.bytes 4 n) = .ok n := by
  have restored : BigEndian.value (BigEndian.bytes 4 n) = n :=
    BigEndian.value_bytes_of_lt (by omega)
  have fits : (n : Int).bmod (2 ^ 32) = n := Int.bmod_eq_of_le (by omega) (by omega)
  have sized : (BigEndian.bytes 4 n).length = INT_WRITABLE_SIZE := BigEndian.length_bytes 4 n
  rw [unpackInt, if_pos sized, restored, fits]

theorem writeIntWritable_writes {n : Nat} (short : n < 2 ^ 31) :
    Writes id (writeIntWritable n) (BigEndian.bytes 4 n) := by
  intro out
  simp [writeIntWritable, run_bind, packInt_natCast short, BytesFile.write]

theorem readIntWritable_reads {n : Nat} (short : n < 2 ^ 31) :
    Reads id readIntWritable (BigEndian.bytes 4 n) (n : Int) := by
  intro rest
  simp [readIntWritable, run_bind, BytesFile.read, INT_WRITABLE_SIZE, unpackInt_bytes short]

theorem writeBytesWritable_writes {s : Bytes} (short : s.length < 2 ^ 31) :
    Writes id (writeBytesWritable s) (bytesWritable s) := by
  intro out
  rw [writeBytesWritable, run_bind_ok (writeIntWritable_writes short out)]
  by_cases empty : s = []
  · subst empty
    simp [bytesWritable]
  · have positive : s.length > 0 := List.length_pos_iff.mpr empty
    simp [positive, BytesFile.write, bytesWritable]

theorem readBytesWritable_reads {s : Bytes} (short : s.length < 2 ^ 31) :
    Reads id readBytesWritable (bytesWritable s) s := by
  intro rest
  have counted : ¬((s.length : Int) < 0) := by omega
  rw [bytesWritable, List.append_assoc, readBytesWritable,
    run_bind_ok (readIntWritable_reads short (s ++ rest))]
  simp [BytesFile.read, run_bind, counted]

theorem readBytesWritable_truncated {s : Bytes} (short : s.length < 2 ^ 31) {k : Nat}
    (inside : k < s.length) :
    ∃ message, (readBytesWritable.run (BigEndian.bytes 4 s.length ++ s.take k)).1 =
      .error (.runtimeError message) := by
  have taken : (s.take k).length = k := List.length_take_of_le (Nat.le_of_lt inside)
  have counted : ¬((s.length : Int) < 0) := by omega
  have lengthRead := readIntWritable_reads short (s.take k)
  rw [id, id] at lengthRead
  rw [readBytesWritable, run_bind_ok lengthRead]
  simp [BytesFile.read, run_bind, taken, inside, counted]

theorem writeIntWritable_too_large {n : Nat} (large : 2 ^ 31 ≤ n) (out : Bytes) :
    (writeIntWritable n).run out =
      (.error (.structError "'i' format requires -2147483648 <= number <= 2147483647"), out) := by
  have outside : ¬(-2 ^ 31 ≤ (n : Int) ∧ (n : Int) < 2 ^ 31) := fun inside => by omega
  simp only [writeIntWritable, packInt, if_neg outside]
  rfl

end Layout

/-- Opaque splits round trip, for fewer than `2 ^ 31` splits whose pickles are shorter than
`2 ^ 31` bytes and are unpickled to their payloads: `write_opaque_splits` appends the count and
one `BytesWritable` per split, `read_opaque_splits` reads the payloads back from exactly those
bytes, and a `BytesWritable` cut inside its payload raises `RuntimeError`. -/
theorem opaque_splits_round_trip {splits : List PyObj} (few : splits.length < 2 ^ 31)
    (short : ∀ x ∈ splits, (rt.dumps x).length < 2 ^ 31)
    (inverse : ∀ x ∈ splits, rt.loads (rt.dumps x) = .ok x) :
    Writes id (writeOpaqueSplits rt splits)
        (BigEndian.bytes 4 splits.length ++ splits.flatMap fun x => bytesWritable (rt.dumps x)) ∧
      Reads id (readOpaqueSplits rt)
        (BigEndian.bytes 4 splits.length ++ splits.flatMap fun x => bytesWritable (rt.dumps x))
        splits ∧
      ∀ s : Bytes, s.length < 2 ^ 31 → ∀ k < s.length,
        ∃ message, (readBytesWritable.run (BigEndian.bytes 4 s.length ++ s.take k)).1 =
          .error (.runtimeError message) := by
  refine ⟨?_, ?_, fun s fits k inside => readBytesWritable_truncated fits inside⟩
  · refine (writeIntWritable_writes few).bind (Writes.forM fun x member => ?_)
    exact writeBytesWritable_writes (short x member)
  · have each : ∀ frame ∈ splits.map (fun x => (bytesWritable (rt.dumps x), x)),
        Reads id (OpaqueSplit.read rt) frame.1 frame.2 := by
      intro frame member
      obtain ⟨x, inSplits, rfl⟩ := List.mem_map.mp member
      exact Reads.bind_pure (readBytesWritable_reads (short x inSplits))
        (by rw [inverse x inSplits]; rfl)
    have frames : Reads id ((List.range splits.length).mapM fun _ => OpaqueSplit.read rt)
        ((splits.map fun x => (bytesWritable (rt.dumps x), x)).flatMap Prod.fst)
        ((splits.map fun x => (bytesWritable (rt.dumps x), x)).map Prod.snd) :=
      Reads.mapM_const (by simp) each
    simp only [List.flatMap_map, List.map_map, Function.comp_def, List.map_id'] at frames
    refine (readIntWritable_reads few).bind ?_
    rw [Int.toNat_natCast]
    simpa using frames

/-- `pickle.dumps(x, 5)` of `None` and of `1`, and `pickle.loads` reading them back. -/
def pairRuntime : Runtime :=
  { (default : Runtime) with
    dumps := fun x => if x = .int 1 then [128, 5, 75, 1, 46] else [128, 5, 78, 46]
    loads := fun bs => if bs = [128, 5, 75, 1, 46] then .ok (.int 1) else .ok .none }

theorem opaque_splits_round_trip_pair :
    ([PyObj.none, .int 1].length < 2 ^ 31 ∧
        (∀ x ∈ [PyObj.none, .int 1], (pairRuntime.dumps x).length < 2 ^ 31) ∧
        ∀ x ∈ [PyObj.none, .int 1], pairRuntime.loads (pairRuntime.dumps x) = .ok x) ∧
      Reads id (readOpaqueSplits pairRuntime)
        (BigEndian.bytes 4 2 ++ bytesWritable [128, 5, 78, 46] ++ bytesWritable [128, 5, 75, 1, 46])
        [PyObj.none, .int 1] := by
  have few : [PyObj.none, .int 1].length < 2 ^ 31 := by decide
  have short : ∀ x ∈ [PyObj.none, .int 1], (pairRuntime.dumps x).length < 2 ^ 31 := by
    simp [pairRuntime]
  have inverse : ∀ x ∈ [PyObj.none, .int 1], pairRuntime.loads (pairRuntime.dumps x) = .ok x := by
    simp [pairRuntime]
  exact ⟨⟨few, short, inverse⟩, (opaque_splits_round_trip pairRuntime few short inverse).2.1⟩

theorem writeOpaqueSplits_of_many {splits : List PyObj} (many : 2 ^ 31 ≤ splits.length)
    (out : Bytes) :
    (writeOpaqueSplits rt splits).run out =
      (.error (.structError "'i' format requires -2147483648 <= number <= 2147483647"), out) := by
  rw [writeOpaqueSplits]
  exact run_bind_error (writeIntWritable_too_large many out)

/-- `write_opaque_splits` of `2 ^ 31` splits raises `struct.error`. -/
theorem write_opaque_splits_too_many :
    ((writeOpaqueSplits pairRuntime (List.replicate (2 ^ 31) PyObj.none)).run []).1 =
      .error (.structError "'i' format requires -2147483648 <= number <= 2147483647") := by
  rw [writeOpaqueSplits_of_many pairRuntime (List.length_replicate ..).ge []]

end Pydoop.Mapreduce
