import Pydoop.Sercore.Streams
import Pydoop.Sercore.HuExtras

/-! `sercore.deserialize_file_split` (`sercore.cpp`): a Hadoop `FileSplit` read from a
`HadoopUtils::StringInStream` over the buffer, its file name with `deserializeString` and its
offset and length with `deserializeLongWritable`. `StringInStream::read` copies the byte at
`itr` before it tests `itr == end`, so a read that starts at the end of the buffer copies the
memory after it and, `itr` being past `end`, never stops early: a read fails only when the
buffer ends inside it. -/

namespace Pydoop.HadoopUtils

open Effect

/-- A `StringInStream`: the bytes of its buffer from `itr` on, and the memory a read copies once
`itr` is at the end of the buffer (`*end()` first, then what follows it). -/
structure StringInStream where
  rest : Bytes
  beyond : Nat → UInt8

namespace StringInStream

/-- The loop of `StringInStream::read(buf, buflen)` with `left` bytes still to copy: the bytes
copied and the stream after them. Copying the last byte of the buffer brings `itr` to `end` and
breaks the loop; at or past the end, `itr == end` never holds again. -/
def readLoop : Bytes → (Nat → UInt8) → Nat → Bytes × StringInStream
  | rest, beyond, 0 => ([], ⟨rest, beyond⟩)
  | [], beyond, left + 1 =>
    let (bs, s) := readLoop [] (fun i => beyond (i + 1)) left
    (beyond 0 :: bs, s)
  | [b], beyond, _ + 1 => ([b], ⟨[], beyond⟩)
  | b :: rest, beyond, left + 1 =>
    let (bs, s) := readLoop rest beyond left
    (b :: bs, s)

/-- `StringInStream::read(buf, buflen)`, with `HADOOP_ASSERT(bytes == buflen, ...)` after the
loop. -/
def read (buflen : Nat) : Effect Error StringInStream Bytes := do
  let s ← get
  let (bytes, after) := readLoop s.rest s.beyond buflen
  set after
  if bytes.length = buflen then pure bytes else throw .unexpectedEndOfString

instance : InStream StringInStream := ⟨read⟩

theorem readLoop_append {bs : Bytes} (nonempty : bs ≠ []) (rest : Bytes) (beyond : Nat → UInt8) :
    readLoop (bs ++ rest) beyond bs.length = (bs, ⟨rest, beyond⟩) := by
  induction bs with
  | nil => exact absurd rfl nonempty
  | cons b bs ih =>
    cases bs with
    | nil =>
      cases rest with
      | nil => rfl
      | cons c rest => rfl
    | cons c bs =>
      rw [List.cons_append, List.length_cons, readLoop, ih (List.cons_ne_nil c bs)]
      exact List.cons_ne_nil _ _

theorem readLoop_past_end (beyond : Nat → UInt8) (n : Nat) :
    readLoop [] beyond n = ((List.range n).map beyond, ⟨[], fun i => beyond (i + n)⟩) := by
  induction n generalizing beyond with
  | zero => rfl
  | succ n ih =>
    rw [readLoop, ih, List.range_succ_eq_map, List.map_cons, List.map_map]
    congr 3

end StringInStream

theorem stringInStream_readsExactly (beyond : Nat → UInt8) :
    ReadsExactly (fun rest => (⟨rest, beyond⟩ : StringInStream)) := by
  intro bs nonempty rest
  simp [InStream.read, StringInStream.read, run_bind, StringInStream.readLoop_append nonempty,
    Except.map]

theorem run_read_past_end (beyond : Nat → UInt8) (n : Nat) :
    (InStream.read n : Effect Error StringInStream Bytes).run ⟨[], beyond⟩ =
      (.ok ((List.range n).map beyond), ⟨[], fun i => beyond (i + n)⟩) := by
  simp [InStream.read, StringInStream.read, run_bind, StringInStream.readLoop_past_end, Except.map]

end Pydoop.HadoopUtils

namespace Pydoop.Sercore

open Effect HadoopUtils PyText

/-- The `try` block of `deserializeFileSplit`: the file name, the offset and the length. -/
def readFileSplit {σ : Type} [InStream σ] : Effect Error σ (Bytes × Int × Int) := do
  let fname ← deserializeString
  let offset ← deserializeLongWritable
  let length ← deserializeLongWritable
  return (fname, offset, length)

/-- `sercore.deserialize_file_split(data)`, the buffer followed in memory by `beyond`: an
`IOError` with the message of a `HadoopUtils::Error`, or the tuple `(fname, offset, length)`,
the name decoded from UTF-8. -/
def deserializeFileSplit (data : Bytes) (beyond : Nat → UInt8) :
    Except PyExc (PyObj × PyObj × PyObj) :=
  match (readFileSplit.run (⟨data, beyond⟩ : StringInStream)).1 with
  | .error e => .error (.ioError e)
  | .ok (fname, offset, length) =>
    match decodeUtf8 fname with
    | some name => .ok (.str name, .int offset, .int length)
    | none => .error .unicodeDecodeError

theorem run_readFileSplit {σ : Type} [InStream σ] {s s₁ s₂ s₃ : σ} {fname : Bytes}
    {offset length : Int} (nameRead : (deserializeString : Effect Error σ Bytes).run s = (.ok fname, s₁))
    (offsetRead : (deserializeLongWritable : Effect Error σ Int).run s₁ = (.ok offset, s₂))
    (lengthRead : (deserializeLongWritable : Effect Error σ Int).run s₂ = (.ok length, s₃)) :
    readFileSplit.run s = (.ok (fname, offset, length), s₃) := by
  rw [readFileSplit, run_bind_ok nameRead, run_bind_ok offsetRead, run_bind_ok lengthRead]
  rfl

theorem deserializeFileSplit_of_read {data : Bytes} {beyond : Nat → UInt8} {name : String}
    {offset length : Int} {after : StringInStream}
    (read : readFileSplit.run (⟨data, beyond⟩ : StringInStream) =
      (.ok (utf8 name, offset, length), after)) :
    deserializeFileSplit data beyond = .ok (.str name, .int offset, .int length) := by
  simp [deserializeFileSplit, read]

theorem run_deserializeLongWritable_past_end (beyond : Nat → UInt8) :
    (deserializeLongWritable : Effect Error StringInStream Int).run ⟨[], beyond⟩ =
      (.ok (((List.range 8).map beyond).foldl shiftInByte 0).toInt,
        ⟨[], fun i => beyond (i + 8)⟩) := by
  rw [deserializeLongWritable, run_bind_ok (run_read_past_end beyond INT64_SIZE)]
  rfl

/-- A `FileSplit` as Hadoop writes it is read back whole. -/
theorem deserializeFileSplit_serialized {name : String} (short : (utf8 name).length < 2 ^ 31)
    {offset length : Int} (offsetLow : -2 ^ 63 ≤ offset) (offsetHigh : offset < 2 ^ 63)
    (lengthLow : -2 ^ 63 ≤ length) (lengthHigh : length < 2 ^ 63) (beyond : Nat → UInt8) :
    deserializeFileSplit (serializeString (utf8 name) ++ BigEndian.bytes 8 (offset % 2 ^ 64).toNat ++
      BigEndian.bytes 8 (length % 2 ^ 64).toNat) beyond = .ok (.str name, .int offset, .int length) := by
  have exact := stringInStream_readsExactly beyond
  have fields : Reads (fun rest => (⟨rest, beyond⟩ : StringInStream)) readFileSplit
      (serializeString (utf8 name) ++ (BigEndian.bytes 8 (offset % 2 ^ 64).toNat ++
        BigEndian.bytes 8 (length % 2 ^ 64).toNat)) (utf8 name, offset, length) :=
    (deserializeString_serializeString exact short).bind
      ((deserializeLongWritable_reads exact offsetLow offsetHigh).bind
        (Reads.bind_pure (deserializeLongWritable_reads exact lengthLow lengthHigh) rfl))
  have whole := fields []
  rw [List.append_nil, ← List.append_assoc] at whole
  exact deserializeFileSplit_of_read whole

/-- The split of `f` from offset `-1`, of length `64`. -/
theorem deserializeFileSplit_serialized_f :
    deserializeFileSplit (serializeString (utf8 "f") ++ BigEndian.bytes 8 ((-1 : Int) % 2 ^ 64).toNat ++
      BigEndian.bytes 8 ((64 : Int) % 2 ^ 64).toNat) (fun _ => 0) = .ok (.str "f", .int (-1), .int 64) :=
  deserializeFileSplit_serialized (by decide) (by decide) (by decide) (by decide) (by decide) _

theorem run_deserializeString_terminated {beyond : Nat → UInt8} (terminated : beyond 0 = 0) :
    (deserializeString : Effect Error StringInStream Bytes).run ⟨[], beyond⟩ =
      (.ok [], ⟨[], fun i => beyond (i + 1)⟩) := by
  have zero : int8Value ((List.map beyond (List.range 1)).headD 0) = 0 := by
    simp [terminated, int8Value]
  simp only [deserializeString, deserializeInt, deserializeLong, run_bind,
    run_read_past_end beyond 1, zero]
  rfl

/-- A buffer cut between two fields is not rejected: a read that starts at the end copies the
memory after it, so the empty buffer (its NUL read as a zero length), the name alone, and the
name with the offset all return a `FileSplit`, its missing fields taken from that memory. -/
theorem deserializeFileSplit_field_boundary {name : String} (short : (utf8 name).length < 2 ^ 31)
    {offset : Int} (low : -2 ^ 63 ≤ offset) (high : offset < 2 ^ 63) {beyond : Nat → UInt8}
    (terminated : beyond 0 = 0) :
    (∃ o l, deserializeFileSplit [] beyond = .ok (.str "", .int o, .int l)) ∧
      (∃ o l, deserializeFileSplit (serializeString (utf8 name)) beyond =
        .ok (.str name, .int o, .int l)) ∧
      ∃ l, deserializeFileSplit (serializeString (utf8 name) ++
        BigEndian.bytes 8 (offset % 2 ^ 64).toNat) beyond = .ok (.str name, .int offset, .int l) := by
  have exact := stringInStream_readsExactly beyond
  have pastEnd := run_deserializeLongWritable_past_end
  refine ⟨?_, ?_, ?_⟩
  · exact ⟨_, _, deserializeFileSplit_of_read
      (run_readFileSplit (run_deserializeString_terminated terminated) (pastEnd _) (pastEnd _))⟩
  · have nameRead := (deserializeString_serializeString exact short) []
    rw [List.append_nil] at nameRead
    exact ⟨_, _, deserializeFileSplit_of_read
      (run_readFileSplit nameRead (pastEnd _) (pastEnd _))⟩
  · have nameRead := (deserializeString_serializeString exact short)
      (BigEndian.bytes 8 (offset % 2 ^ 64).toNat)
    have offsetRead := (deserializeLongWritable_reads exact low high) []
    rw [List.append_nil] at offsetRead
    exact ⟨_, deserializeFileSplit_of_read (run_readFileSplit nameRead offsetRead (pastEnd _))⟩

theorem deserializeFileSplit_field_boundary_zeroed :
    (utf8 "a").length < 2 ^ 31 ∧ -2 ^ 63 ≤ (7 : Int) ∧ (7 : Int) < 2 ^ 63 ∧
      (fun _ : Nat => (0 : UInt8)) 0 = 0 ∧
      (∃ o l, deserializeFileSplit [] (fun _ => 0) = .ok (.str "", .int o, .int l)) ∧
      (∃ o l, deserializeFileSplit (serializeString (utf8 "a")) (fun _ => 0) =
        .ok (.str "a", .int o, .int l)) ∧
      ∃ l, deserializeFileSplit (serializeString (utf8 "a") ++
        BigEndian.bytes 8 ((7 : Int) % 2 ^ 64).toNat) (fun _ => 0) = .ok (.str "a", .int 7, .int l) :=
  ⟨by decide, by decide, by decide, rfl,
    deserializeFileSplit_field_boundary (by decide) (by decide) (by decide) rfl⟩

end Pydoop.Sercore
