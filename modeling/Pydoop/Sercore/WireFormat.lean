import Pydoop.Sercore.Streams

/-! The wire format of the `sercore` streams: every item `write_tuple` writes is read back by
`read_tuple` from exactly the bytes written, through the same per-item methods. -/

namespace Pydoop.Sercore

open Effect HadoopUtils PyText

/-- The items a format letter carries without loss: ints of the C width, and strings and byte
strings whose length fits the `int32_t` length prefix. -/
def Carries : Format → PyObj → Prop
  | .i, .int n => -2 ^ 31 ≤ n ∧ n < 2 ^ 31
  | .l, .int n => -2 ^ 63 ≤ n ∧ n < 2 ^ 63
  | .s, .str text => (utf8 text).length < 2 ^ 31
  | .b, .bytes data => data.length < 2 ^ 31
  | _, _ => False

/-- The bytes an item occupies on the wire. -/
def itemBytes : Format → PyObj → Bytes
  | .i, .int n => serializeInt n
  | .l, .int n => serializeLong n
  | .s, .str text => serializeString (utf8 text)
  | .b, .bytes data => serializeString data
  | _, _ => []

/-- The bytes of a whole tuple. -/
def tupleBytes (fmt : List Format) (items : List PyObj) : Bytes :=
  (fmt.zip items).flatMap fun (format, item) => itemBytes format item

/-- The format string spelled by a list of format letters. -/
def formatText (fmt : List Format) : String := String.ofList (fmt.map Format.letter)

@[simp] theorem ofByte_letter (format : Format) : Format.ofByte? format.letter.toUInt8 = some format := by
  cases format <;> rfl

theorem utf8_formatText (fmt : List Format) :
    utf8 (formatText fmt) = fmt.map fun format => format.letter.toUInt8 := by
  have ascii : ∀ c ∈ fmt.map Format.letter, c.toNat < 128 := by
    intro c member
    obtain ⟨format, _, letter⟩ := List.mem_map.mp member
    subst letter
    cases format <;> decide
  rw [formatText, utf8_ofList_ascii _ ascii, List.map_map]
  rfl

theorem nul_not_mem_formatText (fmt : List Format) : '\x00' ∉ (formatText fmt).toList := by
  intro member
  simp only [formatText, String.toList_ofList, List.mem_map] at member
  obtain ⟨format, _, letter⟩ := member
  cases format <;> simp [Format.letter] at letter

namespace FileInStreamObj

theorem assertOpen_reads : Reads «at» assertOpen [] () := by
  intro rest
  simp [assertOpen, «at», run_bind]

theorem onStream_reads {α : Type} {x : Effect Error FileInStream α} {bs : Bytes} {a : α}
    (reads : Reads FileInStream.at x bs a) : Reads «at» (onStream x) bs a := by
  intro rest
  simp [onStream, «at», run_bind, reads rest, Except.map]

theorem readVInt_reads {n : Int} (low : -2 ^ 31 ≤ n) (high : n < 2 ^ 31) :
    Reads «at» readVInt (serializeInt n) n := by
  refine Reads.congr (assertOpen_reads.bind ?_) (List.nil_append _)
  exact onStream_reads (deserializeInt_serializeInt fileInStream_readsExactly low high)

theorem readVLong_reads {n : Int} (low : -2 ^ 63 ≤ n) (high : n < 2 ^ 63) :
    Reads «at» readVLong (serializeLong n) n := by
  refine Reads.congr (assertOpen_reads.bind ?_) (List.nil_append _)
  exact onStream_reads (deserializeLong_serializeLong fileInStream_readsExactly low high)

theorem readBytes_reads {data : Bytes} (short : data.length < 2 ^ 31) :
    Reads «at» readBytes (serializeString data) data := by
  refine Reads.congr (assertOpen_reads.bind ?_) (List.nil_append _)
  exact onStream_reads (deserializeString_serializeString fileInStream_readsExactly short)

theorem readString_decodes {data : Bytes} {text : String} (short : data.length < 2 ^ 31)
    (decoded : decodeUtf8 data = some text) :
    Reads «at» readString (serializeString data) text := by
  refine Reads.congr (assertOpen_reads.bind ?_) (List.nil_append _)
  refine Reads.congr ((onStream_reads (deserializeString_serializeString
    fileInStream_readsExactly short)).bind ?_) (List.append_nil _)
  simp only [decoded]
  exact Reads.pure _

theorem readString_rejects {data : Bytes} (short : data.length < 2 ^ 31)
    (invalid : decodeUtf8 data = none) (rest : Bytes) :
    readString.run («at» (serializeString data ++ rest)) = (.error .unicodeDecodeError, «at» rest) := by
  have read := onStream_reads (deserializeString_serializeString fileInStream_readsExactly short) rest
  have opened := assertOpen_reads (serializeString data ++ rest)
  rw [List.nil_append] at opened
  rw [readString, run_bind_ok opened, run_bind_ok read]
  simp only [invalid, run_throw]

theorem readString_reads {text : String} (short : (utf8 text).length < 2 ^ 31) :
    Reads «at» readString (serializeString (utf8 text)) text :=
  readString_decodes short (decodeUtf8_utf8 text)

theorem readLongWritable_reads {n : Int} (low : -2 ^ 63 ≤ n) (high : n < 2 ^ 63) :
    Reads «at» readLongWritable (BigEndian.bytes 8 (n % 2 ^ 64).toNat) n := by
  refine Reads.congr (assertOpen_reads.bind ?_) (List.nil_append _)
  exact onStream_reads (deserializeLongWritable_reads fileInStream_readsExactly low high)

theorem reader_reads {format : Format} {item : PyObj} (carried : Carries format item) :
    Reads «at» (reader format) (itemBytes format item) item := by
  cases format <;> cases item <;> simp only [Carries] at carried
  · exact (readVInt_reads carried.1 carried.2).map _
  · exact (readVLong_reads carried.1 carried.2).map _
  · exact (readString_reads carried).map _
  · exact (readBytes_reads carried).map _

theorem readItem_reads {format : Format} {item : PyObj} (carried : Carries format item) :
    Reads «at» (readItem format.letter.toUInt8) (itemBytes format item) item := by
  simpa [readItem] using reader_reads carried

theorem readItems_reads {fmt : List Format} {items : List PyObj}
    (carried : List.Forall₂ Carries fmt items) :
    Reads «at» ((fmt.map fun format => format.letter.toUInt8).mapM readItem)
      (tupleBytes fmt items) items := by
  induction carried with
  | nil => exact Reads.pure []
  | cons head tail ih =>
    simp only [List.map_cons, List.mapM_cons, tupleBytes, List.zip_cons_cons, List.flatMap_cons]
    refine ((readItem_reads head).bind (ih.bind (Reads.pure (_ :: _)))).congr ?_
    rw [List.append_nil]
    rfl

theorem readTuple_of_items {fmt : String} (noNul : '\x00' ∉ fmt.toList) {bs : Bytes}
    {items : List PyObj} (reads : Reads «at» ((utf8 fmt).mapM readItem) bs items) :
    Reads «at» (readTuple fmt) bs items := by
  unfold readTuple
  refine (assertOpen_reads.bind ?_).congr (List.nil_append _)
  simpa only [noNul, if_false] using reads

theorem readTuple_reads {fmt : List Format} {items : List PyObj}
    (carried : List.Forall₂ Carries fmt items) :
    Reads «at» (readTuple (formatText fmt)) (tupleBytes fmt items) items := by
  refine readTuple_of_items (nul_not_mem_formatText fmt) ?_
  rw [utf8_formatText]
  exact readItems_reads carried

theorem readBytes_narrowed {len : Int} (nonpositive : len.bmod (2 ^ 32) ≤ 0) :
    Reads «at» readBytes (serializeInt len) [] := by
  refine Reads.congr (assertOpen_reads.bind ?_) (List.nil_append _)
  exact onStream_reads (deserializeString_narrowed fileInStream_readsExactly nonpositive)

end FileInStreamObj

namespace FileOutStreamObj

theorem assertOpen_writes : Writes «at» assertOpen [] := by
  intro out
  simp [assertOpen, «at», run_bind]

theorem put_writes (bytes : Bytes) : Writes «at» (put bytes) bytes := by
  intro out
  simp [put, «at»]

theorem convert_run_ok {α : Type} {a : α} (self : FileOutStreamObj) :
    (convert (.ok a)).run self = (.ok a, self) := rfl

private theorem checked_writes {α : Type} {parsed : Except PyExc α} {a : α} (bytes : α → Bytes)
    (converted : parsed = .ok a) :
    Writes «at» (do assertOpen; put (bytes (← convert parsed))) (bytes a) := by
  intro out
  subst converted
  rw [run_bind_ok (assertOpen_writes out), run_bind_ok (convert_run_ok _), put_writes,
    List.append_nil]

theorem writeString_writes (text : String) :
    Writes «at» (writeString (.str text)) (serializeString (utf8 text)) :=
  checked_writes serializeString rfl

theorem writeBytes_writes (data : Bytes) :
    Writes «at» (writeBytes (.bytes data)) (serializeString data) :=
  checked_writes serializeString rfl

theorem writeFloat_writes (p : UInt64) :
    Writes «at» (writeFloat (.float p)) (serializeFloat (Float.ofBits p).toFloat32.toBits) :=
  checked_writes serializeFloat rfl

theorem writer_writes {format : Format} {item : PyObj} (carried : Carries format item) :
    Writes «at» (writer format item) (itemBytes format item) := by
  cases format <;> cases item <;> simp only [Carries] at carried
  · exact checked_writes serializeInt (by rw [asInt, if_pos carried])
  · exact checked_writes serializeLong (by rw [asLongLong, if_pos carried])
  · exact writeString_writes _
  · exact writeBytes_writes _

theorem writeItems_writes {fmt : List Format} {items : List PyObj}
    (written : List.Forall₂ (fun format item =>
      Writes «at» (writer format item) (itemBytes format item)) fmt items) :
    Writes «at» (writeItems (fmt.map fun format => format.letter.toUInt8) items)
      (tupleBytes fmt items) := by
  induction written with
  | nil => exact Writes.pure
  | cons head tail ih =>
    simp only [List.map_cons, writeItems, writeItem, ofByte_letter, tupleBytes,
      List.zip_cons_cons, List.flatMap_cons]
    exact head.bind ih

theorem writeTuple_of_items {fmt : String} (noNul : '\x00' ∉ fmt.toList) {items : List PyObj}
    {bs : Bytes} (writes : Writes «at» (writeItems (utf8 fmt) items) bs) :
    Writes «at» (writeTuple fmt items) bs := by
  unfold writeTuple
  refine (assertOpen_writes.bind ?_).congr (List.nil_append _)
  simpa only [noNul, if_false] using writes

theorem writeTuple_writes {fmt : List Format} {items : List PyObj}
    (carried : List.Forall₂ Carries fmt items) :
    Writes «at» (writeTuple (formatText fmt) items) (tupleBytes fmt items) := by
  refine writeTuple_of_items (nul_not_mem_formatText fmt) ?_
  rw [utf8_formatText]
  exact writeItems_writes (carried.imp fun _ _ => writer_writes)

end FileOutStreamObj

end Pydoop.Sercore

namespace Pydoop.Sercore

open Effect HadoopUtils PyText

/-- Every tuple of items that fit their format letters is written by `write_tuple` as the
concatenation of the items' bytes and read back by `read_tuple` from exactly those bytes, and
each item's own `write_*` and `read_*` method writes and reads exactly its share. -/
theorem readTuple_writeTuple (fmt : List Format) (items : List PyObj)
    (carried : List.Forall₂ Carries fmt items) :
    Writes FileOutStreamObj.at (FileOutStreamObj.writeTuple (formatText fmt) items)
        (tupleBytes fmt items) ∧
      Reads FileInStreamObj.at (FileInStreamObj.readTuple (formatText fmt))
        (tupleBytes fmt items) items ∧
      List.Forall₂ (fun format item =>
        Writes FileOutStreamObj.at (FileOutStreamObj.writer format item)
            (itemBytes format item) ∧
          Reads FileInStreamObj.at (FileInStreamObj.reader format) (itemBytes format item) item)
        fmt items := by
  refine ⟨FileOutStreamObj.writeTuple_writes carried, FileInStreamObj.readTuple_reads carried, ?_⟩
  exact carried.imp fun _ _ carries =>
    ⟨FileOutStreamObj.writer_writes carries, FileInStreamObj.reader_reads carries⟩

theorem readTuple_writeTuple_sample :
    List.Forall₂ Carries [.i, .l, .s, .b] [.int (-1), .int (2 ^ 40), .str "pipes", .bytes [0, 10]] ∧
      Reads FileInStreamObj.at (FileInStreamObj.readTuple (formatText [.i, .l, .s, .b]))
        (tupleBytes [.i, .l, .s, .b] [.int (-1), .int (2 ^ 40), .str "pipes", .bytes [0, 10]])
        [.int (-1), .int (2 ^ 40), .str "pipes", .bytes [0, 10]] := by
  have carried : List.Forall₂ Carries [.i, .l, .s, .b]
      [.int (-1), .int (2 ^ 40), .str "pipes", .bytes [0, 10]] := by
    refine .cons ?_ (.cons ?_ (.cons ?_ (.cons ?_ .nil))) <;> simp only [Carries] <;> decide
  exact ⟨carried, (readTuple_writeTuple _ _ carried).2.1⟩

/-- A byte string of `2 ^ 31` bytes goes out behind a length prefix that reads back as
`-2 ^ 31`: `read_tuple` then returns an empty byte string and leaves the payload unread. -/
theorem readTuple_writeTuple_overlong :
    let data : Bytes := List.replicate (2 ^ 31) 0
    (FileOutStreamObj.writeTuple "b" [.bytes data]).run (FileOutStreamObj.at []) =
        (.ok (), FileOutStreamObj.at (serializeInt (2 ^ 31) ++ data)) ∧
      (FileInStreamObj.readTuple "b").run (FileInStreamObj.at (serializeInt (2 ^ 31) ++ data)) =
        (.ok [.bytes []], FileInStreamObj.at data) := by
  intro data
  have overlong : data.length = 2 ^ 31 := List.length_replicate
  have format : "b" = formatText [.b] := rfl
  have written : Writes FileOutStreamObj.at (FileOutStreamObj.writeTuple "b" [.bytes data])
      (serializeInt (2 ^ 31) ++ data) := by
    have items : Writes FileOutStreamObj.at
        (FileOutStreamObj.writeItems (utf8 (formatText [.b])) [.bytes data])
        (tupleBytes [.b] [.bytes data]) := by
      rw [utf8_formatText]
      exact FileOutStreamObj.writeItems_writes (.cons (FileOutStreamObj.writeBytes_writes data) .nil)
    rw [format]
    refine (FileOutStreamObj.writeTuple_of_items (nul_not_mem_formatText _) items).congr ?_
    simp [tupleBytes, itemBytes, serializeString, overlong]
  have read : Reads FileInStreamObj.at (FileInStreamObj.readTuple "b") (serializeInt (2 ^ 31))
      [.bytes []] := by
    refine FileInStreamObj.readTuple_of_items (by decide) ?_
    have item : Reads FileInStreamObj.at (FileInStreamObj.readItem 98) (serializeInt (2 ^ 31))
        (.bytes []) := (FileInStreamObj.readBytes_narrowed (by decide)).map PyObj.bytes
    have items : Reads FileInStreamObj.at ([98].mapM FileInStreamObj.readItem)
        ([(serializeInt (2 ^ 31), PyObj.bytes [])].flatMap Prod.fst)
        ([(serializeInt (2 ^ 31), PyObj.bytes [])].map Prod.snd) := Reads.mapM (.cons item .nil)
    have letters : utf8 "b" = [98] := by decide
    simpa [letters] using items
  exact ⟨written [], read data⟩

section LongWritable

/-- `struct.pack('>q', n)`: the eight big-endian bytes of the two's complement of an `int64`. -/
def packLong (n : Int) : Except PyExc Bytes :=
  if -2 ^ 63 ≤ n ∧ n < 2 ^ 63 then .ok (BigEndian.bytes 8 (n % 2 ^ 64).toNat)
  else .error (.structError
    "'q' format requires -9223372036854775808 <= number <= 9223372036854775807")

theorem packLong_of_int64 {n : Int} (low : -2 ^ 63 ≤ n) (high : n < 2 ^ 63) :
    packLong n = .ok (BigEndian.bytes 8 (n % 2 ^ 64).toNat) :=
  if_pos ⟨low, high⟩

/-- `deserializeLongWritable` decodes what `java.io.DataOutput.writeLong` writes. Any eight bytes
are read as an `int64` in `[-2 ^ 63, 2 ^ 63)` that is their big-endian value modulo `2 ^ 64`,
whatever the top bit; so `read_long_writable` reads every `int64` back from
`struct.pack('>q', n)`. -/
theorem deserializeLongWritable_decodes_writeLong {σ : Type} [InStream σ] {embed : Bytes → σ}
    (exact : ReadsExactly embed) :
    (∀ bytes : Bytes, bytes.length = 8 → ∃ r : Int,
      Reads embed deserializeLongWritable bytes r ∧ -2 ^ 63 ≤ r ∧ r < 2 ^ 63 ∧
        r % 2 ^ 64 = BigEndian.value bytes) ∧
    ∀ n : Int, -2 ^ 63 ≤ n → n < 2 ^ 63 → ∃ packed, packLong n = .ok packed ∧
      Reads FileInStreamObj.at FileInStreamObj.readLongWritable packed n := by
  constructor
  · intro bytes eight
    have bounded : BigEndian.value bytes < 2 ^ 64 := by
      simpa [eight] using BigEndian.value_lt bytes
    have lower := Int.le_bmod (x := (BigEndian.value bytes : Int)) (Nat.two_pow_pos 64)
    have upper := Int.bmod_lt (x := (BigEndian.value bytes : Int)) (Nat.two_pow_pos 64)
    have residue := Int.bmod_emod (x := (BigEndian.value bytes : Int)) (m := 2 ^ 64)
    refine ⟨_, deserializeLongWritable_reads_bytes exact eight, ?_⟩
    -- `bmod` takes the value modulo `2 ^ 64` into `[-2 ^ 63, 2 ^ 63)`
    generalize (BigEndian.value bytes : Int).bmod (2 ^ 64) = r at lower upper residue
    push_cast at lower upper residue
    refine ⟨by omega, by omega, by omega⟩
  · intro n low high
    exact ⟨_, packLong_of_int64 low high, FileInStreamObj.readLongWritable_reads low high⟩

/-- The most negative `int64`, `0x80 00 00 00 00 00 00 00`, from a file. -/
theorem deserializeLongWritable_decodes_writeLong_min :
    ReadsExactly FileInStream.at ∧ ∃ r : Int,
      Reads FileInStream.at deserializeLongWritable [0x80, 0, 0, 0, 0, 0, 0, 0] r ∧
        -2 ^ 63 ≤ r ∧ r < 2 ^ 63 ∧ r % 2 ^ 64 = BigEndian.value [0x80, 0, 0, 0, 0, 0, 0, 0] :=
  ⟨fileInStream_readsExactly,
    (deserializeLongWritable_decodes_writeLong fileInStream_readsExactly).1 _ rfl⟩

end LongWritable

end Pydoop.Sercore
