import Pydoop.Lib.Effect
import Pydoop.Lib.BigEndian

/-! `HadoopUtils` serialization (`SerialUtils.cc`): Hadoop's zero-compressed variable-length
integers, length-prefixed strings read back in 64 KiB chunks, and the file streams they are
written to and read from. -/

namespace Pydoop.HadoopUtils

open Effect

/-- Raw bytes, as a C++ `std::string` buffer holds them. -/
abbrev Bytes := List UInt8

/-- The failures `HADOOP_ASSERT` raises as `HadoopUtils::Error`, by the message they carry;
the location suffix `HADOOP_ASSERT` appends is not modelled. -/
inductive Error
  | endOfFile
  | readError
  | writeError
  | unexpectedEndOfString
  deriving DecidableEq, Repr

/-- `InStream`: the source every `deserialize*` function reads through `read(buf, len)`. -/
class InStream (σ : Type) where
  read : Nat → Effect Error σ Bytes

/-- A `FileInStream`: the bytes left in the file and the stream's end-of-file indicator. -/
structure FileInStream where
  rest : Bytes
  eof : Bool
  deriving DecidableEq, Repr

/-- `FileInStream::read`, i.e. `fread(buf, len, 1, mFile)`. A short read consumes what is left,
sets the end-of-file indicator and fails; `fread` of an empty element returns 0 as well, so a
zero-length read fails, with `"end of file"` only once the indicator is set. -/
def FileInStream.read (len : Nat) : Effect Error FileInStream Bytes := do
  let file ← get
  if len = 0 then
    throw (if file.eof then .endOfFile else .readError)
  else if len ≤ file.rest.length then
    set { file with rest := file.rest.drop len }
    pure (file.rest.take len)
  else
    set (FileInStream.mk [] true)
    throw .endOfFile

instance : InStream FileInStream := ⟨FileInStream.read⟩

/-- A file stream positioned before `rest`, its indicator clear. -/
def FileInStream.at (rest : Bytes) : FileInStream := ⟨rest, false⟩

/-- The byte an `int8_t` occupies in the stream. -/
def int8Byte (v : Int) : UInt8 := (Int8.ofInt v).toUInt8

/-- `int8_t b; stream.read(&b, 1)`: a byte taken as a signed value. -/
def int8Value (b : UInt8) : Int := b.toInt8.toInt

/-- `while (tmp != 0) { tmp = tmp >> 8; len--; }`: how many times `len` is decremented. -/
def shiftCount (tmp : Nat) : Nat :=
  if tmp = 0 then 0 else shiftCount (tmp >>> 8) + 1
termination_by tmp
decreasing_by
  rw [Nat.shiftRight_eq_div_pow]
  omega

/-- `uint8_t b = (t & mask) >> shiftbits` with `mask = 0xFFll << shiftbits`. -/
def maskedByte (t shiftbits : Nat) : UInt8 :=
  UInt8.ofNat ((t &&& (0xFF <<< shiftbits)) >>> shiftbits)

/-- `serializeLong(t, stream)`: the bytes it writes, in order. A value in `[-112, 127]` is its
own byte; otherwise a marker whose range gives the sign and the byte count, then the bytes of
`t`, or of `t ^ -1` for a negative `t`, most significant first. -/
def serializeLong (t : Int) : Bytes :=
  if -112 ≤ t ∧ t ≤ 127 then [int8Byte t]
  else
    let (t, len) : Int × Int := if t < 0 then (~~~t, -120) else (t, -112)
    let len := len - shiftCount t.toNat
    let count := if len < -120 then -(len + 120) else -(len + 112)
    int8Byte len :: (List.range count.toNat).reverse.map fun idx => maskedByte t.toNat (idx * 8)

/-- `serializeInt(t, stream)`: the argument is converted to `int32_t`, then written as a long. -/
def serializeInt (t : Int) : Bytes := serializeLong (t.bmod (2 ^ 32))

/-- `serializeString(t, stream)`: the length as an int, then the bytes. -/
def serializeString (t : Bytes) : Bytes :=
  serializeInt t.length ++ (if t.length > 0 then t else [])

/-- `serializeFloat(t, stream)`: the XDR encoding of a C `float`, its IEEE single-precision
bits most significant byte first. -/
def serializeFloat (bits : UInt32) : Bytes := BigEndian.bytes 4 bits.toNat

theorem serializeString_eq (t : Bytes) : serializeString t = serializeInt t.length ++ t := by
  unfold serializeString
  by_cases empty : t = []
  · subst empty
    rfl
  · have positive : t.length > 0 := List.length_pos_iff.mpr empty
    rw [if_pos positive]

variable {σ : Type} [InStream σ]

/-- `deserializeLong(stream)`. The payload loop `t = t << 8 | barr[idx]` on an `int64_t` is
accumulated exactly and wrapped to 64 bits once, which gives the same value. -/
def deserializeLong : Effect Error σ Int := do
  let b := int8Value ((← InStream.read 1).headD 0)
  if -112 ≤ b then return b
  let (negative, len) : Bool × Int := if b < -120 then (true, -120 - b) else (false, -112 - b)
  let barr ← InStream.read len.toNat
  let t : Int := (BigEndian.value barr : Int).bmod (2 ^ 64)
  return if negative then ~~~t else t

/-- `deserializeInt(stream)`: the long read, converted to `int32_t`. -/
def deserializeInt : Effect Error σ Int := do
  return (← deserializeLong).bmod (2 ^ 32)

/-- `deserializeFloat(stream)`: four bytes decoded from XDR, as IEEE single-precision bits. -/
def deserializeFloat : Effect Error σ UInt32 := do
  let buf ← InStream.read 4
  return UInt32.ofNat (BigEndian.value buf)

/-- `const int bufSize = 65536` in `deserializeString`. -/
def bufSize : Nat := 65536

/-- The chunk loop of `deserializeString`: `len` bytes read `bufSize` at a time. -/
def readChunks (len : Nat) : Effect Error σ Bytes :=
  if len = 0 then pure []
  else do
    let chunkLength := min len bufSize
    let buf ← InStream.read chunkLength
    let rest ← readChunks (len - chunkLength)
    pure (buf ++ rest)
termination_by len
decreasing_by
  simp only [bufSize]
  omega

/-- `deserializeString(t, stream)`: a non-positive length gives the empty string. -/
def deserializeString : Effect Error σ Bytes := do
  let len ← deserializeInt
  if len > 0 then readChunks len.toNat else pure []

theorem not_eq_neg_sub_one (t : Int) : ~~~t = -t - 1 := by
  cases t <;> simp [Complement.complement, Int.not]; omega

theorem int8Value_int8Byte {v : Int} (low : -128 ≤ v) (high : v < 128) :
    int8Value (int8Byte v) = v := by
  simp only [int8Value, int8Byte, Int8.toInt8_toUInt8, Int8.toInt_ofInt]
  exact Int.bmod_eq_of_le (by simp [Int8.size]; omega) (by simp [Int8.size]; omega)

theorem shiftCount_eq (tmp : Nat) :
    shiftCount tmp = if tmp = 0 then 0 else shiftCount (tmp / 256) + 1 := by
  rw [shiftCount, Nat.shiftRight_eq_div_pow]

theorem lt_pow_shiftCount (tmp : Nat) : tmp < 256 ^ shiftCount tmp := by
  induction tmp using Nat.strong_induction_on with
  | _ tmp ih =>
    rw [shiftCount_eq]
    split
    · omega
    · rename_i nonzero
      have smaller := ih (tmp / 256) (by omega)
      rw [Nat.pow_succ]
      omega

theorem shiftCount_le {tmp k : Nat} (small : tmp < 256 ^ k) : shiftCount tmp ≤ k := by
  induction k generalizing tmp with
  | zero =>
    have zero : tmp = 0 := by simpa using small
    simp [shiftCount_eq, zero]
  | succ k ih =>
    rw [shiftCount_eq]
    split
    · omega
    · have smaller : tmp / 256 < 256 ^ k := by
        rw [Nat.pow_succ] at small
        omega
      have rest := ih smaller
      omega

theorem shiftCount_pos {tmp : Nat} (positive : 0 < tmp) : 0 < shiftCount tmp := by
  rw [shiftCount_eq, if_neg (by omega)]
  omega

theorem maskedByte_eq (t idx : Nat) : maskedByte t (idx * 8) = UInt8.ofNat (t / 256 ^ idx) := by
  have mask : (0xFF : Nat) = 2 ^ 8 - 1 := rfl
  have shift : t >>> (idx * 8) = t / 256 ^ idx := by
    rw [Nat.shiftRight_eq_div_pow, Nat.mul_comm, Nat.pow_mul]
  apply UInt8.toNat.inj
  simp only [maskedByte, Nat.shiftRight_and_distrib, Nat.shiftLeft_shiftRight, mask,
    Nat.and_two_pow_sub_one_eq_mod, shift, UInt8.toNat_ofNat']
  omega

theorem payload_eq (t count : Nat) :
    ((List.range count).reverse.map fun idx => maskedByte t (idx * 8)) =
      BigEndian.bytes count t := by
  simp only [BigEndian.bytes, maskedByte_eq]

theorem serializeLong_small {t : Int} (low : -112 ≤ t) (high : t ≤ 127) :
    serializeLong t = [int8Byte t] := by
  simp [serializeLong, low, high]

theorem serializeLong_positive {t : Int} (large : 127 < t) (fits : t < 2 ^ 63) :
    serializeLong t =
      int8Byte (-112 - shiftCount t.toNat) :: BigEndian.bytes (shiftCount t.toNat) t.toNat := by
  have bounded : shiftCount t.toNat ≤ 8 := shiftCount_le (by omega)
  have notSmall : ¬(-112 ≤ t ∧ t ≤ 127) := by omega
  have nonnegative : ¬t < 0 := by omega
  have noOverflow : ¬(-112 - (shiftCount t.toNat : Int) < -120) := by omega
  simp only [serializeLong, notSmall, nonnegative, noOverflow, if_false, payload_eq]
  congr
  omega

theorem serializeLong_negative {t : Int} (negative : t < -112) (fits : -2 ^ 63 ≤ t) :
    serializeLong t =
      int8Byte (-120 - shiftCount (~~~t).toNat) ::
        BigEndian.bytes (shiftCount (~~~t).toNat) (~~~t).toNat := by
  have complement := not_eq_neg_sub_one t
  have positive : 0 < shiftCount (~~~t).toNat := shiftCount_pos (by omega)
  have notSmall : ¬(-112 ≤ t ∧ t ≤ 127) := by omega
  have sign : t < 0 := by omega
  have marker : -120 - (shiftCount (~~~t).toNat : Int) < -120 := by omega
  simp only [serializeLong, notSmall, sign, marker, if_false, if_true, payload_eq]
  congr
  omega

section Reading

variable {embed : Bytes → σ}

/-- A stream whose `read len` yields the next `len` bytes and takes them, when they are there. -/
def ReadsExactly (embed : Bytes → σ) : Prop :=
  ∀ bs : Bytes, bs ≠ [] → Reads embed (InStream.read (σ := σ) bs.length) bs bs

private theorem reads_marker (exact : ReadsExactly embed) (t count : Nat) (marker : Int)
    (negative : Bool) (sized : count = if negative then (-120 - marker).toNat
      else (-112 - marker).toNat)
    (range : if negative then marker < -120 else -120 ≤ marker ∧ marker < -112)
    (positive : 0 < count) (bounded : count ≤ 8) (fits : t < 2 ^ 63)
    (small : t < 256 ^ count) :
    Reads embed deserializeLong (int8Byte marker :: BigEndian.bytes count t)
      (if negative then ~~~(t : Int) else t) := by
  have low : -128 ≤ marker := by cases negative <;> simp at sized range <;> omega
  have markerValue := int8Value_int8Byte low (by cases negative <;> simp at range <;> omega)
  have payloadLength : (BigEndian.bytes count t).length = count := BigEndian.length_bytes count t
  have payload : BigEndian.bytes count t ≠ [] := by
    intro empty
    rw [empty] at payloadLength
    simp at payloadLength
    omega
  have readPayload : Reads embed (InStream.read count) (BigEndian.bytes count t)
      (BigEndian.bytes count t) := by
    have reads := exact _ payload
    rwa [payloadLength] at reads
  have value : ((BigEndian.value (BigEndian.bytes count t) : Nat) : Int).bmod (2 ^ 64) = t := by
    rw [BigEndian.value_bytes_of_lt small]
    exact Int.bmod_eq_of_le (by omega) (by omega)
  have readMarker : Reads embed (InStream.read 1) [int8Byte marker] [int8Byte marker] :=
    exact [int8Byte marker] (by simp)
  show Reads embed _ ([int8Byte marker] ++ BigEndian.bytes count t) _
  unfold deserializeLong
  refine Reads.bind readMarker ?_
  simp only [List.headD_cons, markerValue]
  cases negative with
  | true =>
    simp only [if_true] at sized range
    rw [if_neg (by omega), if_pos range]
    dsimp only
    rw [← sized]
    refine (Reads.bind readPayload ?_).congr (List.append_nil _)
    simp only [value]
    exact Reads.pure _
  | false =>
    simp only [Bool.false_eq_true, if_false] at sized range
    rw [if_neg (by omega), if_neg (by omega)]
    dsimp only
    rw [← sized]
    refine (Reads.bind readPayload ?_).congr (List.append_nil _)
    simp only [value]
    exact Reads.pure _

theorem deserializeLong_serializeLong (exact : ReadsExactly embed) {t : Int}
    (low : -2 ^ 63 ≤ t) (high : t < 2 ^ 63) :
    Reads embed deserializeLong (serializeLong t) t := by
  by_cases small : -112 ≤ t ∧ t ≤ 127
  · rw [serializeLong_small small.1 small.2]
    have readMarker : Reads embed (InStream.read 1) [int8Byte t] [int8Byte t] :=
      exact [int8Byte t] (by simp)
    rw [← List.append_nil [int8Byte t]]
    unfold deserializeLong
    refine Reads.bind readMarker ?_
    have byteValue : int8Value (int8Byte t) = t := int8Value_int8Byte (by omega) (by omega)
    simp only [List.headD_cons, byteValue, if_pos small.1]
    exact Reads.pure t
  · by_cases sign : t < 0
    · have complement := not_eq_neg_sub_one t
      have payload := lt_pow_shiftCount (~~~t).toNat
      have positive : 0 < shiftCount (~~~t).toNat := shiftCount_pos (by omega)
      have bounded : shiftCount (~~~t).toNat ≤ 8 := shiftCount_le (by omega)
      have reads := reads_marker exact (~~~t).toNat (shiftCount (~~~t).toNat)
        (-120 - shiftCount (~~~t).toNat) true (by simp) (by simp; omega) positive
        bounded (by omega) payload
      have restored : ~~~(((~~~t).toNat : Nat) : Int) = t := by
        rw [not_eq_neg_sub_one]
        omega
      rw [serializeLong_negative (by omega) low]
      simpa only [if_true, restored] using reads
    · have payload := lt_pow_shiftCount t.toNat
      have positive : 0 < shiftCount t.toNat := shiftCount_pos (by omega)
      have bounded : shiftCount t.toNat ≤ 8 := shiftCount_le (by omega)
      have reads := reads_marker exact t.toNat (shiftCount t.toNat)
        (-112 - shiftCount t.toNat) false (by simp) (by simp; omega) positive
        bounded (by omega) payload
      rw [serializeLong_positive (by omega) high]
      simpa only [Bool.false_eq_true, if_false, Int.toNat_of_nonneg (by omega : 0 ≤ t)]
        using reads

theorem deserializeInt_serializeInt (exact : ReadsExactly embed) {t : Int}
    (low : -2 ^ 31 ≤ t) (high : t < 2 ^ 31) :
    Reads embed deserializeInt (serializeInt t) t := by
  have unchanged : t.bmod (2 ^ 32) = t := Int.bmod_eq_of_le (by omega) (by omega)
  unfold deserializeInt serializeInt
  rw [unchanged]
  refine (Reads.bind (deserializeLong_serializeLong exact (by omega) (by omega)) ?_).congr
    (List.append_nil _)
  rw [unchanged]
  exact Reads.pure t

theorem deserializeFloat_serializeFloat (exact : ReadsExactly embed) (bits : UInt32) :
    Reads embed deserializeFloat (serializeFloat bits) bits := by
  have nonempty : serializeFloat bits ≠ [] := by
    intro empty
    simpa [serializeFloat] using congrArg List.length empty
  have readBytes := exact _ nonempty
  rw [serializeFloat, BigEndian.length_bytes] at readBytes
  have small : bits.toNat < 256 ^ 4 := bits.toNat_lt
  unfold deserializeFloat serializeFloat
  refine (readBytes.bind ?_).congr (List.append_nil _)
  rw [BigEndian.value_bytes_of_lt small, UInt32.ofNat_toNat]
  exact Reads.pure bits

theorem readChunks_reads (exact : ReadsExactly embed) (bs : Bytes) :
    Reads embed (readChunks bs.length) bs bs := by
  induction sized : bs.length using Nat.strong_induction_on generalizing bs with
  | _ len ih =>
    by_cases empty : len = 0
    · have none : bs = [] := List.eq_nil_of_length_eq_zero (sized.trans empty)
      subst none empty
      rw [readChunks, if_pos rfl]
      exact Reads.pure []
    · have chunkLength : (bs.take (min len bufSize)).length = min len bufSize := by
        simp only [List.length_take]
        omega
      have chunk : bs.take (min len bufSize) ≠ [] := by
        intro none
        rw [none] at chunkLength
        simp [bufSize] at chunkLength
        omega
      have first : Reads embed (InStream.read (min len bufSize)) (bs.take (min len bufSize))
          (bs.take (min len bufSize)) := by
        have reads := exact _ chunk
        rwa [chunkLength] at reads
      have rest := ih (len - min len bufSize) (by simp only [bufSize]; omega)
        (bs.drop (min len bufSize)) (by simp only [List.length_drop]; omega)
      have whole : Reads embed (readChunks len)
          (bs.take (min len bufSize) ++ (bs.drop (min len bufSize) ++ []))
          (bs.take (min len bufSize) ++ bs.drop (min len bufSize)) := by
        rw [readChunks, if_neg empty]
        exact first.bind (rest.bind (Reads.pure _))
      simpa only [List.append_nil, List.take_append_drop] using whole

theorem deserializeString_serializeString (exact : ReadsExactly embed) {t : Bytes}
    (short : t.length < 2 ^ 31) :
    Reads embed deserializeString (serializeString t) t := by
  unfold deserializeString serializeString
  refine Reads.bind (deserializeInt_serializeInt exact (by omega) (by omega)) ?_
  by_cases empty : t = []
  · subst empty
    simpa using (Reads.pure [] : Reads embed (pure [] : Effect Error σ Bytes) [] [])
  · have positive : 0 < t.length := List.length_pos_iff.mpr empty
    have castPositive : (0 : Int) < t.length := by omega
    simp only [gt_iff_lt, castPositive, positive, if_true, Int.toNat_natCast]
    exact readChunks_reads exact t

theorem deserializeString_narrowed (exact : ReadsExactly embed) {len : Int}
    (nonpositive : len.bmod (2 ^ 32) ≤ 0) :
    Reads embed deserializeString (serializeInt len) [] := by
  have low : -2 ^ 31 ≤ len.bmod (2 ^ 32) := by
    have bound := Int.le_bmod (x := len) (m := 2 ^ 32) (by norm_num)
    norm_num at bound ⊢
    exact bound
  have prefixRead := deserializeInt_serializeInt exact low (by omega)
  rw [serializeInt, Int.bmod_bmod] at prefixRead
  unfold deserializeString
  refine (prefixRead.bind ?_).congr (List.append_nil _)
  rw [if_neg (by omega)]
  exact Reads.pure []

end Reading

theorem fileInStream_readsExactly : ReadsExactly FileInStream.at := by
  intro bs nonempty rest
  have positive : bs.length ≠ 0 := by simpa using nonempty
  simp [InStream.read, FileInStream.read, FileInStream.at, run_bind, positive, Except.map]

end Pydoop.HadoopUtils
