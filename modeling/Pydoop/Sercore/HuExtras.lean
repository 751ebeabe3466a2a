import Pydoop.Sercore.SerialUtils

/-! `hu_extras.cpp`: the Hadoop `LongWritable` reader, eight bytes shifted into an `int64_t`. -/

namespace Pydoop.Sercore

open Effect HadoopUtils

/-- `#define INT64_SIZE sizeof(int64_t)`. -/
def INT64_SIZE : Nat := 8

/-- One iteration of the loop of `deserializeLongWritable`:
`rval = (rval << INT64_SIZE) | bytes[i]`, the byte zero-extended. -/
def shiftInByte (rval : Int64) (b : UInt8) : Int64 :=
  (rval <<< INT64_SIZE.toInt64) ||| b.toUInt64.toInt64

variable {σ : Type} [InStream σ]

/-- `deserializeLongWritable(stream)`. -/
def deserializeLongWritable : Effect Error σ Int := do
  let bytes ← InStream.read INT64_SIZE
  return (bytes.foldl shiftInByte 0).toInt

theorem toNat_shiftInByte (rval : Int64) (b : UInt8) :
    (shiftInByte rval b).toBitVec.toNat = (rval.toBitVec.toNat * 256 + b.toNat) % 2 ^ 64 := by
  have byte : b.toNat < 2 ^ 8 := b.toNat_lt
  have shifted : rval.toBitVec.toNat <<< 8 % 2 ^ 64 = (rval.toBitVec.toNat % 2 ^ 56) <<< 8 := by
    rw [Nat.shiftLeft_eq, Nat.shiftLeft_eq]
    omega
  have combined : (rval.toBitVec.toNat % 2 ^ 56) <<< 8 ||| b.toNat =
      (rval.toBitVec.toNat % 2 ^ 56) * 2 ^ 8 + b.toNat := by
    rw [← Nat.shiftLeft_add_eq_or_of_lt byte, Nat.shiftLeft_eq]
  have step : rval.toBitVec.toNat <<< 8 % 2 ^ 64 ||| b.toNat =
      (rval.toBitVec.toNat * 256 + b.toNat) % 2 ^ 64 := by
    rw [shifted, combined]
    omega
  simpa [shiftInByte, INT64_SIZE] using step

theorem toNat_foldl_shiftInByte (bytes : List UInt8) (acc : Int64) :
    (bytes.foldl shiftInByte acc).toBitVec.toNat =
      (acc.toBitVec.toNat * 256 ^ bytes.length + BigEndian.value bytes) % 2 ^ 64 := by
  induction bytes generalizing acc with
  | nil =>
    have bounded := acc.toBitVec.isLt
    simp only [List.foldl_nil, List.length_nil, pow_zero, Nat.mul_one, BigEndian.value,
      Nat.add_zero]
    exact (Nat.mod_eq_of_lt bounded).symm
  | cons b rest ih =>
    rw [List.foldl_cons, ih, toNat_shiftInByte, BigEndian.value_cons, List.length_cons,
      Nat.pow_succ 256 rest.length]
    have reduced : ((acc.toBitVec.toNat * 256 + b.toNat) % 2 ^ 64 * 256 ^ rest.length +
        BigEndian.value rest) % 2 ^ 64 =
        ((acc.toBitVec.toNat * 256 + b.toNat) * 256 ^ rest.length + BigEndian.value rest) %
          2 ^ 64 := by
      rw [← Nat.mod_add_mod, Nat.mod_mul_mod, Nat.mod_add_mod]
    rw [reduced]
    ring_nf

theorem toInt_foldl_shiftInByte (bytes : List UInt8) :
    (bytes.foldl shiftInByte 0).toInt = (BigEndian.value bytes : Int).bmod (2 ^ 64) := by
  have accumulated := toNat_foldl_shiftInByte bytes 0
  simp only [Int64.toBitVec_zero, BitVec.toNat_zero, Nat.zero_mul, Nat.zero_add] at accumulated
  rw [Int64.toInt, BitVec.toInt_eq_toNat_bmod, accumulated, Int.natCast_mod, Int.emod_bmod]

section Reading

variable {embed : Bytes → σ}

theorem deserializeLongWritable_reads_bytes (exact : ReadsExactly embed) {bytes : Bytes}
    (eight : bytes.length = 8) :
    Reads embed deserializeLongWritable bytes ((BigEndian.value bytes : Int).bmod (2 ^ 64)) := by
  have nonempty : bytes ≠ [] := by
    rintro rfl
    cases eight
  have readBytes := exact bytes nonempty
  rw [eight] at readBytes
  refine (readBytes.bind ?_).congr (List.append_nil _)
  rw [toInt_foldl_shiftInByte]
  exact Reads.pure _

theorem deserializeLongWritable_reads (exact : ReadsExactly embed) {n : Int}
    (low : -2 ^ 63 ≤ n) (high : n < 2 ^ 63) :
    Reads embed deserializeLongWritable (BigEndian.bytes 8 (n % 2 ^ 64).toNat) n := by
  have small : (n % 2 ^ 64).toNat < 256 ^ 8 := by omega
  have restored : ((BigEndian.value (BigEndian.bytes 8 (n % 2 ^ 64).toNat) : Nat) : Int).bmod
      (2 ^ 64) = n := by
    rw [BigEndian.value_bytes_of_lt small, Int.toNat_of_nonneg (by omega)]
    have fits : n.bmod (2 ^ 64) = n := Int.bmod_eq_of_le (by omega) (by omega)
    have reduced : (n % 2 ^ 64).bmod (2 ^ 64) = n.bmod (2 ^ 64) := by
      exact_mod_cast Int.emod_bmod n (2 ^ 64)
    rw [reduced, fits]
  have decoded :=
    deserializeLongWritable_reads_bytes exact (BigEndian.length_bytes 8 (n % 2 ^ 64).toNat)
  rwa [restored] at decoded

end Reading

end Pydoop.Sercore
