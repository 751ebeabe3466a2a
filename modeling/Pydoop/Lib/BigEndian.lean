import Mathlib.Tactic.Ring
import Mathlib.Data.Nat.Bits

/-! Big-endian byte strings of natural numbers: the `n` low-order base-256 digits of a number,
most significant first, and the accumulation that reads them back. -/

namespace BigEndian

/-- The `n` low-order bytes of `x`, most significant first. -/
def bytes (n x : Nat) : List UInt8 :=
  (List.range n).reverse.map fun i => UInt8.ofNat (x / 256 ^ i)

/-- Accumulate bytes most significant first: `acc = acc * 256 + b` per byte. -/
def value (bs : List UInt8) : Nat :=
  bs.foldl (fun acc b => acc * 256 + b.toNat) 0

@[simp] theorem length_bytes (n x : Nat) : (bytes n x).length = n := by
  simp [bytes]

theorem bytes_succ (n x : Nat) :
    bytes (n + 1) x = UInt8.ofNat (x / 256 ^ n) :: bytes n x := by
  simp [bytes, List.range_succ]

theorem foldl_value (bs : List UInt8) (acc : Nat) :
    bs.foldl (fun acc b => acc * 256 + b.toNat) acc = acc * 256 ^ bs.length + value bs := by
  induction bs generalizing acc with
  | nil => simp [value]
  | cons b rest ih =>
    have unfolded : value (b :: rest) = rest.foldl (fun acc b => acc * 256 + b.toNat) b.toNat := by
      simp [value]
    rw [List.foldl_cons, ih, unfolded, ih, List.length_cons, Nat.pow_succ]
    ring

theorem value_cons (b : UInt8) (rest : List UInt8) :
    value (b :: rest) = b.toNat * 256 ^ rest.length + value rest := by
  simp only [value, List.foldl_cons]
  rw [foldl_value]
  simp only [value]
  ring

theorem value_lt (bs : List UInt8) : value bs < 256 ^ bs.length := by
  induction bs with
  | nil => simp [value]
  | cons b rest ih =>
    have byte : b.toNat < 256 := b.toNat_lt
    rw [value_cons, List.length_cons]
    calc b.toNat * 256 ^ rest.length + value rest
        < b.toNat * 256 ^ rest.length + 256 ^ rest.length := Nat.add_lt_add_left ih _
      _ = (b.toNat + 1) * 256 ^ rest.length := by ring
      _ ≤ 256 * 256 ^ rest.length := Nat.mul_le_mul_right _ byte
      _ = 256 ^ (rest.length + 1) := by ring

@[simp] theorem value_bytes (n x : Nat) : value (bytes n x) = x % 256 ^ n := by
  induction n with
  | zero => simp [bytes, value, Nat.mod_one]
  | succ n ih =>
    rw [bytes_succ, value_cons, length_bytes, ih, Nat.mod_pow_succ]
    simp only [UInt8.toNat_ofNat']
    ring

theorem value_bytes_of_lt {n x : Nat} (small : x < 256 ^ n) : value (bytes n x) = x := by
  rw [value_bytes, Nat.mod_eq_of_lt small]

end BigEndian
