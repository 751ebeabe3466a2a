import Pydoop.Hdfs.Fs

/-! `fs.py`: `hdfs.chmod` with a symbolic mode. The core `chmod` takes only an `int`, so the
`TypeError` it raises on a `str` sends the string to `__compute_mode_from_string`, which matches
one clause `who op perm` at the start of the string, reads the old permissions with
`get_path_info` and rebuilds the mode from its three 3-bit fields. -/

namespace Pydoop.Hdfs

open Sercore PyText

/-- `Char_to_perm_byte`; the match lets only `r`, `w` and `x` through. -/
def charToPermByte : Char → BitVec 3
  | 'r' => 4
  | 'w' => 2
  | 'x' => 1
  | _ => 0

/-- `Fields`: each class and the shift of its three bits. -/
def Fields : List (Char × Nat) := [('u', 6), ('g', 3), ('o', 0)]

/-- `re.match(r"\s*([ugoa]*)([-+=])([rwx]*)\s*", mode_string)`: the groups of a match at the
start of the string. The four parts of the pattern have disjoint classes, so the greedy match is
the only one; nothing anchors it at the end, and whatever follows the clause is ignored. -/
def modeMatch (s : List Char) : Option (List Char × Char × List Char) :=
  let rest := s.dropWhile isSpace
  match rest.dropWhile (· ∈ ['u', 'g', 'o', 'a']) with
  | whatOp :: perms =>
    if whatOp ∈ ['-', '+', '='] then
      some (rest.takeWhile (· ∈ ['u', 'g', 'o', 'a']), whatOp,
        perms.takeWhile (· ∈ ['r', 'w', 'x']))
    else none
  | [] => none

/-- `(x >> shift) & 0x7`. -/
def field (x : Int) (shift : Nat) : BitVec 3 := BitVec.ofInt 3 (x >>> shift)

/-- The new bits of a selected class: `old & ~op_perm[i]`, `op_perm[i]` or `old | op_perm[i]`. -/
def applyOp (whatOp : Char) (old opPerm : BitVec 3) : Except PyExc (BitVec 3) :=
  if whatOp = '-' then .ok (old &&& ~~~opPerm)
  else if whatOp = '=' then .ok opPerm
  else if whatOp = '+' then .ok (old ||| opPerm)
  else .error (.runtimeError s!"unexpected permission operation {whatOp}")

/-- The body of the loop over `Fields`: the new bits of the class `f`, whose bits were `old`. -/
def newField (who : List Char) (whatOp : Char) (old opPerm : BitVec 3) (f : Char) :
    Except PyExc (BitVec 3) :=
  if f ∈ who then applyOp whatOp old opPerm else pure old

/-- `__compute_mode_from_string(path, mode_string)`, where `oldMode` is the `permissions` that
`get_path_info(path)` reports, or its error, and `umask` the process's. -/
def computeModeFromString (oldMode : Except PyExc Int) (umask : Nat) (modeString : String) :
    Except PyExc Nat := do
  let some (who, whatOp, whichPerm) := modeMatch modeString.toList
    | throw (.valueError s!"Invalid mode string {modeString}")
  let oldMode ← oldMode
  -- `reduce(ops.ior, [])` of no permission letter raises `TypeError`
  let perm ← match whichPerm.map charToPermByte with
    | [] => throw .typeError
    | first :: more => pure (more.foldl (· ||| ·) first)
  -- `op_perm`, one entry for each field's shift
  let (who, opPerm) : List Char × (Nat → BitVec 3) :=
    if 'a' ∈ who then (['u', 'g', 'o'], fun _ => perm)
    else if who = [] then (['u', 'g', 'o'], fun shift => perm &&& field (~~~(umask : Int)) shift)
    else (who, fun _ => perm)
  Fields.foldlM (fun newMode (f, shift) => do
      let new ← newField who whatOp (field oldMode shift) (opPerm shift) f
      pure (newMode ||| new.toNat <<< shift)) 0

/-- `hdfs.chmod(path, mode)` with a `str` mode: the core `chmod` refuses the string with
`TypeError`, and the mode computed from it goes to the core `chmod`, here `setMode`. -/
def chmod (w : World) (status : Nat) (oldMode : Except PyExc Int) (umask : Nat)
    (modeString : String) (setMode : Nat → Except PyExc Unit) : Except PyExc Unit := do
  complainIfClosed w status
  let mode ← computeModeFromString oldMode umask modeString
  setMode mode

/-! What a clause means in POSIX `chmod`. -/

/-- The bits a clause with operation `op` and bits `bits` gives a selected class that had `old`. -/
def clauseBits (op : Char) (old bits : BitVec 3) : BitVec 3 :=
  if op = '-' then old &&& ~~~bits else if op = '=' then bits else old ||| bits

/-- The bits the clause `who op perm` under the umask `umask` leaves in the class `f` of `m`,
whose bits are at `shift`: `P` is the OR of the listed bits; each selected class (all three for
`a`, all three with `P` masked by the umask when no class is given) gets `clauseBits`. -/
def posixClassBits (m : Int) (umask : Nat) (who : List Char) (op : Char) (perm : List Char)
    (f : Char) (shift : Nat) : BitVec 3 :=
  let P := perm.foldl (fun bits c => bits ||| charToPermByte c) 0
  let bits := if who = [] then P &&& ~~~BitVec.ofNat 3 (umask >>> shift) else P
  if who = [] ∨ 'a' ∈ who ∨ f ∈ who then clauseBits op (field m shift) bits else field m shift

/-- The POSIX result of the clause `who op perm` on the permission word `m`: the three classes
as `posixClassBits` leaves them, and every other bit of `m` kept. -/
def posixClause (m : Int) (umask : Nat) (who : List Char) (op : Char) (perm : List Char) : Int :=
  m - m % 512 + ((posixClassBits m umask who op perm 'u' 6).toNat * 64 +
    (posixClassBits m umask who op perm 'g' 3).toNat * 8 +
    (posixClassBits m umask who op perm 'o' 0).toNat : Nat)

/-! The match. -/

theorem modeMatch_op {s : List Char} {who perm : List Char} {op : Char}
    (matched : modeMatch s = some (who, op, perm)) : op = '-' ∨ op = '+' ∨ op = '=' := by
  simp only [modeMatch] at matched
  split at matched
  · rename_i whatOp perms _
    split at matched
    · rename_i isOp
      simp only [Option.some.injEq, Prod.mk.injEq] at matched
      simpa [matched.2.1] using isOp
    · cases matched
  · cases matched

/-! The computed mode. -/

theorem applyOp_eq {op : Char} (isOp : op = '-' ∨ op = '+' ∨ op = '=') (old bits : BitVec 3) :
    applyOp op old bits = .ok (clauseBits op old bits) := by
  rcases isOp with rfl | rfl | rfl <;> rfl

theorem newField_eq {op : Char} (isOp : op = '-' ∨ op = '+' ∨ op = '=') (who : List Char)
    (old bits : BitVec 3) (f : Char) :
    newField who op old bits f = .ok (if f ∈ who then clauseBits op old bits else old) := by
  unfold newField
  split
  · exact applyOp_eq isOp old bits
  · rfl

theorem field_not_umask (umask shift : Nat) :
    field (~~~(umask : Int)) shift = ~~~BitVec.ofNat 3 (umask >>> shift) := by
  show BitVec.ofInt 3 (Int.negSucc umask >>> shift) = _
  rw [Int.negSucc_shiftRight, BitVec.ofInt_negSucc_eq_not_ofNat]

theorem foldl_or_charToPermByte (c : Char) (cs : List Char) :
    (cs.map charToPermByte).foldl (· ||| ·) (charToPermByte c) =
      (c :: cs).foldl (fun bits c => bits ||| charToPermByte c) 0 := by
  simp only [List.foldl_cons, List.foldl_map]
  congr 1
  exact BitVec.zero_or.symm

theorem or_eq_add_of_dvd {x y s : Nat} (aligned : 2 ^ s ∣ x) (small : y < 2 ^ s) :
    x ||| y = x + y := by
  obtain ⟨k, rfl⟩ := aligned
  have shifted : 2 ^ s * k = k <<< s := by rw [Nat.shiftLeft_eq, Nat.mul_comm]
  rw [shifted, Nat.shiftLeft_add_eq_or_of_lt small]

theorem fields_or (a b c : BitVec 3) :
    ((0 ||| a.toNat <<< 6) ||| b.toNat <<< 3) ||| c.toNat <<< 0 =
      a.toNat * 64 + b.toNat * 8 + c.toNat := by
  have hb := b.isLt
  have hc := c.isLt
  have high : a.toNat * 64 ||| b.toNat * 8 = a.toNat * 64 + b.toNat * 8 :=
    or_eq_add_of_dvd (s := 6) ⟨a.toNat, by omega⟩ (by omega)
  have low : (a.toNat * 64 + b.toNat * 8) ||| c.toNat = a.toNat * 64 + b.toNat * 8 + c.toNat :=
    or_eq_add_of_dvd (s := 3) ⟨a.toNat * 8 + b.toNat, by omega⟩ (by omega)
  simp only [Nat.zero_or, Nat.shiftLeft_eq, Nat.pow_zero, Nat.mul_one]
  rw [show (2 : Nat) ^ 6 = 64 from rfl, show (2 : Nat) ^ 3 = 8 from rfl, high, low]

theorem computeModeFromString_invalid {s : String} (unmatched : modeMatch s.toList = none)
    (oldMode : Except PyExc Int) (umask : Nat) :
    computeModeFromString oldMode umask s = .error (.valueError s!"Invalid mode string {s}") := by
  simp only [computeModeFromString, unmatched]
  rfl

theorem computeModeFromString_no_perm {m : Int} {umask : Nat} {s : String} {who : List Char}
    {op : Char} (matched : modeMatch s.toList = some (who, op, [])) :
    computeModeFromString (.ok m) umask s = .error .typeError := by
  simp only [computeModeFromString, matched, List.map_nil]
  rfl

theorem posixClause_low (m : Int) (umask : Nat) (who : List Char) (op : Char) (perm : List Char) :
    (posixClause m umask who op perm % 512).toNat =
      (posixClassBits m umask who op perm 'u' 6).toNat * 64 +
        (posixClassBits m umask who op perm 'g' 3).toNat * 8 +
        (posixClassBits m umask who op perm 'o' 0).toNat := by
  have hu := (posixClassBits m umask who op perm 'u' 6).isLt
  have hg := (posixClassBits m umask who op perm 'g' 3).isLt
  have ho := (posixClassBits m umask who op perm 'o' 0).isLt
  unfold posixClause
  omega

theorem computeModeFromString_clause {m : Int} {umask : Nat} {s : String} {who : List Char}
    {op c : Char} {cs : List Char} (matched : modeMatch s.toList = some (who, op, c :: cs)) :
    computeModeFromString (.ok m) umask s = .ok (posixClause m umask who op (c :: cs) % 512).toNat := by
  have isOp := modeMatch_op matched
  simp only [computeModeFromString, matched, List.map_cons, foldl_or_charToPermByte]
  simp only [bind, Except.bind, pure, Except.pure, Fields, List.foldlM_cons, List.foldlM_nil, newField_eq isOp]
  rw [fields_or, posixClause_low]
  simp only [posixClassBits]
  by_cases all : 'a' ∈ who
  · have named : who ≠ [] := by
      rintro rfl
      exact List.not_mem_nil all
    simp [all, named]
  · by_cases unnamed : who = []
    · subst unnamed
      simp [field_not_umask]
    · simp [all, unnamed]

theorem computeModeFromString_eq (m : Int) (umask : Nat) (s : String) :
    computeModeFromString (.ok m) umask s =
      match modeMatch s.toList with
      | none => .error (.valueError s!"Invalid mode string {s}")
      | some (_, _, []) => .error .typeError
      | some (who, op, perm) => .ok (posixClause m umask who op perm % 512).toNat := by
  match matched : modeMatch s.toList with
  | none => exact computeModeFromString_invalid matched (.ok m) umask
  | some (who, op, []) => exact computeModeFromString_no_perm matched
  | some (who, op, c :: cs) => exact computeModeFromString_clause matched

/-- `hdfs.chmod` with a mode string: `ValueError` when no clause starts the string, `TypeError`
when the clause lists no permission, and otherwise the POSIX result of the clause on the low nine
bits, with every bit above them cleared. -/
theorem chmod_string_mode (w : World) (status : Nat) (m : Int) (umask : Nat) (s : String)
    (setMode : Nat → Except PyExc Unit) :
    chmod w status (.ok m) umask s setMode =
      (do
        complainIfClosed w status
        match modeMatch s.toList with
        | none => throw (.valueError s!"Invalid mode string {s}")
        | some (_, _, []) => throw .typeError
        | some (who, op, perm) => setMode (posixClause m umask who op perm % 512).toNat) := by
  rw [chmod, computeModeFromString_eq]
  rcases modeMatch s.toList with _ | ⟨who, op, _ | ⟨c, cs⟩⟩ <;> rfl

example : computeModeFromString (.ok 0o1755) 0o022 "u+x" = .ok 0o755 := by decide
example : computeModeFromString (.ok 0o644) 0o022 " u+xq" = .ok 0o744 := by decide
example : computeModeFromString (.ok 0o644) 0o022 "=r" = .ok 0o444 := by decide
example : computeModeFromString (.ok 0o644) 0o022 "u=" = .error .typeError := by decide

end Pydoop.Hdfs
