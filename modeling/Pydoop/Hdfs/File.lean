import Pydoop.Sercore.Streams

/-! `pydoop.hdfs.file`: reading and seeking an open file. `FileIO` wraps the native
`CoreHdfsFile` in a buffered reader; its `read` loops until it has the bytes asked for, since
`hdfsRead` may stop short at a block boundary. `local_file` is an `io.FileIO` with a size check
of its own in front of `seek`. Every `IOError`/`OSError` is `PyExc.libraryError` with its
message. -/

namespace Pydoop.Hdfs

open Sercore HadoopUtils

/-- `os.SEEK_SET`, `os.SEEK_CUR` and `os.SEEK_END`. -/
inductive Whence
  | SEEK_SET
  | SEEK_CUR
  | SEEK_END
  deriving DecidableEq, Repr

/-- An open file: its bytes, the size recorded when it was opened, the current position and the
buffer size, which `FileIO.__init__` makes positive. -/
structure OpenFile where
  content : Bytes
  size : Nat
  pos : Nat
  closed : Bool
  buffSize : Nat
  buffSize_pos : 0 < buffSize

/-- `IOError` from `errno` `EINVAL`. -/
def EINVAL : PyExc := .libraryError "Invalid argument"

/-- `_complain_ifclosed(True)` -/
def closedFile : PyExc := .valueError "I/O operation on closed HDFS file object"

/-- The offset a seek aims at. -/
def seekTarget (size pos : Nat) (position : Int) : Whence → Int
  | .SEEK_SET => position
  | .SEEK_CUR => position + pos
  | .SEEK_END => position + size

/-! ### Seeking -/

/-- `FileClass_seek(position, whence)`: the target from `hdfsTell` or the size `open_file`
recorded, refused outside the file. -/
def fileClassSeek (size pos : Nat) (position : Int) (whence : Whence) : Except PyExc Int :=
  let target := seekTarget size pos position whence
  if target < 0 ∨ target > size then .error EINVAL else .ok target

/-- `seek(position, whence)` of an `hdfs_file`, from `FileIO`: the buffered reader hands the seek
to the native file, with the position it reports to Python. -/
def HdfsFile.seek (f : OpenFile) (position : Int) (whence : Whence) : Except PyExc OpenFile :=
  if f.closed then .error closedFile
  else (fileClassSeek f.size f.pos position whence).map fun target => { f with pos := target.toNat }

/-- `local_file.seek(position, whence)`: the offset itself checked against the size, then
`io.FileIO.seek`, an `lseek` that takes any target that is not negative. -/
def localFileSeek (f : OpenFile) (position : Int) (whence : Whence) : Except PyExc OpenFile :=
  if position > f.size then .error (.libraryError "position cannot be past EOF")
  else if f.closed then .error (.valueError "I/O operation on closed file")
  else
    let target := seekTarget f.size f.pos position whence
    if target < 0 then .error EINVAL else .ok { f with pos := target.toNat }

section Seek

variable {f : OpenFile} {position : Int} {whence : Whence}

theorem le_seekTarget (position : Int) (whence : Whence) (size pos : Nat) :
    position ≤ seekTarget size pos position whence := by
  cases whence <;> simp only [seekTarget] <;> omega

theorem HdfsFile.seek_toOption (isOpen : f.closed = false) :
    (HdfsFile.seek f position whence).toOption =
      if 0 ≤ seekTarget f.size f.pos position whence ∧ seekTarget f.size f.pos position whence ≤ f.size
      then some { f with pos := (seekTarget f.size f.pos position whence).toNat } else none := by
  unfold HdfsFile.seek fileClassSeek
  rw [if_neg (by simp [isOpen])]
  by_cases inside : 0 ≤ seekTarget f.size f.pos position whence ∧
      seekTarget f.size f.pos position whence ≤ f.size
  · rw [if_neg (by omega), if_pos inside]
    rfl
  · rw [if_pos (by omega), if_neg inside]
    rfl

theorem localFileSeek_toOption (isOpen : f.closed = false) :
    (localFileSeek f position whence).toOption =
      if position ≤ f.size ∧ 0 ≤ seekTarget f.size f.pos position whence
      then some { f with pos := (seekTarget f.size f.pos position whence).toNat } else none := by
  unfold localFileSeek
  by_cases small : position ≤ f.size
  · rw [if_neg (by omega), if_neg (by simp [isOpen])]
    by_cases ahead : 0 ≤ seekTarget f.size f.pos position whence
    · rw [if_neg (by omega), if_pos ⟨small, ahead⟩]
      rfl
    · rw [if_pos (by omega), if_neg (by omega)]
      rfl
  · rw [if_pos (by omega), if_neg (by omega)]
    rfl

/-- Seek agreement, as far as it holds: on an open file at a position inside it, a local and an
HDFS seek both move to the target or both raise, except where the offset is within the size
and the target past the end. There `local_file` moves past the end, where the HDFS file
raises. -/
theorem localFileSeek_agrees_iff (isOpen : f.closed = false) (inFile : f.pos ≤ f.size) :
    (localFileSeek f position whence).toOption = (HdfsFile.seek f position whence).toOption ↔
      ¬(position ≤ f.size ∧ f.size < seekTarget f.size f.pos position whence) := by
  rw [localFileSeek_toOption isOpen, HdfsFile.seek_toOption isOpen]
  have below := le_seekTarget position whence f.size f.pos
  have above : seekTarget f.size f.pos position whence ≤ position + f.size := by
    cases whence <;> simp only [seekTarget] <;> omega
  by_cases small : position ≤ f.size <;> by_cases ahead : 0 ≤ seekTarget f.size f.pos position whence <;>
    by_cases past : f.size < seekTarget f.size f.pos position whence <;> simp [small, ahead, past] <;>
    omega

end Seek

/-- A file of one byte at its end. -/
def oneByteAtEnd : OpenFile := ⟨[7], 1, 1, false, 65536, by decide⟩

/-- `seek(1, SEEK_CUR)` there: the local file moves to 2, the HDFS file raises. -/
theorem localFileSeek_past_end :
    (localFileSeek oneByteAtEnd 1 .SEEK_CUR).toOption ≠ (HdfsFile.seek oneByteAtEnd 1 .SEEK_CUR).toOption :=
  fun same => (localFileSeek_agrees_iff rfl (by decide)).mp same ⟨by decide, by decide⟩

/-! ### Reading -/

/-- The buffered reader of an open file as `hdfsRead` serves it: its `call`-th read, at `pos` and
asked for `k` bytes, gives the next `n` bytes of the file (`.ok n`), or raises the `IOError` that
`_read_into_pybuf` sets where `hdfsRead` returns -1, after taking the next `n` bytes, which are
lost (`.error (e, n)`). -/
abbrev Grant := Nat → Nat → Nat → Except (PyExc × Nat) Nat

/-- The `while` loop of `FileIO.read`: `self.f.read(min(self.buff_size, length))` until `length`
bytes are read or a read returns nothing. A read that raises ends the loop, and the chunks read
before it are lost with the position they moved. -/
def readLoop (content : Bytes) (grant : Grant) (buffSize : Nat) (call pos : Nat)
    (length : Int) (chunks : List Bytes) : Except PyExc Bytes × Nat :=
  if _ : length ≤ 0 then (.ok chunks.flatten, pos)
  else
    match grant call pos (min buffSize length.toNat) with
    | .error (e, n) => (.error e, pos + ((content.drop pos).take n).length)
    | .ok n =>
      if _ : (content.drop pos).take n = [] then (.ok chunks.flatten, pos)
      else readLoop content grant buffSize (call + 1) (pos + ((content.drop pos).take n).length)
        (length - ((content.drop pos).take n).length) (chunks ++ [(content.drop pos).take n])
termination_by length.toNat
decreasing_by
  have longer : 0 < ((content.drop pos).take n).length := List.length_pos_iff.mpr (by assumption)
  omega

/-- `read(length)` of an `hdfs_file`, from `FileIO`, in binary mode; a negative length reads
`size` bytes. -/
def HdfsFile.read (grant : Grant) (f : OpenFile) (length : Int) : Except PyExc Bytes × OpenFile :=
  if f.closed then (.error closedFile, f)
  else
    let loop :=
      readLoop f.content grant f.buffSize 0 f.pos (if length < 0 then (f.size : Int) else length) []
    (loop.1, { f with pos := loop.2 })

/-- A reader as `hdfsRead` behaves when nothing fails: no read raises, and asked for some bytes
before the end of the file, a read returns at least one and no more than asked for. -/
def Honest (content : Bytes) (grant : Grant) : Prop :=
  ∀ call pos k, ∃ n, grant call pos k = .ok n ∧ (pos < content.length → 0 < k → 0 < n ∧ n ≤ k)

section Loop

variable {content : Bytes} {grant : Grant} {buffSize call pos : Nat} {length : Int}
  {chunks : List Bytes}

theorem readLoop_done (done : length ≤ 0) :
    readLoop content grant buffSize call pos length chunks = (.ok chunks.flatten, pos) := by
  rw [readLoop, dif_pos done]

theorem readLoop_error (going : ¬length ≤ 0) {e : PyExc} {n : Nat}
    (failed : grant call pos (min buffSize length.toNat) = .error (e, n)) :
    readLoop content grant buffSize call pos length chunks =
      (.error e, pos + ((content.drop pos).take n).length) := by
  rw [readLoop, dif_neg going, failed]

theorem readLoop_empty (going : ¬length ≤ 0) {n : Nat}
    (granted : grant call pos (min buffSize length.toNat) = .ok n)
    (empty : (content.drop pos).take n = []) :
    readLoop content grant buffSize call pos length chunks = (.ok chunks.flatten, pos) := by
  rw [readLoop, dif_neg going, granted]
  simp only [dif_pos empty]

theorem readLoop_step (going : ¬length ≤ 0) {n : Nat}
    (granted : grant call pos (min buffSize length.toNat) = .ok n)
    (nonempty : (content.drop pos).take n ≠ []) :
    readLoop content grant buffSize call pos length chunks =
      readLoop content grant buffSize (call + 1) (pos + ((content.drop pos).take n).length)
        (length - ((content.drop pos).take n).length) (chunks ++ [(content.drop pos).take n]) := by
  rw [readLoop, dif_neg going, granted]
  simp only [dif_neg nonempty]

end Loop

theorem Honest.granted {content : Bytes} {grant : Grant} (honest : Honest content grant)
    {call pos k n : Nat} (granted : grant call pos k = .ok n) (before : pos < content.length)
    (asked : 0 < k) : 0 < n ∧ n ≤ k := by
  obtain ⟨m, again, bounds⟩ := honest call pos k
  rw [granted, Except.ok.injEq] at again
  exact again ▸ bounds before asked

theorem Honest.not_error {content : Bytes} {grant : Grant} (honest : Honest content grant)
    {call pos k : Nat} {failure : PyExc × Nat} : grant call pos k ≠ .error failure := by
  obtain ⟨m, granted, -⟩ := honest call pos k
  rw [granted]
  exact fun same => by cases same

theorem take_append_take_drop {α : Type} (l : List α) {n len : Nat} (within : (l.take n).length ≤ len) :
    l.take n ++ (l.drop (l.take n).length).take (len - (l.take n).length) = l.take len := by
  have front : l.take (l.take n).length = l.take n := by
    rw [List.length_take, ← List.take_take, List.take_length]
  have split : l.take ((l.take n).length + (len - (l.take n).length)) =
      l.take (l.take n).length ++ (l.drop (l.take n).length).take (len - (l.take n).length) :=
    List.take_add
  rw [Nat.add_sub_cancel' within, front] at split
  exact split.symm

/-- Whatever short reads an honest reader makes, the loop gets the next `length` bytes. The
induction follows the loop; each pass moves one chunk from the file to `chunks`. -/
theorem readLoop_eq {content : Bytes} {grant : Grant}
    (honest : Honest content grant) {buffSize : Nat} (positive : 0 < buffSize)
    (call pos : Nat) (length : Int) (chunks : List Bytes) :
    readLoop content grant buffSize call pos length chunks =
      (.ok (chunks.flatten ++ (content.drop pos).take length.toNat),
        pos + ((content.drop pos).take length.toNat).length) := by
  induction call, pos, length, chunks using readLoop.induct content grant buffSize with
  | case1 call pos length chunks done =>
    rw [readLoop_done done, Int.toNat_of_nonpos done]
    simp
  | case2 call pos length chunks going e n failed => exact absurd failed honest.not_error
  | case3 call pos length chunks going n granted empty =>
    rw [readLoop_empty going granted empty]
    have atEnd : content.length ≤ pos := by
      by_contra before
      have bounds := honest.granted granted (by omega) (by omega)
      have nonempty : (content.drop pos).take n ≠ [] := by
        simp only [ne_eq, List.take_eq_nil_iff, List.drop_eq_nil_iff]
        omega
      exact nonempty empty
    simp [List.drop_eq_nil_of_le atEnd]
  | case4 call pos length chunks going n granted nonempty ih =>
    rw [readLoop_step going granted nonempty, ih]
    have before : pos < content.length := by
      by_contra atEnd
      exact nonempty (by simp [List.drop_eq_nil_of_le (Nat.le_of_not_lt atEnd)])
    have fewer := (honest.granted granted before (by omega)).2
    have taken : ((content.drop pos).take n).length ≤ length.toNat := by
      have bounded : ((content.drop pos).take n).length ≤ n := by simp
      omega
    have joined := take_append_take_drop (content.drop pos) taken
    rw [List.drop_drop] at joined
    have rest : (length - ((content.drop pos).take n).length).toNat =
        length.toNat - ((content.drop pos).take n).length := by omega
    rw [rest]
    refine Prod.ext (congrArg Except.ok ?_) ?_
    · rw [List.flatten_append, List.flatten_singleton, List.append_assoc, joined]
    · rw [Nat.add_assoc, ← List.length_append, joined]

/-- Full reads despite short reads: on an open file whose recorded size is its length, for an
honest reader, `read(n)` returns the next `n` bytes (all the rest for a negative `n`) and moves
past them. -/
theorem HdfsFile.read_full {grant : Grant} {f : OpenFile}
    (honest : Honest f.content grant) (isOpen : f.closed = false) (sized : f.size = f.content.length)
    (n : Int) :
    HdfsFile.read grant f n =
      (.ok (if n < 0 then f.content.drop f.pos else (f.content.drop f.pos).take n.toNat),
        { f with pos := f.pos + (if n < 0 then f.content.drop f.pos
          else (f.content.drop f.pos).take n.toNat).length }) := by
  rw [HdfsFile.read, if_neg (by simp [isOpen])]
  by_cases negative : n < 0
  · simp only [if_pos negative, readLoop_eq honest f.buffSize_pos, List.flatten_nil, List.nil_append,
      Int.toNat_natCast, sized]
    rw [List.take_of_length_le (by simp)]
  · simp only [if_neg negative, readLoop_eq honest f.buffSize_pos, List.flatten_nil, List.nil_append]

/-- A reader that returns one byte at a time. -/
theorem read_one_byte_at_a_time :
    HdfsFile.read (fun _ _ _ => .ok 1) ⟨[1, 2, 3], 3, 0, false, 65536, by decide⟩ 2 =
      (.ok [1, 2], ⟨[1, 2, 3], 3, 2, false, 65536, by decide⟩) :=
  (HdfsFile.read_full (fun _ _ _ => ⟨1, rfl, fun _ asked => ⟨by decide, asked⟩⟩) rfl rfl 2).trans rfl

end Pydoop.Hdfs
