import Pydoop.Hdfs.File

/-! The file objects of `pydoop.hdfs.file` as state machines. An `hdfs_file` open for reading
answers `read`, `pread`, `seek`, `tell` and `close`; every call leaves the file in some state,
whether it returns or raises. A `read` that raises has moved the position over the bytes it lost,
and a `pread` whose `hdfsRead` fails is left where that read stopped. Over every run the position
stays inside the file, the bytes and the recorded size never change, and once the file is closed
every call but `close` raises and changes nothing. -/

namespace Pydoop.Hdfs

open Sercore HadoopUtils

/-- `FileClass_pread(position, nbytes)` on a file open for reading at `pos`: one `hdfsRead` at
`position`, the first read of the call (`grant 0`), between an `hdfsSeek` there and one back. A
read that fails skips the seek back, leaving the file where the read stopped. -/
def fileClassPread (content : Bytes) (grant : Grant) (pos : Nat) (position nbytes : Int) :
    Except PyExc Bytes × Nat :=
  if position < 0 then (.error EINVAL, pos)
  else if nbytes = 0 then (.ok [], pos)
  else if nbytes < 0 then (.error (.valueError "nbytes must be >= 0"), pos)
  else
    match grant 0 position.toNat nbytes.toNat with
    | .ok n => (.ok ((content.drop position.toNat).take n), pos)
    | .error (e, n) => (.error e, position.toNat + ((content.drop position.toNat).take n).length)

/-- `pread(position, length)` of an `hdfs_file`, from `FileIO`, in binary mode: the raw file's
`pread`, past the buffered reader; a negative length reads to the end of the file. -/
def HdfsFile.pread (grant : Grant) (f : OpenFile) (position length : Int) :
    Except PyExc Bytes × OpenFile :=
  if f.closed then (.error closedFile, f)
  else if position > f.size then (.error (.libraryError "position cannot be past EOF"), f)
  else
    let native := fileClassPread f.content grant f.pos position
      (if length < 0 then (f.size : Int) - position else length)
    (native.1, { f with pos := native.2 })

/-- `tell()` -/
def HdfsFile.tell (f : OpenFile) : Except PyExc Int :=
  if f.closed then .error closedFile else .ok f.pos

/-- `close()` of a file open for reading: marked closed, once. -/
def HdfsFile.close (f : OpenFile) : OpenFile :=
  if f.closed then f else { f with closed := true }

/-- The calls a program makes on a file object. -/
inductive FileCall
  | read (length : Int)
  | pread (position length : Int)
  | seek (position : Int) (whence : Whence)
  | tell
  | close
  deriving DecidableEq, Repr

/-- What a call returns: bytes, an offset, or `None`. -/
inductive FileReply
  | data (bytes : Bytes)
  | offset (n : Int)
  | none
  deriving DecidableEq, Repr

/-- A call on an `hdfs_file`: what it returns or raises, with the file after it. `seek`
returns the offset `FileClass_seek` reports. -/
def HdfsFile.call (grant : Grant) (f : OpenFile) : FileCall → Except PyExc FileReply × OpenFile
  | .read length =>
    ((HdfsFile.read grant f length).1.map .data, (HdfsFile.read grant f length).2)
  | .pread position length =>
    ((HdfsFile.pread grant f position length).1.map .data, (HdfsFile.pread grant f position length).2)
  | .seek position whence =>
    match HdfsFile.seek f position whence with
    | .ok f' => (.ok (.offset f'.pos), f')
    | .error e => (.error e, f)
  | .tell => ((HdfsFile.tell f).map .offset, f)
  | .close => (.ok .none, HdfsFile.close f)

/-- The states a file object reaches from `f` by calls, each returning or raising: all the states
a program that catches the exceptions sees. -/
inductive HdfsFile.Reachable (grant : Grant) (f : OpenFile) : OpenFile → Prop
  | refl : HdfsFile.Reachable grant f f
  | call {f' : OpenFile} (c : FileCall) :
      HdfsFile.Reachable grant f f' → HdfsFile.Reachable grant f (HdfsFile.call grant f' c).2

/-- A file object as `FileIO.__init__` leaves it: the size recorded is the number of bytes, and
the position is inside the file. -/
structure OpenFile.Sound (f : OpenFile) : Prop where
  sized : f.size = f.content.length
  inside : f.pos ≤ f.size

section Steps

variable {grant : Grant} {f : OpenFile}

/-- The read loop only moves within the file's bytes, whatever the reader does. The induction
follows the loop. -/
theorem readLoop_pos_le {content : Bytes} {buffSize : Nat} (call pos : Nat) (length : Int)
    (chunks : List Bytes) :
    pos ≤ content.length → (readLoop content grant buffSize call pos length chunks).2 ≤ content.length := by
  induction call, pos, length, chunks using readLoop.induct content grant buffSize with
  | case1 call pos length chunks done =>
    rw [readLoop_done done]
    exact id
  | case2 call pos length chunks going e n failed =>
    intro within
    rw [readLoop_error going failed]
    simp only [List.length_take, List.length_drop]
    omega
  | case3 call pos length chunks going n granted empty =>
    rw [readLoop_empty going granted empty]
    exact id
  | case4 call pos length chunks going n granted nonempty ih =>
    intro within
    rw [readLoop_step going granted nonempty]
    apply ih
    simp only [List.length_take, List.length_drop]
    omega

theorem fileClassPread_pos_le {content : Bytes} {pos : Nat} {position nbytes : Int}
    (inside : pos ≤ content.length) (within : position ≤ content.length) :
    (fileClassPread content grant pos position nbytes).2 ≤ content.length := by
  unfold fileClassPread
  split
  · exact inside
  split
  · exact inside
  split
  · exact inside
  split
  · exact inside
  · simp only [List.length_take, List.length_drop]
    omega

theorem HdfsFile.seek_ok {position : Int} {whence : Whence} {f' : OpenFile}
    (ran : HdfsFile.seek f position whence = .ok f') :
    f.closed = false ∧ ∃ target : Int, 0 ≤ target ∧ target ≤ f.size ∧ f' = { f with pos := target.toNat } := by
  unfold HdfsFile.seek at ran
  split at ran
  · cases ran
  · rename_i isOpen
    cases sought : fileClassSeek f.size f.pos position whence with
    | error e => simp [sought, Except.map] at ran
    | ok target =>
      simp only [sought, Except.map, Except.ok.injEq] at ran
      unfold fileClassSeek at sought
      dsimp only at sought
      split at sought
      · cases sought
      · simp only [Except.ok.injEq] at sought
        subst sought
        exact ⟨by simpa using isOpen, _, by omega, by omega, ran.symm⟩

/-- Where a call leaves a file that `FileIO.__init__` left sound, said once for every proof about
runs: `close` marks it closed, and any other call moves its position, if at all, to a place
inside the recorded size, and leaves a closed file where it was. -/
theorem HdfsFile.call_moves (sound : f.Sound) (c : FileCall) :
    (HdfsFile.call grant f c).2 = HdfsFile.close f ∨
      ∃ pos : Nat, (HdfsFile.call grant f c).2 = { f with pos } ∧ pos ≤ f.size ∧
        (f.closed = true → pos = f.pos) := by
  have stays : ∃ pos : Nat, f = { f with pos } ∧ pos ≤ f.size ∧ (f.closed = true → pos = f.pos) :=
    ⟨f.pos, rfl, sound.inside, fun _ => rfl⟩
  have inside := sound.sized ▸ sound.inside
  cases c with
  | read length =>
    right
    simp only [HdfsFile.call, HdfsFile.read]
    split
    · exact stays
    · rename_i isOpen
      exact ⟨_, rfl, sound.sized ▸ readLoop_pos_le _ _ _ _ inside, fun closed => absurd closed isOpen⟩
  | pread position length =>
    right
    simp only [HdfsFile.call, HdfsFile.pread]
    split
    · exact stays
    split
    · exact stays
    · rename_i isOpen past
      have sized := sound.sized
      exact ⟨_, rfl, sound.sized ▸ fileClassPread_pos_le inside (by omega),
        fun closed => absurd closed isOpen⟩
  | seek position whence =>
    right
    simp only [HdfsFile.call]
    split
    · rename_i moved sought
      obtain ⟨isOpen, target, low, high, rfl⟩ := HdfsFile.seek_ok sought
      exact ⟨_, rfl, by omega, fun closed => absurd closed (by simp [isOpen])⟩
    · exact stays
  | tell => exact .inr stays
  | close => exact .inl rfl

theorem HdfsFile.call_sound (sound : f.Sound) (c : FileCall) :
    (HdfsFile.call grant f c).2.Sound ∧ (HdfsFile.call grant f c).2.content = f.content ∧
      (HdfsFile.call grant f c).2.size = f.size ∧
      (f.closed = true → (HdfsFile.call grant f c).2 = f) := by
  rcases HdfsFile.call_moves sound c with closing | ⟨pos, moved, inside, stays⟩
  · rw [closing]
    unfold HdfsFile.close
    split
    · exact ⟨sound, rfl, rfl, fun _ => rfl⟩
    · exact ⟨⟨sound.sized, sound.inside⟩, rfl, rfl, by simp_all⟩
  · rw [moved]
    exact ⟨⟨sound.sized, inside⟩, rfl, rfl, fun closed => by rw [stays closed]⟩

theorem HdfsFile.call_closed (closed : f.closed = true) {c : FileCall} (notClose : c ≠ .close) :
    HdfsFile.call grant f c = (.error closedFile, f) := by
  cases c with
  | read length => simp [HdfsFile.call, HdfsFile.read, closed, Except.map]
  | pread position length => simp [HdfsFile.call, HdfsFile.pread, closed, Except.map]
  | seek position whence => simp [HdfsFile.call, HdfsFile.seek, closed]
  | tell => simp [HdfsFile.call, HdfsFile.tell, closed, Except.map]
  | close => exact absurd rfl notClose

end Steps

section Runs

variable {grant : Grant} {f₀ f : OpenFile}

/-- The invariant of an `hdfs_file` over every run. From a file as `open_file` gives it, every
state a program reaches, through calls that return or raise, keeps the bytes and the recorded
size and the position inside the file; once the file is closed, every call but `close` raises
`ValueError`, and a run from a closed file leaves it as it is. The induction follows the run,
each call through `HdfsFile.call_sound`. -/
theorem HdfsFile.reachable_sound (sound : f₀.Sound) (reached : HdfsFile.Reachable grant f₀ f) :
    f.Sound ∧ f.content = f₀.content ∧ f.size = f₀.size ∧
      (f.closed = true → ∀ c, c ≠ .close → HdfsFile.call grant f c = (.error closedFile, f)) ∧
      (f₀.closed = true → f = f₀) := by
  have kept : f.Sound ∧ f.content = f₀.content ∧ f.size = f₀.size ∧ (f₀.closed = true → f = f₀) := by
    induction reached with
    | refl => exact ⟨sound, rfl, rfl, fun _ => rfl⟩
    | call c _ ih =>
      obtain ⟨sound', content, size, stays⟩ := ih
      obtain ⟨sound'', sameContent, sameSize, closedStays⟩ := @HdfsFile.call_sound grant _ sound' c
      refine ⟨sound'', sameContent.trans content, sameSize.trans size, fun closed => ?_⟩
      rw [closedStays (by rw [stays closed]; exact closed), stays closed]
  obtain ⟨sound', content, size, stays⟩ := kept
  exact ⟨sound', content, size, fun closed c notClose => HdfsFile.call_closed closed notClose, stays⟩

/-- A file of one byte, after `seek(1)`. -/
theorem HdfsFile.reachable_sound_after_seek :
    (⟨[7], 1, 1, false, 65536, by decide⟩ : OpenFile).Sound ∧
      (⟨[7], 1, 1, false, 65536, by decide⟩ : OpenFile).content = [7] ∧
      (⟨[7], 1, 1, false, 65536, by decide⟩ : OpenFile).size = 1 ∧
      ((⟨[7], 1, 1, false, 65536, by decide⟩ : OpenFile).closed = true → ∀ c, c ≠ .close →
        HdfsFile.call (fun _ _ _ => .ok 1) ⟨[7], 1, 1, false, 65536, by decide⟩ c =
          (.error closedFile, ⟨[7], 1, 1, false, 65536, by decide⟩)) ∧
      ((⟨[7], 1, 0, false, 65536, by decide⟩ : OpenFile).closed = true →
        (⟨[7], 1, 1, false, 65536, by decide⟩ : OpenFile) = ⟨[7], 1, 0, false, 65536, by decide⟩) :=
  @HdfsFile.reachable_sound (fun _ _ _ => .ok 1) ⟨[7], 1, 0, false, 65536, by decide⟩
    ⟨[7], 1, 1, false, 65536, by decide⟩ ⟨rfl, by decide⟩ (.call (.seek 1 .SEEK_SET) .refl)

end Runs

end Pydoop.Hdfs
