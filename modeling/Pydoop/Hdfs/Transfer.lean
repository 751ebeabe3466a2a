import Pydoop.Hdfs.Copy
import Pydoop.Hdfs.FileSession

/-! Moving bytes between the file system and open files, as `pydoop.hdfs` does it. `_cp_file`
copies in chunks of `BUFSIZE`, calling `FileIO.read` until it returns nothing; `dump` writes its
data in slices of `BUFSIZE`; `load` reads the whole file with one `read()`. A file open for
writing takes what is written to it and holds it once it is closed.

The whole-file operations `readFile`, `writeFile` and `cpFile`, with which what `cp` copies is
stated, are what these loops amount to: for an honest reader (one that, before the end, returns
at least one byte and no more than asked for) each loop refines its whole-file operation, run for
run, raising where it raises. What `dump` writes, `load` then reads back. For any reader, failing
reads included, `_cp_file` leaves its destination holding a front of the source. -/

namespace Pydoop.Hdfs

open Effect Sercore HadoopUtils FileTree

/-- `common.BUFSIZE` -/
def BUFSIZE : Nat := 16384

/-- The buffer size of `FileIO.__init__`: one that is not positive becomes `common.BUFSIZE`. -/
def fileIOBuffSize (buff_size : Int) : Nat :=
  if buff_size ≤ 0 then BUFSIZE else buff_size.toNat

theorem fileIOBuffSize_pos (buff_size : Int) : 0 < fileIOBuffSize buff_size := by
  unfold fileIOBuffSize
  split
  · decide
  · omega

/-- `open_file(path, "r", buff_size)`: the file as it is when opened, its size the one
`hdfsGetPathInfo` reports, read from offset 0. Opening fails where `readFile` does. -/
def openRead (buff_size : Int) (path : List Char) : Effect PyExc FileTree OpenFile := do
  let data ← readFile path
  pure ⟨data, data.length, 0, false, fileIOBuffSize buff_size, fileIOBuffSize_pos buff_size⟩

/-- `open_file(path, "w")`: `hdfsOpenFile` with `O_WRONLY` creates the file empty, with the
missing directories above it, or truncates it. -/
def openWrite (path : List Char) : Effect PyExc FileTree (List (List Char)) := do
  writeFile path []
  pure (components path)

/-- A file open for writing: where it is, and the bytes `write` has taken so far, which the
buffered writer has handed to `hdfsWrite` by the time the file is closed. -/
structure WriteHandle where
  parts : List (List Char)
  written : Bytes

/-- `write(data)` in binary mode: all of `data` taken, its length returned. -/
def WriteHandle.write (fo : WriteHandle) (data : Bytes) : Nat × WriteHandle :=
  (data.length, { fo with written := fo.written ++ data })

/-- `close()` of a file open for writing: `hdfsCloseFile` completes the file with what was
written. -/
def WriteHandle.close (fo : WriteHandle) : Effect PyExc FileTree Unit :=
  modify fun t => t.set fo.parts (.file fo.written)

/-! ### Reads of any reader -/

section Reads

variable {content : Bytes} {grant : Grant} {buffSize : Nat}

theorem drop_add_length {chunk rest : Bytes} {pos : Nat} (whole : chunk ++ rest = content.drop pos) :
    content.drop (pos + chunk.length) = rest := by
  rw [← List.drop_drop, ← whole, List.drop_left]

theorem append_prefix_drop {chunk read : Bytes} {pos : Nat} (taken : chunk <+: content.drop pos)
    (next : read <+: content.drop (pos + chunk.length)) : chunk ++ read <+: content.drop pos := by
  obtain ⟨rest, whole⟩ := taken
  rw [drop_add_length whole] at next
  rw [← whole]
  exact (List.prefix_append_right_inj chunk).mpr next

theorem readLoop_front (call pos : Nat) (length : Int) (chunks : List Bytes) :
    ∃ read, read <+: content.drop pos ∧
      (readLoop content grant buffSize call pos length chunks).2 = pos + read.length ∧
      ∀ data, (readLoop content grant buffSize call pos length chunks).1 = .ok data →
        data = chunks.flatten ++ read := by
  induction call, pos, length, chunks using readLoop.induct content grant buffSize with
  | case1 call pos length chunks done =>
    refine ⟨[], List.nil_prefix, ?_, fun data returned => ?_⟩ <;> rw [readLoop_done done] at *
    · rfl
    · cases returned
      simp
  | case2 call pos length chunks going e n failed =>
    refine ⟨_, List.take_prefix n _, by rw [readLoop_error going failed], fun data returned => ?_⟩
    rw [readLoop_error going failed] at returned
    cases returned
  | case3 call pos length chunks going n granted empty =>
    refine ⟨[], List.nil_prefix, ?_, fun data returned => ?_⟩ <;> rw [readLoop_empty going granted empty] at *
    · rfl
    · cases returned
      simp
  | case4 call pos length chunks going n granted nonempty ih =>
    obtain ⟨read, front, moved, returned⟩ := ih
    rw [readLoop_step going granted nonempty]
    refine ⟨(content.drop pos).take n ++ read, append_prefix_drop (List.take_prefix n _) front, ?_,
      fun data result => ?_⟩
    · rw [moved]
      simp [Nat.add_assoc]
    · rw [returned data result]
      simp

theorem HdfsFile.read_front {f f' : OpenFile} {length : Int} {data : Bytes}
    (ran : HdfsFile.read grant f length = (.ok data, f')) :
    data <+: f.content.drop f.pos ∧ f' = { f with pos := f.pos + data.length } := by
  unfold HdfsFile.read at ran
  split at ran
  · simp at ran
  · obtain ⟨read, front, moved, returned⟩ := @readLoop_front f.content grant f.buffSize 0 f.pos
      (if length < 0 then (f.size : Int) else length) []
    simp only [Prod.mk.injEq] at ran
    obtain ⟨result, rfl⟩ := ran
    obtain rfl : data = read := by simpa using returned data result
    exact ⟨front, by rw [moved]⟩

end Reads

/-- The `while 1` loop of `_cp_file`: `chunk = fi.read(bufsize)`, a chunk written to `fo`, and
an empty one ending the loop; an exception of `read` ends it with what was written so far. Each
chunk moves `fi` forward, so the loop ends. -/
def copyLoop (grant : Grant) (fi : OpenFile) (fo : WriteHandle) : Except PyExc Unit × WriteHandle :=
  match _found : HdfsFile.read grant fi BUFSIZE with
  | (.error e, _) => (.error e, fo)
  | (.ok chunk, fi') =>
    if chunk = [] then (.ok (), fo)
    else copyLoop grant fi' (fo.write chunk).2
termination_by fi.content.length - fi.pos
decreasing_by
  obtain ⟨front, rfl⟩ := HdfsFile.read_front _found
  have within := front.length_le
  have longer : 0 < chunk.length := List.length_pos_iff.mpr (by assumption)
  simp only [List.length_drop] at within
  show fi.content.length - (fi.pos + chunk.length) < fi.content.length - fi.pos
  omega

/-- `_cp_file(src_fs, src_path, dest_fs, dest_path)` on one file system: the source opened for
reading, then the destination for writing; the loop; and the `with` blocks closing the
destination, whatever the loop did, and then the source, which changes nothing. -/
def cpFileChunked (grant : Grant) (buff_size : Int) (srcPath destPath : List Char) :
    Effect PyExc FileTree Unit := do
  let fi ← openRead buff_size srcPath
  let parts ← openWrite destPath
  let (outcome, fo) := copyLoop grant fi ⟨parts, []⟩
  fo.close
  MonadExcept.ofExcept outcome

/-- The `while` loop of `dump`: `fo.write(data[i:i + bufsize])` while `i < len(data)`. -/
def dumpLoop (data : Bytes) (i : Nat) (fo : WriteHandle) : WriteHandle :=
  if i < data.length then dumpLoop data (i + BUFSIZE) (fo.write ((data.drop i).take BUFSIZE)).2
  else fo
termination_by data.length - i
decreasing_by
  have positive : 0 < BUFSIZE := by decide
  omega

/-- `dump(data, hdfs_path)` of bytes, on the path part of `hdfs_path`: the file opened with mode
`"w"`, the loop, and the `with` block closing it. -/
def dump (data : Bytes) (path : List Char) : Effect PyExc FileTree Unit := do
  let parts ← openWrite path
  (dumpLoop data 0 ⟨parts, []⟩).close

/-- `load(hdfs_path)` with the default mode `"r"`, on the path part of `hdfs_path`: the file
opened and read whole by `read()`. -/
def load (grant : Grant) (buff_size : Int) (path : List Char) : Effect PyExc FileTree Bytes := do
  let fi ← openRead buff_size path
  MonadExcept.ofExcept (HdfsFile.read grant fi (-1)).1

/-! ### Readers -/

/-- A reader that stops at each block boundary, every `blockSize` bytes, as `hdfsRead` may. -/
def blockReader (blockSize : Nat) : Grant :=
  fun _ pos k => .ok (min k (blockSize - pos % blockSize))

theorem blockReader_honest {blockSize : Nat} (positive : 0 < blockSize) (content : Bytes) :
    Honest content (blockReader blockSize) := by
  intro call pos k
  refine ⟨_, rfl, fun _ asked => ?_⟩
  have within := Nat.mod_lt pos positive
  omega

/-- A reader that fails at `cut`: each `read` gets the bytes before it, and at it the first
`hdfsRead` call raises and those after it return nothing. -/
def cutReader (cut : Nat) : Grant :=
  fun call pos k =>
    if pos < cut then .ok (min k (cut - pos))
    else if call = 0 then .error (.libraryError "Input/output error", 0) else .ok 0

/-! ### Writing through a handle -/

section Writing

@[simp] theorem FileTree.set_set (t : FileTree) (parts : List (List Char)) (entry entry' : Entry) :
    (t.set parts entry).set parts entry' = t.set parts entry' := by
  simp [set]

theorem run_writeFile_set (path : List Char) (data : Bytes) (t : FileTree) :
    (writeFile path [] >>= fun _ => modify fun t => t.set (components path) (.file data)).run t =
      (writeFile path data).run t := by
  by_cases named : path = []
  · simp [writeFile, named]
  rcases found : t.entries.get? (components path) with _ | entry
  · rcases made : (makeDirectories (components path).dropLast).run t with ⟨_ | u, t'⟩
    · simp [writeFile, named, found, made, run_bind]
    · simp [writeFile, named, found, made, run_bind]
  · cases entry with
    | directory => simp [writeFile, named, found, run_bind]
    | file old =>
      rcases made : (makeDirectories (components path).dropLast).run t with ⟨_ | u, t'⟩
      · simp [writeFile, named, found, made, run_bind]
      · simp [writeFile, named, found, made, run_bind]

theorem run_openWrite_close (path : List Char) (data : Bytes) (t : FileTree) :
    (openWrite path >>= fun parts => (⟨parts, data⟩ : WriteHandle).close).run t =
      (writeFile path data).run t := by
  rw [← run_writeFile_set]
  simp [openWrite, WriteHandle.close, run_bind]

theorem get?_writeFile {path : List Char} {data : Bytes} {t t' : FileTree}
    (ran : (writeFile path data).run t = (.ok (), t')) :
    path ≠ [] ∧ t'.entries.get? (components path) = some (.file data) := by
  by_cases named : path = []
  · simp [writeFile, named] at ran
  refine ⟨named, ?_⟩
  rcases found : t.entries.get? (components path) with _ | entry
  · rcases made : (makeDirectories (components path).dropLast).run t with ⟨_ | u, t''⟩
    · simp [writeFile, named, found, made, run_bind] at ran
    · simp [writeFile, named, found, made, run_bind] at ran
      rw [← ran]
      simp
  · cases entry with
    | directory => simp [writeFile, named, found, run_bind] at ran
    | file old =>
      rcases made : (makeDirectories (components path).dropLast).run t with ⟨_ | u, t''⟩
      · simp [writeFile, named, found, made, run_bind] at ran
      · simp [writeFile, named, found, made, run_bind] at ran
        rw [← ran]
        simp

theorem run_readFile_file {path : List Char} {data : Bytes} {t : FileTree} (named : path ≠ [])
    (stored : t.entries.get? (components path) = some (.file data)) :
    (readFile path).run t = (.ok data, t) := by
  simp [readFile, named, stored, run_bind]

end Writing

/-! ### The loops against the whole-file operations -/

section Loops

variable {grant : Grant} {f : OpenFile}

theorem HdfsFile.read_take (honest : Honest f.content grant) (isOpen : f.closed = false) (n : Nat) :
    HdfsFile.read grant f n = (.ok ((f.content.drop f.pos).take n),
      { f with pos := f.pos + ((f.content.drop f.pos).take n).length }) := by
  have natural : ¬(n : Int) < 0 := by omega
  rw [HdfsFile.read, if_neg (by simp [isOpen])]
  simp [readLoop_eq honest f.buffSize_pos, natural]

theorem HdfsFile.read_rest (honest : Honest f.content grant) (isOpen : f.closed = false)
    (sized : f.size = f.content.length) :
    HdfsFile.read grant f (-1) = (.ok (f.content.drop f.pos),
      { f with pos := f.pos + (f.content.drop f.pos).length }) := by
  rw [HdfsFile.read, if_neg (by simp [isOpen])]
  simp [readLoop_eq honest f.buffSize_pos, sized]

theorem copyLoop_of_error {fi fi' : OpenFile} {fo : WriteHandle} {e : PyExc}
    (failed : HdfsFile.read grant fi BUFSIZE = (.error e, fi')) :
    copyLoop grant fi fo = (.error e, fo) := by
  rw [copyLoop]
  split
  · rename_i e' _ failed'
    rw [failed, Prod.mk.injEq, Except.error.injEq] at failed'
    rw [failed'.1]
  · rename_i read
    rw [failed] at read
    simp at read

theorem copyLoop_of_read {fi fi' : OpenFile} {fo : WriteHandle} {chunk : Bytes}
    (read : HdfsFile.read grant fi BUFSIZE = (.ok chunk, fi')) :
    copyLoop grant fi fo = if chunk = [] then (.ok (), fo) else copyLoop grant fi' (fo.write chunk).2 := by
  rw [copyLoop]
  split
  · rename_i failed
    rw [read] at failed
    simp at failed
  · rename_i chunk' fi'' read'
    rw [read, Prod.mk.injEq, Except.ok.injEq] at read'
    obtain ⟨rfl, rfl⟩ := read'
    rfl

/-- The copy loop takes the rest of an open file, whatever short reads the honest reader makes:
by induction along the loop, each chunk being a front of what is left. -/
theorem copyLoop_eq (fi : OpenFile) (fo : WriteHandle) :
    Honest fi.content grant → fi.closed = false →
      copyLoop grant fi fo = (.ok (), { fo with written := fo.written ++ fi.content.drop fi.pos }) := by
  induction fi, fo using copyLoop.induct grant with
  | case1 fi fo e fi' failed =>
    intro honest isOpen
    rw [HdfsFile.read_take honest isOpen] at failed
    simp at failed
  | case2 fi fo fi' ended =>
    intro honest isOpen
    rw [copyLoop_of_read ended, if_pos rfl]
    -- an honest reader returns nothing only at the end
    rw [HdfsFile.read_take honest isOpen, Prod.mk.injEq, Except.ok.injEq, List.take_eq_nil_iff]
      at ended
    have atEnd : fi.content.drop fi.pos = [] := ended.1.resolve_left (by decide)
    simp [atEnd]
  | case3 fi fo chunk fi' read nonempty ih =>
    intro honest isOpen
    obtain ⟨⟨rest, whole⟩, rfl⟩ := HdfsFile.read_front read
    rw [copyLoop_of_read read, if_neg nonempty, ih honest isOpen]
    simp [WriteHandle.write, drop_add_length whole, ← whole]

theorem copyLoop_front (fi : OpenFile) (fo : WriteHandle) :
    ∃ front, front <+: fi.content.drop fi.pos ∧
      (copyLoop grant fi fo).2 = { fo with written := fo.written ++ front } := by
  induction fi, fo using copyLoop.induct grant with
  | case1 fi fo e fi' failed =>
    refine ⟨[], List.nil_prefix, ?_⟩
    rw [copyLoop_of_error failed]
    simp
  | case2 fi fo fi' ended =>
    refine ⟨[], List.nil_prefix, ?_⟩
    rw [copyLoop_of_read ended, if_pos rfl]
    simp
  | case3 fi fo chunk fi' read nonempty ih =>
    obtain ⟨taken, rfl⟩ := HdfsFile.read_front read
    obtain ⟨front, below, copied⟩ := ih
    refine ⟨chunk ++ front, append_prefix_drop taken below, ?_⟩
    rw [copyLoop_of_read read, if_neg nonempty, copied]
    simp [WriteHandle.write]

theorem dumpLoop_eq (data : Bytes) (i : Nat) (fo : WriteHandle) :
    dumpLoop data i fo = { fo with written := fo.written ++ data.drop i } := by
  induction i, fo using dumpLoop.induct data with
  | case1 i fo within ih =>
    rw [dumpLoop, if_pos within, ih]
    simp [WriteHandle.write, ← List.drop_drop]
  | case2 i fo past =>
    rw [dumpLoop, if_neg past, List.drop_eq_nil_of_le (by omega)]
    simp

/-- `_cp_file` refines `cpFile`: for an honest reader, the chunked copy returns and raises where
the whole-file copy does, and leaves the same file system. -/
theorem cpFileChunked_refines (honest : ∀ content, Honest content grant) (buff_size : Int)
    (srcPath destPath : List Char) (t : FileTree) :
    (cpFileChunked grant buff_size srcPath destPath).run t = (cpFile srcPath destPath).run t := by
  rcases read : (readFile srcPath).run t with ⟨_ | data, t'⟩
  · simp [cpFileChunked, cpFile, openRead, run_bind, read]
  · have copied : ∀ fo, copyLoop grant ⟨data, data.length, 0, false, _, fileIOBuffSize_pos buff_size⟩
        fo = (.ok (), { fo with written := fo.written ++ data }) :=
      fun fo => copyLoop_eq _ fo (honest data) rfl
    have whole : (cpFile srcPath destPath).run t = (writeFile destPath data).run t' := by
      simp [cpFile, run_bind, read]
    rw [whole, ← run_openWrite_close]
    simp [cpFileChunked, openRead, WriteHandle.close, run_bind, read, copied]

/-- `_cp_file("/f", "/d/f")` with blocks of 4 bytes. -/
theorem cpFileChunked_refines_blocks :
    (cpFileChunked (blockReader 4) 0 "/f".toList "/d/f".toList).run
        ⟨⟨[([], .directory), ([['f']], .file [1, 2, 3, 4, 5])], by decide⟩⟩ =
      (cpFile "/f".toList "/d/f".toList).run
        ⟨⟨[([], .directory), ([['f']], .file [1, 2, 3, 4, 5])], by decide⟩⟩ :=
  cpFileChunked_refines (blockReader_honest (by decide)) 0 _ _ _

/-- Whatever each `hdfsRead` does, `_cp_file` of a file leaves the file system as writing a front
of the source's bytes to the destination would: a read that raises leaves the destination cut
short, and the source as it was. -/
theorem run_cpFileChunked_front (grant : Grant) (buff_size : Int) {srcPath destPath : List Char}
    {t : FileTree} {data : Bytes} (source : (readFile srcPath).run t = (.ok data, t)) :
    ∃ front, front <+: data ∧
      ((cpFileChunked grant buff_size srcPath destPath).run t).2 =
        ((writeFile destPath front).run t).2 := by
  obtain ⟨front, below, copied⟩ := @copyLoop_front grant
    ⟨data, data.length, 0, false, _, fileIOBuffSize_pos buff_size⟩ ⟨components destPath, []⟩
  refine ⟨front, by simpa using below, ?_⟩
  have whole := run_writeFile_set destPath front t
  rcases opened : (writeFile destPath []).run t with ⟨_ | u, t'⟩
  · rw [run_bind, opened] at whole
    simp [cpFileChunked, openRead, openWrite, run_bind, source, opened, ← whole]
  · rw [run_bind, opened] at whole
    simp [cpFileChunked, openRead, openWrite, WriteHandle.close, run_bind, source, opened,
      copied, ← whole]

/-- `cp` of a file to a destination that does not exist, whatever each `hdfsRead` of its
`_cp_file` does: the destination is left holding a front of the file's bytes, as writing them
there would leave it, and nothing else changes. -/
theorem cp_file_writes_front (isprintable : Char → Bool) (grant : Grant) (buff_size : Int)
    (fuel : Nat) {t : FileTree} {src : List (List Char)} {data : Bytes} {destPath : List Char}
    (srcClean : PosixPath.Clean src) (found : t.entries.get? src = some (.file data))
    (named : destPath ≠ [])
    (missing : t.entries.get? (components destPath) = none) :
    ∃ front, front <+: data ∧
      ((cp isprintable (cpFileChunked grant buff_size) (fuel + 1) (pathName src) destPath).run t).2 =
        ((writeFile destPath front).run t).2 := by
  have source : (readFile (pathName src)).run t = (.ok data, t) :=
    run_readFile_file (pathName_ne_nil src) (by rwa [components_pathName srcClean])
  rw [run_cp_to_missing isprintable _ fuel srcClean found named missing, if_pos (by rfl)]
  exact run_cpFileChunked_front grant buff_size source

/-- `cp("/f", "/d/f")` where `hdfsRead` fails after two bytes: the first `read(bufsize)` returns
them, the second raises, and `/d/f` is left with the two. -/
theorem cp_file_writes_front_cut :
    (∃ front, front <+: [1, 2, 3, 4, 5] ∧
      ((cp (fun _ => true) (cpFileChunked (cutReader 2) 0) 1 (pathName [['f']]) "/d/f".toList).run
          ⟨⟨[([], .directory), ([['f']], .file [1, 2, 3, 4, 5])], by decide⟩⟩).2 =
        ((writeFile "/d/f".toList front).run
          ⟨⟨[([], .directory), ([['f']], .file [1, 2, 3, 4, 5])], by decide⟩⟩).2) ∧
      ((cp (fun _ => true) (cpFileChunked (cutReader 2) 0) 1 (pathName [['f']]) "/d/f".toList).run
          ⟨⟨[([], .directory), ([['f']], .file [1, 2, 3, 4, 5])], by decide⟩⟩).2.entries.get?
        [['d'], ['f']] = some (.file [1, 2]) :=
  ⟨cp_file_writes_front (fun _ => true) (cutReader 2) 0 0 (by simp [PosixPath.Clean]) (by decide)
    (by decide) (by decide), by decide +kernel⟩

theorem dump_refines (data : Bytes) (path : List Char) (t : FileTree) :
    (dump data path).run t = (writeFile path data).run t := by
  rw [← run_openWrite_close]
  simp [dump, dumpLoop_eq]

theorem load_refines (honest : ∀ content, Honest content grant) (buff_size : Int)
    (path : List Char) (t : FileTree) :
    (load grant buff_size path).run t = (readFile path).run t := by
  rcases read : (readFile path).run t with ⟨_ | data, t'⟩
  · simp [load, openRead, run_bind, read]
  · have whole := HdfsFile.read_rest
      (f := ⟨data, data.length, 0, false, _, fileIOBuffSize_pos buff_size⟩) (honest data) rfl rfl
    simp [load, openRead, run_bind, read, whole]

/-- What `dump` writes, `load` reads back: once `dump(data, path)` returns, `load(path)` returns
`data`, for an honest reader, and changes nothing. -/
theorem load_dump (honest : ∀ content, Honest content grant) (buff_size : Int) {data : Bytes}
    {path : List Char} {t t' : FileTree} (dumped : (dump data path).run t = (.ok (), t')) :
    (load grant buff_size path).run t' = (.ok data, t') := by
  rw [dump_refines] at dumped
  obtain ⟨named, stored⟩ := get?_writeFile dumped
  rw [load_refines honest]
  exact run_readFile_file named stored

/-- `dump` five bytes to `/d/x`, which makes `/d`, then `load` them in blocks of 4 bytes. -/
theorem load_dump_blocks :
    (load (blockReader 4) 0 "/d/x".toList).run
        ((dump [1, 2, 3, 4, 5] "/d/x".toList).run emptyDirectoryTree).2 =
      (.ok [1, 2, 3, 4, 5], ((dump [1, 2, 3, 4, 5] "/d/x".toList).run emptyDirectoryTree).2) :=
  load_dump (blockReader_honest (by decide)) 0 (Prod.ext (by rw [dump_refines]; decide) rfl)

end Loops

end Pydoop.Hdfs
