import Pydoop.Sercore.Streams
import Pydoop.Lib.PyDict

/-! `hdfs_fs.cc`: the dictionary of an `hdfsFileInfo` that `CoreHdfsFs.get_path_info` builds
with one `Py_BuildValue` format, and the one `list_directory` builds for each entry with
`setPathInfo`, one `PyLong` constructor per field. On LP64 `time_t` and `tOffset` are 64 bits
wide and `short` is 16. A 64-bit argument that an `'i'` code consumes gives its low 32 bits, read
as a signed `int`; `PyLong_FromSize_t` of a `short` sees it converted to a 64-bit `size_t`. So
the two dictionaries agree exactly when the times and the block size fit an `int` and the
replication and the permissions are not negative. -/

namespace Pydoop.Hdfs

open Sercore

/-- `tObjectKind`. -/
inductive ObjectKind
  | file
  | directory
  deriving DecidableEq, Repr

/-- `hdfsFileInfo`, each field of its C type: `tTime` and `tOffset` are 64-bit, `short` 16-bit. -/
structure FileInfo where
  kind : ObjectKind
  name : String
  lastMod : Int64
  size : Int64
  replication : Int16
  blockSize : Int64
  owner : String
  group : String
  permissions : Int16
  lastAccess : Int64
  deriving DecidableEq, Repr

/-- How a builder turns the numeric fields into Python ints: the times and the block size, the
size, and the two `short`s. -/
structure Conversions where
  wide : Int64 → Int
  size : Int64 → Int
  short : Int16 → Int

/-- The keys and values both builders set, in the order they set them. -/
def infoPairs (conv : Conversions) (info : FileInfo) : List (String × PyObj) :=
  [("name", .str info.name),
    ("kind", .str (if info.kind = .directory then "directory" else "file")),
    ("group", .str info.group),
    ("last_mod", .int (conv.wide info.lastMod)),
    ("last_access", .int (conv.wide info.lastAccess)),
    ("replication", .int (conv.short info.replication)),
    ("owner", .str info.owner),
    ("permissions", .int (conv.short info.permissions)),
    ("block_size", .int (conv.wide info.blockSize)),
    ("path", .str info.name),
    ("size", .int (conv.size info.size))]

/-- The dictionary of an entry. -/
def infoDict (conv : Conversions) (info : FileInfo) : PyDict String PyObj :=
  PyDict.ofPairs (infoPairs conv info)

/-- A `Py_BuildValue` `'i'` code on a 64-bit argument: its low 32 bits, as an `int`. -/
def intCode (x : Int64) : Int := x.toInt.bmod (2 ^ 32)

/-- `PyLong_FromSize_t` of a `short`: the `short` converted to a 64-bit `size_t`. -/
def fromSizeT (x : Int16) : Int := x.toInt % 2 ^ 64

/-- The format `"{s:O,s:s,s:s,s:i,s:i,s:h,s:s,s:h,s:i,s:O,s:L}"` of `FsClass_get_path_info`:
`'i'` for the times and the block size, `'h'` for the `short`s, `'L'` for the size. -/
def getPathInfoDict (info : FileInfo) : PyDict String PyObj :=
  infoDict ⟨intCode, Int64.toInt, Int16.toInt⟩ info

/-- `setPathInfo`: `PyLong_FromLong` for the times and the block size, `PyLong_FromSize_t` for
the `short`s, `PyLong_FromLongLong` for the size. -/
def setPathInfo (info : FileInfo) : PyDict String PyObj :=
  infoDict ⟨Int64.toInt, Int64.toInt, fromSizeT⟩ info

/-- `FsClass_get_path_info(path)`, where `hdfsGetPathInfo` gives the entry of a path or the text
of the `errno` it fails with. -/
def getPathInfo (lookup : String → Except String FileInfo) (path : String) :
    Except PyExc (PyDict String PyObj) :=
  if path = "" then .error (.valueError "Empty path")
  else
    match lookup path with
    | .ok info => .ok (getPathInfoDict info)
    | .error message => .error (.libraryError message)

/-- `FsClass_list_directory(path)`: the entries of a directory as `hdfsListDirectory` gives them,
or the one entry of a file. -/
def listDirectory (lookup : String → Except String FileInfo)
    (list : String → Except String (List FileInfo)) (path : String) :
    Except PyExc (List (PyDict String PyObj)) :=
  if path = "" then .error (.valueError "Empty path")
  else
    match lookup path with
    | .error message => .error (.libraryError message)
    | .ok info =>
      if info.kind = .directory then
        match list info.name with
        | .ok entries => .ok (entries.map setPathInfo)
        | .error message => .error (.libraryError message)
      else .ok [setPathInfo info]

/-- A value of a C `int`. -/
def FitsInt (x : Int) : Prop := -2 ^ 31 ≤ x ∧ x < 2 ^ 31

theorem keys_infoPairs (conv : Conversions) (info : FileInfo) :
    ((infoPairs conv info).map Prod.fst).Nodup := by
  simp [infoPairs]

theorem infoDict_eq_iff (conv conv' : Conversions) (info : FileInfo) :
    infoDict conv info = infoDict conv' info ↔
      conv.wide info.lastMod = conv'.wide info.lastMod ∧
      conv.wide info.lastAccess = conv'.wide info.lastAccess ∧
      conv.short info.replication = conv'.short info.replication ∧
      conv.short info.permissions = conv'.short info.permissions ∧
      conv.wide info.blockSize = conv'.wide info.blockSize ∧
      conv.size info.size = conv'.size info.size := by
  constructor
  · intro same
    have pairs : infoPairs conv info = infoPairs conv' info := by
      rw [← PyDict.entries_ofPairs (keys_infoPairs conv info),
        ← PyDict.entries_ofPairs (keys_infoPairs conv' info)]
      exact congrArg PyDict.entries same
    simpa [infoPairs] using pairs
  · rintro ⟨lastMod, lastAccess, replication, permissions, blockSize, size⟩
    simp only [infoDict, infoPairs, lastMod, lastAccess, replication, permissions, blockSize, size]

theorem intCode_eq_iff (x : Int64) : intCode x = x.toInt ↔ FitsInt x.toInt := by
  constructor
  · intro kept
    have low : -((2 ^ 32 : Nat) / 2 : Int) ≤ x.toInt.bmod (2 ^ 32) := Int.le_bmod (by decide)
    have high : x.toInt.bmod (2 ^ 32) < ((2 ^ 32 : Nat) + 1) / 2 := Int.bmod_lt (by decide)
    rw [intCode] at kept
    rw [kept] at low high
    exact ⟨by omega, by omega⟩
  · rintro ⟨low, high⟩
    exact Int.bmod_eq_of_le (by omega) (by omega)

theorem toInt_eq_fromSizeT_iff (x : Int16) : x.toInt = fromSizeT x ↔ 0 ≤ x.toInt := by
  have low := Int16.le_toInt x
  have high := Int16.toInt_lt x
  rw [fromSizeT]
  omega

theorem getPathInfoDict_eq_setPathInfo_iff (info : FileInfo) :
    getPathInfoDict info = setPathInfo info ↔
      FitsInt info.lastMod.toInt ∧ FitsInt info.lastAccess.toInt ∧
        0 ≤ info.replication.toInt ∧ 0 ≤ info.permissions.toInt ∧
        FitsInt info.blockSize.toInt := by
  rw [getPathInfoDict, setPathInfo, infoDict_eq_iff]
  simp only [intCode_eq_iff, toInt_eq_fromSizeT_iff, and_true]

section Lookup

variable {lookup : String → Except String FileInfo} {list : String → Except String (List FileInfo)}
  {path : String} {info : FileInfo}

theorem getPathInfo_found (named : path ≠ "") (found : lookup path = .ok info) :
    getPathInfo lookup path = .ok (getPathInfoDict info) := by
  rw [getPathInfo, if_neg named, found]

theorem listDirectory_file (named : path ≠ "") (found : lookup path = .ok info)
    (isFile : info.kind = .file) :
    listDirectory lookup list path = .ok [setPathInfo info] := by
  rw [listDirectory, if_neg named, found]
  simp only [isFile, reduceCtorEq, if_false]

/-- Path-info agreement, as far as it holds: for a file, `get_path_info` and `list_directory`
report the same dictionary exactly when its times and block size fit an `int` and its
replication and permissions are not negative. -/
theorem getPathInfo_agrees_listDirectory_iff (named : path ≠ "") (found : lookup path = .ok info)
    (isFile : info.kind = .file) :
    (getPathInfo lookup path).map (fun entry => [entry]) = listDirectory lookup list path ↔
      FitsInt info.lastMod.toInt ∧ FitsInt info.lastAccess.toInt ∧
        0 ≤ info.replication.toInt ∧ 0 ≤ info.permissions.toInt ∧
        FitsInt info.blockSize.toInt := by
  rw [getPathInfo_found named found, listDirectory_file named found isFile,
    ← getPathInfoDict_eq_setPathInfo_iff]
  simp only [Except.map, Except.ok.injEq, List.cons.injEq, and_true]

end Lookup

/-- A file of one 2 GiB block. -/
def bigBlockFile : FileInfo :=
  ⟨.file, "/user/alice/big", 0, 2147483648, 3, 2147483648, "alice", "supergroup", 420, 0⟩

/-- Its block size is reported as `-2^31` by `get_path_info` and as `2^31` by `list_directory`. -/
theorem getPathInfo_big_block_disagrees :
    (getPathInfo (fun _ => .ok bigBlockFile) "/user/alice/big").map (fun entry => [entry]) ≠
      listDirectory (fun _ => .ok bigBlockFile) (fun _ => .ok []) "/user/alice/big" :=
  fun same => absurd ((getPathInfo_agrees_listDirectory_iff (by decide) rfl rfl).mp same).2.2.2.2.2
    (by decide)

end Pydoop.Hdfs
