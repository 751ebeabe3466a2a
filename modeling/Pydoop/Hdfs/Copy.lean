import Mathlib.Data.List.Infix
import Pydoop.Hdfs.Path
import Pydoop.Lib.Effect
import Pydoop.Lib.PyDict

/-! `pydoop.hdfs.cp` over one file system, seen as the tree of what each path holds. `cp` works
on the path parts that `path.split` leaves of its arguments, and a name that `get_path_info` or
`list_directory` gives back is split again to its path part: the scheme and authority, the same
on both sides here, are left out, with the connections that `cp` opens and closes in its
`finally` block. -/

namespace Pydoop.Hdfs

open Effect Sercore

/-- What a path of the file system holds; `info["kind"]` is `"file"` or `"directory"`. -/
inductive Entry
  | file (data : List UInt8)
  | directory
  deriving DecidableEq, Repr

/-- `info["kind"] == "file"`. -/
def Entry.isFile : Entry → Bool
  | .file _ => true
  | .directory => false

/-- A file system: each path that exists, as its list of components, with what it holds, in the
order `list_directory` gives a directory's entries. -/
structure FileTree where
  entries : PyDict (List (List Char)) Entry

/-- The components the file system reads a path as: the parts between slashes, empty ones
dropped, so that `/a//b/` names `/a/b`. -/
def components (path : List Char) : List (List Char) := (path.splitOn '/').filter (· ≠ [])

/-- The path part of the `name` that `get_path_info` and `list_directory` give an entry. -/
def pathName (parts : List (List Char)) : List Char := '/' :: ['/'].intercalate parts

namespace FileTree

/-- The tree with `entry` at `parts`. -/
def set (t : FileTree) (parts : List (List Char)) (entry : Entry) : FileTree :=
  ⟨t.entries.insert parts entry⟩

/-- `ValueError("Empty path")`, raised by each call of the native file system on `""`. -/
def emptyPath : PyExc := .valueError "Empty path"

/-- The `IOError` of a path that does not exist. -/
def noEntry : PyExc := .libraryError "No such file or directory"

/-- `get_path_info(path)`: the `name` and the `kind` of what `path` holds. -/
def getPathInfo (path : List Char) : Effect PyExc FileTree (List Char × Entry) := do
  if path = [] then throw emptyPath
  match (← get).entries.get? (components path) with
  | some entry => pure (pathName (components path), entry)
  | none => throw noEntry

/-- `exists(path)`; `hdfsExists` failing reads as `False`. -/
def «exists» (path : List Char) : Effect PyExc FileTree Bool := do
  if path = [] then throw emptyPath
  return ((← get).entries.get? (components path)).isSome

/-- One directory on the way down of `hdfsCreateDirectory`: created if missing, an error if a
file is there. -/
def makeDirectory (front : List (List Char)) : Effect PyExc FileTree Unit := do
  match (← get).entries.get? front with
  | some .directory => pure ()
  | some (.file _) => throw (.libraryError "File exists")
  | none => modify fun t => t.set front .directory

/-- `hdfsCreateDirectory` on `parts`: each directory from the root down to `parts`. -/
def makeDirectories (parts : List (List Char)) : Effect PyExc FileTree Unit :=
  parts.inits.forM makeDirectory

/-- `create_directory(path)`. -/
def createDirectory (path : List Char) : Effect PyExc FileTree Unit := do
  if path = [] then throw emptyPath
  makeDirectories (components path)

/-- The entries right below the directory `parts`, in the tree's order. -/
def children (t : FileTree) (parts : List (List Char)) : List (List (List Char) × Entry) :=
  t.entries.entries.filter fun entry => entry.1 ≠ [] ∧ entry.1.dropLast = parts

/-- `list_directory(path)`: the `name` and `kind` of each entry of a directory; of a file, its
own. -/
def listDirectory (path : List Char) : Effect PyExc FileTree (List (List Char × Entry)) := do
  if path = [] then throw emptyPath
  let t ← get
  match t.entries.get? (components path) with
  | some .directory =>
    pure ((t.children (components path)).map fun entry => (pathName entry.1, entry.2))
  | some (.file data) => pure [(pathName (components path), .file data)]
  | none => throw noEntry

/-- `open_file(path, "r")`, read to its end. -/
def readFile (path : List Char) : Effect PyExc FileTree (List UInt8) := do
  if path = [] then throw emptyPath
  match (← get).entries.get? (components path) with
  | some (.file data) => pure data
  | some .directory => throw (.libraryError "Is a directory")
  | none => throw noEntry

/-- `open_file(path, "w")` and the writes into it: the missing parents created, the file created
or truncated, `data` written. -/
def writeFile (path : List Char) (data : List UInt8) : Effect PyExc FileTree Unit := do
  if path = [] then throw emptyPath
  match (← get).entries.get? (components path) with
  | some .directory => throw (.libraryError "Is a directory")
  | _ =>
    makeDirectories (components path).dropLast
    modify fun t => t.set (components path) (.file data)

end FileTree

open FileTree

/-- The whole-file meaning of `_cp_file(src_fs, src_path, dest_fs, dest_path)`: the source read
before the destination is opened for writing, then written to it. -/
def cpFile (srcPath destPath : List Char) : Effect PyExc FileTree Unit := do
  let data ← readFile srcPath
  writeFile destPath data

/-- The directory branch of `cp`, written twice in its body: `destPath` created, its `name` looked
up, and `cp` called on each entry that `list_directory(src)` gives once `destPath` exists. -/
def copyDirectory (recurse : List Char → List Char → Effect PyExc FileTree Unit)
    (srcPath destPath : List Char) : Effect PyExc FileTree Unit := do
  createDirectory destPath
  let destName := (← getPathInfo destPath).1
  (← listDirectory srcPath).forM fun item => recurse item.1 destName

variable (isprintable : Char → Bool)
  (copyFile : List Char → List Char → Effect PyExc FileTree Unit)

/-- `cp(src_hdfs_path, dest_hdfs_path)` on the path parts of its arguments, a file copied by
`copyFile`, the call `_cp_file(src_fs, src_path, dest_fs, dest_path, **kwargs)`. `fuel` counts
the nested calls the interpreter still allows: a call with none left raises `RecursionError`. An
`IOError` of `get_path_info` is caught, any other exception passes; `%r` of a path is its
`repr`. -/
def cp : Nat → List Char → List Char → Effect PyExc FileTree Unit
  | 0, _, _ => throw .recursionError
  | fuel + 1, srcPath, destPath => do
    let srcInfo ← match ← reify (getPathInfo srcPath) with
      | .ok info => pure info
      | .error (.libraryError _) =>
        throw (.libraryError ("no such file or directory: " ++ PyText.reprStr isprintable srcPath))
      | .error e => throw e
    match ← reify (getPathInfo destPath) with
    | .ok destInfo =>
      if destInfo.2.isFile then
        throw (.libraryError (PyText.reprStr isprintable destPath ++ " already exists"))
      let destPath ← ofExcept (Path.join [destPath, Path.basename srcPath])
      if ← «exists» destPath then
        throw (.libraryError (PyText.reprStr isprintable destPath ++ " already exists"))
      if srcInfo.2.isFile then copyFile srcPath destPath
      else copyDirectory (cp fuel) srcPath destPath
    | .error (.libraryError _) =>
      if srcInfo.2.isFile then copyFile srcPath destPath
      else copyDirectory (cp fuel) srcPath destPath
    | .error e => throw e

section Names

open PosixPath

@[simp] theorem pathName_ne_nil (parts : List (List Char)) : pathName parts ≠ [] :=
  List.cons_ne_nil _ _

theorem components_pathName {parts : List (List Char)} (clean : Clean parts) :
    components (pathName parts) = parts := by
  have split : (pathName parts).splitOn '/' = [] :: (['/'].intercalate parts).splitOn '/' := by
    simp [pathName, List.splitOn_cons_eq_if_modifyHead]
  rcases eq_or_ne parts [] with rfl | nonempty
  · rfl
  · rw [components, split,
      List.splitOn_intercalate '/' (fun l member => (clean l member).2) nonempty,
      List.filter_cons_of_neg (by simp)]
    exact List.filter_eq_self.mpr fun l member => by simpa using (clean l member).1

theorem pathName_inj {parts parts' : List (List Char)} (clean : Clean parts) (clean' : Clean parts')
    (same : pathName parts = pathName parts') : parts = parts' := by
  rw [← components_pathName clean, same, components_pathName clean']

theorem pathName_concat (parts : List (List Char)) (n : List Char) :
    pathName (parts ++ [n]) = (if parts = [] then [] else pathName parts) ++ '/' :: n := by
  rcases eq_or_ne parts [] with rfl | nonempty
  · simp [pathName]
  · simp [pathName, intercalate_concat ['/'] nonempty, nonempty]

theorem rstrip_pathName {parts : List (List Char)} (clean : Clean parts) :
    rstrip '/' (pathName parts) = if parts = [] then [] else pathName parts := by
  rcases List.eq_nil_or_concat' parts with rfl | ⟨front, last, rfl⟩
  · rfl
  · obtain ⟨nonempty, noSlash⟩ := clean last (by simp)
    obtain ⟨c, rest, rfl⟩ := List.exists_cons_of_ne_nil nonempty
    rw [if_neg (by simp)]
    apply rstrip_of_getLast
    rw [pathName_concat, List.getLast?_append_of_ne_nil _ (List.cons_ne_nil _ _)]
    intro slash
    exact noSlash (List.mem_of_getLast? (by simpa [List.getLast?_cons] using slash))

theorem basename_pathName_concat (parts : List (List Char)) {n : List Char} (noSlash : '/' ∉ n) :
    Path.basename (pathName (parts ++ [n])) = n := by
  rw [Path.basename, pathName_concat]
  exact basename_append_slash _ noSlash

theorem join_pathName {parts : List (List Char)} (clean : Clean parts) {n : List Char}
    (noSlash : '/' ∉ n) (noColon : ':' ∉ n) :
    Path.join [pathName parts, n] = .ok (pathName (parts ++ [n])) := by
  have relative : n.head? ≠ some '/' := fun head => noSlash (List.mem_of_mem_head? head)
  rw [Path.join_relative_pair _ (Path.isfull_of_colon_free noColon) relative, rstrip_pathName clean,
    pathName_concat]

theorem join_basename_pathName (src : List (List Char)) {dest : List (List Char)}
    (clean : Clean dest) {n : List Char} (noSlash : '/' ∉ n) (noColon : ':' ∉ n) :
    Path.join [pathName dest, Path.basename (pathName (src ++ [n]))] =
      .ok (pathName (dest ++ [n])) := by
  rw [basename_pathName_concat src noSlash, join_pathName clean noSlash noColon]

end Names

namespace FileTree

/-- `parts` and each directory above it are directories of `t`. -/
def DirectoryPath (t : FileTree) (parts : List (List Char)) : Prop :=
  ∀ front ∈ parts.inits, t.entries.get? front = some .directory

instance (t : FileTree) (parts : List (List Char)) : Decidable (t.DirectoryPath parts) :=
  inferInstanceAs (Decidable (∀ front ∈ parts.inits, _))

/-- Nothing of `t` lies below `parts`. -/
def NothingBelow (t : FileTree) (parts : List (List Char)) : Prop :=
  ∀ k ∈ t.entries.keys, parts <+: k → k = parts

instance (t : FileTree) (parts : List (List Char)) : Decidable (t.NothingBelow parts) :=
  inferInstanceAs (Decidable (∀ k ∈ t.entries.keys, _))

theorem forall_below_iff {t : FileTree} {parts : List (List Char)}
    {P : List (List Char) → Prop} :
    (∀ r, (t.entries.get? (parts ++ r)).isSome → P r) ↔
      ∀ k ∈ t.entries.keys, parts <+: k → P (k.drop parts.length) := by
  constructor
  · rintro below k member ⟨r, rfl⟩
    rw [List.drop_left]
    exact below r ((PyDict.mem_keys_iff _ _).mp member)
  · intro below r present
    simpa using below (parts ++ r) ((PyDict.mem_keys_iff _ _).mpr present) (List.prefix_append _ _)

section Calls

variable {t : FileTree} {path : List Char} {parts : List (List Char)} {n : List Char}

@[simp] theorem get?_set (parts k : List (List Char)) (entry : Entry) :
    (t.set parts entry).entries.get? k = if k = parts then some entry else t.entries.get? k := by
  simp [set]

theorem run_getPathInfo_found {entry : Entry} (named : path ≠ [])
    (found : t.entries.get? (components path) = some entry) :
    (getPathInfo path).run t = (.ok (pathName (components path), entry), t) := by
  simp [getPathInfo, named, found, run_bind]

theorem run_getPathInfo_missing (named : path ≠ [])
    (missing : t.entries.get? (components path) = none) :
    (getPathInfo path).run t = (.error noEntry, t) := by
  simp [getPathInfo, named, missing, run_bind]

theorem run_exists (named : path ≠ []) :
    («exists» path).run t = (.ok (t.entries.get? (components path)).isSome, t) := by
  simp [«exists», named]
  rfl

theorem run_makeDirectories_of_directories {fronts : List (List (List Char))}
    (found : ∀ front ∈ fronts, t.entries.get? front = some .directory) :
    (fronts.forM makeDirectory).run t = (.ok (), t) := by
  induction fronts with
  | nil => rfl
  | cons front rest ih =>
    have here : (makeDirectory front).run t = (.ok (), t) := by
      simp [makeDirectory, found front List.mem_cons_self, run_bind]
    rw [List.forM, run_bind_ok here]
    exact ih fun f member => found f (List.mem_cons_of_mem front member)

theorem run_makeDirectories_child (above : t.DirectoryPath parts)
    (fresh : t.entries.get? (parts ++ [n]) = none) :
    (makeDirectories (parts ++ [n])).run t = (.ok (), t.set (parts ++ [n]) .directory) := by
  have inits : (parts ++ [n]).inits = parts.inits ++ [parts ++ [n]] := by
    simp [List.inits_append]
  rw [makeDirectories, inits]
  show (forM (parts.inits ++ [parts ++ [n]]) makeDirectory).run t = _
  rw [List.forM_append,
    run_bind_ok (x := forM parts.inits makeDirectory) (run_makeDirectories_of_directories above)]
  simp [makeDirectory, run_bind, fresh]

theorem run_exists_pathName (clean : PosixPath.Clean parts) :
    («exists» (pathName parts)).run t = (.ok (t.entries.get? parts).isSome, t) := by
  rw [run_exists (pathName_ne_nil parts), components_pathName clean]

theorem run_getPathInfo_pathName {entry : Entry} (clean : PosixPath.Clean parts)
    (found : t.entries.get? parts = some entry) :
    (getPathInfo (pathName parts)).run t = (.ok (pathName parts, entry), t) := by
  rw [run_getPathInfo_found (pathName_ne_nil parts) (by rwa [components_pathName clean]),
    components_pathName clean]

theorem run_listDirectory_directory (named : path ≠ [])
    (found : t.entries.get? (components path) = some .directory) :
    (listDirectory path).run t =
      (.ok ((t.children (components path)).map fun entry => (pathName entry.1, entry.2)), t) := by
  simp [listDirectory, named, found, run_bind]

end Calls

section Shape

variable {t : FileTree} {parts : List (List Char)}

theorem DirectoryPath.found (above : t.DirectoryPath parts) :
    t.entries.get? parts = some .directory :=
  above parts ((List.mem_inits _ _).mpr (List.prefix_refl parts))

theorem NothingBelow.fresh (empty : t.NothingBelow parts) (n : List Char) :
    t.entries.get? (parts ++ [n]) = none := by
  rcases present : t.entries.get? (parts ++ [n]) with _ | entry
  · rfl
  · have member : parts ++ [n] ∈ t.entries.keys :=
      (PyDict.mem_keys_iff _ _).mpr (by simp [present])
    have same := empty _ member (List.prefix_append parts [n])
    simp at same

theorem NothingBelow.not_mem (empty : t.NothingBelow parts) (n : List Char) :
    parts ++ [n] ∉ t.entries.keys := by
  rw [PyDict.mem_keys_iff, empty.fresh n]
  simp

theorem DirectoryPath.set_child (above : t.DirectoryPath parts) (n : List Char) :
    (t.set (parts ++ [n]) .directory).DirectoryPath (parts ++ [n]) := by
  intro front member
  rw [get?_set]
  split
  · rfl
  · rename_i other
    have proper : front <+: parts :=
      ((List.prefix_concat_iff).mp ((List.mem_inits _ _).mp member)).resolve_left other
    exact above front ((List.mem_inits _ _).mpr proper)

theorem NothingBelow.set_child (empty : t.NothingBelow parts) (entry : Entry) (n : List Char) :
    (t.set (parts ++ [n]) entry).NothingBelow (parts ++ [n]) := by
  intro k member below
  rw [set, PyDict.keys_insert_of_not_mem (empty.not_mem n)] at member
  rcases List.mem_append.mp member with old | new
  · have same := empty k old ((List.prefix_append parts [n]).trans below)
    subst same
    exact absurd below.length_le (by simp)
  · exact List.mem_singleton.mp new

theorem mem_children {child : List (List Char) × Entry} :
    child ∈ t.children parts ↔
      ∃ x, child.1 = parts ++ [x] ∧ child ∈ t.entries.entries := by
  rw [children, List.mem_filter, decide_eq_true_iff]
  constructor
  · rintro ⟨member, nonempty, parent⟩
    exact ⟨child.1.getLast nonempty, by rw [← parent, List.dropLast_append_getLast], member⟩
  · rintro ⟨x, shape, member⟩
    exact ⟨member, by simp [shape]⟩

theorem get?_of_mem_children {child : List (List Char) × Entry}
    (member : child ∈ t.children parts) :
    ∃ x, child.1 = parts ++ [x] ∧ t.entries.get? (parts ++ [x]) = some child.2 := by
  obtain ⟨x, shape, inEntries⟩ := mem_children.mp member
  refine ⟨x, shape, ?_⟩
  rw [← shape]
  exact PyDict.get?_of_mem inEntries

theorem mem_children_of_get? {x : List Char} {entry : Entry}
    (found : t.entries.get? (parts ++ [x]) = some entry) :
    (parts ++ [x], entry) ∈ t.children parts :=
  mem_children.mpr ⟨x, rfl, PyDict.mem_of_get? found⟩

theorem nodup_children_keys : ((t.children parts).map Prod.fst).Nodup :=
  t.entries.nodup.sublist (List.filter_sublist.map Prod.fst)

theorem children_set_child (empty : t.NothingBelow parts) (entry : Entry) (n : List Char) :
    (t.set (parts ++ [n]) entry).children parts = [(parts ++ [n], entry)] := by
  have none : t.children parts = [] := by
    apply List.eq_nil_iff_forall_not_mem.mpr
    intro child member
    obtain ⟨x, -, present⟩ := get?_of_mem_children member
    rw [empty.fresh x] at present
    cases present
  rw [children] at none
  rw [children, set, PyDict.entries_insert_of_not_mem (empty.not_mem n), List.filter_append, none]
  simp

end Shape

end FileTree

section Steps

open PosixPath FileTree

variable {t : FileTree} {src : List (List Char)} {entry : Entry}

/-- The directory branch of `cp` to a destination that does not exist, in an existing
directory: the destination is made, and `cp` is called on each entry the source has once it is
made, by its `name`. -/
theorem run_copyDirectory_to_missing
    (recurse : List Char → List Char → Effect PyExc FileTree Unit)
    {front : List (List Char)} {m : List Char} (srcClean : Clean src)
    (source : t.entries.get? src = some .directory) (above : t.DirectoryPath front)
    (destClean : Clean (front ++ [m])) (fresh : t.entries.get? (front ++ [m]) = none) :
    (copyDirectory recurse (pathName src) (pathName (front ++ [m]))).run t =
      (((t.set (front ++ [m]) .directory).children src).forM fun entry =>
        recurse (pathName entry.1) (pathName (front ++ [m]))).run
          (t.set (front ++ [m]) .directory) := by
  have made : (createDirectory (pathName (front ++ [m]))).run t =
      (.ok (), t.set (front ++ [m]) .directory) := by
    simp [createDirectory, components_pathName destClean, run_makeDirectories_child above fresh]
  have named : (getPathInfo (pathName (front ++ [m]))).run (t.set (front ++ [m]) .directory) =
      (.ok (pathName (front ++ [m]), .directory), t.set (front ++ [m]) .directory) :=
    run_getPathInfo_pathName destClean (by simp)
  have stillSource : (t.set (front ++ [m]) .directory).entries.get? src = some .directory := by
    rw [get?_set]
    split
    · rfl
    · exact source
  have listed := run_listDirectory_directory (t := t.set (front ++ [m]) .directory)
    (pathName_ne_nil src) (by rwa [components_pathName srcClean])
  rw [copyDirectory, run_bind_ok made, run_bind_ok named]
  dsimp only
  have mapped : List.forM (((t.set (front ++ [m]) .directory).children src).map fun entry =>
        (pathName entry.1, entry.2)) (fun item => recurse item.1 (pathName (front ++ [m]))) =
      List.forM ((t.set (front ++ [m]) .directory).children src) fun entry =>
        recurse (pathName entry.1) (pathName (front ++ [m])) :=
    List.forM_map
  rw [run_bind_ok listed, components_pathName srcClean, mapped]

/-- `cp` of an entry to a destination that does not exist: `get_path_info` of the destination
raises `IOError`, which `cp` catches, and the source's kind picks `_cp_file` or the directory
branch with the destination as given. -/
theorem run_cp_to_missing (fuel : Nat) {destPath : List Char} (srcClean : Clean src)
    (found : t.entries.get? src = some entry) (named : destPath ≠ [])
    (missing : t.entries.get? (components destPath) = none) :
    (cp isprintable copyFile (fuel + 1) (pathName src) destPath).run t =
      (if entry.isFile then copyFile (pathName src) destPath
        else copyDirectory (cp isprintable copyFile fuel) (pathName src) destPath).run t := by
  simp only [cp, run_bind, run_reify, run_pure, run_getPathInfo_pathName srcClean found,
    run_getPathInfo_missing named missing, noEntry]

/-- `cp` of an entry `src ++ [x]` into an existing directory `dest`: the target is the entry `x`
of `dest`, `cp` raises `IOError` if it exists, and otherwise the source's kind picks `_cp_file`
or the directory branch. -/
theorem run_cp_into_directory (fuel : Nat) {dest : List (List Char)} {x : List Char}
    (srcClean : Clean (src ++ [x])) (colonFree : ':' ∉ x)
    (found : t.entries.get? (src ++ [x]) = some entry) (destClean : Clean dest)
    (directory : t.entries.get? dest = some .directory) :
    (cp isprintable copyFile (fuel + 1) (pathName (src ++ [x])) (pathName dest)).run t =
      (do
        if ← «exists» (pathName (dest ++ [x])) then
          throw (PyExc.libraryError
            (PyText.reprStr isprintable (pathName (dest ++ [x])) ++ " already exists"))
        if entry.isFile then copyFile (pathName (src ++ [x])) (pathName (dest ++ [x]))
        else
          copyDirectory (cp isprintable copyFile fuel) (pathName (src ++ [x]))
            (pathName (dest ++ [x]))).run t := by
  have joined := join_basename_pathName src destClean (srcClean x (by simp)).2 colonFree
  simp only [cp, run_bind, run_reify, run_pure, run_getPathInfo_pathName srcClean found,
    run_getPathInfo_pathName destClean directory, Entry.isFile, Bool.false_eq_true, if_false,
    joined, run_ofExcept]

end Steps

section Recursion

open PosixPath FileTree

variable {t : FileTree} {parts : List (List Char)} {n : List Char}

theorem run_copyDirectory_into_child
    (recurse : List Char → List Char → Effect PyExc FileTree Unit)
    (above : t.DirectoryPath parts) (empty : t.NothingBelow parts) (clean : Clean (parts ++ [n])) :
    (copyDirectory recurse (pathName parts) (pathName (parts ++ [n]))).run t =
      ([(parts ++ [n], Entry.directory)].forM fun entry =>
        recurse (pathName entry.1) (pathName (parts ++ [n]))).run
          (t.set (parts ++ [n]) .directory) := by
  rw [run_copyDirectory_to_missing recurse clean.of_append_left above.found above clean
    (empty.fresh n), children_set_child empty]

theorem cp_self_recursionError (fuel : Nat) :
    ∀ {t : FileTree} {parts : List (List Char)}, t.DirectoryPath (parts ++ [n]) →
      t.NothingBelow (parts ++ [n]) → Clean (parts ++ [n]) → ':' ∉ n →
      ∃ t', (cp isprintable copyFile fuel (pathName (parts ++ [n]))
        (pathName (parts ++ [n]))).run t =
        (.error .recursionError, t') := by
  induction fuel with
  | zero => exact fun {t} _ _ _ _ _ => ⟨t, rfl⟩
  | succ fuel ih =>
    intro t parts above empty clean noColon
    have deeper : Clean (parts ++ [n] ++ [n]) := clean.concat (clean n (by simp))
    have absent : («exists» (pathName (parts ++ [n] ++ [n]))).run t = (.ok false, t) := by
      rw [run_exists_pathName deeper, empty.fresh n]
      rfl
    -- the nested call is this one again, on the new entry `n` of `parts ++ [n]`
    obtain ⟨t', ran⟩ := ih (above.set_child n) (empty.set_child .directory n) deeper noColon
    refine ⟨t', ?_⟩
    rw [run_cp_into_directory isprintable copyFile fuel clean noColon above.found clean above.found]
    simp only [run_bind, absent, Entry.isFile, Bool.false_eq_true, if_false,
      run_copyDirectory_into_child (cp isprintable copyFile fuel) above empty deeper]
    rw [List.forM, run_bind_error ran]

/-- A destination inside the source, here a new entry `n` of a directory with nothing below it:
`cp` creates the entry before it lists the source, finds the entry there and copies it into itself,
and so on down, one new directory at each level, until no nested call is left. -/
theorem cp_into_own_subtree (fuel : Nat) (t : FileTree) (above : t.DirectoryPath parts)
    (empty : t.NothingBelow parts) (clean : Clean (parts ++ [n])) (noColon : ':' ∉ n) :
    ∃ t', (cp isprintable copyFile fuel (pathName parts) (pathName (parts ++ [n]))).run t =
      (.error .recursionError, t') := by
  cases fuel with
  | zero => exact ⟨t, rfl⟩
  | succ fuel =>
    have missing : t.entries.get? (components (pathName (parts ++ [n]))) = none := by
      rw [components_pathName clean]
      exact empty.fresh n
    obtain ⟨t', ran⟩ :=
      cp_self_recursionError isprintable copyFile fuel (above.set_child n)
        (empty.set_child .directory n) clean noColon
    refine ⟨t', ?_⟩
    rw [run_cp_to_missing isprintable copyFile fuel clean.of_append_left above.found
      (pathName_ne_nil _) missing]
    simp only [Entry.isFile, Bool.false_eq_true, if_false,
      run_copyDirectory_into_child (cp isprintable copyFile fuel) above empty clean]
    rw [List.forM, run_bind_error ran]

/-- `/a` an empty directory of the root. -/
def emptyDirectoryTree : FileTree :=
  ⟨⟨[([], .directory), ([['a']], .directory)], by decide⟩⟩

/-- `cp("/a", "/a/b")` with the interpreter's default bound of 1000 nested calls. -/
theorem cp_into_own_subtree_a_b :
    pathName [['a']] = "/a".toList ∧ pathName ([['a']] ++ [['b']]) = "/a/b".toList ∧
      ∃ t', (cp (fun _ => true) cpFile 1000 (pathName [['a']])
          (pathName ([['a']] ++ [['b']]))).run
          emptyDirectoryTree =
        (.error .recursionError, t') :=
  ⟨by decide, by decide,
    cp_into_own_subtree (fun _ => true) cpFile 1000 emptyDirectoryTree (by decide) (by decide)
      (by simp [Clean])
      (by decide)⟩

end Recursion

/-- A source given with a trailing slash has an empty `basename`, so the entry `cp` copies to in
an existing directory `dest` is `dest/`, which is `dest` itself: `cp` raises, whatever `dest`
holds. -/
theorem cp_trailing_slash_raises (fuel : Nat) (t : FileTree) {srcPath destPath : List Char}
    {entry : Entry} (slash : srcPath.getLast? = some '/')
    (source : t.entries.get? (components srcPath) = some entry) (named : destPath ≠ [])
    (plain : destPath.getLast? ≠ some '/')
    (directory : t.entries.get? (components destPath) = some .directory) :
    (cp isprintable copyFile (fuel + 1) srcPath destPath).run t =
      (.error (.libraryError (PyText.reprStr isprintable (destPath ++ ['/']) ++ " already exists")),
        t) := by
  obtain ⟨front, rfl⟩ := List.getLast?_eq_some_iff.mp slash
  have unnamed : Path.basename (front ++ ['/']) = [] := by
    simp [Path.basename, PosixPath.basename, List.rtakeWhile_concat_neg]
  have joined : Path.join [destPath, []] = .ok (destPath ++ ['/']) := by
    rw [Path.join_relative_pair _ (Path.isfull_of_colon_free List.not_mem_nil) (by simp),
      PosixPath.rstrip_of_getLast plain]
  have same : components (destPath ++ ['/']) = components destPath := by
    simp [components, List.splitOn_append_cons_self]
  have present : («exists» (destPath ++ ['/'])).run t = (.ok true, t) := by
    rw [run_exists (by simp), same, directory]
    rfl
  simp only [cp, run_bind, run_reify, run_pure, run_getPathInfo_found (by simp) source,
    run_getPathInfo_found named directory, Entry.isFile, Bool.false_eq_true, if_false, unnamed,
    joined, run_ofExcept, present, if_true, run_throw]

end Pydoop.Hdfs
