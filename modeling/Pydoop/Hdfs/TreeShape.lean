import Pydoop.Hdfs.Walk
import Pydoop.Hdfs.Transfer

/-! The shape a file system keeps under every call `pydoop.hdfs` makes on it: the root is a
directory, every other entry lies in a directory, and every path is a list of names that are
not empty and hold no slash. Creating directories, writing a file, `dump`, `_cp_file` and `cp`,
returning or raising at any point, keep it; `load`, `lsl` and the other lookups only read. So
every file system a program reaches from an empty one has that shape, and there the conditions
that the results on `cp` and `walk` ask of the source hold by themselves: `lsl(path,
recursive=True)` of any directory lists each entry below it once. -/

namespace Pydoop.Hdfs

open Effect Sercore HadoopUtils PosixPath FileTree

namespace FileTree

/-- The shape of a file system. -/
structure WellFormed (t : FileTree) : Prop where
  root : t.entries.get? [] = some .directory
  closed : t.Closed []
  clean : ∀ k ∈ t.entries.keys, Clean k

/-- The file system of a fresh HDFS: the root directory alone. -/
def rootOnly : FileTree := ⟨⟨[([], .directory)], by decide⟩⟩

theorem wellFormed_rootOnly : rootOnly.WellFormed := ⟨by decide, by decide, by decide⟩

section Shape

variable {t : FileTree} {parts : List (List Char)}

theorem WellFormed.closedAt (wf : t.WellFormed) (src : List (List Char)) : t.Closed src := by
  intro r nonempty present
  have whole := wf.closed (src ++ r) (by simp [nonempty]) (by simpa using present)
  simpa [List.dropLast_append_of_ne_nil nonempty] using whole

theorem WellFormed.cleanBelow (wf : t.WellFormed) (src : List (List Char)) : t.CleanBelow src :=
  fun _ present => wf.clean _ ((PyDict.mem_keys_iff _ _).mpr present)

theorem WellFormed.set (wf : t.WellFormed) (nonempty : parts ≠ []) (clean : Clean parts)
    (parent : t.entries.get? parts.dropLast = some .directory) {entry : Entry}
    (noDirectory : entry = .directory ∨ t.entries.get? parts ≠ some .directory) :
    (t.set parts entry).WellFormed := by
  refine ⟨?_, ?_, ?_⟩
  · rw [get?_set, if_neg (Ne.symm nonempty)]
    exact wf.root
  · intro r notRoot present
    rw [List.nil_append] at present ⊢
    rw [get?_set] at present ⊢
    have before : t.entries.get? r.dropLast = some .directory := by
      by_cases same : r = parts
      · rw [same]
        exact parent
      · rw [if_neg same] at present
        simpa using wf.closed r notRoot (by simpa using present)
    split
    · rename_i below
      rcases noDirectory with rfl | notDir
      · rfl
      · exact absurd (below ▸ before) notDir
    · exact before
  · intro k member
    rcases PyDict.mem_keys_insert member with old | rfl
    · exact wf.clean k old
    · exact clean

end Shape

end FileTree

/-! ### The calls that change the file system -/

theorem clean_components (path : List Char) : Clean (components path) := by
  intro c member
  rw [components, List.mem_filter, decide_eq_true_iff] at member
  exact ⟨member.2, not_mem_of_mem_splitOn c member.1⟩

section Calls

variable {t : FileTree}

/-- Creating the directories down to `parts` keeps the shape; once it returns, they are all
there. By induction on `parts` from its end: each directory is made in the one above it. -/
theorem makeDirectories_spec {parts : List (List Char)} (clean : Clean parts) :
    Triple WellFormed (makeDirectories parts) fun o s =>
      s.WellFormed ∧ (o = .ok () → s.DirectoryPath parts) := by
  induction parts using List.reverseRecOn with
  | nil =>
    intro s wf
    have made : (makeDirectories []).run s = (.ok (), s) := by
      simp [makeDirectories, makeDirectory, wf.root, run_bind]
    rw [made]
    exact ⟨wf, fun _ front member => by simpa [List.mem_singleton.mp (by simpa using member)] using wf.root⟩
  | append_singleton front x ih =>
    have unfolded : makeDirectories (front ++ [x]) =
        makeDirectories front >>= fun _ => makeDirectory (front ++ [x]) := by
      rw [makeDirectories, List.inits_append]
      simp [makeDirectories, List.forM_append]
    rw [unfolded]
    refine Triple.bind (ih (Clean.of_append_left clean)) (fun _ => ?_) fun e s post =>
      ⟨post.1, fun raised => by cases raised⟩
    rintro s ⟨wf, above⟩
    have above := above rfl
    rcases found : s.entries.get? (front ++ [x]) with _ | entry
    · have ran : (makeDirectory (front ++ [x])).run s = (.ok (), s.set (front ++ [x]) .directory) := by
        simp [makeDirectory, found, run_bind]
      rw [ran]
      refine ⟨wf.set (by simp) clean (by simpa using above.found) (.inl rfl), fun _ => ?_⟩
      exact above.set_child x
    · cases entry with
      | directory =>
        have ran : (makeDirectory (front ++ [x])).run s = (.ok (), s) := by
          simp [makeDirectory, found, run_bind]
        rw [ran]
        refine ⟨wf, fun _ prefix' member => ?_⟩
        rcases (List.mem_inits _ _).mp member |> List.prefix_concat_iff.mp with same | proper
        · rw [same]
          exact found
        · exact above prefix' ((List.mem_inits _ _).mpr proper)
      | file data =>
        have ran : (makeDirectory (front ++ [x])).run s =
            (.error (.libraryError "File exists"), s) := by
          simp [makeDirectory, found, run_bind]
        rw [ran]
        exact ⟨wf, fun raised => by cases raised⟩

theorem makeDirectories_frame (parts : List (List Char)) (t₀ : FileTree) :
    Keeps (fun s : FileTree => ∀ k, parts.length < k.length → s.entries.get? k = t₀.entries.get? k)
      (makeDirectories parts) := by
  refine Keeps.forM fun front member => ?_
  have short : front.length ≤ parts.length := ((List.mem_inits _ _).mp member).length_le
  intro s same k longer
  rcases found : s.entries.get? front with _ | entry
  · simp only [makeDirectory, found, run_bind, run_get, run_modify, get?_set]
    rw [if_neg (by rintro rfl; omega)]
    exact same k longer
  · cases entry <;> simpa [makeDirectory, found, run_bind] using same k longer

theorem run_writeFile_directory {path : List Char} {data : Bytes} (named : path ≠ [])
    (directory : t.entries.get? (components path) = some .directory) :
    (writeFile path data).run t = (.error (.libraryError "Is a directory"), t) := by
  simp [writeFile, named, directory, run_bind]

theorem run_writeFile_other {path : List Char} {data : Bytes} (named : path ≠ [])
    (other : t.entries.get? (components path) ≠ some .directory) :
    (writeFile path data).run t = (makeDirectories (components path).dropLast >>= fun _ =>
      modify fun t => t.set (components path) (.file data) : Effect PyExc FileTree Unit).run t := by
  rcases found : t.entries.get? (components path) with _ | entry
  · simp [writeFile, named, found, run_bind]
  · cases entry with
    | directory => exact absurd found other
    | file old => simp [writeFile, named, found, run_bind]

theorem keeps_writeFile (path : List Char) (data : Bytes) :
    Keeps WellFormed (writeFile path data) := by
  intro s wf
  by_cases named : path = []
  · simpa [writeFile, named] using wf
  by_cases directory : s.entries.get? (components path) = some .directory
  · rw [run_writeFile_directory named directory]
    exact wf
  have below : components path ≠ [] := fun root => directory (root ▸ wf.root)
  have clean := clean_components path
  have spec := makeDirectories_spec (fun c member => clean c (List.mem_of_mem_dropLast member)) s wf
  have frame := makeDirectories_frame (components path).dropLast s s fun _ _ => rfl
  rw [run_writeFile_other named directory, run_bind]
  rcases made : (makeDirectories (components path).dropLast).run s with ⟨_ | u, s'⟩
  · rw [made] at spec
    exact spec.1
  · rw [made] at spec frame
    have longer : (components path).dropLast.length < (components path).length := by
      rw [List.length_dropLast]
      have := List.length_pos_of_ne_nil below
      omega
    have kept := frame (components path) longer
    exact spec.1.set below clean (spec.2 rfl).found (.inr (kept ▸ directory))

theorem keeps_createDirectory (path : List Char) : Keeps WellFormed (createDirectory path) := by
  intro s wf
  by_cases named : path = []
  · simpa [createDirectory, named] using wf
  · simpa [createDirectory, named] using (makeDirectories_spec (clean_components path) s wf).1

theorem FileTree.WellFormed.set_file (wf : t.WellFormed) {parts : List (List Char)} {old : Bytes}
    (file : t.entries.get? parts = some (.file old)) (data : Bytes) :
    (t.set parts (.file data)).WellFormed := by
  have nonempty : parts ≠ [] := by
    rintro rfl
    rw [wf.root] at file
    cases file
  have present : (t.entries.get? parts).isSome := by simp [file]
  have parent := wf.closed parts nonempty (by simpa using present)
  rw [List.nil_append] at parent
  exact wf.set nonempty (wf.clean parts ((PyDict.mem_keys_iff _ _).mpr present)) parent
    (.inr (by simp [file]))

end Calls

/-! ### Lookups, which change nothing -/

section Lookups

theorem stays_getPathInfo (path : List Char) : Stays (FileTree.getPathInfo path) := by
  intro s
  by_cases named : path = []
  · simp [FileTree.getPathInfo, named]
  · simp only [FileTree.getPathInfo, named, if_false]
    exact Stays.get_bind (fun t => by split <;> first | exact Stays.pure _ | exact Stays.throw _) s

theorem stays_exists (path : List Char) : Stays («exists» path) := by
  intro s
  by_cases named : path = [] <;> simp [«exists», named]

theorem stays_listDirectory (path : List Char) : Stays (FileTree.listDirectory path) := by
  intro s
  by_cases named : path = []
  · simp [FileTree.listDirectory, named]
  · simp only [FileTree.listDirectory, named, if_false]
    exact Stays.get_bind (fun t => by split <;> first | exact Stays.pure _ | exact Stays.throw _) s

theorem stays_readFile (path : List Char) : Stays (readFile path) := by
  intro s
  by_cases named : path = []
  · simp [readFile, named]
  · simp only [readFile, named, if_false]
    exact Stays.get_bind (fun t => by split <;> first | exact Stays.pure _ | exact Stays.throw _) s

theorem walk_inl (fuel : Nat) (path : List Char) :
    walk (fuel + 1) (.inl path) = if path = [] then throw emptyPath else
      FileTree.getPathInfo path >>= fun info => walk (fuel + 1) (.inr info) := by
  by_cases named : path = [] <;> simp [walk, named]

/-- `walk` only lists: by induction on the nested calls left, each level a lookup, a listing and
the walks one level down. -/
theorem stays_walk (fuel : Nat) (top : List Char ⊕ (List Char × Entry)) : Stays (walk fuel top) := by
  induction fuel generalizing top with
  | zero => exact Stays.throw _
  | succ fuel ih =>
    have entry : ∀ info, Stays (walk (fuel + 1) (.inr info)) := by
      intro info
      rw [walk]
      refine (Stays.pure info).bind fun top => ?_
      dsimp only
      split
      · exact (stays_listDirectory _).bind fun _ =>
          (Stays.mapM fun info _ => ih (.inr info)).bind fun _ => Stays.pure _
      · exact Stays.pure _
    cases top with
    | inl path =>
      rw [walk_inl]
      split
      · exact Stays.throw _
      · exact (stays_getPathInfo path).bind entry
    | inr info => exact entry info

theorem stays_lsl (fuel : Nat) (path : List Char) (recursive : Bool) :
    Stays (lsl fuel path recursive) := by
  unfold lsl
  split
  · exact stays_listDirectory path
  · refine (stays_walk fuel _).bind fun walked => ?_
    split
    · split <;> exact Stays.pure _
    · exact Stays.throw _

theorem stays_openRead (buff_size : Int) (path : List Char) : Stays (openRead buff_size path) :=
  (stays_readFile path).bind fun _ => Stays.pure _

theorem stays_load (grant : Grant) (buff_size : Int) (path : List Char) :
    Stays (load grant buff_size path) := by
  exact (stays_openRead buff_size path).bind fun fi => Stays.ofExcept _

end Lookups

/-! ### Copies and writes -/

section Copies

theorem keeps_copyDirectory {recurse : List Char → List Char → Effect PyExc FileTree Unit}
    (each : ∀ srcPath destPath, Keeps WellFormed (recurse srcPath destPath))
    (srcPath destPath : List Char) : Keeps WellFormed (copyDirectory recurse srcPath destPath) :=
  (keeps_createDirectory destPath).bind fun _ =>
    (stays_getPathInfo destPath).keeps.bind fun info =>
      (stays_listDirectory srcPath).keeps.bind fun _ =>
        Keeps.forM fun item _ => each item.1 info.1

/-- `cp`, returning or raising, with any number of nested calls left, keeps the shape when its
file copy does: each of its branches looks up, raises, or copies a file or a directory, and a
directory's entries are copied by `cp` with one nested call less. -/
theorem keeps_cp (isprintable : Char → Bool)
    {copyFile : List Char → List Char → Effect PyExc FileTree Unit}
    (copies : ∀ srcPath destPath, Keeps WellFormed (copyFile srcPath destPath)) (fuel : Nat)
    (srcPath destPath : List Char) :
    Keeps WellFormed (cp isprintable copyFile fuel srcPath destPath) := by
  induction fuel generalizing srcPath destPath with
  | zero => exact Keeps.throw _
  | succ fuel ih =>
    have copies : ∀ (isFile : Bool) (dest : List Char),
        Keeps WellFormed
          (if isFile then copyFile srcPath dest
            else copyDirectory (cp isprintable copyFile fuel) srcPath dest) := by
      intro isFile dest
      split
      · exact copies srcPath dest
      · exact keeps_copyDirectory ih srcPath dest
    rw [cp]
    dsimp only
    refine (stays_getPathInfo srcPath).reify.keeps.bind fun source => ?_
    split
    · refine (Keeps.pure _).bind fun srcInfo => ?_
      refine (stays_getPathInfo destPath).reify.keeps.bind fun target => ?_
      split
      · split
        · exact Keeps.throw_bind _ _
        · refine (Keeps.ofExcept _).bind fun dest => (stays_exists dest).keeps.bind fun there => ?_
          split
          · exact Keeps.throw_bind _ _
          · exact copies _ dest
      · exact copies _ destPath
      · exact Keeps.throw _
    · exact Keeps.throw_bind _ _
    · exact Keeps.throw_bind _ _

theorem keeps_dump (data : Bytes) (path : List Char) : Keeps WellFormed (dump data path) := by
  intro s wf
  rw [dump_refines]
  exact keeps_writeFile path data s wf

theorem keeps_cpFileChunked (grant : Grant) (buff_size : Int) (srcPath destPath : List Char) :
    Keeps WellFormed (cpFileChunked grant buff_size srcPath destPath) := by
  intro s wf
  rcases read : (readFile srcPath).run s with ⟨_ | data, s'⟩
  all_goals obtain rfl : s' = s := by simpa [read] using stays_readFile srcPath s
  · simpa [cpFileChunked, openRead, run_bind, read] using wf
  · obtain ⟨front, -, written⟩ :=
      @run_cpFileChunked_front grant buff_size srcPath destPath s' data read
    rw [written]
    exact keeps_writeFile destPath front s' wf

end Copies

/-! ### Deleting -/

namespace FileTree

/-- `t` without `parts` and all that lies below it. -/
def prune (t : FileTree) (parts : List (List Char)) : FileTree :=
  ⟨t.entries.filterKeys fun k => !decide (parts <+: k)⟩

/-- The `IOError` of `hdfsDelete` when `FileSystem.delete` returns `false`, as it does for a path
that does not exist and for the root: `errno` is `EIO`. -/
def deleteFailed : PyExc := .libraryError "Input/output error"

/-- The `IOError` of `hdfsDelete` when `FileSystem.delete` throws for a directory with entries
that it is not to delete recursively: an exception libhdfs has no `errno` for, `EINTERNAL`. -/
def notEmpty : PyExc := .libraryError "Unknown error 255"

/-- `delete(path, recursive)`: `hdfsDelete` removes the entry at `path`, and what lies below it. -/
def delete (path : List Char) (recursive : Bool) : Effect PyExc FileTree Unit := do
  if path = [] then throw emptyPath
  let t ← get
  match t.entries.get? (components path) with
  | none => throw deleteFailed
  | some entry =>
    if components path = [] then throw deleteFailed
    if !recursive && entry == .directory && !(t.children (components path)).isEmpty then
      throw notEmpty
    modify (·.prune (components path))

@[simp] theorem get?_prune (t : FileTree) (parts k : List (List Char)) :
    (t.prune parts).entries.get? k = if parts <+: k then none else t.entries.get? k := by
  by_cases inside : parts <+: k <;> simp [prune, inside]

theorem WellFormed.prune {t : FileTree} (wf : t.WellFormed) {parts : List (List Char)}
    (nonempty : parts ≠ []) : (t.prune parts).WellFormed := by
  refine ⟨?_, ?_, ?_⟩
  · rw [get?_prune, if_neg (by rwa [List.prefix_nil])]
    exact wf.root
  · intro r notRoot present
    rw [List.nil_append] at present ⊢
    rw [get?_prune] at present ⊢
    split at present
    · simp at present
    · rename_i outside
      have parentOutside : ¬ parts <+: r.dropLast :=
        fun inside => outside (inside.trans (List.dropLast_prefix r))
      rw [if_neg parentOutside]
      simpa using wf.closed r notRoot (by simpa using present)
  · intro k member
    rw [PyDict.mem_keys_iff, get?_prune] at member
    split at member
    · simp at member
    · exact wf.clean k ((PyDict.mem_keys_iff _ _).mpr member)

end FileTree

theorem keeps_delete (path : List Char) (recursive : Bool) :
    Keeps WellFormed (delete path recursive) := by
  intro s wf
  by_cases named : path = []
  · simpa [delete, named] using wf
  -- the root is not removed
  by_cases root : components path = []
  · simpa [delete, named, root, wf.root, run_bind] using wf
  rcases found : s.entries.get? (components path) with _ | entry
  · simpa [delete, named, found, run_bind] using wf
  have pruned := wf.prune root
  simp only [delete, named, found, root, if_false, run_bind, run_get]
  split <;> simp [pruned, wf]

/-! ### Programs -/

/-- A call of `pydoop.hdfs` on one file system, with the path parts of its arguments. -/
inductive FsCall
  | dump (data : Bytes) (path : List Char)
  | load (buff_size : Int) (path : List Char)
  | cp (srcPath destPath : List Char)
  | mkdir (path : List Char)
  | rm (path : List Char) (recursive : Bool)
  | lsl (path : List Char) (recursive : Bool)
  deriving DecidableEq, Repr

/-- What a call does, its result dropped: `cp` and `lsl` with `fuel` nested calls left, each
`hdfsRead` of `load` and of `cp`'s `_cp_file` returning what `grant` says, and `repr`
consulting `isprintable`. `cp` passes no keyword arguments, so `_cp_file` opens its files with
the default `buff_size`. -/
def FsCall.run (isprintable : Char → Bool) (fuel : Nat) (grant : Grant) :
    FsCall → Effect PyExc FileTree Unit
  | .dump data path => Hdfs.dump data path
  | .load buff_size path => do let _ ← Hdfs.load grant buff_size path
  | .cp srcPath destPath => Hdfs.cp isprintable (cpFileChunked grant 0) fuel srcPath destPath
  | .mkdir path => createDirectory path
  | .rm path recursive => delete path recursive
  | .lsl path recursive => do let _ ← Hdfs.lsl fuel path recursive

/-- A program's calls one after another, each on the file system the one before left, whether
it returned or raised an exception that the program caught. -/
def runCalls (isprintable : Char → Bool) (fuel : Nat) (grant : Grant) (calls : List FsCall)
    (t : FileTree) : FileTree :=
  calls.foldl (fun t call => ((call.run isprintable fuel grant).run t).2) t

theorem keeps_run (isprintable : Char → Bool) (fuel : Nat) (grant : Grant) (call : FsCall) :
    Keeps WellFormed (call.run isprintable fuel grant) := by
  cases call with
  | dump data path => exact keeps_dump data path
  | load buff_size path => exact (stays_load grant buff_size path).keeps.bind fun _ => Keeps.pure ()
  | cp srcPath destPath =>
    exact keeps_cp isprintable (keeps_cpFileChunked grant 0) fuel srcPath destPath
  | mkdir path => exact keeps_createDirectory path
  | rm path recursive => exact keeps_delete path recursive
  | lsl path recursive => exact (stays_lsl fuel path recursive).keeps.bind fun _ => Keeps.pure ()

/-- On a well-formed file system, `lsl(path, recursive=True)` of a directory returns each entry
below it once, by its name, and changes nothing, given as many nested calls as the tree below it
is deep. -/
theorem lsl_recursive_wellFormed (depth : Nat) {t : FileTree} (wf : t.WellFormed)
    {src : List (List Char)} (source : t.entries.get? src = some .directory)
    (shallow : t.Shallow src depth) :
    ∃ items, (lsl (depth + 1) (pathName src) true).run t = (.ok items, t) ∧
      (items.map Prod.fst).Nodup ∧
      ∀ name e, (name, e) ∈ items ↔
        ∃ r, r ≠ [] ∧ t.entries.get? (src ++ r) = some e ∧ name = pathName (src ++ r) :=
  lsl_recursive_directory depth source (wf.closedAt src) (wf.cleanBelow src) shallow

/-- `lsl("/a", recursive=True)` on the sample tree. -/
theorem lsl_recursive_wellFormed_sample :
    ∃ items, (lsl 3 (pathName [['a']]) true).run sampleTree = (.ok items, sampleTree) ∧
      (items.map Prod.fst).Nodup ∧
      ∀ name e, (name, e) ∈ items ↔ ∃ r, r ≠ [] ∧
        sampleTree.entries.get? ([['a']] ++ r) = some e ∧ name = pathName ([['a']] ++ r) :=
  lsl_recursive_wellFormed 2 ⟨by decide, by decide, by decide⟩ (by decide) (by decide)

end Pydoop.Hdfs
