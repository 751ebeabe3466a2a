import Pydoop.Hdfs.Copy

/-! What `cp` does where it works: the entry at `src`, a file or a directory tree, copied to a
destination that does not exist and lies outside `src`. With as many nested calls left as the
tree below `src` is deep, `cp` returns, what lies below the destination is what lay below `src`,
and everything else is as it was. Where `cp` raises `IOError` instead (a missing source, a
destination that is a file, a target that exists), it has changed nothing. The trees here are
read through `get?` alone: the order of the entries, which only decides the order of the copies,
plays no part. A file is copied here by `cpFile`, whole, as `_cp_file` copies it for a reader
that never fails. -/

namespace Pydoop.Hdfs

open Effect Sercore PosixPath

namespace FileTree

/-- `t'` is `t` with what `t` holds at and below `src` copied to `dest`, and all else as in
`t`. -/
structure Copied (t t' : FileTree) (src dest : List (List Char)) : Prop where
  outside : ∀ k, ¬ dest <+: k → t'.entries.get? k = t.entries.get? k
  inside : ∀ r, t'.entries.get? (dest ++ r) = t.entries.get? (src ++ r)

/-- Below `src`, the parent of each entry is a directory. -/
def Closed (t : FileTree) (src : List (List Char)) : Prop :=
  ∀ r, r ≠ [] → (t.entries.get? (src ++ r)).isSome →
    t.entries.get? (src ++ r.dropLast) = some .directory

/-- Each path at or below `src` is clean, and no name below `src` holds a colon. -/
def Plain (t : FileTree) (src : List (List Char)) : Prop :=
  ∀ r, (t.entries.get? (src ++ r)).isSome → Clean (src ++ r) ∧ ∀ x ∈ r, ':' ∉ x

/-- Nothing lies more than `depth` levels below `src`. -/
def Shallow (t : FileTree) (src : List (List Char)) (depth : Nat) : Prop :=
  ∀ r, (t.entries.get? (src ++ r)).isSome → r.length ≤ depth

/-- Nothing at or below `dest`. -/
def Vacant (t : FileTree) (dest : List (List Char)) : Prop :=
  ∀ r, t.entries.get? (dest ++ r) = none

/-! Each of these is decided over the keys that extend the path. -/

instance (t : FileTree) (src : List (List Char)) : Decidable (t.Closed src) :=
  decidable_of_iff (∀ k ∈ t.entries.keys, src <+: k → k.drop src.length ≠ [] →
      t.entries.get? (src ++ (k.drop src.length).dropLast) = some .directory)
    ((forall_below_iff (P := fun r => r ≠ [] →
      t.entries.get? (src ++ r.dropLast) = some .directory)).symm.trans
        (forall_congr' fun _ => Imp.swap))

instance (t : FileTree) (src : List (List Char)) : Decidable (t.Plain src) :=
  decidable_of_iff (∀ k ∈ t.entries.keys, src <+: k →
      Clean (src ++ k.drop src.length) ∧ ∀ x ∈ k.drop src.length, ':' ∉ x)
    (forall_below_iff (P := fun r => Clean (src ++ r) ∧ ∀ x ∈ r, ':' ∉ x)).symm

instance (t : FileTree) (src : List (List Char)) (depth : Nat) : Decidable (t.Shallow src depth) :=
  decidable_of_iff (∀ k ∈ t.entries.keys, src <+: k → (k.drop src.length).length ≤ depth)
    (forall_below_iff (P := fun r => r.length ≤ depth)).symm

instance (t : FileTree) (dest : List (List Char)) : Decidable (t.Vacant dest) :=
  decidable_of_iff (∀ k ∈ t.entries.keys, dest <+: k → False)
    ((forall_below_iff (P := fun _ => False)).symm.trans
      (forall_congr' fun _ => Option.not_isSome_iff_eq_none))

section Region

variable {t s : FileTree} {src : List (List Char)}

theorem Plain.clean (plain : t.Plain src) (present : (t.entries.get? src).isSome) : Clean src := by
  simpa using (plain [] (by simpa using present)).1

theorem Vacant.absent {dest : List (List Char)} (vacant : t.Vacant dest) :
    t.entries.get? dest = none := by
  simpa using vacant []

/-! Each property of the tree below `src` holds of a tree that holds the same below `src`, and
of the tree below each entry of `src`. -/

theorem Closed.congr (closed : t.Closed src)
    (same : ∀ r, s.entries.get? (src ++ r) = t.entries.get? (src ++ r)) : s.Closed src := by
  intro r nonempty present
  rw [same] at present ⊢
  exact closed r nonempty present

theorem Plain.congr (plain : t.Plain src)
    (same : ∀ r, s.entries.get? (src ++ r) = t.entries.get? (src ++ r)) : s.Plain src := by
  intro r present
  rw [same] at present
  exact plain r present

theorem Shallow.congr {depth : Nat} (shallow : t.Shallow src depth)
    (same : ∀ r, s.entries.get? (src ++ r) = t.entries.get? (src ++ r)) :
    s.Shallow src depth := by
  intro r present
  rw [same] at present
  exact shallow r present

theorem Closed.child (closed : t.Closed src) (x : List Char) : t.Closed (src ++ [x]) := by
  intro r nonempty present
  have parent : (x :: r).dropLast = x :: r.dropLast := List.dropLast_cons_of_ne_nil nonempty
  rw [← List.append_cons] at present
  have found := closed (x :: r) (List.cons_ne_nil x r) present
  rw [parent] at found
  simpa using found

theorem Plain.child (plain : t.Plain src) (x : List Char) : t.Plain (src ++ [x]) := by
  intro r present
  rw [← List.append_cons] at present ⊢
  obtain ⟨clean, plainNames⟩ := plain (x :: r) present
  exact ⟨clean, fun y member => plainNames y (List.mem_cons_of_mem x member)⟩

theorem Shallow.child {depth : Nat} (shallow : t.Shallow src (depth + 1)) (x : List Char) :
    t.Shallow (src ++ [x]) depth := by
  intro r present
  rw [← List.append_cons] at present
  have bound := shallow (x :: r) present
  rw [List.length_cons] at bound
  omega

theorem Closed.directory_above (closed : t.Closed src) (a : List (List Char)) :
    ∀ {b : List (List Char)}, b ≠ [] → (t.entries.get? (src ++ a ++ b)).isSome →
      t.entries.get? (src ++ a) = some .directory := by
  intro b
  induction b using List.reverseRecOn with
  | nil => exact fun nonempty => absurd rfl nonempty
  | append_singleton front last ih =>
    intro _ present
    have parent := closed (a ++ front ++ [last]) (by simp) (by simpa using present)
    rw [List.dropLast_concat] at parent
    rcases eq_or_ne front [] with rfl | nonempty
    · simpa using parent
    · exact ih nonempty (by rw [List.append_assoc, parent]; rfl)

theorem Closed.child_present (closed : t.Closed src) {y : List Char} {r : List (List Char)}
    (present : (t.entries.get? (src ++ y :: r)).isSome) : (t.entries.get? (src ++ [y])).isSome := by
  rcases eq_or_ne r [] with rfl | nonempty
  · exact present
  · have above := closed.directory_above [y] nonempty (by simpa using present)
    simp [above]

theorem Closed.child_listed (closed : t.Closed src) {y : List Char} {r : List (List Char)}
    (present : (t.entries.get? (src ++ y :: r)).isSome) :
    src ++ [y] ∈ (t.children src).map Prod.fst := by
  obtain ⟨childEntry, found⟩ := Option.isSome_iff_exists.mp (closed.child_present present)
  exact List.mem_map_of_mem (f := Prod.fst) (mem_children_of_get? found)

theorem Closed.nothing_below_file (closed : t.Closed src) (a : List (List Char))
    {data : List UInt8} (file : t.entries.get? (src ++ a) = some (.file data))
    {r : List (List Char)} (nonempty : r ≠ []) : t.entries.get? (src ++ a ++ r) = none := by
  rcases present : t.entries.get? (src ++ a ++ r) with _ | entry
  · rfl
  · have above := closed.directory_above a nonempty (by rw [present]; rfl)
    rw [file] at above
    cases above

end Region

section Copies

variable {t s : FileTree} {src dest : List (List Char)}

theorem Copied.set_file {data : List UInt8} (file : t.entries.get? src = some (.file data))
    (closed : t.Closed src) (vacant : t.Vacant dest) :
    Copied t (t.set dest (.file data)) src dest where
  outside k other := by
    have different : k ≠ dest := fun same => other (same ▸ List.prefix_refl k)
    rw [get?_set, if_neg different]
  inside r := by
    rcases eq_or_ne r [] with rfl | nonempty
    · simpa using file.symm
    · have below : dest ++ r ≠ dest := by simpa using nonempty
      rw [get?_set, if_neg below, vacant r]
      simpa using (closed.nothing_below_file [] (by simpa using file) nonempty).symm

/-- Partway through the loop of `copyDirectory`: `dest` a directory, below it the copies of the
entries `done` of `src`, and everything else as in `t`. -/
structure Copying (t s : FileTree) (src dest : List (List Char))
    (done : List (List (List Char))) : Prop where
  outside : ∀ k, ¬ dest <+: k → s.entries.get? k = t.entries.get? k
  root : s.entries.get? dest = some .directory
  inside : ∀ y r, s.entries.get? (dest ++ y :: r) =
    if src ++ [y] ∈ done then t.entries.get? (src ++ y :: r) else none

theorem Copying.start (vacant : t.Vacant dest) : Copying t (t.set dest .directory) src dest [] where
  outside k other := by
    have different : k ≠ dest := fun same => other (same ▸ List.prefix_refl k)
    rw [get?_set, if_neg different]
  root := by simp
  inside y r := by
    have below : dest ++ y :: r ≠ dest := by simp
    rw [get?_set, if_neg below, vacant]
    simp

theorem Copying.same_source {done : List (List (List Char))} (copying : Copying t s src dest done)
    (apart : ∀ r, ¬ dest <+: src ++ r) (r : List (List Char)) :
    s.entries.get? (src ++ r) = t.entries.get? (src ++ r) :=
  copying.outside _ (apart r)

theorem Copying.directoryPath {done : List (List (List Char))} {front : List (List Char)}
    {m : List Char} (copying : Copying t s src (front ++ [m]) done)
    (above : t.DirectoryPath front) :
    s.DirectoryPath (front ++ [m]) := by
  intro k member
  rcases List.prefix_concat_iff.mp ((List.mem_inits _ _).mp member) with rfl | proper
  · exact copying.root
  · have shorter : ¬ front ++ [m] <+: k := fun longer => by
      have := longer.length_le
      have := proper.length_le
      simp at *
      omega
    rw [copying.outside k shorter]
    exact above k ((List.mem_inits _ _).mpr proper)

theorem Copying.vacant_child {done : List (List (List Char))} (copying : Copying t s src dest done)
    {x : List Char} (fresh : src ++ [x] ∉ done) : s.Vacant (dest ++ [x]) := by
  intro r
  rw [List.append_assoc, List.singleton_append, copying.inside, if_neg fresh]

theorem Copying.step {done : List (List (List Char))} {s' : FileTree}
    (copying : Copying t s src dest done) (apart : ∀ r, ¬ dest <+: src ++ r) {x : List Char}
    (copied : Copied s s' (src ++ [x]) (dest ++ [x])) :
    Copying t s' src dest (done ++ [src ++ [x]]) where
  outside k other := by
    have notChild : ¬ dest ++ [x] <+: k := fun below =>
      other ((List.prefix_append _ _).trans below)
    rw [copied.outside k notChild, copying.outside k other]
  root := by
    have notChild : ¬ dest ++ [x] <+: dest := fun below => by simpa using below.length_le
    rw [copied.outside _ notChild, copying.root]
  inside y r := by
    by_cases same : y = x
    · subst same
      have whole : dest ++ y :: r = dest ++ [y] ++ r := by simp
      rw [whole, copied.inside, if_pos (List.mem_append_right _ (List.mem_singleton_self _)),
        List.append_assoc, List.singleton_append, copying.same_source apart]
    · have notChild : ¬ dest ++ [x] <+: dest ++ y :: r := fun below => by
        have heads := (List.prefix_append_right_inj dest).mp below
        simp at heads
        exact same heads.symm
      have other : src ++ [y] ≠ src ++ [x] := by simpa using same
      rw [copied.outside _ notChild, copying.inside]
      simp [List.mem_append, other]

theorem Copying.finish (copying : Copying t s src dest ((t.children src).map Prod.fst))
    (source : t.entries.get? src = some .directory) (closed : t.Closed src) :
    Copied t s src dest where
  outside := copying.outside
  inside r := by
    cases r with
    | nil => rw [List.append_nil, List.append_nil, copying.root, source]
    | cons y r =>
      rw [copying.inside]
      split
      · rfl
      · rename_i missing
        rcases present : t.entries.get? (src ++ y :: r) with _ | entry
        · rfl
        · exact absurd (closed.child_listed (by rw [present]; rfl)) missing

theorem children_set_of_other {parts k : List (List Char)} {entry : Entry}
    (fresh : t.entries.get? k = none) (other : k.dropLast ≠ parts) :
    (t.set k entry).children parts = t.children parts := by
  have absent : k ∉ t.entries.keys := by simp [PyDict.mem_keys_iff, fresh]
  rw [children, set, PyDict.entries_insert_of_not_mem absent, List.filter_append]
  simp [children, other]

end Copies

end FileTree

variable (isprintable : Char → Bool)

section Runs

open FileTree

variable {t : FileTree} {src front : List (List Char)} {m : List Char}

theorem run_cpFile_into (srcClean : Clean src) (destClean : Clean (front ++ [m]))
    {data : List UInt8} (file : t.entries.get? src = some (.file data))
    (above : t.DirectoryPath front) (vacant : t.Vacant (front ++ [m])) :
    (cpFile (pathName src) (pathName (front ++ [m]))).run t =
      (.ok (), t.set (front ++ [m]) (.file data)) := by
  have read : (readFile (pathName src)).run t = (.ok data, t) := by
    simp [readFile, components_pathName srcClean, file, run_bind]
  have made : (makeDirectories front).run t = (.ok (), t) := by
    rw [makeDirectories]
    exact run_makeDirectories_of_directories above
  rw [cpFile, run_bind_ok read]
  simp [writeFile, components_pathName destClean, vacant.absent, run_bind, made]

/-- `copyDirectory` from `src` to a vacant `dest` outside it copies `src`, given that the call it
makes on each entry of `src` copies that entry below `dest`, from any tree that holds what `t`
holds at and below `src`, with `dest` a directory and the entry's place below it vacant. -/
theorem run_copyDirectory_copies (recurse : List Char → List Char → Effect PyExc FileTree Unit)
    (source : t.entries.get? src = some .directory) (closed : t.Closed src) (plain : t.Plain src)
    (above : t.DirectoryPath front) (destClean : Clean (front ++ [m]))
    (vacant : t.Vacant (front ++ [m])) (apart : ∀ r, ¬ front ++ [m] <+: src ++ r)
    (childCopies : ∀ (s : FileTree) (x : List Char), (t.entries.get? (src ++ [x])).isSome →
      (∀ r, s.entries.get? (src ++ r) = t.entries.get? (src ++ r)) →
      s.DirectoryPath (front ++ [m]) → s.Vacant (front ++ [m] ++ [x]) →
      ∃ s', (recurse (pathName (src ++ [x])) (pathName (front ++ [m]))).run s = (.ok (), s') ∧
        Copied s s' (src ++ [x]) (front ++ [m] ++ [x])) :
    ∃ t', (copyDirectory recurse (pathName src) (pathName (front ++ [m]))).run t =
      (.ok (), t') ∧ Copied t t' src (front ++ [m]) := by
  have srcClean : Clean src := plain.clean (by simp [source])
  have notChild : (front ++ [m]).dropLast ≠ src := fun same => by
    rw [List.dropLast_concat] at same
    exact apart [m] (by simp [same])
  rw [run_copyDirectory_to_missing recurse srcClean source above destClean vacant.absent,
    children_set_of_other vacant.absent notChild]
  -- the loop, with `Copying` over the entries of `src` copied so far
  have distinct : ((t.children src).map Prod.fst).Nodup := nodup_children_keys
  have loop : Triple
      (fun s =>
        Copying t s src (front ++ [m]) (([] : List (List (List Char) × Entry)).map Prod.fst))
      ((t.children src).forM fun entry => recurse (pathName entry.1) (pathName (front ++ [m])))
      fun o s =>
        (o = .ok () → Copying t s src (front ++ [m]) (([] ++ t.children src).map Prod.fst)) ∧
        ∀ e, o = .error e → False := by
    refine Triple.forM (I := fun done s => Copying t s src (front ++ [m]) (done.map Prod.fst)) ?_
    intro pre entry post split s copying
    obtain ⟨x, shape, present⟩ :=
      get?_of_mem_children (split ▸ List.mem_append_right _ List.mem_cons_self)
    have fresh : src ++ [x] ∉ ([] ++ pre).map Prod.fst := by
      rw [← split, List.map_append, List.map_cons, List.nodup_append] at distinct
      intro earlier
      rw [List.nil_append, ← shape] at earlier
      exact distinct.2.2 _ earlier _ List.mem_cons_self rfl
    have found : (t.entries.get? (src ++ [x])).isSome := by
      rw [present]
      rfl
    obtain ⟨s', ran, copied⟩ := childCopies s x found (copying.same_source apart)
      (copying.directoryPath above) (copying.vacant_child fresh)
    rw [shape, ran]
    refine ⟨fun _ => ?_, fun _ raised => by cases raised⟩
    rw [List.map_append, List.map_singleton, shape]
    exact copying.step apart copied
  obtain ⟨finished, failed⟩ := loop _ (Copying.start vacant)
  rcases ran : ((t.children src).forM fun entry =>
    recurse (pathName entry.1) (pathName (front ++ [m]))).run (t.set (front ++ [m]) .directory)
    with ⟨outcome, t'⟩
  rw [ran] at finished failed
  cases outcome with
  | error e => exact absurd rfl (failed e)
  | ok u =>
    refine ⟨t', rfl, ?_⟩
    rw [List.nil_append] at finished
    exact (finished rfl).finish source closed

theorem apart_of_outside {dest : List (List Char)} (present : (t.entries.get? src).isSome)
    (vacant : t.Vacant dest) (outside : ¬ src <+: dest) : ∀ r, ¬ dest <+: src ++ r := by
  intro r below
  rcases List.prefix_or_prefix_of_prefix below (List.prefix_append src r) with above | inside
  · obtain ⟨rest, rfl⟩ := above
    rw [vacant rest] at present
    cases present
  · exact outside inside

/-- What `copyDirectory (cp isprintable cpFile fuel)` does: it copies a directory to a vacant
destination in an existing directory and outside it, when nothing lies more than `fuel` levels
below it. -/
def CopiesDirectories (fuel : Nat) : Prop :=
  ∀ (t : FileTree) (src front : List (List Char)) (m : List Char),
    t.entries.get? src = some .directory → t.Closed src → t.Plain src → t.Shallow src fuel →
    t.DirectoryPath front → Clean (front ++ [m]) → t.Vacant (front ++ [m]) →
    (∀ r, ¬ front ++ [m] <+: src ++ r) →
    ∃ t', (copyDirectory (cp isprintable cpFile fuel) (pathName src)
        (pathName (front ++ [m]))).run t = (.ok (), t') ∧ Copied t t' src (front ++ [m])

theorem cp_into_directory_copies {fuel : Nat} (copies : CopiesDirectories isprintable fuel)
    {dest : List (List Char)} {x : List Char} {entry : Entry}
    (found : t.entries.get? (src ++ [x]) = some entry)
    (closed : t.Closed (src ++ [x])) (plain : t.Plain (src ++ [x])) (colonFree : ':' ∉ x)
    (shallow : t.Shallow (src ++ [x]) fuel) (above : t.DirectoryPath dest) (destClean : Clean dest)
    (vacant : t.Vacant (dest ++ [x])) (apart : ∀ r, ¬ dest ++ [x] <+: src ++ [x] ++ r) :
    ∃ t', (cp isprintable cpFile (fuel + 1) (pathName (src ++ [x])) (pathName dest)).run t =
        (.ok (), t') ∧ Copied t t' (src ++ [x]) (dest ++ [x]) := by
  have srcClean : Clean (src ++ [x]) := plain.clean (by simp [found])
  have entryClean : Clean (dest ++ [x]) := destClean.concat (srcClean x (by simp))
  have absent : («exists» (pathName (dest ++ [x]))).run t = (.ok false, t) := by
    rw [run_exists_pathName entryClean, vacant.absent]
    rfl
  rw [run_cp_into_directory isprintable cpFile fuel srcClean colonFree found destClean above.found]
  simp only [run_bind, absent, Bool.false_eq_true, if_false]
  cases entry with
  | file data =>
    refine ⟨_, ?_, Copied.set_file found closed vacant⟩
    exact run_cpFile_into srcClean entryClean found above vacant
  | directory =>
    exact copies t (src ++ [x]) dest x found closed plain shallow above entryClean vacant apart

/-- By induction on the nested calls left: with none, the directory has no entries to copy;
with one more, each entry is copied by `cp_into_directory_copies`. -/
theorem copiesDirectories (fuel : Nat) : CopiesDirectories isprintable fuel := by
  induction fuel with
  | zero =>
    intro t src front m source closed plain shallow above destClean vacant apart
    refine run_copyDirectory_copies (cp isprintable cpFile 0) source closed plain above destClean
      vacant apart ?_
    intro s x present
    have deep := shallow [x] present
    simp at deep
  | succ fuel ih =>
    intro t src front m source closed plain shallow above destClean vacant apart
    refine run_copyDirectory_copies (cp isprintable cpFile (fuel + 1)) source closed plain above
      destClean vacant apart ?_
    intro s x present same dirPath vacantChild
    obtain ⟨entry, found⟩ := Option.isSome_iff_exists.mp present
    have colonFree : ':' ∉ x := (plain [x] present).2 x (List.mem_singleton_self x)
    have childApart : ∀ r, ¬ front ++ [m] ++ [x] <+: src ++ [x] ++ r := by
      intro r below
      apply apart ([x] ++ r)
      rw [← List.append_assoc]
      exact (List.prefix_append _ _).trans below
    exact cp_into_directory_copies isprintable ih ((same [x]).trans found)
      ((closed.congr same).child x) ((plain.congr same).child x) colonFree
      ((shallow.congr same).child x) dirPath destClean vacantChild childApart

end Runs

/-- `/a` holding the file `/a/f` and the directory `/a/g`, which holds the file `/a/g/h`; and the
empty directory `/d`. -/
def sampleTree : FileTree :=
  ⟨⟨[([], .directory), ([['a']], .directory), ([['a'], ['f']], .file [1]),
    ([['a'], ['g']], .directory), ([['a'], ['g'], ['h']], .file [2]), ([['d']], .directory)],
    by decide⟩⟩

section Cp

open FileTree

variable {t : FileTree} {src : List (List Char)}
  (copyFile : List Char → List Char → Effect PyExc FileTree Unit)

/-- `cp` to a destination that does not exist, in an existing directory and outside the source:
the entry at `src`, a file or a directory with nothing more than `fuel` levels below it, is
copied there, and nothing else changes. -/
theorem cp_copies_to_vacant (fuel : Nat) {front : List (List Char)} {m : List Char}
    {entry : Entry} (found : t.entries.get? src = some entry) (closed : t.Closed src)
    (plain : t.Plain src) (shallow : t.Shallow src fuel) (above : t.DirectoryPath front)
    (destClean : Clean (front ++ [m])) (vacant : t.Vacant (front ++ [m]))
    (outside : ¬ src <+: front ++ [m]) :
    ∃ t', (cp isprintable cpFile (fuel + 1) (pathName src) (pathName (front ++ [m]))).run t =
        (.ok (), t') ∧ Copied t t' src (front ++ [m]) := by
  have srcClean : Clean src := plain.clean (by simp [found])
  have missing : t.entries.get? (components (pathName (front ++ [m]))) = none := by
    rw [components_pathName destClean]
    exact vacant.absent
  rw [run_cp_to_missing isprintable cpFile fuel srcClean found (pathName_ne_nil _) missing]
  cases entry with
  | file data =>
    refine ⟨_, ?_, Copied.set_file found closed vacant⟩
    exact run_cpFile_into srcClean destClean found above vacant
  | directory =>
    exact copiesDirectories isprintable fuel t src front m found closed plain shallow above
      destClean vacant (apart_of_outside (by simp [found]) vacant outside)

/-- `cp("/a", "/b")`: the tree below `/a`, two levels deep, copied to `/b`. -/
theorem cp_copies_to_vacant_a_b :
    ∃ t', (cp (fun _ => true) cpFile 3 (pathName [['a']]) (pathName ([] ++ [['b']]))).run
        sampleTree = (.ok (), t') ∧ Copied sampleTree t' [['a']] ([] ++ [['b']]) :=
  cp_copies_to_vacant (fun _ => true) 2 (show _ = some .directory by decide) (by decide)
    (by decide) (by decide) (by decide) (by decide) (by decide) (by decide)

-- `/a`, holding the file `/a/f`, copied to `/b`: `/b/f` comes after `/b`
example :
    let ran := (cp (fun _ => true) cpFile 2 "/a".toList "/b".toList).run
      ⟨⟨[([], .directory), ([['a']], .directory), ([['a'], ['f']], .file [7])], by decide⟩⟩
    ran.1 = .ok () ∧ ran.2.entries.entries = [([], .directory), ([['a']], .directory),
      ([['a'], ['f']], .file [7]), ([['b']], .directory), ([['b'], ['f']], .file [7])] := by
  decide

/-- `cp` into an existing directory `dest` whose entry of the source's name `x` is vacant: the
entry at `src ++ [x]` is copied to `dest ++ [x]`, and nothing else changes. -/
theorem cp_copies_into_directory (fuel : Nat) {dest : List (List Char)} {x : List Char}
    {entry : Entry} (found : t.entries.get? (src ++ [x]) = some entry)
    (closed : t.Closed (src ++ [x])) (plain : t.Plain (src ++ [x])) (colonFree : ':' ∉ x)
    (shallow : t.Shallow (src ++ [x]) fuel) (above : t.DirectoryPath dest) (destClean : Clean dest)
    (vacant : t.Vacant (dest ++ [x])) (outside : ¬ src ++ [x] <+: dest ++ [x]) :
    ∃ t', (cp isprintable cpFile (fuel + 1) (pathName (src ++ [x])) (pathName dest)).run t =
        (.ok (), t') ∧ Copied t t' (src ++ [x]) (dest ++ [x]) :=
  cp_into_directory_copies isprintable (copiesDirectories isprintable fuel) found closed plain
    colonFree shallow above destClean vacant (apart_of_outside (by simp [found]) vacant outside)

/-- `cp("/a", "/d")`: the tree below `/a` copied to `/d/a`. -/
theorem cp_copies_into_directory_d :
    ∃ t', (cp (fun _ => true) cpFile 3 (pathName ([] ++ [['a']])) (pathName [['d']])).run
        sampleTree = (.ok (), t') ∧ Copied sampleTree t' ([] ++ [['a']]) ([['d']] ++ [['a']]) :=
  cp_copies_into_directory (fun _ => true) 2 (show _ = some .directory by decide) (by decide)
    (by decide) (by decide) (by decide) (by decide) (by decide) (by decide) (by decide)

theorem cp_into_directory_exists (fuel : Nat) {dest : List (List Char)} {x : List Char}
    {entry entry' : Entry} (found : t.entries.get? (src ++ [x]) = some entry)
    (srcClean : Clean (src ++ [x])) (colonFree : ':' ∉ x)
    (directory : t.entries.get? dest = some .directory) (destClean : Clean dest)
    (present : t.entries.get? (dest ++ [x]) = some entry') :
    (cp isprintable copyFile (fuel + 1) (pathName (src ++ [x])) (pathName dest)).run t =
      (.error (.libraryError
        (PyText.reprStr isprintable (pathName (dest ++ [x])) ++ " already exists")), t) := by
  have entryClean : Clean (dest ++ [x]) := destClean.concat (srcClean x (by simp))
  have taken : («exists» (pathName (dest ++ [x]))).run t = (.ok true, t) := by
    rw [run_exists_pathName entryClean, present]
    rfl
  rw [run_cp_into_directory isprintable copyFile fuel srcClean colonFree found destClean directory]
  simp only [run_bind, taken, ↓reduceIte, run_throw]

theorem cp_missing_source_raises (fuel : Nat) {srcPath destPath : List Char}
    (named : srcPath ≠ []) (missing : t.entries.get? (components srcPath) = none) :
    (cp isprintable copyFile (fuel + 1) srcPath destPath).run t =
      (.error (.libraryError ("no such file or directory: " ++ PyText.reprStr isprintable srcPath)),
        t) := by
  simp only [cp, run_bind, run_reify, run_getPathInfo_missing named missing, noEntry, run_throw]

theorem cp_onto_file_raises (fuel : Nat) {dest : List (List Char)} {entry : Entry}
    {data : List UInt8} (found : t.entries.get? src = some entry) (srcClean : Clean src)
    (file : t.entries.get? dest = some (.file data)) (destClean : Clean dest) :
    (cp isprintable copyFile (fuel + 1) (pathName src) (pathName dest)).run t =
      (.error (.libraryError (PyText.reprStr isprintable (pathName dest) ++ " already exists")),
        t) := by
  simp only [cp, run_bind, run_reify, run_pure, run_getPathInfo_pathName srcClean found,
    run_getPathInfo_pathName destClean file, Entry.isFile, ↓reduceIte, run_throw]

end Cp

end Pydoop.Hdfs
