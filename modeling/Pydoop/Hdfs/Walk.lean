import Pydoop.Hdfs.CopySubtree

/-! `hdfs.walk` and the recursive listings `lsl` and `ls` of `pydoop.hdfs`, over one file system
as `cp` is. `walk` is a generator; `lsl` collects what it yields, and so does the model, which
returns the list of what `walk` yields. The main result: from an entry, with as many nested calls
left as the tree below it is deep, `walk` yields the entry and then every entry below it, each
once by its `name`, and changes nothing; the recursive `lsl` of a directory gives what lies below
it. -/

namespace Pydoop.Hdfs

open Effect Sercore PosixPath FileTree

/-- `walk(top)`, what it yields collected in order. `top` is a path or a path-info dict, as the
source allows; `fuel` counts the nested calls the interpreter still allows. -/
def walk :
    Nat → List Char ⊕ (List Char × Entry) → Effect PyExc FileTree (List (List Char × Entry))
  | 0, _ => throw .recursionError
  | fuel + 1, top => do
    -- `if not top: raise ValueError`, then a path is looked up and a dict used as it is
    let top ← match top with
      | .inl path => if path = [] then throw emptyPath else FileTree.getPathInfo path
      | .inr info => pure info
    match top.2 with
    | .directory => do
      let items ← (← FileTree.listDirectory top.1).mapM fun info => walk fuel (.inr info)
      pure (top :: items.flatten)
    | .file _ => pure [top]

/-- `lsl(hdfs_path, user, recursive)` on the path part of its argument: `list_directory`, or the
items of `walk` after the first for a directory and the first alone for a file. -/
def lsl (fuel : Nat) (path : List Char) (recursive : Bool) :
    Effect PyExc FileTree (List (List Char × Entry)) :=
  if !recursive then FileTree.listDirectory path
  else do
    -- `top = next(treewalk)`, then `list(treewalk)` for a directory
    match ← walk fuel (.inl path) with
    | top :: rest => if top.2 = .directory then pure rest else pure [top]
    | [] => throw .stopIteration

/-- `ls(hdfs_path, user, recursive)`: the `name` of each item of `lsl`. -/
def ls (fuel : Nat) (path : List Char) (recursive : Bool) :
    Effect PyExc FileTree (List (List Char)) := do
  return (← lsl fuel path recursive).map Prod.fst

namespace FileTree

/-- Each path at or below `src` is clean, so that its `name` gives it back. -/
def CleanBelow (t : FileTree) (src : List (List Char)) : Prop :=
  ∀ r, (t.entries.get? (src ++ r)).isSome → Clean (src ++ r)

instance (t : FileTree) (src : List (List Char)) : Decidable (t.CleanBelow src) :=
  decidable_of_iff (∀ k ∈ t.entries.keys, src <+: k → Clean (src ++ k.drop src.length))
    (forall_below_iff (P := fun r => Clean (src ++ r))).symm

/-- `items` are the entries at and below the paths `tops`, by their `name`, each once. -/
structure Walked (t : FileTree) (tops : List (List (List Char)))
    (items : List (List Char × Entry)) : Prop where
  names_nodup : (items.map Prod.fst).Nodup
  mem_iff : ∀ name e, (name, e) ∈ items ↔
    ∃ top ∈ tops, ∃ r, t.entries.get? (top ++ r) = some e ∧ name = pathName (top ++ r)

section Walked

variable {t : FileTree} {src : List (List Char)}

theorem CleanBelow.child (cleanBelow : t.CleanBelow src) (x : List Char) :
    t.CleanBelow (src ++ [x]) := by
  intro r present
  rw [← List.append_cons] at present ⊢
  exact cleanBelow (x :: r) present

theorem CleanBelow.clean (cleanBelow : t.CleanBelow src) (present : (t.entries.get? src).isSome) :
    Clean src := by
  simpa using cleanBelow [] (by simpa using present)

theorem CleanBelow.eq_of_pathName (cleanBelow : t.CleanBelow src) {r r' : List (List Char)}
    (present : (t.entries.get? (src ++ r)).isSome) (present' : (t.entries.get? (src ++ r')).isSome)
    (same : pathName (src ++ r) = pathName (src ++ r')) : r = r' :=
  List.append_cancel_left (pathName_inj (cleanBelow r present) (cleanBelow r' present') same)

theorem children_apart (t : FileTree) (src : List (List Char)) :
    (t.children src).Pairwise fun a b => ¬ a.1 <+: b.1 ∧ ¬ b.1 <+: a.1 := by
  have distinct : ((t.children src).map Prod.fst).Nodup := nodup_children_keys
  rw [List.Nodup, List.pairwise_map] at distinct
  refine distinct.imp_of_mem fun {a b} aMember bMember different => ?_
  obtain ⟨x, aShape, -⟩ := mem_children.mp aMember
  obtain ⟨y, bShape, -⟩ := mem_children.mp bMember
  have sameLength : a.1.length = b.1.length := by simp [aShape, bShape]
  exact ⟨fun below => different (below.eq_of_length sameLength),
    fun above => different (above.eq_of_length sameLength.symm).symm⟩

theorem Walked.nil : t.Walked [] [] where
  names_nodup := List.nodup_nil
  mem_iff _ _ := by simp

theorem Walked.append {tops tops' : List (List (List Char))}
    {items items' : List (List Char × Entry)}
    (first : t.Walked tops items) (second : t.Walked tops' items')
    (cleanBelow : ∀ top ∈ tops ++ tops', t.CleanBelow top)
    (apart : ∀ a ∈ tops, ∀ b ∈ tops', ¬ a <+: b ∧ ¬ b <+: a) :
    t.Walked (tops ++ tops') (items ++ items') where
  names_nodup := by
    rw [List.map_append, List.nodup_append]
    refine ⟨first.names_nodup, second.names_nodup, ?_⟩
    intro name inFirst name' inSecond same
    obtain ⟨⟨_, e⟩, inItems, rfl⟩ := List.mem_map.mp inFirst
    obtain ⟨⟨_, e'⟩, inItems', rfl⟩ := List.mem_map.mp inSecond
    obtain ⟨a, aTop, r, present, rfl⟩ := (first.mem_iff _ _).mp inItems
    obtain ⟨b, bTop, r', present', rfl⟩ := (second.mem_iff _ _).mp inItems'
    have clean := cleanBelow a (List.mem_append_left _ aTop) r (by simp [present])
    have clean' := cleanBelow b (List.mem_append_right _ bTop) r' (by simp [present'])
    have keys : a ++ r = b ++ r' := pathName_inj clean clean' same
    rcases List.prefix_or_prefix_of_prefix (List.prefix_append a r)
      (keys ▸ List.prefix_append b r') with below | above
    · exact (apart a aTop b bTop).1 below
    · exact (apart a aTop b bTop).2 above
  mem_iff name e := by
    simp only [List.mem_append, first.mem_iff, second.mem_iff, or_and_right, exists_or]

theorem Walked.children {cs : List (List (List Char) × Entry)}
    {walks : List (List (List Char × Entry))}
    (each : List.Forall₂ (fun c items => t.Walked [c.1] items) cs walks)
    (cleanBelow : ∀ c ∈ cs, t.CleanBelow c.1)
    (apart : cs.Pairwise fun a b => ¬ a.1 <+: b.1 ∧ ¬ b.1 <+: a.1) :
    t.Walked (cs.map Prod.fst) walks.flatten := by
  induction each with
  | nil => exact Walked.nil
  | @cons c items cs walks walked _ ih =>
    rw [List.pairwise_cons] at apart
    have rest := ih (fun c' member => cleanBelow c' (List.mem_cons_of_mem c member)) apart.2
    show t.Walked ([c.1] ++ cs.map Prod.fst) (items ++ walks.flatten)
    refine walked.append rest ?_ ?_
    · intro top member
      rcases List.mem_append.mp member with here | later
      · rw [List.mem_singleton.mp here]
        exact cleanBelow c List.mem_cons_self
      · obtain ⟨c', member', rfl⟩ := List.mem_map.mp later
        exact cleanBelow c' (List.mem_cons_of_mem c member')
    · intro a aTop b bTop
      rw [List.mem_singleton.mp aTop]
      obtain ⟨c', member', rfl⟩ := List.mem_map.mp bTop
      exact apart.1 c' member'

theorem Walked.file {data : List UInt8} (file : t.entries.get? src = some (.file data))
    (closed : t.Closed src) : t.Walked [src] [(pathName src, .file data)] where
  names_nodup := List.nodup_singleton _
  mem_iff name e := by
    constructor
    · intro member
      obtain ⟨rfl, rfl⟩ := Prod.mk.inj (List.mem_singleton.mp member)
      exact ⟨src, List.mem_singleton_self _, [], by simpa using file, by simp⟩
    · rintro ⟨top, isTop, r, present, rfl⟩
      rw [List.mem_singleton.mp isTop] at present ⊢
      rcases eq_or_ne r [] with rfl | nonempty
      · rw [List.append_nil, file] at present
        cases present
        simp
      · have nothing := closed.nothing_below_file [] (by simpa using file) nonempty
        rw [List.append_nil, present] at nothing
        cases nothing

theorem Walked.directory {rest : List (List Char × Entry)}
    (source : t.entries.get? src = some .directory) (closed : t.Closed src)
    (cleanBelow : t.CleanBelow src) (below : t.Walked ((t.children src).map Prod.fst) rest) :
    t.Walked [src] ((pathName src, .directory) :: rest) where
  names_nodup := by
    rw [List.map_cons, List.nodup_cons]
    refine ⟨fun inRest => ?_, below.names_nodup⟩
    obtain ⟨⟨_, e⟩, member, same⟩ := List.mem_map.mp inRest
    obtain ⟨top, isChild, r, present, rfl⟩ := (below.mem_iff _ _).mp member
    obtain ⟨child, listed, rfl⟩ := List.mem_map.mp isChild
    obtain ⟨x, shape, -⟩ := mem_children.mp listed
    rw [shape, List.append_assoc, List.singleton_append] at present same
    have never : x :: r = [] :=
      cleanBelow.eq_of_pathName (by simp [present]) (by simp [source]) (by simpa using same)
    cases never
  mem_iff name e := by
    constructor
    · intro member
      rcases List.mem_cons.mp member with top | inRest
      · obtain ⟨rfl, rfl⟩ := Prod.mk.inj top
        exact ⟨src, List.mem_singleton_self _, [], by simpa using source, by simp⟩
      · obtain ⟨top, isChild, r, present, rfl⟩ := (below.mem_iff name e).mp inRest
        obtain ⟨child, listed, rfl⟩ := List.mem_map.mp isChild
        obtain ⟨x, shape, -⟩ := mem_children.mp listed
        rw [shape, List.append_assoc, List.singleton_append] at present ⊢
        exact ⟨src, List.mem_singleton_self _, x :: r, present, rfl⟩
    · rintro ⟨top, isTop, r, present, rfl⟩
      rw [List.mem_singleton.mp isTop] at present ⊢
      cases r with
      | nil =>
        rw [List.append_nil, source] at present
        cases present
        simp
      | cons y r =>
        apply List.mem_cons_of_mem
        refine (below.mem_iff _ _).mpr
          ⟨src ++ [y], closed.child_listed (by rw [present]; rfl), r, ?_, ?_⟩
        · simpa using present
        · simp

end Walked

end FileTree

section Runs

variable {t : FileTree} {src : List (List Char)}

theorem run_walk_file (fuel : Nat) (name : List Char) (data : List UInt8) :
    (walk (fuel + 1) (.inr (name, .file data))).run t = (.ok [(name, .file data)], t) :=
  rfl

theorem run_walk_directory {fuel : Nat} (srcClean : Clean src)
    (source : t.entries.get? src = some .directory) {walks : List (List (List Char × Entry))}
    (listed : ((t.children src).mapM fun c => walk fuel (.inr (pathName c.1, c.2))).run t =
      (.ok walks, t)) :
    (walk (fuel + 1) (.inr (pathName src, .directory))).run t =
      (.ok ((pathName src, .directory) :: walks.flatten), t) := by
  have found := run_listDirectory_directory (t := t) (pathName_ne_nil src)
    (by rwa [components_pathName srcClean])
  rw [components_pathName srcClean] at found
  simp only [walk, run_bind, run_pure, found, List.mapM_map, Function.comp_def, listed]

theorem run_walk_path {fuel : Nat} {path : List Char} (named : path ≠ [])
    {info : List Char × Entry} (looked : (FileTree.getPathInfo path).run t = (.ok info, t)) :
    (walk (fuel + 1) (.inl path)).run t = (walk (fuel + 1) (.inr info)).run t := by
  simp only [walk, if_neg named, run_bind, looked, run_pure]

theorem walk_entry_of_children {fuel : Nat} {entry : Entry}
    (found : t.entries.get? src = some entry) (closed : t.Closed src)
    (cleanBelow : t.CleanBelow src)
    (each : ∀ c ∈ t.children src, ∃ items,
      (walk fuel (.inr (pathName c.1, c.2))).run t = (.ok items, t) ∧ t.Walked [c.1] items) :
    ∃ items, (walk (fuel + 1) (.inr (pathName src, entry))).run t = (.ok items, t) ∧
      items.head? = some (pathName src, entry) ∧ t.Walked [src] items := by
  cases entry with
  | file data => exact ⟨_, run_walk_file fuel _ data, rfl, Walked.file found closed⟩
  | directory =>
    have srcClean := cleanBelow.clean (by simp [found])
    obtain ⟨walks, listed, related⟩ := run_mapM_forall₂ each
    have childrenClean : ∀ c ∈ t.children src, t.CleanBelow c.1 := by
      intro c member
      obtain ⟨x, shape, -⟩ := mem_children.mp member
      rw [shape]
      exact cleanBelow.child x
    exact ⟨_, run_walk_directory srcClean found listed, rfl,
      Walked.directory found closed cleanBelow
        (Walked.children related childrenClean (children_apart t src))⟩

/-- By induction on the nested calls left: with none, a directory has no entries to walk; with
one more, each entry is walked by the induction hypothesis. -/
theorem walk_entry (fuel : Nat) :
    ∀ {src : List (List Char)} {entry : Entry}, t.entries.get? src = some entry →
      t.Closed src → t.CleanBelow src → t.Shallow src fuel →
      ∃ items, (walk (fuel + 1) (.inr (pathName src, entry))).run t = (.ok items, t) ∧
        items.head? = some (pathName src, entry) ∧ t.Walked [src] items := by
  induction fuel with
  | zero =>
    intro src entry found closed cleanBelow shallow
    refine walk_entry_of_children found closed cleanBelow fun c member => ?_
    obtain ⟨x, -, present⟩ := get?_of_mem_children member
    have deep := shallow [x] (by rw [present]; rfl)
    simp at deep
  | succ fuel ih =>
    intro src entry found closed cleanBelow shallow
    refine walk_entry_of_children found closed cleanBelow fun c member => ?_
    obtain ⟨x, shape, childFound⟩ := get?_of_mem_children member
    obtain ⟨items, ran, -, walked⟩ :=
      ih childFound (closed.child x) (cleanBelow.child x) (shallow.child x)
    rw [shape]
    exact ⟨items, ran, walked⟩

theorem walk_path_entries (fuel : Nat) {entry : Entry} (found : t.entries.get? src = some entry)
    (closed : t.Closed src) (cleanBelow : t.CleanBelow src) (shallow : t.Shallow src fuel) :
    ∃ items, (walk (fuel + 1) (.inl (pathName src))).run t = (.ok items, t) ∧
      items.head? = some (pathName src, entry) ∧ t.Walked [src] items := by
  have srcClean := cleanBelow.clean (by simp [found])
  rw [run_walk_path (pathName_ne_nil src) (run_getPathInfo_pathName srcClean found)]
  exact walk_entry fuel found closed cleanBelow shallow

end Runs

section Listings

variable {t : FileTree} {src : List (List Char)}

theorem lsl_recursive_directory (fuel : Nat) (source : t.entries.get? src = some .directory)
    (closed : t.Closed src) (cleanBelow : t.CleanBelow src) (shallow : t.Shallow src fuel) :
    ∃ items, (lsl (fuel + 1) (pathName src) true).run t = (.ok items, t) ∧
      (items.map Prod.fst).Nodup ∧
      ∀ name e, (name, e) ∈ items ↔
        ∃ r, r ≠ [] ∧ t.entries.get? (src ++ r) = some e ∧ name = pathName (src ++ r) := by
  obtain ⟨items, ran, head, walked⟩ := walk_path_entries fuel source closed cleanBelow shallow
  -- `walk` yields the directory first, and `lsl` keeps what follows it
  obtain ⟨rest, rfl⟩ := List.head?_eq_some_iff.mp head
  have names := walked.names_nodup
  rw [List.map_cons, List.nodup_cons] at names
  refine ⟨rest, by simp [lsl, run_bind, ran], names.2, fun name e => ?_⟩
  constructor
  · intro member
    obtain ⟨top, isTop, r, present, rfl⟩ :=
      (walked.mem_iff name e).mp (List.mem_cons_of_mem _ member)
    obtain rfl := List.mem_singleton.mp isTop
    refine ⟨r, ?_, present, rfl⟩
    rintro rfl
    exact names.1 (by simpa using List.mem_map_of_mem (f := Prod.fst) member)
  · rintro ⟨r, nonempty, present, rfl⟩
    have walkedItem :=
      (walked.mem_iff _ e).mpr ⟨src, List.mem_singleton_self _, r, present, rfl⟩
    rcases List.mem_cons.mp walkedItem with top | inRest
    · have same := (Prod.mk.inj top).1
      have never : r = [] :=
        cleanBelow.eq_of_pathName (by simp [present]) (by simp [source]) (by simpa using same)
      exact absurd never nonempty
    · exact inRest

-- `/a` holding the file `/a/f` and the directory `/a/g`, which holds the file `/a/g/h`
example :
    ((ls 3 "/a".toList true).run ⟨⟨[([], .directory), ([['a']], .directory),
      ([['a'], ['f']], .file [1]), ([['a'], ['g']], .directory),
      ([['a'], ['g'], ['h']], .file [2])], by decide⟩⟩).1 =
    .ok ["/a/f".toList, "/a/g".toList, "/a/g/h".toList] := by
  decide

end Listings

end Pydoop.Hdfs
