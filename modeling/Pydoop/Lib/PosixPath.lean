import Mathlib.Data.List.DropRight

/-! POSIX path names as Python's `posixpath` handles them (`Lib/posixpath.py`), a path being its
list of characters. `normpath` keeps one or two leading slashes (three or more count as one),
drops empty and `.` components and cancels a `..` against the component before it; `join`
restarts at an absolute component and inserts `/` where needed; `basename` and `dirname` cut at
the last `/`. -/

namespace PosixPath

/-- `s.lstrip(c)`. -/
def lstrip (c : Char) (s : List Char) : List Char := s.dropWhile (· = c)

/-- `s.rstrip(c)`. -/
def rstrip (c : Char) (s : List Char) : List Char := s.rdropWhile (· = c)

/-- The leading slashes `normpath` keeps: two exactly when there are two, otherwise one if the
path starts with `/`. -/
def initialSlashes (path : List Char) : Nat :=
  match path with
  | '/' :: '/' :: '/' :: _ => 1
  | '/' :: '/' :: _ => 2
  | '/' :: _ => 1
  | _ => 0

/-- One pass of the component loop of `normpath`, the components kept so far in `stack`, the
last one first. -/
def normStep (rooted : Bool) (stack : List (List Char)) (comp : List Char) : List (List Char) :=
  if comp = [] ∨ comp = ['.'] then stack
  else if comp ≠ ['.', '.'] ∨ (!rooted ∧ stack = []) ∨ stack.head? = some ['.', '.'] then
    comp :: stack
  else stack.tail

/-- `posixpath.normpath(path)`. -/
def normpath (path : List Char) : List Char :=
  if path = [] then ['.']
  else
    let slashes := initialSlashes path
    let comps := ((path.splitOn '/').foldl (normStep (slashes ≠ 0)) []).reverse
    let result := List.replicate slashes '/' ++ ['/'].intercalate comps
    if result = [] then ['.'] else result

/-- `posixpath.join(a, *p)`. -/
def join (a : List Char) (p : List (List Char)) : List Char :=
  p.foldl (fun path b =>
    if b.head? = some '/' then b
    else if path = [] ∨ path.getLast? = some '/' then path ++ b
    else path ++ '/' :: b) a

/-- `posixpath.basename(p)`: what follows the last `/`. -/
def basename (p : List Char) : List Char := p.rtakeWhile (· ≠ '/')

/-- `posixpath.dirname(p)`: up to the last `/`, without trailing slashes unless it is all
slashes. -/
def dirname (p : List Char) : List Char :=
  let head := p.rdropWhile (· ≠ '/')
  if head ≠ [] ∧ head ≠ List.replicate head.length '/' then rstrip '/' head else head

/-- `posixpath.splitext(p)`: the root and the extension, which starts at the last `.` of the
last component when something other than a `.` comes before it there. -/
def splitext (p : List Char) : List Char × List Char :=
  let name := basename p
  let stem := name.rdropWhile (· ≠ '.')
  if stem.dropLast.any (· ≠ '.') then
    (p.rdropWhile (· ≠ '/') ++ stem.dropLast, '.' :: name.rtakeWhile (· ≠ '.'))
  else (p, [])

section Lemmas

theorem not_mem_of_mem_splitOn {α : Type} [BEq α] [LawfulBEq α] {a : α} :
    ∀ {xs : List α}, ∀ l ∈ xs.splitOn a, a ∉ l
  | [], l, member => by
    rw [List.splitOn_nil, List.mem_singleton] at member
    subst member
    exact List.not_mem_nil
  | x :: xs, l, member => by
    have ih : ∀ l ∈ xs.splitOn a, a ∉ l := not_mem_of_mem_splitOn
    rw [List.splitOn_cons_eq_if_modifyHead] at member
    split at member
    · rcases List.mem_cons.mp member with rfl | member
      · exact List.not_mem_nil
      · exact ih l member
    · rename_i different
      obtain ⟨first, rest, parts⟩ := List.exists_cons_of_ne_nil (List.splitOn_ne_nil a xs)
      rw [parts, List.modifyHead_cons] at member
      rcases List.mem_cons.mp member with rfl | member
      · have outside := ih first (by simp [parts])
        rintro (_ | ⟨_, inside⟩)
        · exact different (by simp)
        · exact outside inside
      · exact ih l (by simp [parts, member])

/-- The components `normpath` keeps are non-empty and free of `/`. -/
def Clean (stack : List (List Char)) : Prop := ∀ c ∈ stack, c ≠ [] ∧ '/' ∉ c

instance (stack : List (List Char)) : Decidable (Clean stack) :=
  inferInstanceAs (Decidable (∀ c ∈ stack, _))

theorem Clean.step {stack : List (List Char)} (clean : Clean stack) (rooted : Bool)
    {comp : List Char} (noSlash : '/' ∉ comp) : Clean (normStep rooted stack comp) := by
  unfold PosixPath.normStep
  split
  · exact clean
  · rename_i kept
    split
    · intro c member
      rcases List.mem_cons.mp member with rfl | member
      · exact ⟨fun empty => kept (.inl empty), noSlash⟩
      · exact clean c member
    · exact fun c member => clean c (List.mem_of_mem_tail member)

theorem Clean.fold {stack : List (List Char)} (clean : Clean stack) (rooted : Bool)
    {comps : List (List Char)} (noSlash : ∀ c ∈ comps, '/' ∉ c) :
    Clean (comps.foldl (normStep rooted) stack) := by
  induction comps generalizing stack with
  | nil => exact clean
  | cons comp rest ih =>
    exact ih (clean.step rooted (noSlash comp (by simp)))
      fun c member => noSlash c (List.mem_cons_of_mem comp member)

theorem Clean.concat {stack : List (List Char)} (clean : Clean stack) {comp : List Char}
    (plain : comp ≠ [] ∧ '/' ∉ comp) : Clean (stack ++ [comp]) := by
  intro c member
  rcases List.mem_append.mp member with old | new
  · exact clean c old
  · rw [List.mem_singleton.mp new]
    exact plain

theorem Clean.of_append_left {stack rest : List (List Char)} (clean : Clean (stack ++ rest)) :
    Clean stack :=
  fun c member => clean c (List.mem_append_left rest member)

theorem head?_intercalate {c : List Char} {rest : List (List Char)} (nonempty : c ≠ []) :
    (['/'].intercalate (c :: rest)).head? = c.head? := by
  cases rest with
  | nil => rw [List.intercalate_singleton]
  | cons next rest =>
    rw [List.intercalate_cons_of_ne_nil (List.cons_ne_nil next rest), List.append_assoc,
      List.head?_append_of_ne_nil _ nonempty]

theorem intercalate_concat {α : Type} (sep : List α) {parts : List (List α)} (nonempty : parts ≠ [])
    (last : List α) : sep.intercalate (parts ++ [last]) = sep.intercalate parts ++ sep ++ last := by
  induction parts with
  | nil => exact absurd rfl nonempty
  | cons first rest ih =>
    cases rest with
    | nil => simp
    | cons next rest =>
      rw [List.cons_append, List.cons_append, List.intercalate_cons_cons, ← List.cons_append,
        ih (List.cons_ne_nil next rest), List.intercalate_cons_cons]
      simp

theorem initialSlashes_pos {path : List Char} (rooted : path.head? = some '/') :
    0 < initialSlashes path := by
  obtain ⟨rest, rfl⟩ : ∃ rest, path = '/' :: rest := by
    cases path with
    | nil => simp at rooted
    | cons c rest =>
      rw [List.head?_cons, Option.some.injEq] at rooted
      exact ⟨rest, by rw [rooted]⟩
  unfold initialSlashes
  split <;> simp_all

theorem initialSlashes_eq_zero {path : List Char} (relative : path.head? ≠ some '/') :
    initialSlashes path = 0 := by
  unfold initialSlashes
  split <;> simp_all

theorem lstrip_of_head {c : Char} {s : List Char} (other : s.head? ≠ some c) : lstrip c s = s := by
  cases s with
  | nil => rfl
  | cons d rest =>
    have different : d ≠ c := fun same => other (by rw [same]; rfl)
    simp [lstrip, different]

theorem lstrip_cons_of_head {c : Char} {s : List Char} (other : s.head? ≠ some c) :
    lstrip c (c :: s) = s := by
  rw [lstrip, List.dropWhile_cons_of_pos (by simp)]
  exact lstrip_of_head other

theorem rstrip_of_getLast {c : Char} {s : List Char} (other : s.getLast? ≠ some c) :
    rstrip c s = s := by
  refine List.rdropWhile_eq_self_iff.mpr fun nonempty same => other ?_
  rw [List.getLast?_eq_some_getLast nonempty]
  simpa using same

theorem head?_normpath_of_rooted {path : List Char} (rooted : path.head? = some '/') :
    (normpath path).head? = some '/' := by
  have nonempty : path ≠ [] := by rintro rfl; simp at rooted
  obtain ⟨k, slashes⟩ := Nat.exists_eq_add_of_lt (initialSlashes_pos rooted)
  simp only [normpath, nonempty, if_false, slashes, Nat.zero_add, List.replicate_succ,
    List.cons_append, reduceCtorEq]
  rfl

theorem head?_normpath_of_relative {path : List Char} (relative : path.head? ≠ some '/') :
    (normpath path).head? ≠ some '/' := by
  unfold normpath
  split
  · simp
  · have clean : Clean ((path.splitOn '/').foldl (normStep (initialSlashes path ≠ 0)) []) :=
      Clean.fold (fun _ member => absurd member List.not_mem_nil) _
        fun c member => not_mem_of_mem_splitOn c member
    simp only [initialSlashes_eq_zero relative, List.replicate_zero, List.nil_append] at clean ⊢
    generalize ((path.splitOn '/').foldl (normStep (0 ≠ 0)) []) = stack at clean ⊢
    split
    · simp
    · cases comps : stack.reverse with
      | nil => simp
      | cons c rest =>
        have kept : c ∈ stack := List.mem_reverse.mp (comps ▸ List.mem_cons_self)
        obtain ⟨nonempty, noSlash⟩ := clean c kept
        rw [head?_intercalate nonempty]
        exact fun head => noSlash (List.mem_of_mem_head? head)

theorem basename_append_slash (p : List Char) {n : List Char} (noSlash : '/' ∉ n) :
    basename (p ++ '/' :: n) = n := by
  have inside : ∀ c ∈ n.reverse, decide (c ≠ '/') = true := by
    intro c member
    have : c ≠ '/' := fun same => noSlash (same ▸ List.mem_reverse.mp member)
    simpa using this
  simp only [basename, List.rtakeWhile, List.reverse_append, List.reverse_cons,
    List.append_assoc, List.takeWhile_append_of_pos inside]
  simp

end Lemmas

end PosixPath
