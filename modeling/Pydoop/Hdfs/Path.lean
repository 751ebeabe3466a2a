import Mathlib.Data.List.TakeDrop
import Mathlib.Data.List.TakeWhile
import Pydoop.Lib.PosixPath
import Pydoop.Sercore.Streams

/-! `pydoop.hdfs.path`: HDFS path names split by `_HdfsPathSplitter` into scheme, netloc and
path, and the `posixpath`-like functions built on it. A `str` is its list of characters.
`PATTERN` is matched, not fully matched, and its `.` does not match a newline, so `parse` drops
whatever follows the first newline after the scheme; `join` and `basename` work on the whole
string, netloc included. -/

namespace Pydoop.Hdfs.Path

open Sercore

/-- A character of `[a-z0-9+.-]`. -/
def isSchemeChar (c : Char) : Bool :=
  c.isLower || c.isDigit || c == '+' || c == '.' || c == '-'

/-- `PATTERN.match(hdfs_path)` for `PATTERN = re.compile(r"([a-z0-9+.-]+):(.*)")`, with the two
groups of a match. The scheme group takes the longest run of scheme characters, since `:` is
not one of them no shorter run is followed by `:`; the rest group stops at the first newline. -/
def PATTERN (hdfs_path : List Char) : Option (List Char × List Char) :=
  match hdfs_path.span isSchemeChar with
  | (scheme@(_ :: _), ':' :: rest) => some (scheme, rest.takeWhile (· ≠ '\n'))
  | _ => none

/-- `_HdfsPathSplitter.raise_bad_path(hdfs_path, why)`. -/
def raiseBadPath {α : Type} (hdfs_path : List Char) (why : String) : Except PyExc α :=
  let text := String.ofList hdfs_path
  throw (.valueError s!"'{text}' is not a valid HDFS path ({why})")

/-- `_HdfsPathSplitter.parse(hdfs_path)`: scheme, netloc and path. -/
def parse (hdfs_path : List Char) : Except PyExc (List Char × List Char × List Char) := do
  if hdfs_path = [] then return ([], [], [])
  let (scheme, rest) := (PATTERN hdfs_path).getD ([], hdfs_path)
  if rest = [] then raiseBadPath hdfs_path "no scheme-specific part"
  let (netloc, path) ←
    if rest.take 2 = ['/', '/'] ∧ rest.take 3 ≠ ['/', '/', '/'] then do
      if scheme = [] then raiseBadPath hdfs_path "null scheme"
      -- `rest[2:].split("/", 1)`, the second part with its `/` put back
      pure ((rest.drop 2).span (· ≠ '/'))
    else if scheme ≠ [] ∧ rest.head? ≠ some '/' then
      raiseBadPath hdfs_path "relative path in absolute URI"
    else pure ([], rest)
  let path := if path.head? = some '/' then '/' :: PosixPath.lstrip '/' path else path
  return (scheme, netloc, path)

/-- `_HdfsPathSplitter.unparse(scheme, netloc, path)`: the parts joined. -/
def unparse (scheme netloc path : List Char) : Except PyExc (List Char) := do
  let head := if scheme = [] then [] else PosixPath.rstrip ':' scheme ++ [':']
  if netloc ≠ [] ∧ scheme = [] then throw (.valueError "netloc provided, but scheme is empty")
  let head := if netloc = [] then head else head ++ '/' :: '/' :: netloc
  let sep := if head ≠ [] ∧ path ≠ [] ∧ path.head? ≠ some '/' then ['/'] else []
  return head ++ sep ++ path

/-- `isfull(path)`: the path starts with a scheme and a colon. -/
def isfull (path : List Char) : Bool := (PATTERN path).isSome

/-- `isabs(path)`. -/
def isabs (path : List Char) : Bool := isfull path || path.head? == some '/'

/-- One pass of the loop of `join` over the list `path` of the parts kept so far. -/
def joinStep (path : List (List Char)) (p : List Char) : List (List Char) :=
  let path := path.modifyLast (PosixPath.rstrip '/')
  let full := isfull (path.headD [])
  if isfull p || (isabs p && !full) then [p] else path ++ [PosixPath.lstrip '/' p]

/-- `join(*parts)`. -/
def join (parts : List (List Char)) : Except PyExc (List Char) :=
  match parts with
  | [] => throw .typeError
  | first :: rest => pure (['/'].intercalate (rest.foldl joinStep [first]))

/-- `basename(hdfs_path)`: `os.path.basename` of the whole string. -/
def basename (hdfs_path : List Char) : List Char := PosixPath.basename hdfs_path

/-- `dirname(hdfs_path)`. -/
def dirname (hdfs_path : List Char) : Except PyExc (List Char) := do
  let (scheme, netloc, path) ← parse hdfs_path
  unparse scheme netloc (PosixPath.dirname path)

/-- `splitpath(hdfs_path)`. -/
def splitpath (hdfs_path : List Char) : Except PyExc (List Char × List Char) := do
  return (← dirname hdfs_path, basename hdfs_path)

/-- `normpath(path)`. -/
def normpath (path : List Char) : Except PyExc (List Char) := do
  let (scheme, netloc, path_) ← parse path
  unparse scheme netloc (PosixPath.normpath path_)

section Parsing

/-- A scheme: a non-empty run of `[a-z0-9+.-]`. -/
def IsScheme (scheme : List Char) : Prop := scheme ≠ [] ∧ ∀ c ∈ scheme, isSchemeChar c = true

instance : DecidablePred IsScheme := fun scheme =>
  decidable_of_iff ((!scheme.isEmpty && scheme.all isSchemeChar) = true) (by simp [IsScheme])

theorem span_scheme {scheme : List Char} (chars : ∀ c ∈ scheme, isSchemeChar c = true)
    (rest : List Char) : (scheme ++ ':' :: rest).span isSchemeChar = (scheme, ':' :: rest) := by
  rw [List.span_eq_takeWhile_dropWhile, List.takeWhile_append_of_pos chars,
    List.dropWhile_append_of_pos chars]
  simp [isSchemeChar]

theorem PATTERN_scheme {scheme : List Char} (valid : IsScheme scheme) (rest : List Char) :
    PATTERN (scheme ++ ':' :: rest) = some (scheme, rest.takeWhile (· ≠ '\n')) := by
  obtain ⟨nonempty, chars⟩ := valid
  obtain ⟨c, cs, rfl⟩ := List.exists_cons_of_ne_nil nonempty
  rw [PATTERN, span_scheme chars]
  rfl

theorem rstrip_scheme {scheme : List Char} (valid : IsScheme scheme) :
    PosixPath.rstrip ':' scheme = scheme := by
  refine PosixPath.rstrip_of_getLast fun last => ?_
  have member := List.mem_of_getLast? last
  have colon := valid.2 ':' member
  simp [isSchemeChar] at colon

theorem takeWhile_newline {a : List Char} (single : '\n' ∉ a) (b : List Char) :
    (a ++ '\n' :: b).takeWhile (· ≠ '\n') = a := by
  have inside : ∀ c ∈ a, decide (c ≠ '\n') = true := fun c member => by
    simpa using fun same : c = '\n' => single (same ▸ member)
  rw [List.takeWhile_append_of_pos inside]
  simp

theorem takeWhile_no_newline {a : List Char} (single : '\n' ∉ a) :
    a.takeWhile (· ≠ '\n') = a :=
  List.takeWhile_eq_self_iff.mpr fun c member => by
    simpa using fun same : c = '\n' => single (same ▸ member)

theorem PATTERN_scheme_plain {scheme rest : List Char} (valid : IsScheme scheme)
    (plain : '\n' ∉ rest) : PATTERN (scheme ++ ':' :: rest) = some (scheme, rest) := by
  rw [PATTERN_scheme valid, takeWhile_no_newline plain]

theorem parse_of_PATTERN_rooted {hdfs_path scheme a : List Char} (nonempty : hdfs_path ≠ [])
    (pattern : PATTERN hdfs_path = some (scheme, '/' :: a)) (schemed : scheme ≠ [])
    (single : a.head? ≠ some '/') :
    parse hdfs_path = .ok (scheme, [], '/' :: a) := by
  simp [parse, pattern, nonempty, schemed, List.take_one, single,
    PosixPath.lstrip_cons_of_head single]
  rfl

theorem netloc_split {netloc path : List Char} (noSlash : '/' ∉ netloc)
    (rooted : path = [] ∨ path.head? = some '/') :
    (netloc ++ path).takeWhile (fun c => !decide (c = '/')) = netloc ∧
      (netloc ++ path).dropWhile (fun c => !decide (c = '/')) = path := by
  have inside : ∀ c ∈ netloc, (!decide (c = '/')) = true := fun c member => by
    simpa using fun same : c = '/' => noSlash (same ▸ member)
  rw [List.takeWhile_append_of_pos inside, List.dropWhile_append_of_pos inside]
  rcases rooted with rfl | head
  · simp
  · obtain ⟨c, t, rfl⟩ := List.exists_cons_of_ne_nil fun empty : path = [] => by
      simp [empty] at head
    rw [List.head?_cons, Option.some.injEq] at head
    subst head
    simp

theorem parse_of_PATTERN_authority {hdfs_path scheme netloc path : List Char}
    (nonempty : hdfs_path ≠ [])
    (pattern : PATTERN hdfs_path = some (scheme, '/' :: '/' :: netloc ++ path))
    (schemed : scheme ≠ []) (host : netloc ≠ []) (noSlash : '/' ∉ netloc)
    (rooted : path = [] ∨ path.head? = some '/') :
    parse hdfs_path = .ok (scheme, netloc,
      if path.head? = some '/' then '/' :: PosixPath.lstrip '/' path else path) := by
  obtain ⟨first, second⟩ := netloc_split noSlash rooted
  have single : (netloc ++ path).take 1 ≠ ['/'] := by
    obtain ⟨c, t, rfl⟩ := List.exists_cons_of_ne_nil host
    have other : c ≠ '/' := fun same => noSlash (same ▸ List.mem_cons_self)
    simp [other]
  simp [parse, pattern, nonempty, schemed, single, first, second]
  rfl

theorem parse_authority {scheme netloc : List Char} (valid : IsScheme scheme)
    (host : netloc ≠ []) (noSlash : '/' ∉ netloc) (noNewline : '\n' ∉ netloc) :
    parse (scheme ++ ':' :: '/' :: '/' :: netloc) = .ok (scheme, netloc, []) := by
  have pattern := PATTERN_scheme_plain valid
    (show '\n' ∉ '/' :: '/' :: netloc ++ [] by simpa using noNewline)
  simpa using parse_of_PATTERN_authority (by simp) pattern valid.1 host noSlash (.inl rfl)

theorem unparse_authority {scheme netloc : List Char} (valid : IsScheme scheme)
    (host : netloc ≠ []) (path : List Char) :
    unparse scheme netloc path = .ok (scheme ++ ':' :: '/' :: '/' :: netloc ++
      (if path ≠ [] ∧ path.head? ≠ some '/' then '/' :: path else path)) := by
  have named : scheme ≠ [] := valid.1
  simp only [unparse, named, host, rstrip_scheme valid]
  by_cases sep : path ≠ [] ∧ path.head? ≠ some '/'
  · simp [sep]
    rfl
  · simp [sep]
    rfl

theorem normpath_of_parse {path scheme netloc path_ : List Char}
    (parsed : parse path = .ok (scheme, netloc, path_)) :
    normpath path = unparse scheme netloc (PosixPath.normpath path_) := by
  simp [normpath, parsed]
  rfl

theorem dirname_of_parse {path scheme netloc path_ : List Char}
    (parsed : parse path = .ok (scheme, netloc, path_)) :
    dirname path = unparse scheme netloc (PosixPath.dirname path_) := by
  simp [dirname, parsed]
  rfl

end Parsing

section Joining

theorem isfull_of_colon_free {path : List Char} (noColon : ':' ∉ path) : isfull path = false := by
  unfold isfull PATTERN
  split
  · rename_i scheme rest _ spanned
    have tail : ':' ∈ path.dropWhile isSchemeChar := by
      rw [List.span_eq_takeWhile_dropWhile, Prod.mk.injEq] at spanned
      simp [spanned.2]
    exact absurd ((List.dropWhile_suffix isSchemeChar).subset tail) noColon
  · rfl

theorem join_relative_pair (a : List Char) {b : List Char} (notFull : isfull b = false)
    (relative : b.head? ≠ some '/') :
    join [a, b] = .ok (PosixPath.rstrip '/' a ++ '/' :: b) := by
  have step : joinStep [a] b = [PosixPath.rstrip '/' a, b] := by
    simp [joinStep, isabs, notFull, relative, PosixPath.lstrip_of_head relative]
    rfl
  simp [join, step]
  rfl

theorem isfull_scheme {scheme : List Char} (valid : IsScheme scheme) (rest : List Char) :
    isfull (scheme ++ ':' :: rest) = true := by
  simp [isfull, PATTERN_scheme valid]

theorem join_full_pair {a : List Char} (full : isfull a = true)
    (noTrailing : PosixPath.rstrip '/' a = a) (b : List Char) :
    join [a, b] = .ok (if isfull b then b else a ++ '/' :: PosixPath.lstrip '/' b) := by
  have last : [a].modifyLast (PosixPath.rstrip '/') = [a] := by
    show [PosixPath.rstrip '/' a] = [a]
    rw [noTrailing]
  have step : joinStep [a] b = if isfull b then [b] else [a, PosixPath.lstrip '/' b] := by
    simp [joinStep, last, full]
  cases fullB : isfull b <;> simp [join, step, fullB] <;> rfl

end Joining

section Schemeless

theorem PATTERN_colon_free {path : List Char} (noColon : ':' ∉ path) : PATTERN path = none := by
  have notFull := isfull_of_colon_free noColon
  rwa [isfull, Option.isSome_eq_false_iff, Option.isNone_iff_eq_none] at notFull

theorem parse_relative {path : List Char} (nonempty : path ≠ [])
    (relative : path.head? ≠ some '/') (noColon : ':' ∉ path) :
    parse path = .ok ([], [], path) := by
  obtain ⟨c, rest, rfl⟩ := List.exists_cons_of_ne_nil nonempty
  have other : c ≠ '/' := fun same => relative (by rw [same]; rfl)
  simp [parse, PATTERN_colon_free noColon, other]
  rfl

theorem parse_rooted {a : List Char} (single : a.head? ≠ some '/') (noColon : ':' ∉ a) :
    parse ('/' :: a) = .ok ([], [], '/' :: a) := by
  have noScheme : PATTERN ('/' :: a) = none := PATTERN_colon_free (by simpa using noColon)
  have noAuthority : a.take 1 ≠ ['/'] := by
    cases a with
    | nil => simp
    | cons c rest =>
      have other : c ≠ '/' := fun same => single (by rw [same]; rfl)
      simp [other]
  simp [parse, noScheme, noAuthority, PosixPath.lstrip_cons_of_head single]
  rfl

end Schemeless

section Errors

end Errors

/-- `parse` keeps nothing after the first newline that follows the scheme: `hdfs:/a\nb`
parses as `hdfs:/a`. -/
theorem parse_drops_after_newline {scheme a : List Char} (valid : IsScheme scheme)
    (single : a.head? ≠ some '/') (noNewline : '\n' ∉ a) (b : List Char) :
    parse (scheme ++ ':' :: '/' :: a ++ '\n' :: b) = .ok (scheme, [], '/' :: a) := by
  have pattern := PATTERN_scheme valid ('/' :: a ++ '\n' :: b)
  rw [takeWhile_newline (by simpa using noNewline)] at pattern
  rw [List.append_assoc, List.cons_append]
  exact parse_of_PATTERN_rooted (by simp) pattern valid.1 single

theorem parse_drops_after_newline_hdfs :
    IsScheme "hdfs".toList ∧ "a".toList.head? ≠ some '/' ∧ '\n' ∉ "a".toList ∧
      parse ("hdfs".toList ++ ':' :: '/' :: "a".toList ++ '\n' :: "b".toList) =
        .ok ("hdfs".toList, [], '/' :: "a".toList) :=
  ⟨by decide, by decide, by decide,
    parse_drops_after_newline (by decide) (by decide) (by decide) "b".toList⟩

/-- `normpath` of `scheme://netloc` normalises the empty path to `.`, so it gives
`scheme://netloc/.`, which `normpath` turns into `scheme://netloc/`. -/
theorem normpath_authority_not_idempotent {scheme netloc : List Char} (valid : IsScheme scheme)
    (host : netloc ≠ []) (noSlash : '/' ∉ netloc) (noNewline : '\n' ∉ netloc) :
    normpath (scheme ++ ':' :: '/' :: '/' :: netloc) =
        .ok (scheme ++ ':' :: '/' :: '/' :: netloc ++ ['/', '.']) ∧
      normpath (scheme ++ ':' :: '/' :: '/' :: netloc ++ ['/', '.']) =
        .ok (scheme ++ ':' :: '/' :: '/' :: netloc ++ ['/']) := by
  constructor
  · rw [normpath_of_parse (parse_authority valid host noSlash noNewline),
      unparse_authority valid host]
    rfl
  · have pattern := PATTERN_scheme_plain valid
      (show '\n' ∉ '/' :: '/' :: netloc ++ ['/', '.'] by simpa using noNewline)
    have parsed := parse_of_PATTERN_authority (by simp) pattern valid.1 host noSlash (.inr rfl)
    rw [List.append_assoc, List.cons_append, normpath_of_parse parsed, unparse_authority valid host]
    rfl

theorem normpath_authority_not_idempotent_host :
    IsScheme "hdfs".toList ∧ "host".toList ≠ [] ∧ '/' ∉ "host".toList ∧ '\n' ∉ "host".toList ∧
      normpath ("hdfs".toList ++ ':' :: '/' :: '/' :: "host".toList) =
        .ok ("hdfs".toList ++ ':' :: '/' :: '/' :: "host".toList ++ ['/', '.']) ∧
      normpath ("hdfs".toList ++ ':' :: '/' :: '/' :: "host".toList ++ ['/', '.']) =
        .ok ("hdfs".toList ++ ':' :: '/' :: '/' :: "host".toList ++ ['/']) :=
  ⟨by decide, by decide, by decide, by decide,
    normpath_authority_not_idempotent (by decide) (by decide) (by decide) (by decide)⟩

/-- With an empty first part, `join` makes a relative path absolute, where `posixpath.join`
keeps it relative. -/
theorem join_empty_head_absolute {b : List Char} (relative : b.head? ≠ some '/')
    (notFull : isfull b = false) :
    join [[], b] = .ok ('/' :: b) ∧
      PosixPath.normpath ('/' :: b) ≠ PosixPath.normpath (PosixPath.join [] [b]) := by
  have step : joinStep [[]] b = [[], b] := by
    simp [joinStep, isabs, notFull, relative, PosixPath.lstrip_of_head relative]
    rfl
  have posix : PosixPath.join [] [b] = b := by simp [PosixPath.join, relative]
  refine ⟨?_, ?_⟩
  · simp [join, step]
    rfl
  · rw [posix]
    intro same
    exact PosixPath.head?_normpath_of_relative relative
      (same ▸ PosixPath.head?_normpath_of_rooted rfl)

theorem join_empty_head_absolute_a :
    "a".toList.head? ≠ some '/' ∧ isfull "a".toList = false ∧
      join [[], "a".toList] = .ok ('/' :: "a".toList) ∧
      PosixPath.normpath ('/' :: "a".toList) ≠
        PosixPath.normpath (PosixPath.join [] ["a".toList]) :=
  ⟨by decide, by decide, join_empty_head_absolute (by decide) (by decide)⟩

/-- `basename` takes the netloc of `scheme://netloc` for its tail, although the path is empty. -/
theorem splitpath_authority_netloc_tail {scheme netloc : List Char} (valid : IsScheme scheme)
    (host : netloc ≠ []) (noSlash : '/' ∉ netloc) (noNewline : '\n' ∉ netloc) :
    parse (scheme ++ ':' :: '/' :: '/' :: netloc) = .ok (scheme, netloc, []) ∧
      splitpath (scheme ++ ':' :: '/' :: '/' :: netloc) =
        .ok (scheme ++ ':' :: '/' :: '/' :: netloc, netloc) := by
  have parsed := parse_authority valid host noSlash noNewline
  have tail : basename (scheme ++ ':' :: '/' :: '/' :: netloc) = netloc := by
    have shape : scheme ++ ':' :: '/' :: '/' :: netloc = (scheme ++ [':', '/']) ++ '/' :: netloc := by
      simp
    rw [basename, shape, PosixPath.basename_append_slash _ noSlash]
  refine ⟨parsed, ?_⟩
  simp [splitpath, dirname_of_parse parsed, unparse_authority valid host, tail]
  rfl

theorem splitpath_authority_netloc_tail_host :
    IsScheme "hdfs".toList ∧ "host".toList ≠ [] ∧ '/' ∉ "host".toList ∧ '\n' ∉ "host".toList ∧
      parse ("hdfs".toList ++ ':' :: '/' :: '/' :: "host".toList) =
        .ok ("hdfs".toList, "host".toList, []) ∧
      splitpath ("hdfs".toList ++ ':' :: '/' :: '/' :: "host".toList) =
        .ok ("hdfs".toList ++ ':' :: '/' :: '/' :: "host".toList, "host".toList) :=
  ⟨by decide, by decide, by decide, by decide,
    splitpath_authority_netloc_tail (by decide) (by decide) (by decide) (by decide)⟩

end Pydoop.Hdfs.Path
