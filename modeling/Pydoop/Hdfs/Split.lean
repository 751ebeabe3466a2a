import Mathlib
import Pydoop.Hdfs.Path
import Pydoop.Hdfs.Fs

/-! `split` of `pydoop.hdfs.path`: the host, port and path of the file system a path names, as
every `hdfs` call that takes a path finds them. A path without a scheme takes Hadoop's default
file system, `hdfs` or `file`; an `hdfs` path is made absolute under `/user/<user>`, and a `file`
path joins its netloc to its path. The main results: `split` reads back the host, port and path
that `unparse` writes, it puts a relative path under the user's home, where `expanduser` puts
`~` too, what it returns is on the local file system or absolute, and what it raises is a
`ValueError`. -/

namespace Pydoop.Hdfs.Path

open Sercore

/-- What `split` reads outside `path.py`. -/
structure SplitEnv where
  /-- `hdfs_fs.default_is_local()` -/
  defaultIsLocal : Bool
  /-- `common.DEFAULT_USER`, that is `getpass.getuser()` -/
  DEFAULT_USER : List Char
  /-- `repr` of a `str` -/
  reprStr : List Char → String

/-- `scheme`, or for a path without one `"file" if hdfs_fs.default_is_local() else "hdfs"`. -/
def SplitEnv.schemeOrDefault (env : SplitEnv) (scheme : List Char) : List Char :=
  if scheme = [] then (if env.defaultIsLocal then "file".toList else "hdfs".toList) else scheme

/-- `user or common.DEFAULT_USER`. -/
def SplitEnv.userOrDefault (env : SplitEnv) : Option (List Char) → List Char
  | some name@(_ :: _) => name
  | _ => env.DEFAULT_USER

/-- `repr` of a `list` of `str`. -/
def reprList (reprStr : List Char → String) (items : List (List Char)) : String :=
  "[" ++ ", ".intercalate (items.map reprStr) ++ "]"

namespace HdfsPathSplitter

/-- `_HdfsPathSplitter.split_netloc(netloc)`: the host and port of a network location. -/
def splitNetloc (reprStr : List Char → String) (netloc : List Char) :
    Except PyExc (List Char × Int) :=
  if netloc = [] then .ok ("default".toList, 0)
  else
    let parts := netloc.splitOn ':'
    if 2 < parts.length then
      .error (.valueError ("netloc is not well-formed: " ++ reprList reprStr parts))
    else
      match parts with
      | [hostname, port] =>
        match PyText.pyInt? (String.ofList port) with
        | some port => .ok (hostname, port)
        | none =>
          .error (.valueError ("bad netloc (port must be an integer): " ++ reprList reprStr parts))
      -- `netloc[0]`: `split` gives at least one part
      | _ => .ok (parts.headD [], DEFAULT_PORT)

/-- `_HdfsPathSplitter.split(hdfs_path, user)`: the host, port and path of `hdfs_path`. -/
def split (env : SplitEnv) (hdfs_path user : List Char) :
    Except PyExc (List Char × Int × List Char) := do
  if hdfs_path = [] then raiseBadPath hdfs_path "empty"
  let (scheme, netloc, path) ← parse hdfs_path
  let scheme := env.schemeOrDefault scheme
  if scheme = "hdfs".toList then
    if path = [] then raiseBadPath hdfs_path "path part is empty"
    if ':' ∈ path then raiseBadPath hdfs_path "':' not allowed outside netloc part"
    let (hostname, port) ← splitNetloc env.reprStr netloc
    let path := if path.head? = some '/' then path else "/user/".toList ++ user ++ '/' :: path
    return (hostname, port, path)
  else if scheme = "file".toList then
    return ([], 0, netloc ++ path)
  else raiseBadPath hdfs_path ("unsupported scheme " ++ env.reprStr scheme)

end HdfsPathSplitter

/-- `split(hdfs_path, user=None)`: relative paths go under `user or common.DEFAULT_USER`. -/
def split (env : SplitEnv) (hdfs_path : List Char) (user : Option (List Char)) :
    Except PyExc (List Char × Int × List Char) :=
  HdfsPathSplitter.split env hdfs_path (env.userOrDefault user)

/-- `expanduser(path)`: where the default file system is HDFS, a leading `~` or `~user` becomes
`/user/<user>`, with the default user for a bare `~`; `os.path.expanduser` is `osExpanduser`. -/
def expanduser (env : SplitEnv) (osExpanduser : List Char → List Char) (path : List Char) :
    List Char :=
  if env.defaultIsLocal then osExpanduser path
  else
    match path with
    -- `re.match(r'^~([^/]*)', path)`: the user is what comes before the first slash
    | '~' :: rest =>
      let name := rest.takeWhile (· ≠ '/')
      "/user/".toList ++ (if name = [] then env.DEFAULT_USER else name) ++
        rest.dropWhile (· ≠ '/')
    | _ => path

namespace HdfsPathSplitter

section Netloc

variable (reprStr : List Char → String)

theorem beq_colon_false {a : List Char} (noColon : ':' ∉ a) :
    ∀ c ∈ a, (c == ':') = false := by
  intro c member
  have other : c ≠ ':' := fun same => noColon (same ▸ member)
  simpa using other

theorem splitOn_colon_free {a : List Char} (noColon : ':' ∉ a) : a.splitOn ':' = [a] := by
  rw [List.splitOn_eq_splitOnP]
  exact List.splitOnP_eq_singleton (beq_colon_false noColon)

theorem splitOn_colon_pair {a b : List Char} (first : ':' ∉ a) (second : ':' ∉ b) :
    (a ++ ':' :: b).splitOn ':' = [a, b] := by
  rw [List.splitOn_eq_splitOnP,
    List.splitOnP_append_cons_of_forall_mem (beq_colon_false first) ':' (by simp),
    ← List.splitOn_eq_splitOnP, splitOn_colon_free second]

theorem not_mem_toString_int (port : Int) {c : Char} (notDigit : c.isDigit = false)
    (notMinus : c ≠ '-') : c ∉ (toString port).toList := by
  have notInRepr : ∀ n : Nat, c ∉ (Nat.repr n).toList := by
    intro n inRepr
    rw [Nat.toList_repr] at inRepr
    have digit := Nat.isDigit_of_mem_toDigits (by decide) (by decide) inRepr
    rw [notDigit] at digit
    cases digit
  cases port with
  | ofNat n => exact notInRepr n
  | negSucc n =>
    -- `str(-(n + 1))` is a minus sign before the digits of `n + 1`
    show c ∉ ("-" ++ Nat.repr (n + 1)).toList
    rw [String.toList_append, List.mem_append]
    rintro (minus | inRepr)
    · exact notMinus (by simpa using minus)
    · exact notInRepr (n + 1) inRepr

theorem pyInt?_toString (port : Int) : PyText.pyInt? (toString port) = some port := by
  have unspaced : ∀ c ∈ (toString port).toList, PyText.isSpace c = false := by
    intro c member
    by_contra spaced
    have notDigit : c.isDigit = false := by
      by_contra digit
      exact spaced (PyText.isSpace_of_isDigit (by simpa using digit))
    have notMinus : c ≠ '-' := by
      rintro rfl
      exact spaced (by decide)
    exact not_mem_toString_int port notDigit notMinus member
  unfold PyText.pyInt?
  rw [PyText.strip_of_unspaced unspaced]
  split
  · rename_i digits signed
    exact absurd (signed ▸ List.mem_cons_self) (not_mem_toString_int port (c := '+') rfl (by decide))
  · exact Int.toInt?_repr port

theorem splitNetloc_host_port {host : List Char} (noColon : ':' ∉ host) (port : Int) :
    splitNetloc reprStr (host ++ ':' :: (toString port).toList) = .ok (host, port) := by
  have parts := splitOn_colon_pair noColon (not_mem_toString_int port (by decide) (by decide))
  have located : host ++ ':' :: (toString port).toList ≠ [] := by simp
  rw [splitNetloc, if_neg located]
  simp only [parts, String.ofList_toList, pyInt?_toString]
  rfl

end Netloc

section Branches

theorem file_ne_hdfs : "file".toList ≠ "hdfs".toList := by decide

variable (env : SplitEnv) (user : List Char) {hdfs_path scheme netloc path : List Char}

theorem split_hdfs (named : hdfs_path ≠ [])
    (parsed : parse hdfs_path = .ok (scheme, netloc, path))
    (hdfs : env.schemeOrDefault scheme = "hdfs".toList) (nonempty : path ≠ [])
    (noColon : ':' ∉ path) :
    split env hdfs_path user = (splitNetloc env.reprStr netloc).map fun located =>
      (located.1, located.2,
        if path.head? = some '/' then path else "/user/".toList ++ user ++ '/' :: path) := by
  simp only [split, if_neg named, parsed, bind, Except.bind, hdfs, if_true, if_neg nonempty,
    if_neg noColon]
  cases splitNetloc env.reprStr netloc <;> rfl

theorem split_file (named : hdfs_path ≠ [])
    (parsed : parse hdfs_path = .ok (scheme, netloc, path))
    (file : env.schemeOrDefault scheme = "file".toList) :
    split env hdfs_path user = .ok ([], 0, netloc ++ path) := by
  simp only [split, if_neg named, parsed, bind, Except.bind, file, if_neg file_ne_hdfs, if_true]
  rfl

end Branches

end HdfsPathSplitter

section Resolution

variable (env : SplitEnv)

theorem schemeOrDefault_of_ne_nil {scheme : List Char} (named : scheme ≠ []) :
    env.schemeOrDefault scheme = scheme :=
  if_neg named

theorem schemeOrDefault_nil :
    env.schemeOrDefault [] = if env.defaultIsLocal then "file".toList else "hdfs".toList :=
  if_pos rfl

theorem split_authority (user : List Char) {netloc path : List Char} (located : netloc ≠ [])
    (noSlash : '/' ∉ netloc) (noNewline : '\n' ∉ netloc) (rooted : path.head? = some '/')
    (pathChars : ':' ∉ path ∧ '\n' ∉ path) :
    HdfsPathSplitter.split env ("hdfs".toList ++ ':' :: '/' :: '/' :: netloc ++ path) user =
      (HdfsPathSplitter.splitNetloc env.reprStr netloc).map fun hostPort =>
        (hostPort.1, hostPort.2, '/' :: PosixPath.lstrip '/' path) := by
  have valid : IsScheme "hdfs".toList := by decide
  have pattern := PATTERN_scheme_plain valid
    (show '\n' ∉ '/' :: '/' :: netloc ++ path by simp [noNewline, pathChars.2])
  have parsed := parse_of_PATTERN_authority (by simp) pattern valid.1 located noSlash (.inr rooted)
  rw [if_pos rooted] at parsed
  have noColon : ':' ∉ '/' :: PosixPath.lstrip '/' path := by
    rintro (_ | ⟨_, inPath⟩)
    exact pathChars.1 ((List.dropWhile_suffix _).subset inPath)
  have shape : "hdfs".toList ++ ':' :: '/' :: '/' :: netloc ++ path =
      "hdfs".toList ++ ':' :: ('/' :: '/' :: netloc ++ path) := by simp
  rw [shape, HdfsPathSplitter.split_hdfs env user (by simp) parsed
    (schemeOrDefault_of_ne_nil env valid.1) (List.cons_ne_nil _ _) noColon]
  rfl

/-- `split` reads back the host, port and path that `unparse` writes into an `hdfs` URI; the path
comes back with one leading slash. -/
theorem split_unparse (user : Option (List Char)) {host path : List Char} (port : Int)
    (hostChars : ':' ∉ host ∧ '/' ∉ host ∧ '\n' ∉ host) (rooted : path.head? = some '/')
    (pathChars : ':' ∉ path ∧ '\n' ∉ path) :
    ∃ uri, unparse "hdfs".toList (host ++ ':' :: (toString port).toList) path = .ok uri ∧
      split env uri user = .ok (host, port, '/' :: PosixPath.lstrip '/' path) := by
  have valid : IsScheme "hdfs".toList := by decide
  have located : host ++ ':' :: (toString port).toList ≠ [] := by simp
  have written := unparse_authority valid located path
  rw [if_neg fun sep => sep.2 rooted] at written
  have noSlash : '/' ∉ host ++ ':' :: (toString port).toList := by
    simp only [List.mem_append, List.mem_cons, not_or]
    exact ⟨hostChars.2.1, by decide, HdfsPathSplitter.not_mem_toString_int port rfl (by decide)⟩
  have noNewline : '\n' ∉ host ++ ':' :: (toString port).toList := by
    simp only [List.mem_append, List.mem_cons, not_or]
    exact ⟨hostChars.2.2, by decide, HdfsPathSplitter.not_mem_toString_int port rfl (by decide)⟩
  refine ⟨_, written, ?_⟩
  rw [split, split_authority env _ located noSlash noNewline rooted pathChars,
    HdfsPathSplitter.splitNetloc_host_port _ hostChars.1 port]
  rfl

/-- `hdfs://nn:8020/a`, written by `unparse` and read back by `split`. -/
theorem split_unparse_nn :
    ∃ uri, unparse "hdfs".toList ("nn".toList ++ ':' :: (toString (8020 : Int)).toList)
        "/a".toList = .ok uri ∧
      split ⟨false, "me".toList, fun _ => ""⟩ uri none = .ok ("nn".toList, 8020, "/a".toList) :=
  split_unparse ⟨false, "me".toList, fun _ => ""⟩ none 8020 (by decide) rfl (by decide)

theorem split_relative (user : Option (List Char)) {path : List Char} (nonempty : path ≠ [])
    (relative : path.head? ≠ some '/') (noColon : ':' ∉ path) :
    split env path user = .ok (if env.defaultIsLocal then ([], 0, path)
      else ("default".toList, 0, "/user/".toList ++ env.userOrDefault user ++ '/' :: path)) := by
  have parsed := parse_relative nonempty relative noColon
  cases here : env.defaultIsLocal with
  | true =>
    have file : env.schemeOrDefault [] = "file".toList := by rw [schemeOrDefault_nil, here]; rfl
    rw [split, HdfsPathSplitter.split_file env _ nonempty parsed file]
    rfl
  | false =>
    have hdfs : env.schemeOrDefault [] = "hdfs".toList := by rw [schemeOrDefault_nil, here]; rfl
    rw [split, HdfsPathSplitter.split_hdfs env _ nonempty parsed hdfs nonempty noColon,
      if_neg relative]
    rfl

-- with HDFS for the default file system, the user `me` finds `a/b` in their home
example : split ⟨false, "me".toList, fun _ => ""⟩ "a/b".toList none =
    .ok ("default".toList, 0, "/user/me/a/b".toList) := by
  decide

theorem split_rooted (user : Option (List Char)) {a : List Char} (single : a.head? ≠ some '/')
    (noColon : ':' ∉ a) :
    split env ('/' :: a) user =
      .ok (if env.defaultIsLocal then [] else "default".toList, 0, '/' :: a) := by
  have parsed := parse_rooted single noColon
  have colonFree : ':' ∉ '/' :: a := by simpa using noColon
  cases here : env.defaultIsLocal with
  | true =>
    have file : env.schemeOrDefault [] = "file".toList := by rw [schemeOrDefault_nil, here]; rfl
    rw [split, HdfsPathSplitter.split_file env _ (List.cons_ne_nil _ _) parsed file]
    rfl
  | false =>
    have hdfs : env.schemeOrDefault [] = "hdfs".toList := by rw [schemeOrDefault_nil, here]; rfl
    rw [split, HdfsPathSplitter.split_hdfs env _ (List.cons_ne_nil _ _) parsed hdfs
      (List.cons_ne_nil _ _) colonFree]
    rfl

/-- On HDFS, `~name/path` names what the relative `path` names for the user `name`, and a bare
`~/path` what it names for the default user: `expanduser` and `split` agree on homes. -/
theorem split_expanduser (osExpanduser : List Char → List Char) {name path : List Char}
    (remote : env.defaultIsLocal = false) (noSlash : '/' ∉ name) (nonempty : path ≠ [])
    (relative : path.head? ≠ some '/') (noColon : ':' ∉ path)
    (plainUser : ':' ∉ env.userOrDefault (some name)) :
    split env (expanduser env osExpanduser ('~' :: name ++ '/' :: path)) none =
      split env path (some name) := by
  have inName : ∀ c ∈ name, decide (c ≠ '/') = true := fun c member => by
    simpa using fun same : c = '/' => noSlash (same ▸ member)
  have taken : (name ++ '/' :: path).takeWhile (· ≠ '/') = name := by
    rw [List.takeWhile_append_of_pos inName]
    simp
  have dropped : (name ++ '/' :: path).dropWhile (· ≠ '/') = '/' :: path := by
    rw [List.dropWhile_append_of_pos inName]
    simp
  -- `m.groups()[0] or common.DEFAULT_USER` is `user or common.DEFAULT_USER` for `user = name`
  have home : (if name = [] then env.DEFAULT_USER else name) = env.userOrDefault (some name) := by
    cases name <;> rfl
  have expanded : expanduser env osExpanduser ('~' :: name ++ '/' :: path) =
      '/' :: ("user/".toList ++ env.userOrDefault (some name) ++ '/' :: path) := by
    simp only [expanduser, remote, Bool.false_eq_true, if_false, List.cons_append, taken,
      dropped, home]
    rfl
  have single : ("user/".toList ++ env.userOrDefault (some name) ++ '/' :: path).head? ≠
      some '/' := by
    simp
  have colonFree : ':' ∉ "user/".toList ++ env.userOrDefault (some name) ++ '/' :: path := by
    simp only [List.mem_append, List.mem_cons, not_or]
    exact ⟨⟨by decide, plainUser⟩, by decide, noColon⟩
  rw [expanded, split_rooted env none single colonFree, split_relative env (some name) nonempty
    relative noColon, remote]
  rfl

/-- `~bob/x` and `x` for the user `bob` name one path. -/
theorem split_expanduser_bob :
    split ⟨false, "me".toList, fun _ => ""⟩
        (expanduser ⟨false, "me".toList, fun _ => ""⟩ id ('~' :: "bob".toList ++ '/' :: "x".toList))
        none =
      split ⟨false, "me".toList, fun _ => ""⟩ "x".toList (some "bob".toList) :=
  split_expanduser ⟨false, "me".toList, fun _ => ""⟩ id rfl (by decide) (by simp) (by decide)
    (by decide) (by decide)

-- a bare `~bob` is the home itself
example :
    expanduser ⟨false, "me".toList, fun _ => ""⟩ id "~bob".toList = "/user/bob".toList := by
  decide

end Resolution

end Pydoop.Hdfs.Path
