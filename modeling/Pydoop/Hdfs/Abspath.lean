import Mathlib
import Pydoop.Hdfs.Split
import Pydoop.Hdfs.Cache

/-! `abspath` of `pydoop.hdfs.path`: a path made a full URI. For a path on HDFS it opens a handle
on the path's file system to read back its host and port, joins them to the path, and closes the
handle. The main result: what it returns is always a full URI, as its documentation says, and any
run, returning or raising, leaves the count of handles on every file system as it was. -/

namespace Pydoop.Hdfs.Path

open Effect Sercore

/-- `abspath(hdfs_path, user, local)`, with `os.path.abspath` as `osAbspath`, which reads the
working directory. -/
def abspath (splitEnv : SplitEnv) (env : Env) (osAbspath : List Char → List Char)
    (hdfs_path : List Char) (user : Option (List Char)) (isLocal : Bool) :
    Effect PyExc World (List Char) := do
  if isLocal then return "file:".toList ++ osAbspath hdfs_path
  if isfull hdfs_path then return hdfs_path
  let (hostname, port, path) ← MonadExcept.ofExcept (split splitEnv hdfs_path user)
  if hostname ≠ [] then
    let status ← init env (String.ofList hostname) port none
    let (host, port) := (← get).hostPort status
    let apath ←
      MonadExcept.ofExcept (join [("hdfs://" ++ host ++ ":" ++ toString port).toList, path])
    close status
    return apath
  else
    return "file:".toList ++ osAbspath path

section Uri

theorem hdfsUri_shape (host : String) (port : Int) :
    ("hdfs://" ++ host ++ ":" ++ toString port).toList =
      "hdfs".toList ++ ':' :: '/' :: '/' :: (host.toList ++ ':' :: (toString port).toList) := by
  simp

theorem isfull_hdfsUri_append (host : String) (port : Int) (rest : List Char) :
    isfull (("hdfs://" ++ host ++ ":" ++ toString port).toList ++ rest) = true := by
  rw [hdfsUri_shape, List.append_assoc, List.cons_append]
  exact isfull_scheme (by decide) _

theorem rstrip_hdfsUri (host : String) (port : Int) :
    PosixPath.rstrip '/' ("hdfs://" ++ host ++ ":" ++ toString port).toList =
      ("hdfs://" ++ host ++ ":" ++ toString port).toList := by
  refine PosixPath.rstrip_of_getLast fun last => ?_
  have tail : ("hdfs://" ++ host ++ ":" ++ toString port).toList =
      ("hdfs://".toList ++ host.toList) ++ ':' :: (toString port).toList := by
    simp
  rw [tail, List.getLast?_append_cons] at last
  rcases List.mem_cons.mp (List.mem_of_getLast? last) with colon | inPort
  · exact absurd colon (by decide)
  · exact HdfsPathSplitter.not_mem_toString_int port rfl (by decide) inPort

theorem isfull_file (path : List Char) : isfull ("file:".toList ++ path) = true := by
  have shape : "file:".toList ++ path = "file".toList ++ ':' :: path := by simp
  rw [shape]
  exact isfull_scheme (by decide) path

end Uri

section Runs

variable (splitEnv : SplitEnv) (env : Env) (osAbspath : List Char → List Char)
  (user : Option (List Char)) (isLocal : Bool)

/-- Any run of `abspath`, returning or raising, leaves the count of handles on every file system
as it was, and what it returns is a full URI, as its documentation says. -/
theorem abspath_spec {hdfs_path : List Char} {w w' : World} {o : Except PyExc (List Char)}
    (ran : (abspath splitEnv env osAbspath hdfs_path user isLocal).run w = (o, w')) :
    (∀ i, w'.refcount i = w.refcount i) ∧ ∀ apath, o = .ok apath → isfull apath = true := by
  unfold abspath at ran
  split at ran
  · rw [run_pure, Prod.mk.injEq] at ran
    obtain ⟨rfl, rfl⟩ := ran
    exact ⟨fun _ => rfl, fun apath returned => by cases returned; exact isfull_file _⟩
  split at ran
  · rename_i full
    rw [run_pure, Prod.mk.injEq] at ran
    obtain ⟨rfl, rfl⟩ := ran
    exact ⟨fun _ => rfl, fun apath returned => by cases returned; exact full⟩
  rcases run_bind_cases ran with ⟨e, failed, rfl⟩ | ⟨⟨hostname, port, path⟩, w₁, splitRan, rest⟩
  · rw [run_ofExcept, Prod.mk.injEq] at failed
    obtain ⟨-, rfl⟩ := failed
    exact ⟨fun _ => rfl, fun _ raised => by cases raised⟩
  rw [run_ofExcept, Prod.mk.injEq] at splitRan
  obtain ⟨-, rfl⟩ := splitRan
  dsimp only at rest
  split at rest
  · rcases run_bind_cases rest with ⟨e, failed, rfl⟩ | ⟨status, w₂, opened, rest⟩
    · refine ⟨?_, fun _ raised => by cases raised⟩
      rcases init_error_cases failed with rfl | ⟨c, rfl⟩ <;> exact fun _ => rfl
    obtain ⟨base, counts, rfl⟩ := init_base opened
    -- `close()` takes back the handle `__init__` added
    have balanced : ∀ {o' : Except PyExc Unit} {w'' : World},
        (close status).run (base.addRefcount status 1) = (o', w'') →
          ∀ i, w''.refcount i = w.refcount i := by
      intro o' w'' closed i
      rw [World.refcount_of_statuses (close_statuses closed), World.addRefcount_addRefcount_neg,
        counts]
    rw [run_bind_ok (run_get _)] at rest
    generalize (base.addRefcount status 1).hostPort status = hostPort at rest
    obtain ⟨host, port⟩ := hostPort
    dsimp only at rest
    have uri := isfull_hdfsUri_append host port []
    rw [List.append_nil] at uri
    rw [join_full_pair uri (rstrip_hdfsUri host port), run_bind_ok (run_ofExcept_ok _ _)] at rest
    rcases run_bind_cases rest with ⟨e, failed, rfl⟩ | ⟨u, w₃, closed, rest⟩
    · exact ⟨balanced failed, fun _ raised => by cases raised⟩
    rw [run_pure, Prod.mk.injEq] at rest
    obtain ⟨rfl, rfl⟩ := rest
    refine ⟨balanced closed, fun apath returned => ?_⟩
    cases returned
    by_cases pathFull : isfull path = true
    · rw [if_pos pathFull]
      exact pathFull
    · rw [if_neg pathFull]
      exact isfull_hdfsUri_append host port _
  · rw [run_pure, Prod.mk.injEq] at rest
    obtain ⟨rfl, rfl⟩ := rest
    exact ⟨fun _ => rfl, fun apath returned => by cases returned; exact isfull_file _⟩

/-- `abspath("/a")` with HDFS for the default file system: a handle opened on `default` and closed
again. -/
theorem abspath_spec_rooted :
    let env : Env :=
      ⟨"me", fun _ => none, fun _ => .ok (), fun _ => .ok ⟨"hdfs", "nn:8020", "/user/me"⟩,
        fun _ _ => .ok none, fun _ => .ok (), fun _ => true⟩
    let ran :=
      (abspath ⟨false, "me".toList, fun _ => ""⟩ env id "/a".toList none false).run World.empty
    (∀ i, ran.2.refcount i = World.empty.refcount i) ∧
      ∀ apath, ran.1 = .ok apath → isfull apath = true := by
  intro env ran
  exact abspath_spec _ env id none false (Prod.mk.eta (p := ran)).symm

end Runs

end Pydoop.Hdfs.Path
