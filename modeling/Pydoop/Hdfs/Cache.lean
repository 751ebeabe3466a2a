import Pydoop.Hdfs.Fs

/-! The connection cache of `hdfs` over whole runs: which `core_hdfs_fs` connections a
construction opens and who holds them, and what the top-level helpers of `pydoop.hdfs` leave in
`_CACHE`. -/

namespace Pydoop.Hdfs

open Effect Sercore

/-! How the world operations move the counts. -/

section World

variable {w : World} {status : Nat}

@[simp] theorem World.addRefcount_statuses_length (w : World) (status : Nat) (delta : Int) :
    (w.addRefcount status delta).statuses.length = w.statuses.length := by
  simp [World.addRefcount]

@[simp] theorem World.addRefcount_connections (w : World) (status : Nat) (delta : Int) :
    (w.addRefcount status delta).connections = w.connections := rfl

@[simp] theorem World.addRefcount_cache (w : World) (status : Nat) (delta : Int) :
    (w.addRefcount status delta).cache = w.cache := rfl

theorem World.refcount_addRefcount (inRange : status < w.statuses.length) (delta : Int) :
    (w.addRefcount status delta).refcount status = w.refcount status + delta := by
  simp [World.refcount, World.addRefcount, inRange]

theorem World.refcount_of_statuses {w w' : World} (same : w'.statuses = w.statuses) (i : Nat) :
    w'.refcount i = w.refcount i := by
  simp [World.refcount, same]

theorem World.addRefcount_addRefcount_neg (w : World) (status : Nat) (delta : Int) :
    (w.addRefcount status delta).addRefcount status (-delta) = w := by
  have restored : (fun s : FSStatus => { s with refcount := s.refcount + -delta }) ∘
      (fun s : FSStatus => { s with refcount := s.refcount + delta }) = id := by
    funext s
    simp
  simp only [World.addRefcount, List.modify_modify_eq, restored, List.modify_id]

theorem World.fs_addRefcount (w : World) (status i : Nat) (delta : Int) :
    (w.addRefcount status delta).statuses[i]?.map FSStatus.fs = w.statuses[i]?.map FSStatus.fs := by
  simp only [World.addRefcount, List.getElem?_modify]
  split <;> cases w.statuses[i]? <;> rfl

@[simp] theorem World.closeFs_statuses (w : World) (status : Nat) :
    (w.closeFs status).statuses = w.statuses := by
  unfold World.closeFs
  split <;> rfl

@[simp] theorem World.closeFs_cache (w : World) (status : Nat) :
    (w.closeFs status).cache = w.cache := by
  unfold World.closeFs
  split <;> rfl

@[simp] theorem World.closeFs_connections_length (w : World) (status : Nat) :
    (w.closeFs status).connections.length = w.connections.length := by
  unfold World.closeFs
  split <;> simp

theorem get?_prune {refcount : Nat → Int} {key : HPU} {status : Nat} :
    ∀ {entries : List (HPU × Nat)} {cache : PyDict HPU Nat},
      (entries.foldl (fun cache (k, s) => if refcount s = 0 then cache.erase k else cache)
        cache).get? key = some status → cache.get? key = some status
  | [], _, found => found
  | (k, s) :: rest, cache, found => by
    rw [List.foldl_cons] at found
    have pruned := get?_prune found
    dsimp only at pruned
    split at pruned
    · rw [PyDict.get?_erase] at pruned
      split at pruned
      · cases pruned
      · exact pruned
    · exact pruned

end World

theorem getConnectionInfo_state {env : Env} {hpu : HPU} {w w' : World}
    {o : Except PyExc (String × Int × String × Nat)} (ran : (getConnectionInfo env hpu).run w = (o, w')) :
    (w' = w ∧ ∃ e, o = .error e) ∨
      (w' = { w with connections := w.connections ++ [⟨hpu, 0⟩] } ∧
        ∀ h p u fs, o = .ok (h, p, u, fs) → fs = w.connections.length) := by
  unfold getConnectionInfo at ran
  rcases run_bind_cases ran with ⟨e, failed, rfl⟩ | ⟨_, w1, connected, rest⟩
  · rw [run_ofExcept, Prod.mk.injEq] at failed
    exact .inl ⟨failed.2.symm, e, rfl⟩
  rw [run_ofExcept, Prod.mk.injEq] at connected
  obtain ⟨-, rfl⟩ := connected
  rw [run_bind_ok (run_modifyGet _ _)] at rest
  right
  cases info : connectionInfo env hpu with
  | error e =>
    rw [info, run_bind_error (run_ofExcept _ _)] at rest
    obtain ⟨rfl, rfl⟩ := Prod.mk.inj rest
    exact ⟨rfl, fun _ _ _ _ raised => by cases raised⟩
  | ok triple =>
    obtain ⟨h, p, u⟩ := triple
    rw [info, run_bind_ok (run_ofExcept _ _), run_pure] at rest
    obtain ⟨rfl, rfl⟩ := Prod.mk.inj rest
    exact ⟨rfl, fun h p u fs returned => by cases returned; rfl⟩

theorem getConnectionInfo_ok {env : Env} {hpu : HPU} {w w' : World} {h : String} {p : Int}
    {u : String} {fs : Nat} (ran : (getConnectionInfo env hpu).run w = (.ok (h, p, u, fs), w')) :
    fs = w.connections.length ∧ w' = { w with connections := w.connections ++ [⟨hpu, 0⟩] } := by
  rcases getConnectionInfo_state ran with ⟨-, e, raised⟩ | ⟨grown, returned⟩
  · cases raised
  · exact ⟨returned h p u fs rfl, grown⟩

theorem run_addRefcount_return {w w' : World} {found status : Nat}
    (ran : ((modify fun w => w.addRefcount found 1 : Effect PyExc World PUnit) >>= fun _ =>
      pure found).run w = (.ok status, w')) :
    status = found ∧ w' = w.addRefcount found 1 := by
  obtain ⟨_, w1, bumped, rest⟩ := run_bind_eq_ok ran
  rw [run_modify] at bumped
  cases bumped
  rw [run_pure] at rest
  cases rest
  exact ⟨rfl, rfl⟩

/-- What a construction that returns can have done: found its status in `_CACHE` at once, or
opened a connection, recorded aliases, and then either found a status for the triple the
connection reported or made a new one holding the connection. -/
theorem init_cases {env : Env} {host : String} {port : Int} {user : Option String}
    {w w' : World} {status : Nat} (ran : (init env host port user).run w = (.ok status, w')) :
    (∃ key, w.cache.get? key = some status ∧ w' = w.addRefcount status 1) ∨
    ∃ (hpu : HPU) (aliases : Aliases),
      (∃ key, w.cache.get? key = some status ∧
        w' = ({ w with connections := w.connections ++ [CoreFs.mk hpu 0], aliases := aliases }).addRefcount
          status 1) ∨
      (∃ key h p u, status = w.statuses.length ∧
        w' = ({ w with
          connections := w.connections ++ [CoreFs.mk hpu 0]
          aliases := aliases
          statuses := w.statuses ++ [FSStatus.mk w.connections.length h p u 0]
          cache := w.cache.insert key w.statuses.length }).addRefcount status 1) := by
  unfold init at ran
  obtain ⟨x, w1, got, rest⟩ := run_bind_eq_ok ran
  rw [run_get] at got
  cases got
  split at rest
  · -- `__lookup` finds the status at once
    rename_i found _ found
    obtain ⟨y, w2, picked, rest⟩ := run_bind_eq_ok rest
    rw [run_pure] at picked
    cases picked
    obtain ⟨rfl, rfl⟩ := run_addRefcount_return rest
    exact .inl ⟨_, found, rfl⟩
  · -- a miss: the connection, the aliases, and a second `__lookup`
    obtain ⟨⟨h, p, u, fs⟩, w2, connected, rest⟩ := run_bind_eq_ok rest
    obtain ⟨rfl, rfl⟩ := getConnectionInfo_ok connected
    obtain ⟨_, w3, aliased, rest⟩ := run_bind_eq_ok rest
    rw [run_modify] at aliased
    cases aliased
    obtain ⟨y, w4, got, rest⟩ := run_bind_eq_ok rest
    rw [run_get] at got
    cases got
    split at rest
    · rename_i found _ found
      obtain ⟨y, w5, picked, rest⟩ := run_bind_eq_ok rest
      rw [run_pure] at picked
      cases picked
      obtain ⟨rfl, rfl⟩ := run_addRefcount_return rest
      exact .inr ⟨_, _, .inl ⟨_, found, rfl⟩⟩
    · obtain ⟨y, w5, created, rest⟩ := run_bind_eq_ok rest
      rw [run_modifyGet] at created
      cases created
      obtain ⟨rfl, rfl⟩ := run_addRefcount_return rest
      exact .inr ⟨_, _, .inr ⟨_, h, p, u, rfl, rfl⟩⟩

theorem init_error_cases {env : Env} {host : String} {port : Int} {user : Option String}
    {w w' : World} {e : PyExc} (ran : (init env host port user).run w = (.error e, w')) :
    w' = w ∨ ∃ c : CoreFs, w' = { w with connections := w.connections ++ [c] } := by
  unfold init at ran
  rcases run_bind_cases ran with ⟨e', failed, -⟩ | ⟨x, w1, got, rest⟩
  · rw [run_get] at failed
    cases failed
  rw [run_get] at got
  cases got
  dsimp only at rest
  split at rest
  · rw [run_bind_ok (run_pure _ _), run_bind_ok (run_modify _ _), run_pure] at rest
    cases rest
  · rcases run_bind_cases rest with ⟨e', failed, -⟩ | ⟨⟨h, p, u, fs⟩, w2, connected, rest⟩
    · rcases getConnectionInfo_state failed with ⟨same, -⟩ | ⟨grown, -⟩
      · exact .inl same
      · exact .inr ⟨_, grown⟩
    · rw [run_bind_ok (run_modify _ _), run_bind_ok (run_get _)] at rest
      split at rest
      · rw [run_bind_ok (run_pure _ _), run_bind_ok (run_modify _ _), run_pure] at rest
        cases rest
      · rw [run_bind_ok (run_modifyGet _ _), run_bind_ok (run_modify _ _), run_pure] at rest
        cases rest

/-! Every status holds a connection opened before it, and `_CACHE` names only statuses. -/

/-- The bound every reachable class state keeps: each `_FSStatus` holds a connection opened
before it, and `_CACHE` names only statuses that exist. -/
structure CacheBound (w : World) : Prop where
  fs_lt : ∀ i fs : Nat, w.statuses[i]?.map FSStatus.fs = some fs → fs < w.connections.length
  cached_lt : ∀ key status, w.cache.get? key = some status → status < w.statuses.length

namespace CacheBound

variable {w : World}

theorem empty : CacheBound World.empty :=
  ⟨fun _ _ held => by simp [World.empty] at held, fun _ _ found => by simp [World.empty] at found⟩

theorem addRefcount (bound : CacheBound w) (status : Nat) (delta : Int) :
    CacheBound (w.addRefcount status delta) := by
  refine ⟨fun i fs held => ?_, fun key s found => ?_⟩
  · rw [World.fs_addRefcount] at held
    exact bound.fs_lt i fs held
  · simpa using bound.cached_lt key s found

theorem connect (bound : CacheBound w) (c : CoreFs) (aliases : Aliases) :
    CacheBound { w with connections := w.connections ++ [c], aliases := aliases } := by
  refine ⟨fun i fs held => ?_, bound.cached_lt⟩
  have older := bound.fs_lt i fs held
  simp only [List.length_append, List.length_singleton]
  omega

theorem newStatus (bound : CacheBound w) {fs : Nat} (opened : fs < w.connections.length)
    (key : HPU) (h : String) (p : Int) (u : String) :
    CacheBound { w with
      statuses := w.statuses ++ [FSStatus.mk fs h p u 0]
      cache := w.cache.insert key w.statuses.length } := by
  refine ⟨fun i held isFs => ?_, fun key' s found => ?_⟩
  · rw [List.getElem?_append] at isFs
    split at isFs
    · exact bound.fs_lt i held isFs
    · rename_i past
      cases extra : i - w.statuses.length with
      | zero =>
        rw [extra] at isFs
        simp only [List.getElem?_cons_zero, Option.map_some, Option.some.injEq] at isFs
        exact isFs ▸ opened
      | succ n =>
        rw [extra] at isFs
        simp at isFs
  · rw [PyDict.get?_insert] at found
    simp only [List.length_append, List.length_singleton]
    split at found
    · cases found
      omega
    · have older := bound.cached_lt key' s found
      omega

theorem init {env : Env} {host : String} {port : Int} {user : Option String} {w' : World}
    {o : Except PyExc Nat} (bound : CacheBound w) (ran : (init env host port user).run w = (o, w')) :
    CacheBound w' := by
  cases o with
  | error e =>
    rcases init_error_cases ran with rfl | ⟨c, rfl⟩
    · exact bound
    · exact bound.connect c w.aliases
  | ok status =>
    rcases init_cases ran with ⟨key, found, rfl⟩ | ⟨hpu, aliases, ⟨key, found, rfl⟩ | ⟨key, h, p, u, rfl, rfl⟩⟩
    · exact bound.addRefcount status 1
    · exact (bound.connect _ aliases).addRefcount status 1
    · have opened : w.connections.length < (w.connections ++ [CoreFs.mk hpu 0]).length := by simp
      exact ((bound.connect _ aliases).newStatus opened key h p u).addRefcount _ 1

theorem close {status : Nat} {w' : World} {o : Except PyExc Unit} (bound : CacheBound w)
    (ran : (close status).run w = (o, w')) : CacheBound w' := by
  unfold Hdfs.close at ran
  rw [run_bind_ok (run_modify _ _), run_bind_ok (run_get _)] at ran
  have bumped := bound.addRefcount status (-1)
  split at ran
  · -- the last handle: the connection is closed and the statuses without handles leave `_CACHE`
    rw [run_bind_ok (run_modify _ _), run_modify] at ran
    cases ran
    refine ⟨fun i fs held => ?_, fun key s found => ?_⟩
    · simp only [World.closeFs_statuses, World.closeFs_connections_length] at held ⊢
      exact bumped.fs_lt i fs held
    · have kept := get?_prune found
      simp only [World.closeFs_statuses, World.closeFs_cache] at kept ⊢
      exact bumped.cached_lt key s kept
  · rw [run_pure] at ran
    cases ran
    exact bumped

end CacheBound

/-- The class states that constructions and closes reach from the first import: any number of
`hdfs(...)` constructions, returning or raising, and `close()` calls. -/
inductive Reachable (env : Env) : World → Prop
  | empty : Reachable env World.empty
  | construct {w w' : World} {host : String} {port : Int} {user : Option String}
      {o : Except PyExc Nat} :
      Reachable env w → (init env host port user).run w = (o, w') → Reachable env w'
  | closeHandle {w w' : World} {status : Nat} {o : Except PyExc Unit} :
      Reachable env w → (close status).run w = (o, w') → Reachable env w'

theorem Reachable.bound {env : Env} {w : World} (reach : Reachable env w) : CacheBound w := by
  induction reach with
  | empty => exact CacheBound.empty
  | construct _ ran bound => exact bound.init ran
  | closeHandle _ ran bound => exact bound.close ran

/-! The connection a construction opens. -/

/-- The connection an `hdfs(...)` construction that returns opens, from any reachable state: a
hit opens none; a miss opens one, still open when `__init__` returns, which is the `fs` of the
status the handle holds, or else the `fs` of no status at all. -/
theorem init_connection_fate {env : Env} {host : String} {port : Int} {user : Option String}
    {w w' : World} {status : Nat} (reach : Reachable env w)
    (ran : (init env host port user).run w = (.ok status, w')) :
    w'.connections = w.connections ∨
      ∃ hpu, w'.connections = w.connections ++ [⟨hpu, 0⟩] ∧
        (w'.statuses[status]?.map FSStatus.fs = some w.connections.length ∨
          ∀ i fs : Nat, w'.statuses[i]?.map FSStatus.fs = some fs → fs ≠ w.connections.length) := by
  have bound := reach.bound
  rcases init_cases ran with ⟨key, found, rfl⟩ |
    ⟨hpu, aliases, ⟨key, found, rfl⟩ | ⟨key, h, p, u, rfl, rfl⟩⟩
  · exact .inl rfl
  · -- the second `__lookup` found an older status: nothing holds the new connection
    refine .inr ⟨hpu, rfl, .inr fun i fs held => ?_⟩
    rw [World.fs_addRefcount] at held
    exact Nat.ne_of_lt (bound.fs_lt i fs held)
  · refine .inr ⟨hpu, rfl, .inl ?_⟩
    rw [World.fs_addRefcount]
    simp

/-- The user of a construction for the local file system is the process's own: a second
construction for another user finds the first one's status with its second `__lookup`, and the
connection it opened stays open with no status holding it. -/
theorem init_local_other_user_leaks :
    let env : Env :=
      ⟨"alice", fun _ => none, fun _ => .ok (), fun _ => .ok ⟨"file", "", "/home/alice"⟩,
        fun _ _ => .ok none, fun _ => .ok (), fun _ => true⟩
    let first := (init env "" 0 none).run World.empty
    let second := (init env "" 0 (some "bob")).run first.2
    (second.2.connections = first.2.connections ∨
      ∃ hpu, second.2.connections = first.2.connections ++ [⟨hpu, 0⟩] ∧
        (second.2.statuses[0]?.map FSStatus.fs = some first.2.connections.length ∨
          ∀ i fs : Nat, second.2.statuses[i]?.map FSStatus.fs = some fs →
            fs ≠ first.2.connections.length)) ∧
      second.1 = .ok 0 ∧
      second.2.connections = [⟨("", 0, "alice"), 0⟩, ⟨("", 0, "bob"), 0⟩] ∧
      second.2.statuses.map FSStatus.fs = [0] :=
  by
    intro env first second
    have returned : second.1 = .ok 0 := by decide
    have reached : Reachable env first.2 :=
      @Reachable.construct env World.empty first.2 "" 0 none first.1 Reachable.empty
        (Prod.mk.eta (p := first)).symm
    have ran : (init env "" 0 (some "bob")).run first.2 = (.ok 0, second.2) := by
      rw [← returned]
    exact ⟨init_connection_fate reached ran, returned, by decide, by decide⟩

/-! The top-level helpers of `pydoop.hdfs`. -/

theorem init_refcount {env : Env} {host : String} {port : Int} {user : Option String}
    {w w' : World} {status : Nat} (bound : CacheBound w)
    (ran : (init env host port user).run w = (.ok status, w')) :
    w'.refcount status = w.refcount status + 1 ∧ ∃ key, w'.cache.get? key = some status := by
  rcases init_cases ran with ⟨key, found, rfl⟩ |
    ⟨hpu, aliases, ⟨key, found, rfl⟩ | ⟨key, h, p, u, rfl, rfl⟩⟩
  · exact ⟨World.refcount_addRefcount (bound.cached_lt key status found) 1, key, found⟩
  · exact ⟨World.refcount_addRefcount (bound.cached_lt key status found) 1, key, found⟩
  · refine ⟨?_, key, by simp⟩
    rw [World.refcount_addRefcount (by simp)]
    simp [World.refcount]

theorem init_base {env : Env} {host : String} {port : Int} {user : Option String}
    {w w' : World} {status : Nat} (ran : (init env host port user).run w = (.ok status, w')) :
    ∃ base : World,
      (∀ i, base.refcount i = w.refcount i) ∧ w' = base.addRefcount status 1 := by
  rcases init_cases ran with ⟨key, found, rfl⟩ |
    ⟨hpu, aliases, ⟨key, found, rfl⟩ | ⟨key, h, p, u, rfl, rfl⟩⟩
  · exact ⟨w, fun _ => rfl, rfl⟩
  · refine ⟨_, fun _ => ?_, rfl⟩
    rfl
  · refine ⟨_, fun i => ?_, rfl⟩
    simp only [World.refcount]
    rcases Nat.lt_or_ge i w.statuses.length with older | later
    · rw [List.getElem?_append_left older]
    · rw [List.getElem?_append_right later, List.getElem?_eq_none later]
      rcases Nat.eq_or_lt_of_le later with same | beyond
      · simp [← same]
      · have past : 1 ≤ i - w.statuses.length := by omega
        simp [List.getElem?_eq_none (show [FSStatus.mk w.connections.length h p u 0].length ≤
          i - w.statuses.length by simpa using past)]

theorem close_statuses {status : Nat} {w w' : World} {o : Except PyExc Unit}
    (ran : (close status).run w = (o, w')) :
    w'.statuses = (w.addRefcount status (-1)).statuses := by
  unfold Hdfs.close at ran
  rw [run_bind_ok (run_modify _ _), run_bind_ok (run_get _)] at ran
  split at ran
  · rw [run_bind_ok (run_modify _ _), run_modify] at ran
    cases ran
    simp
  · rw [run_pure] at ran
    cases ran
    rfl

/-- The shape of `mkdir`, `rm`, `chmod`, `lsl`, `path.exists` and `path.stat`: a handle on the
file system of the path, one call on it, and `close()` once the call has returned. When the call
raises, `close()` is never reached. -/
def openCallClose {α : Type} (env : Env) (host : String) (port : Int) (user : Option String)
    (call : Except PyExc α) : Effect PyExc World α := do
  let status ← init env host port user
  -- the handle's method: `_complain_ifclosed(self.closed)`, then the core call
  let w ← get
  let retval ← MonadExcept.ofExcept (complainIfClosed w status *> call)
  close status
  return retval

/-! The functions of the package `pydoop.hdfs` (its `__init__.py`) and of `pydoop.hdfs.path`
that open a handle and close it only after their call. Each takes the outcome of
`path.split(hdfs_path, user)` and the core call it makes, which may return or raise. -/

namespace Toplevel

variable {α : Type} (env : Env) (split : Except PyExc (String × Int × String)) (user : Option String)

/-- `mkdir(hdfs_path, user)`. -/
def mkdir (createDirectory : String → Except PyExc α) : Effect PyExc World α := do
  let (host, port, path) ← MonadExcept.ofExcept split
  openCallClose env host port user (createDirectory path)

/-- `rm(hdfs_path, recursive, user)`. -/
def rm (delete : String → Except PyExc α) : Effect PyExc World α := do
  let (host, port, path) ← MonadExcept.ofExcept split
  openCallClose env host port user (delete path)

/-- `lsl(hdfs_path, user, recursive)`, the listing or the walk being the core call. -/
def lsl (listing : String → Except PyExc α) : Effect PyExc World α := do
  let (host, port, path) ← MonadExcept.ofExcept split
  openCallClose env host port user (listing path)

/-- `chmod(hdfs_path, mode, user)`. -/
def chmod (setMode : String → Except PyExc α) : Effect PyExc World α := do
  let (host, port, path) ← MonadExcept.ofExcept split
  openCallClose env host port user (setMode path)

end Toplevel

namespace Path

variable {α : Type} (env : Env) (split : Except PyExc (String × Int × String))

/-- `path.exists(hdfs_path, user)`: the handle is made without the user. -/
def «exists» (exists_ : String → Except PyExc α) : Effect PyExc World α := do
  let (host, port, path) ← MonadExcept.ofExcept split
  openCallClose env host port none (exists_ path)

/-- `path.stat(path, user)`. -/
def stat (user : Option String) (getPathInfo : String → Except PyExc α) : Effect PyExc World α := do
  let (host, port, path) ← MonadExcept.ofExcept split
  openCallClose env host port user (getPathInfo path)

end Path

theorem seq_error {α : Type} (check : Except PyExc Unit) {e : PyExc} :
    ∃ e', (check *> (.error e : Except PyExc α)) = .error e' := by
  cases check with
  | error e' => exact ⟨e', rfl⟩
  | ok _ => exact ⟨e, rfl⟩

/-- A helper whose core call raises leaves its handle open: it raises with the class state the
construction left, in which the status of the handle, named by `_CACHE`, counts one handle more
than before the helper. -/
theorem openCallClose_raise_keeps_handle {α : Type} {env : Env} {host : String} {port : Int}
    {user : Option String} {call : Except PyExc α} {w w' : World} {status : Nat} {e : PyExc}
    (reach : Reachable env w) (opened : (init env host port user).run w = (.ok status, w'))
    (raised : call = .error e) :
    (∃ e', (openCallClose env host port user call).run w = (.error e', w')) ∧
      w'.refcount status = w.refcount status + 1 ∧ ∃ key, w'.cache.get? key = some status := by
  obtain ⟨e', failed⟩ := seq_error (α := α) (complainIfClosed w' status) (e := e)
  refine ⟨⟨e', ?_⟩, init_refcount reach.bound opened⟩
  unfold openCallClose
  rw [run_bind_ok opened, run_bind_ok (run_get _), raised, failed]
  rfl

/-- `mkdir` of a directory it cannot create, on the local file system of a fresh process: the
status it made stays in `_CACHE` with one handle. -/
theorem mkdir_failure_keeps_handle :
    let env : Env :=
      ⟨"alice", fun _ => none, fun _ => .ok (), fun _ => .ok ⟨"file", "", "/home/alice"⟩,
        fun _ _ => .ok none, fun _ => .ok (), fun _ => true⟩
    let opened := (init env "" 0 none).run World.empty
    (∃ e', (openCallClose env "" 0 none
        (.error (.libraryError "Permission denied") : Except PyExc Unit)).run World.empty =
        (.error e', opened.2)) ∧
      opened.2.refcount 0 = World.empty.refcount 0 + 1 ∧ ∃ key, opened.2.cache.get? key = some 0 :=
  by
    intro env opened
    have returned : opened.1 = .ok 0 := by decide
    have ran : (init env "" 0 none).run World.empty = (.ok 0, opened.2) := by
      rw [← returned]
    exact openCallClose_raise_keeps_handle Reachable.empty ran rfl

end Pydoop.Hdfs
