import Pydoop.Sercore.Streams
import Pydoop.Lib.PyDict

/-! `fs.py`: `hdfs` handles share one `_FSStatus` per file system through the class-level
`_CACHE`, keyed by a canonical `(host, port, user)` that `_ALIASES` maps every spelling to. The
status counts the handles on it, and the last `close()` disconnects. -/

namespace Pydoop.Hdfs

open Effect PyText Sercore

/-- A `(host, port, user)` triple, as `_CACHE` keys them. -/
abbrev HPU := String × Int × String

/-- A `core_hdfs_fs` connection: the triple it was opened with, and how many times its
`close()`, i.e. `hdfsDisconnect`, has been called. -/
structure CoreFs where
  hpu : HPU
  closes : Nat
  deriving DecidableEq, Repr

/-- An `_FSStatus`: the connection of one file system, its canonical triple, and the count of
handles on it. -/
structure FSStatus where
  fs : Nat
  host : String
  port : Int
  user : String
  refcount : Int
  deriving DecidableEq, Repr

/-- `hdfs._ALIASES`: what each spelling of a host, port or user stands for. -/
structure Aliases where
  host : PyDict String String
  port : PyDict Int Int
  user : PyDict String String

/-- The class-level state of `hdfs` with the objects it reaches: `_CACHE` (statuses named by
their index in `statuses`), `_ALIASES`, and every `_FSStatus` and `core_hdfs_fs` made so far, in
the order they were made. -/
structure World where
  cache : PyDict HPU Nat
  aliases : Aliases
  statuses : List FSStatus
  connections : List CoreFs

/-- The class as first imported: empty `_CACHE` and `_ALIASES`. -/
def World.empty : World := ⟨.empty, ⟨.empty, .empty, .empty⟩, [], []⟩

/-- What `urlparse` makes of a URL. -/
structure ParsedUrl where
  scheme : String
  netloc : String
  path : String

/-- The calls `fs.py` makes outside this repository. -/
structure Env where
  /-- `getpass.getuser()` -/
  getuser : String
  /-- `socket.gethostbyname(host)`, `none` where it raises `gaierror` -/
  gethostbyname : String → Option String
  /-- `core_hdfs_fs(host, port, user)`: what it raises where it cannot connect -/
  connect : HPU → Except PyExc Unit
  /-- `urlparse(fs.get_working_directory())` on the connection opened for a triple, or what
  `get_working_directory` raises -/
  workingDirectory : HPU → Except PyExc ParsedUrl
  /-- `fs.get_hosts(path, 0, 0)` on that connection: `hosts[0][0]` where there is a non-empty
  one, or what the call raises -/
  firstBlockHost : HPU → String → Except PyExc (Option String)
  /-- `fs.set_working_directory(os.getcwd())` on a local connection, or what it raises -/
  setWorkingDirectory : HPU → Except PyExc Unit
  /-- `Py_UNICODE_ISPRINTABLE`, which `repr` consults -/
  isprintable : Char → Bool

/-- `common.DEFAULT_PORT`. -/
def DEFAULT_PORT : Int := 8020

variable (env : Env)

/-- `_get_ip(host, default)`. -/
def getIp (host : String) (default : Option String) : Option String :=
  let ip := (env.gethostbyname host).getD "0.0.0.0"
  if ip ≠ "0.0.0.0" then some ip else default

/-- `res.path.split("/", 2)[2]`. -/
def thirdPathPart (path : String) : Except PyExc String :=
  match path.splitOn "/" with
  | _ :: _ :: rest@(_ :: _) => .ok (String.intercalate "/" rest)
  | _ => .error .indexError

/-- `int(p)`, whose `ValueError` shows at most 200 characters of `repr(p)`. -/
def parsePort (p : String) : Except PyExc Int :=
  match pyInt? p with
  | some n => .ok n
  | none => .error (.valueError ("invalid literal for int() with base 10: " ++
      String.ofList ((reprStr env.isprintable p.toList).toList.take 200)))

/-- The host and, when the network location names one, the port text of
`_get_connection_info`; a missing port is `DEFAULT_PORT`. -/
def hostAndPort (hpu : HPU) (res : ParsedUrl) : Except PyExc (String × Option String) :=
  match res.netloc.splitOn ":" with
  | [h, p] => .ok (h, some p)
  | _ =>
    if res.netloc = "" then do
      match ← env.firstBlockHost hpu res.path with
      | some first => pure (first, none)
      | none => pure (res.netloc, none)
    else .ok (res.netloc, none)

/-- What `_get_connection_info` makes of the connection it opened for `hpu`: the canonical
triple, from calls on the connection that change nothing in the class. `int(p)` is evaluated
last, in the returned tuple. -/
def connectionInfo (hpu : HPU) : Except PyExc (String × Int × String) := do
  let res ← env.workingDirectory hpu
  if res.scheme = "" ∨ res.scheme = "file" then
    env.setWorkingDirectory hpu
    return ("", 0, env.getuser)
  else
    let (h, portText) ← hostAndPort env hpu res
    let u ← thirdPathPart res.path
    let p ← match portText with
      | some text => parsePort env text
      | none => pure DEFAULT_PORT
    return (h, p, u)

/-- `_get_connection_info(host, port, user)`: the canonical triple and the new connection, which
stays open whatever the calls on it raise. -/
def getConnectionInfo (hpu : HPU) : Effect PyExc World (String × Int × String × Nat) := do
  MonadExcept.ofExcept (env.connect hpu)
  let fs ← modifyGet fun w =>
    (w.connections.length, { w with connections := w.connections ++ [⟨hpu, 0⟩] })
  let (h, p, u) ← MonadExcept.ofExcept (connectionInfo env hpu)
  return (h, p, u, fs)

/-- An entry of `aliasing_info`: the true value of a spelling, under its kind. -/
inductive Alias
  | host (trueX x : String)
  | port (trueX x : Int)
  | user (trueX x : String)

/-- One pass of the loop `if true_x != x: self._ALIASES[k][x] = true_x`. -/
def Aliases.record (aliases : Aliases) : Alias → Aliases
  | .host trueX x => if trueX ≠ x then { aliases with host := aliases.host.insert x trueX }
    else aliases
  | .port trueX x => if trueX ≠ x then { aliases with port := aliases.port.insert x trueX }
    else aliases
  | .user trueX x => if trueX ≠ x then { aliases with user := aliases.user.insert x trueX }
    else aliases

/-- `__canonize_hpu(hpu)`. -/
def Aliases.canonize (aliases : Aliases) (hpu : HPU) : HPU :=
  ((aliases.host.get? hpu.1).getD hpu.1, (aliases.port.get? hpu.2.1).getD hpu.2.1,
    (aliases.user.get? hpu.2.2).getD hpu.2.2)

/-- `__lookup(hpu)`, `none` where it raises `KeyError`: the local file system, with an empty
host, is looked up as it is. -/
def World.lookup (w : World) (hpu : HPU) : Option Nat :=
  w.cache.get? (if hpu.1 ≠ "" then w.aliases.canonize hpu else hpu)

/-- The refcount of a status. -/
def World.refcount (w : World) (status : Nat) : Int :=
  (w.statuses[status]?.map FSStatus.refcount).getD 0

/-- `fs.host` and `fs.port` of a handle on `status`. -/
def World.hostPort (w : World) (status : Nat) : String × Int :=
  (w.statuses[status]?.map fun s => (s.host, s.port)).getD ("", 0)

/-- `status.refcount += delta`. -/
def World.addRefcount (w : World) (status : Nat) (delta : Int) : World :=
  { w with
    statuses := w.statuses.modify status fun s => { s with refcount := s.refcount + delta } }

/-- `fs.close()` on the connection of a status. -/
def World.closeFs (w : World) (status : Nat) : World :=
  match w.statuses[status]? with
  | some s =>
    { w with connections := w.connections.modify s.fs fun c => { c with closes := c.closes + 1 } }
  | none => w

/-- The `aliasing_info` of `__init__` for the requested `host`, `port`, `user` (and `rawHost`)
and the triple `(h, p, u)` the connection reported. -/
def aliasingInfo (rawHost host : String) (port : Int) (user h : String) (p : Int) (u : String) :
    List Alias :=
  let ipFound := getIp env h none
  let ip := ipFound.getD h
  (if user = "" then [.user u user] else []) ++
    (if h ≠ "" then [.port p port] else []) ++
    (match ipFound with
      | some found => [.host found h]
      | none => []) ++
    [.host ip host] ++
    (if rawHost ≠ host then [.host ip rawHost] else [])

/-- `hdfs(host, port, user)`: the status the new handle holds. `common.encode_host` is the
identity on Python 3. -/
def init (host : String) (port : Int) (user : Option String) : Effect PyExc World Nat := do
  let host := strip host
  let rawHost := host
  let user := user.getD ""
  let (port, user) := if host = "" then (0, if user = "" then env.getuser else user)
    else (port, user)
  let status ← match (← get).lookup (host, port, user) with
    | some status => pure status
    | none => do
      let (h, p, u, fs) ← getConnectionInfo env (host, port, user)
      modify fun w => { w with
        aliases := (aliasingInfo env rawHost host port user h p u).foldl Aliases.record w.aliases }
      match (← get).lookup (h, p, u) with
      | some status => pure status
      | none =>
        let ip := (getIp env h none).getD h
        modifyGet fun w => (w.statuses.length, { w with
          statuses := w.statuses ++ [⟨fs, h, p, u, 0⟩]
          cache := w.cache.insert (ip, p, u) w.statuses.length })
  modify fun w => w.addRefcount status 1
  return status

/-- `close()` on a handle holding `status`: the last one disconnects, and every status left
without handles leaves `_CACHE`. -/
def close (status : Nat) : Effect PyExc World Unit := do
  modify fun w => w.addRefcount status (-1)
  if (← get).refcount status = 0 then
    modify fun w => w.closeFs status
    modify fun w => { w with cache := w.cache.entries.foldl (fun cache (k, s) =>
      if w.refcount s = 0 then cache.erase k else cache) w.cache }

/-- `closed` of a handle holding `status`. -/
def closed (w : World) (status : Nat) : Bool := w.refcount status = 0

/-- `_complain_ifclosed(self.closed)`, which every file system operation of a handle does
first. -/
def complainIfClosed (w : World) (status : Nat) : Except PyExc Unit :=
  if closed w status then .error (.valueError "I/O operation on closed HDFS instance")
  else .ok ()

/-- `close()` is not idempotent: with two handles on the local file system, closing the first
one twice disconnects the file system the second still holds, and the second, never closed,
reports `closed` and refuses every operation. -/
theorem close_twice_disconnects_shared :
    let env : Env :=
      ⟨"alice", fun _ => none, fun _ => .ok (), fun _ => .ok ⟨"file", "", "/home/alice"⟩,
        fun _ _ => .ok none, fun _ => .ok (), fun _ => true⟩
    let session : Effect PyExc World (Nat × Nat) := do
      let first ← init env "" 0 none
      let second ← init env "" 0 none
      close first
      close first
      return (first, second)
    (session.run World.empty).1 = .ok (0, 0) ∧
      (session.run World.empty).2.connections = [⟨("", 0, "alice"), 1⟩] ∧
      closed (session.run World.empty).2 0 = true ∧
      complainIfClosed (session.run World.empty).2 0 =
        .error (.valueError "I/O operation on closed HDFS instance") := by
  decide

end Pydoop.Hdfs
