import Pydoop.Mapreduce.MapTask
import Pydoop.Mapreduce.Grouping

/-! The `MAP_ITEM` loop of a map task fed by a Java record reader, against `mapSession`. Once
`RUN_MAP` and `SET_INPUT_TYPES` have run, `for _ in connection.downlink` reads one command per
pass: `MAP_ITEM` sets `context.key` and `context.value` and calls `mapper.map`, and `CLOSE` calls
`context.close()` inside `try: ... finally: raise StopIteration`, which ends the loop.

The loop refines `mapSession` (`mapLoop_refines`): on the commands Java's `PipesMapper` sends, it
leaves the task that `mapSession` leaves, but for where its downlink stands, which is after the
commands once `mapSession` returns; it returns whenever `mapSession` does, and where `mapSession`
raises, the loop raises the same exception or returns, having swallowed an exception of
`close` or a `StopIteration`. The proof is a simulation: no context call of a map task reads the
downlink, at any depth of nesting, since `context.values` is never a generator there. -/

namespace Pydoop.Mapreduce

open Effect HadoopUtils PyText Java
open Sercore hiding OUTPUT PARTITIONED_OUTPUT

/-- The commands Java's `PipesMapper` sends after `SET_INPUT_TYPES` for the records `items`: a
`MAP_ITEM` for each, and `CLOSE` at the end of the input. -/
def mapCommands (items : List (PyObj × PyObj)) : List Command :=
  items.map (fun item => .mapItem item.1 item.2) ++ [.close]

namespace Task

variable {ω : Type} (rt : Runtime) (factory : Factory ω)

/-- The task with the downlink `dl`. -/
def putDownlink (t : Task ω) (dl : Downlink) : Task ω :=
  { t with input := { t.input with downlink := dl } }

/-- The loop's task `s` is the spec's task `t` with the downlink `dl`, and `t` satisfies `I`. -/
def Apart (I : Task ω → Prop) (dl : Downlink) (s t : Task ω) : Prop :=
  s = putDownlink t dl ∧ I t

/-- The loop's run `x` against the session's run `y`: the same task but for the downlink, which
stands before `ts` once the session returns; the loop returns when the session does, and
otherwise returns or raises what the session raises. -/
structure Follows (dl : Downlink) (ts : Bytes) (x y : Except PyExc Unit × Task ω) : Prop where
  task : x.2 = putDownlink y.2 x.2.input.downlink
  consumed : y.1 = .ok () → x.2.input.downlink = dl.at ts
  returns : y.1 = .ok () → x.1 = .ok ()
  raises : x.1 = .ok () ∨ x.1 = y.1

@[simp] theorem putDownlink_putDownlink (t : Task ω) (dl dl' : Downlink) :
    putDownlink (putDownlink t dl) dl' = putDownlink t dl' := rfl

@[simp] theorem downlink_putDownlink (t : Task ω) (dl : Downlink) :
    (putDownlink t dl).input.downlink = dl := rfl

@[simp] theorem context_putDownlink (t : Task ω) (dl : Downlink) :
    (putDownlink t dl).context = t.context := rfl

/-! ### What ignores the downlink -/

section Ignoring

variable {α : Type}

theorem ignoresDownlink_onContext (x : Effect PyExc TaskContext α) :
    Ignores putDownlink (onContext (ω := ω) x) :=
  Ignores.zoom x (fun _ _ => rfl) (fun _ _ _ => rfl)

theorem ignoresDownlink_onCache (x : Effect PyExc CombinerCache α) :
    Ignores putDownlink (onCache (ω := ω) x) :=
  Ignores.zoom x (fun _ _ => rfl) (fun _ _ _ => rfl)

theorem ignoresDownlink_log (e : Event) : Ignores putDownlink (log (ω := ω) e) :=
  Ignores.modify fun _ _ => rfl

theorem ignoresDownlink_setValues (values : Values) :
    Ignores putDownlink (setValues (ω := ω) values) :=
  fun _ _ => rfl

theorem ignoresDownlink_progress : Ignores putDownlink (progress (ω := ω) rt) :=
  (Ignores.modifyGet fun _ _ => rfl).bind fun _ => ignoresDownlink_onContext _

end Ignoring

/-! ### Context calls on the two tasks -/

section Simulation

variable {T : List Event} {k : Components} {dl : Downlink} {α : Type}

theorem apart_of_ignores {x : Effect PyExc (Task ω) α} (ignores : Ignores putDownlink x)
    (keeps : Keeps (Calm T k) x) : Sim (Apart (Calm T k) dl) x x :=
  Ignores.sim_put ignores keeps dl

theorem apart_getContext : Sim (Apart (Calm (ω := ω) T k) dl) getContext getContext :=
  apart_of_ignores (ignoresDownlink_onContext get) keeps_getContext

theorem apart_getCache : Sim (Apart (Calm (ω := ω) T k) dl) getCache getCache :=
  apart_of_ignores (ignoresDownlink_onCache get) keeps_getCache

theorem apart_log (e : Event) : Sim (Apart (Calm (ω := ω) T k) dl) (log e) (log e) :=
  apart_of_ignores (ignoresDownlink_log e) (Calm.log e)

theorem apart_onContext {x : Effect PyExc TaskContext α} (keeps : TaskContext.KeepsComponents x) :
    Sim (Apart (Calm (ω := ω) T k) dl) (onContext x) (onContext x) :=
  apart_of_ignores (ignoresDownlink_onContext x) (Calm.steady.onContext keeps)

theorem apart_onCache (x : Effect PyExc CombinerCache α) :
    Sim (Apart (Calm (ω := ω) T k) dl) (onCache x) (onCache x) :=
  apart_of_ignores (ignoresDownlink_onCache x) (Calm.onCache x)

theorem apart_setValues (vs : List PyObj) :
    Sim (Apart (Calm (ω := ω) T k) dl) (setValues (.list vs)) (setValues (.list vs)) :=
  apart_of_ignores (ignoresDownlink_setValues _) (Calm.steady.setValues vs)

theorem apart_progress : Sim (Apart (Calm (ω := ω) T k) dl) (progress rt) (progress rt) :=
  apart_of_ignores (ignoresDownlink_progress rt) (Calm.steady.progress rt)

theorem apart_ofExcept (outcome : Except PyExc α) :
    Sim (Apart (Calm (ω := ω) T k) dl) (MonadExcept.ofExcept outcome : Effect PyExc (Task ω) α)
      (MonadExcept.ofExcept outcome) := by
  cases outcome with
  | ok a => exact Sim.pure a
  | error e => exact Sim.throw e

theorem apart_nextValue (lower : Level ω) :
    Sim (Apart (Calm T k) dl) (nextValue lower) (nextValue lower) := by
  rintro s t ⟨rfl, calm⟩
  have notGenerator := calm.values
  have same : (putDownlink t dl).input.values = t.input.values := rfl
  unfold nextValue
  rw [run_bind_ok (run_getInput _), run_bind_ok (run_getInput t), same]
  rcases listed : t.input.values with _ | _ | ⟨gb, g, finished⟩
  · exact ⟨rfl, rfl, calm⟩
  · rename_i values
    rcases values with _ | ⟨v, rest⟩
    · exact ⟨rfl, rfl, calm⟩
    · exact ((apart_setValues rest).bind fun _ => Sim.pure v) _ t ⟨rfl, calm⟩
  · rw [listed] at notGenerator
    cases notGenerator

/-! Calls one level down, through `invoke` or the level `lower`. -/

section Nested

theorem apart_spillAll {invoke : Invoke ω}
    (invokes : ∀ {R : Type} m (p : UserMethod ω R), Sim (Apart (Calm T k) dl) (invoke m p) (invoke m p)) :
    Sim (Apart (Calm T k) dl) (spillAll rt factory invoke) (spillAll rt factory invoke) := by
  refine (apart_onCache _).bind fun _ => apart_getCache.bind fun cache => ?_
  refine (Sim.forM fun key _ => ?_).bind fun _ => apart_onCache _
  refine (apart_onContext (TaskContext.KeepsComponents.modify fun _ => by rfl)).bind fun _ => ?_
  refine apart_getCache.bind fun cache' => ?_
  split
  · exact Sim.throw _
  · exact (apart_setValues _).bind fun _ => (apart_log _).bind fun _ =>
      apart_getContext.bind fun _ => sim_callOn _ _ _ fun q _ => invokes _ q

theorem apart_spillIfFull {invoke : Invoke ω}
    (invokes : ∀ {R : Type} m (p : UserMethod ω R), Sim (Apart (Calm T k) dl) (invoke m p) (invoke m p)) :
    Sim (Apart (Calm T k) dl) (spillIfFull rt factory invoke) (spillIfFull rt factory invoke) := by
  refine apart_getCache.bind fun _ => (apart_ofExcept _).bind fun full => ?_
  split
  · exact apart_spillAll rt factory invokes
  · exact Sim.pure ()

theorem apart_actualEmit {lower : Level ω}
    (invokes : ∀ {R : Type} m (p : UserMethod ω R),
      Sim (Apart (Calm T k) dl) (lower.invoke m p) (lower.invoke m p)) (key value : PyObj) :
    Sim (Apart (Calm T k) dl) (actualEmit rt factory lower key value)
      (actualEmit rt factory lower key value) := by
  unfold actualEmit
  refine apart_getContext.bind fun ctx => ?_
  split
  · exact sim_callOn true .writerEmit _ fun q _ => invokes _ q
  · refine (apart_onContext (TaskContext.keepsComponents_maybeSerialize rt key value)).bind
      fun pair => ?_
    obtain ⟨key', value'⟩ := pair
    refine apart_getContext.bind fun ctx' => ?_
    split
    · exact (sim_callOn true .partition _ fun q _ => invokes _ q).bind fun _ =>
        apart_onContext (TaskContext.KeepsComponents.onUplink _)
    · exact apart_onContext (TaskContext.KeepsComponents.onUplink _)

theorem apart_emit {lower : Level ω}
    (invokes : ∀ {R : Type} m (p : UserMethod ω R),
      Sim (Apart (Calm T k) dl) (lower.invoke m p) (lower.invoke m p))
    (caller : Method) (key value : PyObj) :
    Sim (Apart (Calm T k) dl) (emit rt factory lower caller key value)
      (emit rt factory lower caller key value) := by
  refine apart_getCache.bind fun cache => (apart_log _).bind fun _ =>
    Sim.bind ?_ fun _ => apart_progress rt
  split
  · exact apart_actualEmit rt factory invokes key value
  · exact (apart_onCache _).bind fun _ => apart_spillIfFull rt factory invokes

theorem apart_handle {lower : Level ω}
    (invokes : ∀ {R : Type} m (p : UserMethod ω R),
      Sim (Apart (Calm T k) dl) (lower.invoke m p) (lower.invoke m p)) (caller : Method) :
    ∀ op, Sim (Apart (Calm T k) dl) (handle rt factory lower caller op)
      (handle rt factory lower caller op)
  | .emit key value => (apart_emit rt factory invokes caller key value).bind fun _ => Sim.pure _
  | .key => apart_getContext.bind fun _ => Sim.pure _
  | .value => apart_getContext.bind fun _ => Sim.pure _
  | .nextValue => apart_nextValue lower
  | .progress => (apart_progress rt).bind fun _ => Sim.pure _
  | .setStatus _ => (apart_onContext (TaskContext.KeepsComponents.modify fun _ => by rfl)).bind
      fun _ => (apart_progress rt).bind fun _ => Sim.pure _
  | .getCounter group name => apart_onContext (TaskContext.keepsComponents_getCounter group name)
  | .incrementCounter counter amount =>
      (apart_onContext (TaskContext.keepsComponents_incrementCounter rt counter amount)).bind
        fun _ => Sim.pure _
  | .heap _ => apart_of_ignores (Ignores.modifyGet fun _ _ => rfl)
      (Keeps.modifyGet fun t calm => Calm.steady.heap t _ calm)

theorem apart_invokeWith {answer : Method → ContextOp ω → Effect PyExc (Task ω) PyObj}
    {R : Type} {m : Method} (p : UserMethod ω R)
    (answers : ∀ op, Sim (Apart (Calm T k) dl) (answer m op) (answer m op)) :
    Sim (Apart (Calm T k) dl) (invokeWith answer m p) (invokeWith answer m p) := by
  refine apart_getContext.bind fun _ => (apart_log _).bind fun _ =>
    (Program.interpret_sim (fun op => (answers op).reify) p).bind fun result => ?_
  cases result with
  | ok r => exact Sim.pure r
  | error e => exact (apart_log _).bind fun _ => Sim.throw e

/-- Every call of a user method, at every level, runs alike on the two tasks; by induction on the
levels, the calls one level down running alike. -/
theorem apart_levels : ∀ n {R : Type} m (p : UserMethod ω R),
    Sim (Apart (Calm T k) dl) ((levels rt factory n).invoke m p) ((levels rt factory n).invoke m p)
  | 0, _, _, _ => (apart_log _).bind fun _ => Sim.throw _
  | n + 1, _, _, p => apart_invokeWith p (apart_handle rt factory (apart_levels n) _)

theorem apart_closeIf {invoke : Invoke ω}
    (invokes : ∀ {R : Type} m (p : UserMethod ω R), Sim (Apart (Calm T k) dl) (invoke m p) (invoke m p))
    (present : Bool) (m : Method) (p : Option (UserMethod ω Unit)) :
    Sim (Apart (Calm T k) dl) (closeIf invoke present m p) (closeIf invoke present m p) := by
  unfold closeIf
  split
  · exact sim_callOn true m p fun q _ => invokes m q
  · exact Sim.pure ()

theorem apart_close {invoke : Invoke ω}
    (invokes : ∀ {R : Type} m (p : UserMethod ω R), Sim (Apart (Calm T k) dl) (invoke m p) (invoke m p)) :
    Sim (Apart (Calm T k) dl) (close rt factory invoke) (close rt factory invoke) := by
  refine (apart_onContext (TaskContext.KeepsComponents.onUplink _)).bind fun _ =>
    Sim.tryFinally ?_ ?_
  · refine apart_getContext.bind fun _ => (apart_closeIf invokes _ _ _).bind fun _ => ?_
    refine Sim.bind ?_ fun _ => ?_
    · refine apart_getCache.bind fun _ => ?_
      split
      · exact (apart_spillAll rt factory invokes).bind fun _ => (apart_onCache _).bind fun _ =>
          apart_getContext.bind fun _ => sim_callOn _ _ _ fun q _ => invokes _ q
      · exact Sim.pure ()
    · exact apart_getContext.bind fun _ => (apart_closeIf invokes _ _ _).bind fun _ =>
        apart_getContext.bind fun _ => (apart_closeIf invokes _ _ _).bind fun _ =>
          apart_getContext.bind fun _ => (apart_closeIf invokes _ _ _).bind fun _ =>
            apart_onContext TaskContext.keepsComponents_spillCounters
  · exact (apart_onContext (TaskContext.KeepsComponents.onUplink _)).bind fun _ =>
      apart_onContext (TaskContext.KeepsComponents.onUplink _)

theorem apart_callMap {invoke : Invoke ω}
    (invokes : ∀ {R : Type} m (p : UserMethod ω R), Sim (Apart (Calm T k) dl) (invoke m p) (invoke m p)) :
    Sim (Apart (Calm T k) dl) (callMap factory invoke) (callMap factory invoke) :=
  apart_getContext.bind fun _ => sim_callOn _ _ _ fun q _ => invokes _ q

end Nested

end Simulation

/-! ### The loop -/

section Loop

variable {T : List Event} {k : Components} {dl : Downlink} {encode : Command → Bytes}
  {ts : Bytes}

theorem Follows.of_apart {I : Task ω → Prop} {dl' : Downlink} {x y : Except PyExc Unit × Task ω}
    (apart : Apart I dl' x.2 y.2) (consumed : y.1 = .ok () → dl' = dl.at ts)
    (returns : y.1 = .ok () → x.1 = .ok ()) (raises : x.1 = .ok () ∨ x.1 = y.1) :
    Follows dl ts x y := by
  obtain ⟨moved, -⟩ := apart
  refine ⟨by rw [moved, downlink_putDownlink], fun ok => ?_, returns, raises⟩
  rw [moved, downlink_putDownlink, consumed ok]

theorem run_runLoop_ok {lvl : Level ω} {fuel : Nat} {s s' : Task ω} {a : Option (Int × PyObj)}
    (passed : lvl.next.run s = (.ok a, s')) :
    (runLoop lvl (fuel + 1)).run s = (runLoop lvl fuel).run s' := by
  rw [runLoop, run_bind_ok (by rw [run_reify, passed])]

theorem run_runLoop_raise {lvl : Level ω} {fuel : Nat} {s s' : Task ω} {e : PyExc}
    (raised : lvl.next.run s = (.error e, s')) :
    (runLoop lvl (fuel + 1)).run s = (if e = .stopIteration then .ok () else .error e, s') := by
  rw [runLoop, run_bind_ok (by rw [run_reify, raised])]
  cases e <;> rfl

theorem run_next_mapItem (lower : Level ω) (invoke : Invoke ω) (fuel : Nat) {s : Task ω}
    {key value : PyObj} {rest : Bytes} (read : ReadsCommand rt dl encode (.mapItem key value))
    (stream : s.input.downlink = dl.at (encode (.mapItem key value) ++ rest)) :
    (next rt factory lower invoke fuel).run s =
      ((onContext (modify fun c => { c with key, value }) >>= fun _ =>
        callMap factory invoke) >>= fun _ => pure none).run (putDownlink s (dl.at rest)) := by
  rw [next, run_bind_ok (run_onDownlink_reads read rest stream), bind_assoc]
  rfl

theorem run_next_close (lower : Level ω) (invoke : Invoke ω) (fuel : Nat) {s : Task ω}
    {rest : Bytes} (read : ReadsCommand rt dl encode .close)
    (stream : s.input.downlink = dl.at (encode .close ++ rest)) (mapper : s.context.mapper = true) :
    (next rt factory lower invoke fuel).run s =
      (.error .stopIteration, ((close rt factory invoke).run (putDownlink s (dl.at rest))).2) := by
  have closing : (onDownlink (Downlink.readCommand rt)).run s = (.ok .close, putDownlink s (dl.at rest)) :=
    run_onDownlink_reads read rest stream
  rw [next, run_bind_ok closing]
  simp only [run_bind, run_getContext, context_putDownlink, mapper, if_true, run_tryFinally,
    run_throw]
  rcases (close rt factory invoke).run (putDownlink s (dl.at rest)) with ⟨_ | _, _⟩ <;> rfl

theorem mapSession_nil (d : Nat) :
    mapSession rt factory d [] = close rt factory (levels rt factory (d + 1)).invoke := by
  simp only [mapSession, List.forM_eq_forM, List.forM_nil, pure_bind]

theorem mapSession_cons (d : Nat) (key value : PyObj) (items : List (PyObj × PyObj)) :
    mapSession rt factory d ((key, value) :: items) =
      (onContext (modify fun c => { c with key, value }) >>= fun _ =>
        callMap factory (levels rt factory (d + 1)).invoke) >>= fun _ =>
          mapSession rt factory d items := by
  simp only [mapSession, List.forM_eq_forM, List.forM_cons, bind_assoc]

/-- A `MAP_ITEM` pass against the session's item: both run the body `x` alike, on tasks apart
at the downlink after the command; where it raises, the loop stops with what it raised or
normally, and where it returns both go on. -/
theorem follows_pass {lvl : Level ω} {fuel : Nat} {x g : Effect PyExc (Task ω) Unit}
    {s s₀ t : Task ω} {rest : Bytes}
    (passes : lvl.next.run s = (x >>= fun _ => pure none).run s₀)
    (sim : Sim (Apart (Calm T k) (dl.at rest)) x x) (apart : Apart (Calm T k) (dl.at rest) s₀ t)
    (later : ∀ s' t', Apart (Calm T k) (dl.at rest) s' t' →
      Follows dl ts ((runLoop lvl fuel).run s') (g.run t')) :
    Follows dl ts ((runLoop lvl (fuel + 1)).run s) ((x >>= fun _ => g).run t) := by
  obtain ⟨same, related⟩ := sim s₀ t apart
  rcases ranLoop : x.run s₀ with ⟨o, s'⟩
  rcases ranSession : x.run t with ⟨o', t'⟩
  rw [ranLoop, ranSession] at same related
  cases same
  cases o with
  | ok u =>
    rw [run_runLoop_ok (by rw [passes, run_bind_ok ranLoop, run_pure]), run_bind_ok ranSession]
    exact later s' t' related
  | error e =>
    rw [run_runLoop_raise (by rw [passes, run_bind_error ranLoop]), run_bind_error ranSession]
    refine Follows.of_apart related (fun raised => by cases raised) (fun raised => by cases raised) ?_
    split <;> simp

/-- The loop from before the commands for `items`, on the session's task but for the downlink,
follows `mapSession`; by induction on the items, one pass for each and one for `CLOSE`. -/
theorem runLoop_follows (d : Nat) (mapper : k.mapper = true) :
    ∀ (items : List (PyObj × PyObj)) (fuel : Nat) (s t : Task ω), items.length + 1 ≤ fuel →
    (∀ cmd ∈ mapCommands items, ReadsCommand rt dl encode cmd) →
    Apart (Calm T k) (dl.at ((mapCommands items).flatMap encode ++ ts)) s t →
    Follows dl ts ((runLoop (levels rt factory (d + 1)) fuel).run s)
      ((mapSession rt factory d items).run t) := by
  intro items
  induction items with
  | nil =>
    intro fuel s t enough reads apart
    obtain ⟨fuel, rfl⟩ : ∃ f, fuel = f + 1 := ⟨fuel - 1, by simp at enough; omega⟩
    obtain ⟨rfl, calm⟩ := apart
    have hasMapper : t.context.mapper = true := calm.mapper.trans mapper
    have stream : (putDownlink t (dl.at ((mapCommands []).flatMap encode ++ ts))).input.downlink =
        dl.at (encode .close ++ ts) := by
      simp [mapCommands]
    have stops := run_next_close rt factory (levels rt factory d) (levels rt factory (d + 1)).invoke
      (d + 1) (reads .close (by simp [mapCommands])) stream hasMapper
    -- `close` runs alike on the two tasks; the loop swallows what it raises
    have closes := apart_close rt factory (apart_levels rt factory (d + 1))
      (putDownlink t (dl.at ts)) t (show Apart (Calm T k) (dl.at ts) _ t from ⟨rfl, calm⟩)
    rw [run_runLoop_raise stops, if_pos rfl, mapSession_nil]
    exact Follows.of_apart closes.2 (fun _ => rfl) (fun _ => rfl) (.inl rfl)
  | cons item items ih =>
    obtain ⟨key, value⟩ := item
    intro fuel s t enough reads apart
    obtain ⟨fuel, rfl⟩ : ∃ f, fuel = f + 1 := ⟨fuel - 1, by simp at enough; omega⟩
    obtain ⟨rfl, calm⟩ := apart
    have stream : (putDownlink t (dl.at ((mapCommands ((key, value) :: items)).flatMap encode ++
        ts))).input.downlink =
        dl.at (encode (.mapItem key value) ++ ((mapCommands items).flatMap encode ++ ts)) := by
      simp [mapCommands]
    have passes := run_next_mapItem rt factory (levels rt factory d)
      (levels rt factory (d + 1)).invoke (d + 1)
      (reads _ (by simp [mapCommands])) stream
    rw [mapSession_cons]
    refine follows_pass passes ((apart_onContext (TaskContext.KeepsComponents.modify fun _ => by rfl)).bind
      fun _ => apart_callMap factory (apart_levels rt factory (d + 1))) ⟨rfl, calm⟩
      fun s' t' apart => ih fuel s' t' (by simp at enough; omega) (fun cmd member => ?_) apart
    exact reads cmd (by simp only [mapCommands, List.map_cons, List.cons_append]; exact List.mem_cons_of_mem _ member)

end Loop

section Java

/-- The call Java's `PipesMapper` makes for a command of the map phase with raw bytes: `mapItem`
with the key and the value as `BytesWritable`s, and `endOfInput` at the end of the input. -/
def itemCall : Command → DownwardCall
  | .mapItem (.bytes key) (.bytes value) => .mapItem (.bytesWritable key) (.bytesWritable value)
  | _ => .endOfInput

/-- Records whose key and value are raw bytes. -/
def bytesItems (items : List (Bytes × Bytes)) : List (PyObj × PyObj) :=
  items.map fun item => (.bytes item.1, .bytes item.2)

variable {dl : Downlink} (authDone : dl.authDone = true) (getK : dl.getK = .readBytes)
  (getV : dl.getV = .readBytes)
include authDone getK getV

theorem readsCommand_bytesItems {items : List (Bytes × Bytes)}
    (short : ∀ item ∈ items, item.1.length < 2 ^ 31 ∧ item.2.length < 2 ^ 31) :
    ∀ cmd ∈ mapCommands (bytesItems items),
      ReadsCommand rt dl (fun c => BinaryProtocol.send HadoopIO.hadoop (itemCall c)) cmd := by
  intro cmd member
  rcases List.mem_append.mp member with mapped | closing
  · obtain ⟨item, inItems, rfl⟩ := List.mem_map.mp mapped
    obtain ⟨⟨key, value⟩, listed, rfl⟩ := List.mem_map.mp inItems
    exact readsCommand_sent rt authDone getK getV (short (key, value) listed) rfl
  · rw [List.mem_singleton.mp closing]
    exact readsCommand_sent rt authDone getK getV trivial rfl

end Java

/-- A map task right after `SET_INPUT_TYPES`, with a mapper and the commands `stream` still to
come. -/
def mapTask (stream : Bytes) : Task Nat :=
  let init := Task.init [] false false false false none 0
  { init with
    context := { init.context with mapper := true }
    input := ⟨authedDownlink.at stream, [], .none⟩ }

/-- What Java sends after `SET_INPUT_TYPES` for two records. -/
def twoItemStream : Bytes :=
  (mapCommands (bytesItems [([1], [2]), ([3], [4])])).flatMap
    fun c => Java.BinaryProtocol.send Java.HadoopIO.hadoop (itemCall c)

section Refinement

variable {dl : Downlink} {encode : Command → Bytes} {ts : Bytes}

/-- The command loop of a map task fed by Java refines `mapSession`: on the commands
`PipesMapper` sends for `items`, read back as sent, it leaves the task `mapSession` leaves but for
its downlink, which stands after the commands when `mapSession` returns; it returns whenever
`mapSession` does, and raises nothing `mapSession` does not. -/
theorem mapLoop_refines {d fuel : Nat} {items : List (PyObj × PyObj)} {t : Task ω}
    (mapper : t.context.mapper = true) (calm : t.input.values.isGenerator = false)
    (stream : t.input.downlink = dl.at ((mapCommands items).flatMap encode ++ ts))
    (reads : ∀ cmd ∈ mapCommands items, ReadsCommand rt dl encode cmd)
    (enough : items.length + 1 ≤ fuel) :
    Follows dl ts ((runLoop (levels rt factory (d + 1)) fuel).run t)
      ((mapSession rt factory d items).run t) := by
  have apart : Apart (Calm t.trace t.context.components)
      (dl.at ((mapCommands items).flatMap encode ++ ts)) t t := by
    refine ⟨?_, List.prefix_refl _, rfl, calm⟩
    rw [← stream]
    rfl
  exact runLoop_follows rt factory d mapper items fuel t t enough reads apart

theorem mapLoop_refines_two_items :
    Follows authedDownlink []
      ((runLoop (levels default plainEchoFactory 2) 3).run (mapTask twoItemStream))
      ((mapSession default plainEchoFactory 1 (bytesItems [([1], [2]), ([3], [4])])).run
        (mapTask twoItemStream)) :=
  mapLoop_refines default plainEchoFactory rfl rfl (by rw [List.append_nil]; rfl)
    (readsCommand_bytesItems default rfl rfl rfl (by decide)) (by decide)

end Refinement

end Task

end Pydoop.Mapreduce
