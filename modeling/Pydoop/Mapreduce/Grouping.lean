import Pydoop.Mapreduce.Nesting
import Pydoop.Mapreduce.Downward

/-! The `RUN_REDUCE` loop of `Downlink.__next__` against what it is for. The loop groups the
commands that follow `RUN_REDUCE` with `itertools.groupby` over the `Downlink` itself, and hands
the reducer a generator over each group of `REDUCE_VALUE`s, which pulls the values one at a time
by calling `__next__` again, one level down. `reduceGroups` says what that amounts to: for each
group in turn, `context.key` is its key and `context.values` its values while `reducer.reduce`
runs, and the values are used up once it returns; then the context is closed and the iteration
stops.

The loop refines `reduceGroups` (`reduceLoop_refines`): on a stream of groups the two raise or
return alike and reach the same task but for its input, whatever the user's methods do and
however many of its values the reducer reads. The proof is a simulation. `Mirror` relates a
task of the loop to a task of the spec that agrees with it on everything but the input; inside a
group the generator's unread values are the spec's list. Every context call but
`next(context.values)` ignores the input, and the calls one level down do too as long as the
record writer and the partitioner leave `context.values` alone, by induction on the levels. -/

namespace Pydoop.Mapreduce

open Effect HadoopUtils PyText
open Sercore hiding OUTPUT PARTITIONED_OUTPUT

/-- The commands Java's `PipesReducer` sends after `RUN_REDUCE` for `groups`: each group's key,
then each of its values, and `CLOSE` at the end of the input. -/
def reduceCommands (groups : List (PyObj × List PyObj)) : List Command :=
  groups.flatMap (fun group => .reduceKey group.1 :: group.2.map .reduceValue) ++ [.close]

/-- The commands for which `__next__` returns an item in a task without a mapper. -/
def Command.streamed : Command → Bool
  | .reduceKey _ | .reduceValue _ | .close => true
  | _ => false

/-- The item `__next__` returns for a streamed command. -/
def Command.item : Command → Int × PyObj
  | .reduceKey key => (REDUCE_KEY, key)
  | .reduceValue value => (REDUCE_VALUE, value)
  | _ => (CLOSE, .none)

theorem streamed_of_mem_reduceCommands {groups : List (PyObj × List PyObj)} {cmd : Command}
    (member : cmd ∈ reduceCommands groups) : cmd.streamed = true := by
  rcases List.mem_append.mp member with grouped | closing
  · obtain ⟨group, -, inGroup⟩ := List.mem_flatMap.mp grouped
    rcases List.mem_cons.mp inGroup with rfl | valued
    · rfl
    · obtain ⟨value, -, rfl⟩ := List.mem_map.mp valued
      rfl
  · rw [List.mem_singleton.mp closing]
    rfl

theorem reduceCommands_cons (key : PyObj) (values : List PyObj)
    (groups : List (PyObj × List PyObj)) :
    reduceCommands ((key, values) :: groups) =
      .reduceKey key :: values.map .reduceValue ++ reduceCommands groups := by
  rw [reduceCommands, List.flatMap_cons, List.append_assoc]
  rfl

theorem reduceCommands_head (groups : List (PyObj × List PyObj)) :
    ∃ next later, reduceCommands groups = next :: later ∧ next.item.1 ≠ REDUCE_VALUE := by
  cases groups with
  | nil => exact ⟨.close, [], rfl, by decide⟩
  | cons group groups =>
    obtain ⟨key, values⟩ := group
    exact ⟨.reduceKey key, _, reduceCommands_cons key values groups,
      (by decide : REDUCE_KEY ≠ REDUCE_VALUE)⟩

namespace Task

variable {ω : Type} (rt : Runtime) (factory : Factory ω)

/-- `self.context.reducer.reduce(self.context)`. -/
def callReduce (invoke : Invoke ω) : Effect PyExc (Task ω) Unit := do
  callOn invoke (← getContext).reducer .reducerReduce (factory.rclass.map (·.reduce))

/-- What the `RUN_REDUCE` loop is for: each group in turn has its key as `context.key` and its
values as `context.values` while `reducer.reduce` runs, and its values are used up once it
returns; then the context is closed and the iteration stops. -/
def reduceGroups (invoke : Invoke ω) : List (PyObj × List PyObj) → Effect PyExc (Task ω) Unit
  | [] => Effect.tryFinally (close rt factory invoke) (throw .stopIteration)
  | (key, values) :: groups => do
    onContext (modify fun c => { c with key })
    setValues (.list values)
    callReduce factory invoke
    setValues (.list [])
    reduceGroups invoke groups

/-- The record writer's `emit` and the partitioner never call `next(context.values)`. They run
one level below the method that emits, and a generator read from there needs a level below
them again, which the bound on the nesting may not leave. -/
structure LeavesValues (factory : Factory ω) : Prop where
  writer : ∀ w, factory.rwclass = some w → ∀ k v, (w.emit k v).Avoids (· = ContextOp.nextValue)
  partitioner : ∀ p, factory.pclass = some p → ∀ k n,
    (p.partition k n).Avoids (· = ContextOp.nextValue)

/-- The task with input `i`. -/
def putInput (t : Task ω) (i : Input) : Task ω := { t with input := i }

/-- The loop's task `s` and the spec's task `t` agree on everything but their input, their
inputs are related by `Q`, and the spec's task satisfies `I`. -/
def Mirror (Q : Input → Input → Prop) (I : Task ω → Prop) (s t : Task ω) : Prop :=
  s = putInput t s.input ∧ Q s.input t.input ∧ I t

namespace Mirror

variable {Q : Input → Input → Prop} {I : Task ω → Prop} {s t : Task ω}

theorem context (mirror : Mirror Q I s t) : s.context = t.context := by
  rw [mirror.1]
  rfl

theorem cache (mirror : Mirror Q I s t) : s.cache = t.cache := by
  rw [mirror.1]
  rfl

end Mirror

section Ignoring

variable {α : Type}

theorem ignores_onContext (x : Effect PyExc TaskContext α) :
    Ignores putInput (onContext (ω := ω) x) :=
  Ignores.zoom x (fun _ _ => rfl) (fun _ _ _ => rfl)

theorem ignores_log (e : Event) : Ignores putInput (log (ω := ω) e) :=
  Ignores.modify fun _ _ => rfl

theorem ignores_getContext : Ignores putInput (getContext (ω := ω)) :=
  ignores_onContext get

theorem ignores_progress : Ignores putInput (progress (ω := ω) rt) :=
  (Ignores.modifyGet fun _ _ => rfl).bind fun _ => ignores_onContext _

end Ignoring

/-- What the spec's task keeps through the reduce loop: the record of the run extends `T` with
quiet events, the components stay `k`, the cache stays `c`, and `context.values` is no
generator. -/
def Reducing (c : CombinerCache) (T : List Event) (k : Components) (t : Task ω) : Prop :=
  Calm T k t ∧ Frozen c T t

namespace Reducing

variable {c : CombinerCache} {T : List Event} {k : Components}

theorem steady : Steady (Reducing (ω := ω) c T k) where
  context t c' same settled :=
    ⟨Calm.steady.context t c' same settled.1, Frozen.steady.context t c' same settled.2⟩
  heap t h settled := ⟨Calm.steady.heap t h settled.1, Frozen.steady.heap t h settled.2⟩
  clock t n settled := ⟨Calm.steady.clock t n settled.1, Frozen.steady.clock t n settled.2⟩
  list t vs settled := ⟨Calm.steady.list t vs settled.1, Frozen.steady.list t vs settled.2⟩
  values _ settled := settled.1.values

theorem log {e : Event} (quiet : e.quiet = true) : Keeps (Reducing (ω := ω) c T k) (Task.log e) :=
  Keeps.and (Calm.log e) (Frozen.log quiet)

theorem mapper {t : Task ω} (settled : Reducing c T k t) (noMapper : k.mapper = false) :
    t.context.mapper = false := by
  rw [← noMapper, ← settled.1.components]
  rfl

variable {rt factory} (spilling : c.spilling = true)
include spilling

theorem levels (n : Nat) {R : Type} (m : Method) (p : UserMethod ω R)
    (notMapper : m.ofMapper = false) : Keeps (Reducing c T k) ((Task.levels rt factory n).invoke m p) :=
  Keeps.and (levels_calm rt factory n m p) (levels_frozen rt factory spilling n m p notMapper)

theorem handle (n : Nat) {caller : Method} (notMapper : caller.ofMapper = false) :
    ∀ op, Keeps (Reducing c T k) (Task.handle rt factory (Task.levels rt factory n) caller op) :=
  steady.handle fun key value =>
    Keeps.and (Calm.emit (fun m p => levels_calm rt factory n m p) caller key value)
      (Frozen.emit spilling (fun m p => levels_frozen rt factory spilling n m p) notMapper key value)

end Reducing

section Simulation

variable {c : CombinerCache} {T : List Event} {k : Components} {Q : Input → Input → Prop}

theorem sim_of_ignores {α : Type} {x : Effect PyExc (Task ω) α} (ignores : Ignores putInput x)
    (keeps : Keeps (Reducing c T k) x) : Sim (Mirror Q (Reducing c T k)) x x :=
  Ignores.sim (fun _ => rfl) (fun _ _ => rfl) ignores keeps

theorem sim_callOn {R : Type} {S : Task ω → Task ω → Prop} {invoke : Invoke ω} (present : Bool)
    (m : Method) (p : Option (UserMethod ω R))
    (invokes : ∀ q, p = some q → Sim S (invoke m q) (invoke m q)) :
    Sim S (callOn invoke present m p) (callOn invoke present m p) := by
  cases present with
  | false => exact Sim.throw _
  | true =>
    cases p with
    | none => exact Sim.throw _
    | some q => exact invokes q rfl

theorem sim_invokeWith {handle : Method → ContextOp ω → Effect PyExc (Task ω) PyObj} {R : Type}
    {m : Method} (p : UserMethod ω R)
    (interprets : Sim (Mirror Q (Reducing c T k)) (p.interpret fun op => reify (handle m op))
      (p.interpret fun op => reify (handle m op))) :
    Sim (Mirror Q (Reducing c T k)) (invokeWith handle m p) (invokeWith handle m p) := by
  refine (sim_of_ignores ignores_getContext keeps_getContext).bind fun _ =>
    (sim_of_ignores (ignores_log _) (Reducing.log rfl)).bind fun _ => interprets.bind fun result => ?_
  cases result with
  | ok r => exact Sim.pure r
  | error e => exact (sim_of_ignores (ignores_log _) (Reducing.log rfl)).bind fun _ => Sim.throw e

variable {rt factory} (spilling : c.spilling = true) (leaves : LeavesValues factory)
include spilling leaves

section Nested

variable {n : Nat}
  (nested : ∀ {R : Type} m (p : UserMethod ω R), m.ofMapper = false →
    p.Avoids (· = ContextOp.nextValue) →
      Sim (Mirror Q (Reducing c T k)) ((levels rt factory n).invoke m p)
        ((levels rt factory n).invoke m p))
include nested

omit spilling in
theorem sim_actualEmit (key value : PyObj) :
    Sim (Mirror Q (Reducing c T k)) (actualEmit rt factory (levels rt factory n) key value)
      (actualEmit rt factory (levels rt factory n) key value) := by
  unfold actualEmit
  refine (sim_of_ignores ignores_getContext keeps_getContext).bind fun ctx => ?_
  split
  · refine sim_callOn true .writerEmit _ fun q found => ?_
    obtain ⟨w, present, rfl⟩ := Option.map_eq_some_iff.mp found
    exact nested .writerEmit _ rfl (leaves.writer w present key value)
  · refine (sim_of_ignores (ignores_onContext _) (Reducing.steady.onContext
      (TaskContext.keepsComponents_maybeSerialize rt key value))).bind fun ⟨key', value'⟩ => ?_
    refine (sim_of_ignores ignores_getContext keeps_getContext).bind fun ctx' => ?_
    split
    · refine (sim_callOn true .partition _ fun q found => ?_).bind fun _ =>
        sim_of_ignores (ignores_onContext _)
          (Reducing.steady.onContext (TaskContext.KeepsComponents.onUplink _))
      obtain ⟨p, present, rfl⟩ := Option.map_eq_some_iff.mp found
      exact nested .partition _ rfl (leaves.partitioner p present key' ctx'.nred)
    · exact sim_of_ignores (ignores_onContext _)
        (Reducing.steady.onContext (TaskContext.KeepsComponents.onUplink _))

theorem sim_emit {caller : Method} (notMapper : caller.ofMapper = false) (key value : PyObj) :
    Sim (Mirror Q (Reducing c T k)) (emit rt factory (levels rt factory n) caller key value)
      (emit rt factory (levels rt factory n) caller key value) := by
  unfold emit
  refine Sim.read_bind run_getCache run_getCache (fun _ _ mirror => mirror.cache) ?_
  rintro s t ⟨-, -, settled⟩
  rw [settled.2.cache, if_pos spilling]
  refine (sim_of_ignores (ignores_log _) (Reducing.log ?_)).bind fun _ =>
    (sim_actualEmit leaves nested key value).bind fun _ =>
      sim_of_ignores (ignores_progress rt) (Reducing.steady.progress rt)
  simp [Event.quiet, spilling, notMapper]

theorem sim_handle {caller : Method} (notMapper : caller.ofMapper = false) :
    ∀ op, op ≠ ContextOp.nextValue →
      Sim (Mirror Q (Reducing c T k)) (handle rt factory (levels rt factory n) caller op)
        (handle rt factory (levels rt factory n) caller op)
  | .emit key value, _ => (sim_emit spilling leaves nested notMapper key value).bind fun _ =>
    Sim.pure _
  | .key, _ => sim_of_ignores (ignores_getContext.bind fun _ => Ignores.pure _)
    (Reducing.handle spilling n notMapper .key)
  | .value, _ => sim_of_ignores (ignores_getContext.bind fun _ => Ignores.pure _)
    (Reducing.handle spilling n notMapper .value)
  | .nextValue, asked => absurd rfl asked
  | .progress, _ => sim_of_ignores ((ignores_progress rt).bind fun _ => Ignores.pure _)
    (Reducing.handle spilling n notMapper .progress)
  | .setStatus status, _ => sim_of_ignores
    ((ignores_onContext _).bind fun _ => (ignores_progress rt).bind fun _ => Ignores.pure _)
    (Reducing.handle spilling n notMapper (.setStatus status))
  | .getCounter group name, _ => sim_of_ignores (ignores_onContext _)
    (Reducing.handle spilling n notMapper (.getCounter group name))
  | .incrementCounter counter amount, _ => sim_of_ignores
    ((ignores_onContext _).bind fun _ => Ignores.pure _)
    (Reducing.handle spilling n notMapper (.incrementCounter counter amount))
  | .heap work, _ => sim_of_ignores (Ignores.modifyGet fun _ _ => rfl)
    (Reducing.handle spilling n notMapper (.heap work))

end Nested

/-- A user method that never calls `next(context.values)` runs alike at every level; by
induction on the levels, the record writer and the partitioner one level down never calling it
either. -/
theorem sim_levels_avoiding : ∀ n {R : Type} m (p : UserMethod ω R), m.ofMapper = false →
    p.Avoids (· = ContextOp.nextValue) →
      Sim (Mirror Q (Reducing c T k)) ((levels rt factory n).invoke m p)
        ((levels rt factory n).invoke m p)
  | 0, _, _, _, _, _ => sim_of_ignores ((ignores_log _).bind fun _ => Ignores.throw _)
    ((Reducing.log rfl).bind fun _ => Keeps.throw _)
  | n + 1, _, _, p, notMapper, avoids => sim_invokeWith p
    (Program.interpret_sim_avoids (fun op asked =>
      (sim_handle spilling leaves (sim_levels_avoiding n) notMapper op asked).reify) p avoids)

theorem sim_invoke {n : Nat}
    (values : Sim (Mirror Q (Reducing c T k)) (nextValue (levels rt factory n))
      (nextValue (levels rt factory n)))
    {R : Type} (m : Method) (p : UserMethod ω R) (notMapper : m.ofMapper = false) :
    Sim (Mirror Q (Reducing c T k)) (invokeWith (handle rt factory (levels rt factory n)) m p)
      (invokeWith (handle rt factory (levels rt factory n)) m p) := by
  refine sim_invokeWith p (Program.interpret_sim (fun op => ?_) p)
  by_cases asked : op = ContextOp.nextValue
  · rw [asked]
    exact values.reify
  · exact (sim_handle spilling leaves (sim_levels_avoiding spilling leaves n) notMapper op
      asked).reify

theorem sim_closeIf {n : Nat}
    (values : Sim (Mirror Q (Reducing c T k)) (nextValue (levels rt factory n))
      (nextValue (levels rt factory n)))
    (present : Bool) {m : Method} (notMapper : m.ofMapper = false)
    (p : Option (UserMethod ω Unit)) :
    Sim (Mirror Q (Reducing c T k)) (closeIf (invokeWith (handle rt factory (levels rt factory n)))
      present m p) (closeIf (invokeWith (handle rt factory (levels rt factory n))) present m p) := by
  unfold closeIf
  split
  · exact sim_callOn true m p fun q _ => sim_invoke spilling leaves values m q notMapper
  · exact Sim.pure ()

theorem sim_close {n : Nat} (noMapper : k.mapper = false) (empty : c.cache.entries = [])
    (values : Sim (Mirror Q (Reducing c T k)) (nextValue (levels rt factory n))
      (nextValue (levels rt factory n))) :
    Sim (Mirror Q (Reducing c T k)) (close rt factory (invokeWith (handle rt factory (levels rt factory n))))
      (close rt factory (invokeWith (handle rt factory (levels rt factory n)))) := by
  have uplink : ∀ {α : Type} (x : Effect PyExc FileOutStreamObj α),
      Sim (Mirror Q (Reducing c T k)) (onContext (ω := ω) (TaskContext.onUplink x))
        (onContext (TaskContext.onUplink x)) := fun x =>
    sim_of_ignores (ignores_onContext _) (Reducing.steady.onContext (TaskContext.KeepsComponents.onUplink x))
  refine (uplink _).bind fun _ => Sim.tryFinally ?_ ((uplink _).bind fun _ => uplink _)
  unfold closeComponents
  refine Sim.read_bind run_getContext run_getContext (fun _ _ mirror => mirror.context)
    fun s t mirror => ?_
  rw [mirror.2.2.mapper noMapper]
  refine (Sim.pure ()).bind fun _ => ?_
  unfold closeCombiner
  refine Sim.bind (Sim.read_bind run_getCache run_getCache (fun _ _ mirror => mirror.cache)
    fun s t mirror => ?_) fun _ => ?_
  · rw [mirror.2.2.2.cache, empty]
    exact Sim.pure ()
  refine (sim_of_ignores ignores_getContext keeps_getContext).bind fun ctx => ?_
  refine (sim_closeIf spilling leaves values _ rfl _).bind fun _ => ?_
  refine (sim_of_ignores ignores_getContext keeps_getContext).bind fun ctx => ?_
  refine (sim_closeIf spilling leaves values _ rfl _).bind fun _ => ?_
  refine (sim_of_ignores ignores_getContext keeps_getContext).bind fun ctx => ?_
  refine (sim_closeIf spilling leaves values _ rfl _).bind fun _ => ?_
  exact sim_of_ignores (ignores_onContext _)
    (Reducing.steady.onContext TaskContext.keepsComponents_spillCounters)

theorem sim_callReduce {n : Nat}
    (values : Sim (Mirror Q (Reducing c T k)) (nextValue (levels rt factory n))
      (nextValue (levels rt factory n))) :
    Sim (Mirror Q (Reducing c T k)) (callReduce factory (invokeWith (handle rt factory (levels rt factory n))))
      (callReduce factory (invokeWith (handle rt factory (levels rt factory n)))) :=
  (sim_of_ignores ignores_getContext keeps_getContext).bind fun ctx =>
    sim_callOn ctx.reducer .reducerReduce _ fun q _ => sim_invoke spilling leaves values .reducerReduce q rfl

end Simulation

section Stream

variable (gb : Nat) (groupbys : List (GroupBy Int (Int × PyObj))) (dl : Downlink)
  (encode : Command → Bytes)

/-- The input whose downlink `dl` stands before the bytes `ts`, whose groupby object `gb` of
`groupbys` is `g`, and whose `context.values` is `values`. -/
def inputAt (values : Values) (g : GroupBy Int (Int × PyObj)) (ts : Bytes) : Input :=
  ⟨dl.at ts, groupbys.set gb g, values⟩

/-- A command as the groupby's source reads it: the item `__next__` returns for it, and the
bytes it is sent as. -/
def frame (cmd : Command) : (Int × PyObj) × Bytes := (cmd.item, encode cmd)

/-- The downlink reads `cmd` back from the bytes it is sent as, whatever follows them. -/
def ReadsCommand (cmd : Command) : Prop :=
  ∀ rest, (Downlink.readCommand rt).run (dl.at (encode cmd ++ rest)) = (.ok cmd, dl.at rest)

variable {rt factory}

theorem run_next_streamed {lower : Level ω} {invoke : Invoke ω} {fuel : Nat} {s s' : Task ω}
    {cmd : Command} (read : (onDownlink (Downlink.readCommand rt)).run s = (.ok cmd, s'))
    (streamed : cmd.streamed = true) (noMapper : s'.context.mapper = false) :
    (next rt factory lower invoke fuel).run s = (.ok (some cmd.item), s') := by
  rw [next, run_bind_ok read]
  cases cmd
  case reduceKey key => rfl
  case reduceValue value => rfl
  case close =>
    rw [run_bind_ok (run_getContext s'), noMapper]
    rfl
  all_goals exact absurd streamed Bool.false_ne_true

theorem run_itemSource_some {lower : Level ω} {s s' : Task ω} {item : Int × PyObj}
    (next : lower.next.run s = (.ok (some item), s')) :
    (itemSource lower).run s = (.ok (some item), s') := by
  rw [itemSource, run_bind, run_reify, next]
  rfl

theorem run_onDownlink_readCommand {s : Task ω} {cmd : Command}
    (read : ReadsCommand rt dl encode cmd) (values : Values) (g : GroupBy Int (Int × PyObj))
    (ts : Bytes) :
    (onDownlink (Downlink.readCommand rt)).run
        (putInput s (inputAt gb groupbys dl values g (encode cmd ++ ts))) =
      (.ok cmd, putInput s (inputAt gb groupbys dl values g ts)) := by
  simp only [onDownlink, onInput, run_zoom, putInput, inputAt, read ts]

theorem feeds {d : Nat} {b : Task ω} (noMapper : b.context.mapper = false)
    (inRange : gb < groupbys.length) {cmds : List Command}
    (reads : ∀ cmd ∈ cmds, cmd.streamed = true ∧ ReadsCommand rt dl encode cmd) (values : Values) :
    GroupBy.Feeds (groupby gb) (setGroupby gb) (itemSource (levels rt factory (d + 1)))
      (fun g ts => putInput b (inputAt gb groupbys dl values g ts))
      (cmds.map (frame encode)) where
  view_embed g ts := by simp [groupby, putInput, inputAt, inRange]
  update_embed g ts g' := by simp [setGroupby, putInput, inputAt]
  reads x member g ts := by
    obtain ⟨cmd, listed, rfl⟩ := List.mem_map.mp member
    obtain ⟨streamed, read⟩ := reads cmd listed
    exact run_itemSource_some (run_next_streamed
      (run_onDownlink_readCommand gb groupbys dl encode read _ g ts) streamed noMapper)

end Stream

section Values

variable {lower : Level ω} {t t' : Task ω}

theorem run_nextValue_cons {v : PyObj} {rest : List PyObj}
    (values : t.input.values = .list (v :: rest)) :
    (nextValue lower).run t = (.ok v, putInput t { t.input with values := .list rest }) := by
  rw [nextValue, run_bind_ok (run_getInput t), values]
  rfl

theorem run_nextValue_none (values : t.input.values = .none) :
    (nextValue lower).run t = (.error .typeError, t) := by
  rw [nextValue, run_bind_ok (run_getInput t), values]
  rfl

theorem run_nextValue_nil (values : t.input.values = .list []) :
    (nextValue lower).run t = (.error .stopIteration, t) := by
  rw [nextValue, run_bind_ok (run_getInput t), values]
  rfl

theorem run_nextValue_finished {gb n : Nat} (values : t.input.values = .generator gb n true) :
    (nextValue lower).run t = (.error .stopIteration, t) := by
  rw [nextValue, run_bind_ok (run_getInput t), values]
  rfl

theorem run_nextValue_item {gb n : Nat} (values : t.input.values = .generator gb n false)
    {key : Int} {v : PyObj} (pulls : (GroupBy.grouperNext (groupby gb) (setGroupby gb) (itemSource lower)
      Prod.fst n).run t = (.ok (some (key, v)), t')) :
    (nextValue lower).run t = (.ok v, t') := by
  rw [nextValue, run_bind_ok (run_getInput t), values]
  dsimp only
  rw [run_bind, run_reify, pulls]
  rfl

theorem run_nextValue_end {gb n : Nat} (values : t.input.values = .generator gb n false)
    (pulls : (GroupBy.grouperNext (groupby gb) (setGroupby gb) (itemSource lower)
      Prod.fst n).run t = (.ok none, t')) :
    (nextValue lower).run t =
      (.error .stopIteration, putInput t' { t'.input with values := .generator gb n true }) := by
  rw [nextValue, run_bind_ok (run_getInput t), values]
  dsimp only
  rw [run_bind, run_reify, pulls]
  rfl

end Values

section Groups

variable (gb : Nat) (groupbys : List (GroupBy Int (Int × PyObj))) (dl : Downlink)
  (encode : Command → Bytes)

/-- Inside the group of values with grouper `n`: the loop's groupby serves what is left of the
group's `values`, then the commands `later`; the generator's unread values are the spec's list,
or the generator has finished and the spec's list is empty. -/
def InGroup (n : Nat) (values : List PyObj) (later : List Command) (ts : Bytes) (ci ai : Input) :
    Prop :=
  ∃ rest pulled finished, rest <:+ values ∧
    ci = GroupBy.serving (inputAt gb groupbys dl (.generator gb n finished)) Prod.fst REDUCE_VALUE
      (some n) (n + 1) pulled ((rest.map Command.reduceValue ++ later).map (frame encode)) ts ∧
    ai.values = .list (if finished then [] else rest)

/-- At `CLOSE`, in the group with grouper `n`: the loop's generator is an earlier grouper's,
which yields nothing, and the spec's list is empty; or the two have the same values, none of
them a generator. -/
def AtClose (n : Nat) (ts : Bytes) (ci ai : Input) : Prop :=
  ∃ values, ci = GroupBy.serving (inputAt gb groupbys dl values) Prod.fst CLOSE (some n) (n + 1)
      true [frame encode .close] ts ∧
    ((∃ g finished, g ≠ n ∧ values = .generator gb g finished ∧ ai.values = .list []) ∨
      values = ai.values ∧ values.isGenerator = false)

/-- Between two passes of the loop, before the commands `cmds`: the groupby is new, and the loop
holds the spec's values; or it is still in the group of values with grouper `n`, whose unread
values `rest` it skips in the passes `fuel` allows, and the spec's list is empty. -/
def Before (cmds : List Command) (ts : Bytes) (fuel : Nat) (ci ai : Input) : Prop :=
  ci = inputAt gb groupbys dl ai.values .new ((cmds.map (frame encode)).flatMap Prod.snd ++ ts) ∨
    ∃ (n : Nat) (pulled : Bool) (rest : List PyObj) (finished : Bool), rest.length + 2 ≤ fuel ∧
      (∀ v ∈ rest, ReadsCommand rt dl encode (.reduceValue v)) ∧
      ci = GroupBy.serving (inputAt gb groupbys dl (.generator gb n finished)) Prod.fst REDUCE_VALUE
        (some n) (n + 1) pulled ((rest.map Command.reduceValue ++ cmds).map (frame encode)) ts ∧
      ai.values = .list []

theorem values_serving_inputAt (values : Values) (key : Int) (grouper : Option Nat)
    (serial : Nat) (pulled : Bool) (xs : List ((Int × PyObj) × Bytes)) (ts : Bytes) :
    (GroupBy.serving (inputAt gb groupbys dl values) Prod.fst key grouper serial pulled xs
      ts).values = values := by
  cases pulled <;> cases xs <;> rfl

theorem serving_inputAt_values (values values' : Values) (key : Int) (grouper : Option Nat)
    (serial : Nat) (pulled : Bool) (xs : List ((Int × PyObj) × Bytes)) (ts : Bytes) :
    { GroupBy.serving (inputAt gb groupbys dl values) Prod.fst key grouper serial pulled xs ts with
        values := values' } =
      GroupBy.serving (inputAt gb groupbys dl values') Prod.fst key grouper serial pulled xs ts := by
  cases pulled <;> cases xs <;> rfl

end Groups

theorem mirror_putInput {Q : Input → Input → Prop} {I : Task ω → Prop} {t t' : Task ω}
    {i : Input} (same : putInput t i = putInput t' i) (related : Q i t'.input) (holds : I t') :
    Mirror Q I (putInput t i) t' :=
  ⟨same, related, holds⟩

theorem putInput_of_mirror {s t : Task ω} (same : s = putInput t s.input) (i : Input) :
    putInput s i = putInput t i := by
  rw [same]
  rfl

section Reading

variable {rt factory} {c : CombinerCache} {T : List Event} {k : Components} {gb : Nat}
  {groupbys : List (GroupBy Int (Int × PyObj))} {dl : Downlink} {encode : Command → Bytes}

/-- Inside a group, `next(context.values)` on the loop's generator reads the next value off the
downlink, one level down, as the spec's list yields it; at the end of the group it stops at the
next command, which stays pulled, and the generator finishes. -/
theorem sim_nextValue_inGroup {d n : Nat} {values : List PyObj} {next : Command}
    {later : List Command} {ts : Bytes} (inRange : gb < groupbys.length)
    (noMapper : k.mapper = false)
    (reads : ∀ cmd ∈ values.map Command.reduceValue ++ next :: later,
      cmd.streamed = true ∧ ReadsCommand rt dl encode cmd)
    (ends : next.item.1 ≠ REDUCE_VALUE) :
    Sim (Mirror (InGroup gb groupbys dl encode n values (next :: later) ts) (Reducing c T k))
      (nextValue (levels rt factory (d + 1))) (nextValue (levels rt factory (d + 1))) := by
  rintro s t ⟨same, ⟨rest, pulled, finished, suffix, placed, listed⟩, settled⟩
  have current : s.input.values = .generator gb n finished := by
    rw [placed, values_serving_inputAt]
  cases finished with
  | true =>
    rw [run_nextValue_finished current, run_nextValue_nil listed]
    exact ⟨rfl, same, ⟨rest, pulled, true, suffix, placed, listed⟩, settled⟩
  | false =>
    have mapperless : t.context.mapper = false := settled.mapper noMapper
    have within : ∀ cmd ∈ rest.map Command.reduceValue ++ next :: later,
        cmd ∈ values.map Command.reduceValue ++ next :: later := by
      intro cmd member
      rcases List.mem_append.mp member with valued | after
      · obtain ⟨v, unread, rfl⟩ := List.mem_map.mp valued
        exact List.mem_append_left _ (List.mem_map_of_mem (suffix.subset unread))
      · exact List.mem_append_right _ after
    have feeding : GroupBy.Feeds (groupby gb) (setGroupby gb)
        (itemSource (levels rt factory (d + 1)))
        (fun g ts => putInput t (inputAt gb groupbys dl (.generator gb n false) g ts))
        ((rest.map Command.reduceValue ++ next :: later).map (frame encode)) :=
      feeds gb groupbys dl encode mapperless inRange
        (fun cmd member => reads cmd (within cmd member)) _
    have served : s = GroupBy.serving
        (fun g ts => putInput t (inputAt gb groupbys dl (.generator gb n false) g ts)) Prod.fst
        REDUCE_VALUE (some n) (n + 1) pulled
        ((rest.map Command.reduceValue ++ next :: later).map (frame encode)) ts := by
      rw [GroupBy.serving_map, ← placed]
      exact same
    cases rest with
    | nil =>
      -- the group is over: the grouper stops at the next command and keeps it pulled
      have pulls : (GroupBy.grouperNext (groupby gb) (setGroupby gb)
          (itemSource (levels rt factory (d + 1))) Prod.fst n).run s =
            (.ok none, GroupBy.serving
              (fun g ts => putInput t (inputAt gb groupbys dl (.generator gb n false) g ts))
              Prod.fst REDUCE_VALUE (some n) (n + 1) true ((next :: later).map (frame encode))
              ts) := by
        rw [served]
        exact GroupBy.grouperNext_end feeding pulled
          (List.mem_map_of_mem (List.mem_append_right _ (List.mem_cons_self ..))) ends ts
      rw [run_nextValue_end current pulls, run_nextValue_nil listed, GroupBy.serving_map]
      refine ⟨rfl, mirror_putInput rfl ⟨[], true, true, suffix, ?_, listed⟩ settled⟩
      exact serving_inputAt_values gb groupbys dl _ _ _ _ _ _ _ ts
    | cons v rest =>
      have pulls : (GroupBy.grouperNext (groupby gb) (setGroupby gb)
          (itemSource (levels rt factory (d + 1))) Prod.fst n).run s =
            (.ok (some (REDUCE_VALUE, v)), GroupBy.serving
              (fun g ts => putInput t (inputAt gb groupbys dl (.generator gb n false) g ts))
              Prod.fst REDUCE_VALUE (some n) (n + 1) false
              ((rest.map Command.reduceValue ++ next :: later).map (frame encode)) ts) := by
        rw [served]
        exact GroupBy.grouperNext_member feeding pulled
          (List.mem_map_of_mem (List.mem_append_left _ (List.mem_cons_self ..))) rfl ts
      rw [run_nextValue_item current pulls, run_nextValue_cons listed, GroupBy.serving_map]
      exact ⟨rfl, mirror_putInput rfl ⟨rest, false, false, (List.suffix_cons v rest).trans suffix,
        rfl, rfl⟩ (Reducing.steady.list t rest settled)⟩

theorem sim_nextValue_atClose {n : Nat} {ts : Bytes} (inRange : gb < groupbys.length)
    (lower : Level ω) :
    Sim (Mirror (AtClose gb groupbys dl encode n ts) (Reducing c T k)) (nextValue lower)
      (nextValue lower) := by
  rintro s t ⟨same, ⟨values, placed, ⟨g, finished, other, rfl, listed⟩ | ⟨equal, plain⟩⟩,
    settled⟩
  · have current : s.input.values = .generator gb g finished := by
      rw [placed, values_serving_inputAt]
    cases finished with
    | true =>
      rw [run_nextValue_finished current, run_nextValue_nil listed]
      exact ⟨rfl, same, ⟨_, placed, .inl ⟨g, true, other, rfl, listed⟩⟩, settled⟩
    | false =>
      -- the groupby has moved on to `CLOSE`, and the old grouper yields nothing
      have stale : (groupby gb s).currgrouper ≠ some g := by
        simp [groupby, placed, GroupBy.serving, inputAt, inRange, Ne.symm other]
      rw [run_nextValue_end current (GroupBy.grouperNext_stale stale), run_nextValue_nil listed,
        putInput_of_mirror same]
      refine ⟨rfl, mirror_putInput rfl ⟨_, ?_, .inl ⟨g, true, other, rfl, listed⟩⟩ settled⟩
      rw [placed, serving_inputAt_values]
  · have current : s.input.values = values := by
      rw [placed, values_serving_inputAt]
    cases values with
    | none =>
      rw [run_nextValue_none current, run_nextValue_none equal.symm]
      exact ⟨rfl, same, ⟨_, placed, .inr ⟨equal, plain⟩⟩, settled⟩
    | list vs =>
      cases vs with
      | nil =>
        rw [run_nextValue_nil current, run_nextValue_nil equal.symm]
        exact ⟨rfl, same, ⟨_, placed, .inr ⟨equal, plain⟩⟩, settled⟩
      | cons v vs =>
        rw [run_nextValue_cons current, run_nextValue_cons equal.symm, putInput_of_mirror same]
        refine ⟨rfl, mirror_putInput rfl ⟨.list vs, ?_, .inr ⟨rfl, rfl⟩⟩
          (Reducing.steady.list t vs settled)⟩
        rw [placed, serving_inputAt_values]
    | generator => cases plain

/-- The first pass before `cmd :: cmds` skips what is left of the group it is in, and opens the
group of `cmd` with the next grouper, `cmd` pulled. The loop's values are the spec's, or a
generator of an earlier grouper while the spec's list is empty. -/
theorem run_next_before {d fuel : Nat} {cmd : Command} {cmds : List Command} {ts : Bytes}
    (inRange : gb < groupbys.length) (noMapper : k.mapper = false)
    (reads : ∀ x ∈ cmd :: cmds, x.streamed = true ∧ ReadsCommand rt dl encode x)
    (opening : cmd.item.1 ≠ REDUCE_VALUE) (enough : 2 ≤ fuel) {s t : Task ω}
    (mirror : Mirror (Before rt gb groupbys dl encode (cmd :: cmds) ts fuel) (Reducing c T k) s t) :
    ∃ g values, (GroupBy.next (groupby gb) (setGroupby gb) (itemSource (levels rt factory (d + 1)))
        Prod.fst .recursionError fuel).run s =
      (.ok (some (cmd.item.1, g)), putInput t (GroupBy.serving (inputAt gb groupbys dl values)
        Prod.fst cmd.item.1 (some g) (g + 1) true ((cmd :: cmds).map (frame encode)) ts)) ∧
      (values = t.input.values ∨
        ∃ n finished, n < g ∧ values = .generator gb n finished ∧ t.input.values = .list []) := by
  obtain ⟨same, before, settled⟩ := mirror
  have mapperless : t.context.mapper = false := settled.mapper noMapper
  rcases before with placed | ⟨n, pulled, rest, finished, short, restReads, placed, listed⟩
  · have feeding : GroupBy.Feeds (groupby gb) (setGroupby gb)
        (itemSource (levels rt factory (d + 1)))
        (fun g ts => putInput t (inputAt gb groupbys dl t.input.values g ts))
        ((cmd :: cmds).map (frame encode)) :=
      feeds gb groupbys dl encode mapperless inRange reads _
    refine ⟨0, t.input.values, ?_, .inl rfl⟩
    rw [same, placed]
    exact GroupBy.next_new feeding .recursionError (List.mem_cons_self ..) ts enough
  · have feeding : GroupBy.Feeds (groupby gb) (setGroupby gb)
        (itemSource (levels rt factory (d + 1)))
        (fun g ts => putInput t (inputAt gb groupbys dl (.generator gb n finished) g ts))
        ((rest.map Command.reduceValue ++ cmd :: cmds).map (frame encode)) := by
      refine feeds gb groupbys dl encode mapperless inRange (fun x member => ?_) _
      rcases List.mem_append.mp member with valued | later
      · obtain ⟨v, unread, rfl⟩ := List.mem_map.mp valued
        exact ⟨rfl, restReads v unread⟩
      · exact reads x later
    have skips : (GroupBy.next (groupby gb) (setGroupby gb) (itemSource (levels rt factory (d + 1)))
        Prod.fst .recursionError fuel).run (GroupBy.serving
          (fun g ts => putInput t (inputAt gb groupbys dl (.generator gb n finished) g ts)) Prod.fst
          REDUCE_VALUE (some n) (n + 1) pulled
          ((rest.map Command.reduceValue).map (frame encode) ++ frame encode cmd ::
            cmds.map (frame encode)) ts) =
        (.ok (some (cmd.item.1, n + 1)), GroupBy.serving
          (fun g ts => putInput t (inputAt gb groupbys dl (.generator gb n finished) g ts)) Prod.fst
          cmd.item.1 (some (n + 1)) (n + 1 + 1) true (frame encode cmd :: cmds.map (frame encode))
          ts) := by
      refine GroupBy.next_serving feeding .recursionError pulled (fun x member => ⟨?_, ?_⟩)
        (List.mem_map_of_mem (List.mem_append_right _ (List.mem_cons_self ..))) opening ts
        (by simpa using short)
      · rw [List.map_append]
        exact List.mem_append_left _ member
      · obtain ⟨value, valued, rfl⟩ := List.mem_map.mp member
        obtain ⟨v, -, rfl⟩ := List.mem_map.mp valued
        rfl
    refine ⟨n + 1, .generator gb n finished, ?_, .inr ⟨n, finished, Nat.lt_succ_self n, rfl, listed⟩⟩
    rw [GroupBy.serving_map (putInput t) (inputAt gb groupbys dl (.generator gb n finished)),
      GroupBy.serving_map (putInput t) (inputAt gb groupbys dl (.generator gb n finished))] at skips
    rw [same, placed, List.map_append]
    exact skips

end Reading

section Passes

variable {rt factory} {lower : Level ω} {invoke : Invoke ω} {gb fuel passes g : Nat}
  {s s₁ s₂ : Task ω}

theorem run_reduceLoop_key {key : PyObj}
    (opens : (GroupBy.next (groupby gb) (setGroupby gb) (itemSource lower) Prod.fst .recursionError
      fuel).run s = (.ok (some (REDUCE_KEY, g)), s₁))
    (takes : (GroupBy.grouperNext (groupby gb) (setGroupby gb) (itemSource lower) Prod.fst g).run s₁ =
      (.ok (some (REDUCE_KEY, key)), s₂)) :
    (reduceLoop rt factory lower invoke gb fuel (passes + 1)).run s =
      (reduceLoop rt factory lower invoke gb fuel passes).run
        { s₂ with context := { s₂.context with key } } := by
  rw [reduceLoop, run_bind_ok opens]
  dsimp only
  rw [if_pos rfl, run_bind, run_bind_ok takes]
  dsimp only
  rw [run_onContext_modify]
  dsimp only
  rw [if_neg (by decide), if_neg (by decide), run_bind_ok (run_pure _ _),
    run_bind_ok (run_pure _ _)]

theorem run_reduceLoop_value
    (opens : (GroupBy.next (groupby gb) (setGroupby gb) (itemSource lower) Prod.fst .recursionError
      fuel).run s = (.ok (some (REDUCE_VALUE, g)), s₁)) :
    (reduceLoop rt factory lower invoke gb fuel (passes + 1)).run s =
      (callReduce factory invoke >>= fun _ => reduceLoop rt factory lower invoke gb fuel passes).run
        (putInput s₁ { s₁.input with values := .generator gb g false }) := by
  rw [reduceLoop, run_bind_ok opens]
  dsimp only
  rw [if_neg (by decide), run_bind_ok (run_pure _ _), if_pos rfl, if_neg (by decide), run_bind,
    run_bind_ok (run_setValues _ _), run_bind (x := callReduce factory invoke)]
  simp only [pure_bind]
  rfl

theorem run_reduceLoop_close
    (opens : (GroupBy.next (groupby gb) (setGroupby gb) (itemSource lower) Prod.fst .recursionError
      fuel).run s = (.ok (some (CLOSE, g)), s₁)) :
    (reduceLoop rt factory lower invoke gb fuel (passes + 1)).run s =
      (Effect.tryFinally (close rt factory invoke) (throw .stopIteration)).run s₁ := by
  rw [reduceLoop, run_bind_ok opens]
  dsimp only
  rw [if_neg (by decide), run_bind_ok (run_pure _ _), if_neg (by decide), run_bind_ok (run_pure _ _),
    if_pos rfl]
  obtain ⟨s₂, stops⟩ : ∃ s₂, (Effect.tryFinally (close rt factory invoke)
      (throw .stopIteration)).run s₁ = (.error .stopIteration, s₂) :=
    ⟨_, Prod.ext (run_tryFinally_throw _ _ _) rfl⟩
  rw [run_bind_error stops, stops]

theorem run_reduceGroups_cons (key : PyObj) (values : List PyObj)
    (groups : List (PyObj × List PyObj)) (t : Task ω) :
    (reduceGroups rt factory invoke ((key, values) :: groups)).run t =
      (callReduce factory invoke >>= fun _ => setValues (.list []) >>= fun _ =>
        reduceGroups rt factory invoke groups).run
        (putInput { t with context := { t.context with key } } { t.input with values := .list values }) := by
  rw [reduceGroups, run_bind_ok (run_onContext_modify _ _), run_bind_ok (run_setValues _ _)]
  rfl

end Passes

/-- Two runs agree: they reach the same outcome, and final tasks that differ at most in their
input. -/
def Agrees {α : Type} (x y : Except PyExc α × Task ω) : Prop :=
  x.1 = y.1 ∧ x.2 = putInput y.2 x.2.input

section Loop

variable {rt factory} {c : CombinerCache} {T : List Event} {k : Components} {gb : Nat}
  {groupbys : List (GroupBy Int (Int × PyObj))} {dl : Downlink} {encode : Command → Bytes}
  {d fuel : Nat} {ts : Bytes}
  (inRange : gb < groupbys.length) (noMapper : k.mapper = false) (enough : 2 ≤ fuel)
include inRange noMapper enough

theorem run_reduceLoop_group {key : PyObj} {values : List PyObj} {later : List Command}
    (reads : ∀ x ∈ .reduceKey key :: (values.map Command.reduceValue ++ later),
      x.streamed = true ∧ ReadsCommand rt dl encode x)
    (nonempty : values ≠ []) {s t : Task ω}
    (mirror : Mirror (Before rt gb groupbys dl encode
      (.reduceKey key :: (values.map Command.reduceValue ++ later)) ts fuel) (Reducing c T k) s t) :
    ∃ g, ∀ (passes : Nat) (invoke : Invoke ω),
      (reduceLoop rt factory (levels rt factory (d + 1)) invoke gb fuel (passes + 2)).run s =
        (callReduce factory invoke >>= fun _ =>
          reduceLoop rt factory (levels rt factory (d + 1)) invoke gb fuel passes).run
          (putInput { t with context := { t.context with key } }
            (GroupBy.serving (inputAt gb groupbys dl (.generator gb (g + 1) false)) Prod.fst
              REDUCE_VALUE (some (g + 1)) (g + 1 + 1) true
              ((values.map Command.reduceValue ++ later).map (frame encode)) ts)) := by
  obtain ⟨g, v, opens, -⟩ := run_next_before (d := d) inRange noMapper reads
    (by decide : REDUCE_KEY ≠ REDUCE_VALUE) enough mirror
  have mapperless : t.context.mapper = false := mirror.2.2.mapper noMapper
  obtain ⟨first, rest, rfl⟩ := List.exists_cons_of_ne_nil nonempty
  have takes : (GroupBy.grouperNext (groupby gb) (setGroupby gb)
      (itemSource (levels rt factory (d + 1))) Prod.fst g).run
        (putInput t (GroupBy.serving (inputAt gb groupbys dl v) Prod.fst REDUCE_KEY (some g) (g + 1)
          true ((.reduceKey key :: ((first :: rest).map Command.reduceValue ++ later)).map
            (frame encode)) ts)) =
      (.ok (some (REDUCE_KEY, key)), putInput t (GroupBy.serving (inputAt gb groupbys dl v) Prod.fst
        REDUCE_KEY (some g) (g + 1) false
        (((first :: rest).map Command.reduceValue ++ later).map (frame encode)) ts)) :=
    GroupBy.grouperNext_member (feeds gb groupbys dl encode mapperless inRange reads v) true
      (List.mem_cons_self ..) rfl ts
  have opensValues : (GroupBy.next (groupby gb) (setGroupby gb)
      (itemSource (levels rt factory (d + 1))) Prod.fst .recursionError fuel).run
        (putInput { t with context := { t.context with key } } (GroupBy.serving
          (inputAt gb groupbys dl v) Prod.fst REDUCE_KEY (some g) (g + 1) false
          ([] ++ ((first :: rest).map Command.reduceValue ++ later).map (frame encode)) ts)) =
      (.ok (some (REDUCE_VALUE, g + 1)), putInput { t with context := { t.context with key } }
        (GroupBy.serving (inputAt gb groupbys dl v) Prod.fst REDUCE_VALUE (some (g + 1)) (g + 1 + 1)
          true (((first :: rest).map Command.reduceValue ++ later).map (frame encode)) ts)) :=
    GroupBy.next_serving (feeds gb groupbys dl encode
        (show ({ t with context := { t.context with key } } : Task ω).context.mapper = false
          from mapperless) inRange
        (fun x member => reads x (List.mem_cons_of_mem _ member)) v) .recursionError false
      (fun _ member => absurd member List.not_mem_nil) (List.mem_cons_self ..)
      (by decide : REDUCE_VALUE ≠ REDUCE_KEY) ts
      (by simpa using enough)
  refine ⟨g, fun passes invoke => ?_⟩
  exact (run_reduceLoop_key opens takes).trans ((run_reduceLoop_value opensValues).trans rfl)

variable (spilling : c.spilling = true) (empty : c.cache.entries = [])
  (leaves : LeavesValues factory)
include spilling empty leaves

/-- The loop from between two passes, before the commands of `groups`, agrees with the spec on
`groups`; by induction on the groups, two passes for each and one for `CLOSE`. -/
theorem reduceLoop_groups : ∀ (groups : List (PyObj × List PyObj)) (passes : Nat) (s t : Task ω),
    2 * groups.length + 1 ≤ passes →
    (∀ group ∈ groups, group.2 ≠ [] ∧ group.2.length + 2 ≤ fuel) →
    (∀ cmd ∈ reduceCommands groups, ReadsCommand rt dl encode cmd) →
    Mirror (Before rt gb groupbys dl encode (reduceCommands groups) ts fuel) (Reducing c T k) s t →
    Agrees ((reduceLoop rt factory (levels rt factory (d + 1))
        (invokeWith (handle rt factory (levels rt factory (d + 1)))) gb fuel passes).run s)
      ((reduceGroups rt factory (invokeWith (handle rt factory (levels rt factory (d + 1))))
        groups).run t)
  | [], passes, s, t, enoughPasses, _, reads, mirror => by
    obtain ⟨passes, rfl⟩ : ∃ p, passes = p + 1 := ⟨passes - 1, by simp at enoughPasses; omega⟩
    have streamed : ∀ x ∈ [Command.close], x.streamed = true ∧ ReadsCommand rt dl encode x :=
      fun x member =>
        ⟨streamed_of_mem_reduceCommands (show x ∈ reduceCommands [] from member), reads x member⟩
    obtain ⟨g, values, opens, earlier⟩ := run_next_before (d := d) inRange noMapper streamed
      (by decide : CLOSE ≠ REDUCE_VALUE) enough mirror
    rw [run_reduceLoop_close opens]
    have atClose : Mirror (AtClose gb groupbys dl encode g ts) (Reducing c T k)
        (putInput t (GroupBy.serving (inputAt gb groupbys dl values) Prod.fst CLOSE (some g) (g + 1)
          true [frame encode .close] ts)) t := by
      refine mirror_putInput rfl ⟨values, rfl, ?_⟩ mirror.2.2
      rcases earlier with same | ⟨n, finished, earlier, rfl, listed⟩
      · exact .inr ⟨same, same ▸ mirror.2.2.1.values⟩
      · exact .inl ⟨n, finished, Nat.ne_of_lt earlier, rfl, listed⟩
    have closes := Sim.tryFinally (sim_close spilling leaves noMapper empty
      (sim_nextValue_atClose inRange (levels rt factory (d + 1)))) (Sim.throw .stopIteration) _ t
      atClose
    exact ⟨closes.1, closes.2.1⟩
  | (key, values) :: groups, passes, s, t, enoughPasses, sized, reads, mirror => by
    obtain ⟨passes, rfl⟩ : ∃ p, passes = p + 2 :=
      ⟨passes - 2, by simp at enoughPasses; omega⟩
    obtain ⟨nonempty, short⟩ : values ≠ [] ∧ values.length + 2 ≤ fuel :=
      sized (key, values) (List.mem_cons_self ..)
    rw [reduceCommands_cons] at reads mirror
    have streamed : ∀ x ∈ .reduceKey key :: (values.map Command.reduceValue ++ reduceCommands groups),
        x.streamed = true ∧ ReadsCommand rt dl encode x := fun x member =>
      ⟨streamed_of_mem_reduceCommands (by rw [reduceCommands_cons]; exact member), reads x member⟩
    obtain ⟨g, prologue⟩ := run_reduceLoop_group (d := d) inRange noMapper enough streamed nonempty
      mirror
    rw [prologue, run_reduceGroups_cons, run_bind, run_bind]
    -- the reducer reads the values off the downlink as the spec reads its list
    have inGroup : Mirror (InGroup gb groupbys dl encode (g + 1) values (reduceCommands groups) ts)
        (Reducing c T k)
        (putInput { t with context := { t.context with key } }
          (GroupBy.serving (inputAt gb groupbys dl (.generator gb (g + 1) false)) Prod.fst
            REDUCE_VALUE (some (g + 1)) (g + 1 + 1) true
            ((values.map Command.reduceValue ++ reduceCommands groups).map (frame encode)) ts))
        (putInput { t with context := { t.context with key } }
          { t.input with values := .list values }) :=
      mirror_putInput rfl ⟨values, true, false, List.suffix_refl _, rfl, rfl⟩
        (Reducing.steady.list _ values (Reducing.steady.context t _ rfl mirror.2.2))
    obtain ⟨next, later, heads, ends⟩ := reduceCommands_head groups
    have values_sim : Sim (Mirror (InGroup gb groupbys dl encode (g + 1) values
        (reduceCommands groups) ts) (Reducing c T k))
        (nextValue (levels rt factory (d + 1))) (nextValue (levels rt factory (d + 1))) := by
      rw [heads]
      refine sim_nextValue_inGroup inRange noMapper (fun x member => ?_) ends
      rw [← heads] at member
      exact streamed x (List.mem_cons_of_mem _ member)
    have reducing := sim_callReduce spilling leaves values_sim _ _ inGroup
    rcases ranLoop : (callReduce factory (invokeWith (handle rt factory (levels rt factory (d + 1))))).run
      (putInput { t with context := { t.context with key } }
        (GroupBy.serving (inputAt gb groupbys dl (.generator gb (g + 1) false)) Prod.fst
          REDUCE_VALUE (some (g + 1)) (g + 1 + 1) true
          ((values.map Command.reduceValue ++ reduceCommands groups).map (frame encode)) ts)) with
      ⟨outcome, s'⟩
    rcases ranSpec : (callReduce factory (invokeWith (handle rt factory (levels rt factory (d + 1))))).run
      (putInput { t with context := { t.context with key } } { t.input with values := .list values }) with
      ⟨outcome', t'⟩
    rw [ranLoop, ranSpec] at reducing
    obtain ⟨same, ⟨related, ⟨rest, pulled, finished, suffix, placed, -⟩, settled⟩⟩ := reducing
    subst same
    cases outcome with
    | error e => exact ⟨rfl, related⟩
    | ok u =>
      dsimp only
      rw [run_bind_ok (run_setValues _ _)]
      refine reduceLoop_groups groups passes s' (putInput t' { t'.input with values := .list [] })
        (by simp at enoughPasses ⊢; omega) (fun group member => sized group (List.mem_cons_of_mem _ member))
        (fun cmd member => reads cmd (List.mem_cons_of_mem _ (List.mem_append_right _ member)))
        ⟨related, .inr ⟨g + 1, pulled, rest, finished, ?_, fun v unread => ?_, placed, rfl⟩,
          Reducing.steady.list t' [] settled⟩
      · have shorter := suffix.length_le
        omega
      · exact reads _ (List.mem_cons_of_mem _ (List.mem_append_left _
          (List.mem_map_of_mem (suffix.subset unread))))

end Loop

/-- The `RUN_REDUCE` loop refines `reduceGroups`. Take a task with no mapper, whose combiner
cache is spilling and empty as in every reduce task, whose record writer and partitioner leave
`context.values` alone, whose groupby object `gb` is new, and whose downlink stands before the
commands Java sends for `groups`, each group with at least one value. With enough fuel, the loop
and the spec, run from that task, raise or return alike and reach the same task but for its
input, whatever the user's methods do. -/
theorem reduceLoop_refines {d fuel gb : Nat} {groups : List (PyObj × List PyObj)} {dl : Downlink}
    {encode : Command → Bytes} {ts : Bytes} {t : Task ω}
    (noMapper : t.context.mapper = false) (spilling : t.cache.spilling = true)
    (empty : t.cache.cache.entries = []) (leaves : LeavesValues factory)
    (fresh : t.input.groupbys[gb]? = some .new) (calm : t.input.values.isGenerator = false)
    (stream : t.input.downlink = dl.at ((reduceCommands groups).flatMap encode ++ ts))
    (reads : ∀ cmd ∈ reduceCommands groups, ReadsCommand rt dl encode cmd)
    (sized : ∀ group ∈ groups, group.2 ≠ [] ∧ group.2.length + 2 ≤ fuel)
    (enough : 2 * groups.length + 2 ≤ fuel) :
    Agrees ((reduceLoop rt factory (levels rt factory (d + 1))
        (invokeWith (handle rt factory (levels rt factory (d + 1)))) gb fuel fuel).run t)
      ((reduceGroups rt factory (invokeWith (handle rt factory (levels rt factory (d + 1))))
        groups).run t) := by
  obtain ⟨inRange, isNew⟩ := List.getElem?_eq_some_iff.mp fresh
  have bytes : ((reduceCommands groups).map (frame encode)).flatMap Prod.snd =
      (reduceCommands groups).flatMap encode := by
    rw [List.flatMap_map]
    rfl
  have initial : Mirror (Before rt gb t.input.groupbys dl encode (reduceCommands groups) ts fuel)
      (Reducing t.cache t.trace t.context.components) t t := by
    refine ⟨rfl, .inl ?_, ⟨List.prefix_refl _, rfl, calm⟩, ⟨rfl, calm, [], by simp, by simp⟩⟩
    rw [inputAt, bytes, ← stream, ← isNew, List.set_getElem_self]
  exact reduceLoop_groups inRange noMapper (by omega) spilling empty leaves groups fuel t t
    (by omega) sized reads initial

section Java

open Java

/-- Groups whose key and values are raw bytes. -/
def bytesGroups (groups : List (Bytes × List Bytes)) : List (PyObj × List PyObj) :=
  groups.map fun group => (.bytes group.1, group.2.map .bytes)

/-- The call Java's `PipesReducer` makes for a command of the reduce phase with raw bytes: its
key or value as a `BytesWritable`, and `CLOSE` for the end of the input. -/
def bytesCall : Command → DownwardCall
  | .reduceKey (.bytes key) => .reduceKey (.bytesWritable key)
  | .reduceValue (.bytes value) => .reduceValue (.bytesWritable value)
  | _ => .endOfInput

variable {dl : Downlink} (authDone : dl.authDone = true) (getK : dl.getK = .readBytes)
  (getV : dl.getV = .readBytes)
include authDone getK getV

theorem readsCommand_sent {call : Command → DownwardCall} {cmd : Command} (valid : (call cmd).Valid)
    (parsed : parsedCommand rt HadoopIO.hadoop .readBytes .readBytes (call cmd) = cmd) :
    ReadsCommand rt dl (fun c => BinaryProtocol.send HadoopIO.hadoop (call c)) cmd := by
  have fits : callFits rt HadoopIO.hadoop dl.getK dl.getV (call cmd) := by
    rw [getK, getV]
    cases call cmd <;> trivial
  have reads : Reads dl.at (Downlink.readCommand rt) (BinaryProtocol.send HadoopIO.hadoop (call cmd))
      (parsedCommand rt HadoopIO.hadoop dl.getK dl.getV (call cmd)) :=
    Downlink.readCommand_send HadoopIO.documented_hadoop valid fits (.inl authDone)
  rw [getK, getV, parsed] at reads
  exact reads

theorem readsCommand_bytesGroups {groups : List (Bytes × List Bytes)}
    (short : ∀ group ∈ groups, group.1.length < 2 ^ 31 ∧ ∀ v ∈ group.2, v.length < 2 ^ 31) :
    ∀ cmd ∈ reduceCommands (bytesGroups groups),
      ReadsCommand rt dl (fun c => BinaryProtocol.send HadoopIO.hadoop (bytesCall c)) cmd := by
  intro cmd member
  rcases List.mem_append.mp member with grouped | closing
  · obtain ⟨group, inGroups, inGroup⟩ := List.mem_flatMap.mp grouped
    obtain ⟨⟨key, values⟩, listed, rfl⟩ := List.mem_map.mp inGroups
    obtain ⟨shortKey, shortValues⟩ := short (key, values) listed
    rcases List.mem_cons.mp inGroup with rfl | valued
    · exact readsCommand_sent rt authDone getK getV shortKey rfl
    · obtain ⟨value, inValues, rfl⟩ := List.mem_map.mp valued
      obtain ⟨v, inRaw, rfl⟩ := List.mem_map.mp inValues
      exact readsCommand_sent rt authDone getK getV (shortValues v inRaw) rfl
  · rw [List.mem_singleton.mp closing]
    exact readsCommand_sent rt authDone getK getV trivial rfl

end Java

/-- `reduce(context)` that reads the first of its values and leaves the rest. -/
def firstValueReduce : UserMethod Nat Unit :=
  .call .nextValue fun _ => .ret (.ok ())

/-- A job whose reducer runs `firstValueReduce`, with no record writer or partitioner. -/
def firstValueFactory : Factory Nat where
  mclass := ⟨.ret (.ok ()), .ret (.ok ()), .ret (.ok ())⟩
  rclass := some ⟨.ret (.ok ()), firstValueReduce, .ret (.ok ())⟩
  cclass := none
  pclass := none
  rwclass := none
  rrclass := none

/-- The downlink of `run_task` once it has authenticated, with its default getters. -/
def authedDownlink : Downlink :=
  { Downlink.init (FileInStreamObj.at []) false false none with authDone := true }

/-- A reduce task right after `RUN_REDUCE` has created its reducer and its groupby object, with
the commands `stream` still to come. -/
def reduceTask (stream : Bytes) : Task Nat :=
  let init := Task.init [] false false false false none 0
  { init with
    context := { init.context with reducer := true }
    input := ⟨authedDownlink.at stream, [.new], .none⟩ }

/-- What Java sends after `RUN_REDUCE` for one group of two values. -/
def oneGroupStream : Bytes :=
  (reduceCommands (bytesGroups [([1], [[2], [3]])])).flatMap
    fun c => Java.BinaryProtocol.send Java.HadoopIO.hadoop (bytesCall c)

theorem reduceLoop_refines_first_value :
    Agrees ((reduceLoop default firstValueFactory (levels default firstValueFactory 1)
        (invokeWith (handle default firstValueFactory (levels default firstValueFactory 1))) 0 4
        4).run (reduceTask oneGroupStream))
      ((reduceGroups default firstValueFactory
        (invokeWith (handle default firstValueFactory (levels default firstValueFactory 1)))
        (bytesGroups [([1], [[2], [3]])])).run (reduceTask oneGroupStream)) :=
  @reduceLoop_refines Nat default firstValueFactory 0 4 0 (bytesGroups [([1], [[2], [3]])])
    authedDownlink (fun c => Java.BinaryProtocol.send Java.HadoopIO.hadoop (bytesCall c)) []
    (reduceTask oneGroupStream) rfl rfl rfl
    ⟨fun _ absent => (nomatch absent), fun _ absent => (nomatch absent)⟩ rfl rfl
    (by rw [List.append_nil]; rfl)
    (readsCommand_bytesGroups default rfl rfl rfl (by decide)) (by decide) (by decide)

end Task

end Pydoop.Mapreduce
