import Pydoop.Mapreduce.Driver

/-! What the calls of user methods keep, at every depth of nesting. A user method runs with the
context's answers to its calls, and those answers call user methods again one level down: the
combiner from an `emit` that fills the cache, the partitioner and the record writer from an emit
that goes upstream. An invariant of the task that the answers keep, given that the calls one level
down keep it, is kept by every call at every level, by induction on the levels. Three such facts
are proved here: the record of the run only grows; while the cache spills it stays as it is and
no call takes anything into it; and a call that raises records its exception. -/

namespace Pydoop.Mapreduce

open Effect HadoopUtils PyText
open Sercore hiding OUTPUT PARTITIONED_OUTPUT

/-- Which components a task has. -/
structure Components where
  combiner : Bool
  mapper : Bool
  partitioner : Bool
  recordReader : Bool
  recordWriter : Bool
  reducer : Bool
  deriving DecidableEq, Repr

/-- Whether a method is one of the mapper's. -/
def Method.ofMapper : Method → Bool
  | .mapperMap | .mapperClose => true
  | _ => false

/-- Whether `context.values` is a generator over a groupby. -/
def Values.isGenerator : Values → Bool
  | .generator .. => true
  | _ => false

namespace TaskContext

/-- The components of a context. -/
def components (c : TaskContext) : Components :=
  ⟨c.combiner, c.mapper, c.partitioner, c.recordReader, c.recordWriter, c.reducer⟩

/-- `x` leaves the components of the context as they are. -/
def KeepsComponents {α : Type} (x : Effect PyExc TaskContext α) : Prop :=
  ∀ k, Keeps (fun c : TaskContext => c.components = k) x

namespace KeepsComponents

variable {α β : Type}

theorem pure (a : α) : KeepsComponents (Pure.pure a) := fun _ => Keeps.pure a

theorem throw (e : PyExc) : KeepsComponents (throw e : Effect PyExc TaskContext α) :=
  fun _ => Keeps.throw e

theorem bind {x : Effect PyExc TaskContext α} {f : α → Effect PyExc TaskContext β}
    (first : KeepsComponents x) (next : ∀ a, KeepsComponents (f a)) :
    KeepsComponents (x >>= f) :=
  fun k => (first k).bind fun a => next a k

theorem get : KeepsComponents (get : Effect PyExc TaskContext TaskContext) :=
  fun _ _ same => same

theorem ofExcept (outcome : Except PyExc α) :
    KeepsComponents (MonadExcept.ofExcept outcome : Effect PyExc TaskContext α) :=
  fun _ => Keeps.ofExcept outcome

theorem modify {f : TaskContext → TaskContext} (same : ∀ c, (f c).components = c.components) :
    KeepsComponents (modify f : Effect PyExc TaskContext PUnit) :=
  fun _ => Keeps.modify fun c kept => (same c).trans kept

theorem onUplink (x : Effect PyExc FileOutStreamObj α) : KeepsComponents (onUplink x) :=
  fun _ => Keeps.zoom fun _ _ same => same

end KeepsComponents

theorem keepsComponents_spillCounters : KeepsComponents spillCounters := by
  refine KeepsComponents.get.bind fun c k => Keeps.forM fun entry _ => ?_
  unfold spillCounter
  split
  · exact ((KeepsComponents.onUplink _).bind fun _ => KeepsComponents.modify fun _ => by rfl) k
  · exact Keeps.pure ()

theorem keepsComponents_progressAt (now : ℚ) : KeepsComponents (progressAt now) := by
  refine KeepsComponents.get.bind fun c => ?_
  split
  · refine (KeepsComponents.modify fun _ => by rfl).bind fun _ => KeepsComponents.get.bind fun c' => ?_
    refine KeepsComponents.bind ?_ fun _ => ?_
    · split
      · exact (KeepsComponents.onUplink _).bind fun _ => KeepsComponents.modify fun _ => by rfl
      · exact KeepsComponents.pure ()
    · refine keepsComponents_spillCounters.bind fun _ => KeepsComponents.get.bind fun _ => ?_
      exact (KeepsComponents.onUplink _).bind fun _ => KeepsComponents.onUplink _
  · exact KeepsComponents.pure ()

theorem keepsComponents_getCounter (group name : PyObj) : KeepsComponents (getCounter group name) :=
  KeepsComponents.get.bind fun _ => (KeepsComponents.onUplink _).bind fun _ =>
    (KeepsComponents.onUplink _).bind fun _ =>
      (KeepsComponents.modify fun _ => by rfl).bind fun _ => KeepsComponents.pure _

theorem keepsComponents_incrementCounter (rt : Runtime) (counter amount : PyObj) :
    KeepsComponents (incrementCounter rt counter amount) := by
  refine KeepsComponents.get.bind fun c => ?_
  split
  · exact KeepsComponents.throw _
  · exact (KeepsComponents.ofExcept _).bind fun _ => KeepsComponents.modify fun _ => by rfl

theorem keepsComponents_maybeSerialize (rt : Runtime) (k v : PyObj) :
    KeepsComponents (maybeSerialize rt k v) := by
  refine KeepsComponents.get.bind fun c => ?_
  split
  · exact KeepsComponents.pure _
  · exact (KeepsComponents.ofExcept _).bind fun _ =>
      (KeepsComponents.ofExcept _).bind fun _ => KeepsComponents.pure _

end TaskContext

/-- An event of a call made while the cache spills: it takes nothing into the cache, hands
nothing on, and is no emit of the mapper. -/
def Event.quiet : Event → Bool
  | .emit caller cached _ _ => !cached && !caller.ofMapper
  | .spill _ _ => false
  | _ => true

namespace Task

variable {ω : Type}

@[simp] theorem run_getContext (t : Task ω) :
    (getContext : Effect PyExc (Task ω) TaskContext).run t = (.ok t.context, t) := rfl

@[simp] theorem run_getCache (t : Task ω) :
    (getCache : Effect PyExc (Task ω) CombinerCache).run t = (.ok t.cache, t) := rfl

@[simp] theorem run_getInput (t : Task ω) :
    (onInput get : Effect PyExc (Task ω) Input).run t = (.ok t.input, t) := rfl

@[simp] theorem run_onContext_modify (f : TaskContext → TaskContext) (t : Task ω) :
    (onContext (modify f) : Effect PyExc (Task ω) PUnit).run t =
      (.ok ⟨⟩, { t with context := f t.context }) := rfl

@[simp] theorem run_onCache_modify (f : CombinerCache → CombinerCache) (t : Task ω) :
    (onCache (modify f) : Effect PyExc (Task ω) PUnit).run t =
      (.ok ⟨⟩, { t with cache := f t.cache }) := rfl

@[simp] theorem run_setValues (values : Values) (t : Task ω) :
    (setValues values : Effect PyExc (Task ω) Unit).run t =
      (.ok (), { t with input := { t.input with values } }) := rfl

@[simp] theorem run_log (e : Event) (t : Task ω) :
    (log e : Effect PyExc (Task ω) Unit).run t = (.ok (), { t with trace := t.trace ++ [e] }) :=
  rfl

theorem keeps_getContext {I : Task ω → Prop} :
    Keeps I (getContext : Effect PyExc (Task ω) TaskContext) :=
  fun _ pre => pre

theorem keeps_getCache {I : Task ω → Prop} :
    Keeps I (getCache : Effect PyExc (Task ω) CombinerCache) :=
  fun _ pre => pre

theorem triple_callOn {P : Task ω → Prop} {invoke : Invoke ω} {R : Type} {m : Method}
    {Q : Except PyExc R → Task ω → Prop} (invokes : ∀ p : UserMethod ω R, Triple P (invoke m p) Q)
    (absent : ∀ t, P t → Q (.error .attributeError) t) (present : Bool)
    (p : Option (UserMethod ω R)) : Triple P (callOn invoke present m p) Q := by
  unfold callOn
  split
  · exact invokes _
  · exact Triple.throw _ absent

theorem keeps_callOn {I : Task ω → Prop} {invoke : Invoke ω} {R : Type} {m : Method}
    (invokes : ∀ p : UserMethod ω R, Keeps I (invoke m p)) (present : Bool)
    (p : Option (UserMethod ω R)) : Keeps I (callOn invoke present m p) :=
  triple_callOn invokes (fun _ => id) present p

theorem keeps_closeIf {I : Task ω → Prop} {invoke : Invoke ω} {m : Method}
    (invokes : ∀ p : UserMethod ω Unit, Keeps I (invoke m p)) (present : Bool)
    (p : Option (UserMethod ω Unit)) : Keeps I (closeIf invoke present m p) := by
  unfold closeIf
  split
  · exact keeps_callOn invokes true p
  · exact Keeps.pure ()

theorem keeps_closeIf_absent {I : Task ω → Prop} {invoke : Invoke ω} {m : Method}
    {flag : TaskContext → Bool} {p : Option (UserMethod ω Unit)} {β : Type}
    {f : Unit → Effect PyExc (Task ω) β} (absent : ∀ t, I t → flag t.context = false)
    (next : Keeps I (f ())) :
    Keeps I (getContext >>= fun ctx => closeIf invoke (flag ctx) m p >>= f) := by
  refine Triple.read_bind run_getContext fun ctx => ?_
  rintro t ⟨pre, rfl⟩
  rw [absent t pre]
  exact next t pre

/-- A call of a user method: it records itself, runs its program to the end with the answers
to its context calls, every answer being a value or an exception the program sees, and records
the exception the program ends with before raising it. -/
theorem triple_invokeWith {P I : Task ω → Prop} {R : Type} {Q : Except PyExc R → Task ω → Prop}
    {handle : Method → ContextOp ω → Effect PyExc (Task ω) PyObj} {m : Method}
    (p : UserMethod ω R)
    (called : ∀ t, P t → I { t with trace := t.trace ++ [.call m t.context.key t.context.value] })
    (answers : ∀ op, Keeps I (handle m op)) (returned : ∀ r t, I t → Q (.ok r) t)
    (raised : ∀ e t, I t → Q (.error e) { t with trace := t.trace ++ [.raise m e] }) :
    Triple P (invokeWith handle m p) Q := by
  intro t pre
  let logged : Task ω := { t with trace := t.trace ++ [.call m t.context.key t.context.value] }
  obtain ⟨result, finished⟩ : ∃ a, ((p.interpret fun op => reify (handle m op)).run logged).1 = .ok a :=
    Program.interpret_ok (fun op s => ⟨_, by rw [run_reify]⟩) p logged
  have kept := Program.interpret_keeps (fun op => (answers op).reify) p logged (called t pre)
  unfold invokeWith
  rw [run_bind_ok (run_getContext t), run_bind_ok (run_log _ t), run_bind]
  rcases ran : (p.interpret fun op => reify (handle m op)).run logged with ⟨outcome, t'⟩
  rw [ran] at finished kept
  simp only at finished kept
  subst finished
  cases result with
  | ok r => exact returned r t' kept
  | error e =>
    dsimp only
    rw [run_bind_ok (run_log _ t'), run_throw]
    exact raised e t' kept

theorem keeps_invokeWith {I : Task ω → Prop}
    {handle : Method → ContextOp ω → Effect PyExc (Task ω) PyObj} {m : Method}
    {R : Type} (p : UserMethod ω R) (calls : ∀ k v, Keeps I (log (.call m k v)))
    (raises : ∀ e, Keeps I (log (.raise m e))) (answers : ∀ op, Keeps I (handle m op)) :
    Keeps I (invokeWith handle m p) :=
  triple_invokeWith p (fun t pre => calls _ _ t pre) answers (fun _ _ => id)
    fun e t pre => raises e t pre

/-- An invariant of the task that holds whatever the context holds but for its components,
whatever the user's objects and the clock hold, and when `context._values` becomes a list; and
that holds only while `context._values` is no generator, so that no call of a user method reads
commands. -/
structure Steady (I : Task ω → Prop) : Prop where
  context : ∀ t c, c.components = t.context.components → I t → I { t with context := c }
  heap : ∀ t h, I t → I { t with heap := h }
  clock : ∀ t n, I t → I { t with clock := n }
  list : ∀ t vs, I t → I { t with input := { t.input with values := .list vs } }
  values : ∀ t, I t → t.input.values.isGenerator = false

namespace Steady

variable {I : Task ω → Prop} (steady : Steady I)
include steady

theorem or {J : Task ω → Prop} (other : Steady J) : Steady fun t => I t ∨ J t where
  context t c same pre := pre.imp (steady.context t c same) (other.context t c same)
  heap t h pre := pre.imp (steady.heap t h) (other.heap t h)
  clock t n pre := pre.imp (steady.clock t n) (other.clock t n)
  list t vs pre := pre.imp (steady.list t vs) (other.list t vs)
  values t pre := pre.elim (steady.values t) (other.values t)

theorem guard (p : Prop) : Steady fun t => p ∧ I t where
  context t c same pre := ⟨pre.1, steady.context t c same pre.2⟩
  heap t h pre := ⟨pre.1, steady.heap t h pre.2⟩
  clock t n pre := ⟨pre.1, steady.clock t n pre.2⟩
  list t vs pre := ⟨pre.1, steady.list t vs pre.2⟩
  values t pre := steady.values t pre.2

omit steady in
theorem «exists» {β : Type} {J : β → Task ω → Prop} (each : ∀ b, Steady (J b)) :
    Steady fun t => ∃ b, J b t where
  context t c same := fun ⟨b, pre⟩ => ⟨b, (each b).context t c same pre⟩
  heap t h := fun ⟨b, pre⟩ => ⟨b, (each b).heap t h pre⟩
  clock t n := fun ⟨b, pre⟩ => ⟨b, (each b).clock t n pre⟩
  list t vs := fun ⟨b, pre⟩ => ⟨b, (each b).list t vs pre⟩
  values t := fun ⟨b, pre⟩ => (each b).values t pre

theorem onContext {α : Type} {x : Effect PyExc TaskContext α} (keeps : TaskContext.KeepsComponents x) :
    Keeps I (Task.onContext x) :=
  fun t pre => steady.context t _ (keeps _ t.context rfl) pre

theorem setValues (vs : List PyObj) : Keeps I (Task.setValues (ω := ω) (.list vs)) :=
  fun t pre => steady.list t vs pre

theorem progress (rt : Runtime) : Keeps I (Task.progress (ω := ω) rt) :=
  (Keeps.modifyGet fun t pre => steady.clock t _ pre).bind fun now =>
    steady.onContext (TaskContext.keepsComponents_progressAt now)

theorem nextValue (lower : Level ω) : Keeps I (Task.nextValue lower) := by
  refine Triple.read_bind run_getInput fun input => ?_
  split
  · exact Triple.throw _ fun t pre => pre.1
  · exact Triple.throw _ fun t pre => pre.1
  · exact Triple.conseq (fun t pre => pre.1)
      ((steady.setValues _).bind fun _ => Keeps.pure _) fun _ _ => id
  all_goals
    rename_i generator
    rintro t ⟨pre, rfl⟩
    have notGenerator := steady.values t pre
    rw [generator] at notGenerator
    cases notGenerator

theorem handle {rt : Runtime} {factory : Factory ω} {lower : Level ω} {caller : Method}
    (emits : ∀ k v, Keeps I (emit rt factory lower caller k v)) :
    ∀ op, Keeps I (Task.handle rt factory lower caller op)
  | .emit k v => (emits k v).bind fun _ => Keeps.pure _
  | .key => keeps_getContext.bind fun _ => Keeps.pure _
  | .value => keeps_getContext.bind fun _ => Keeps.pure _
  | .nextValue => steady.nextValue lower
  | .progress => (steady.progress rt).bind fun _ => Keeps.pure _
  | .setStatus _ => (steady.onContext (TaskContext.KeepsComponents.modify fun _ => by rfl)).bind
      fun _ => (steady.progress rt).bind fun _ => Keeps.pure _
  | .getCounter group name => steady.onContext (TaskContext.keepsComponents_getCounter group name)
  | .incrementCounter counter amount =>
      (steady.onContext (TaskContext.keepsComponents_incrementCounter rt counter amount)).bind
        fun _ => Keeps.pure _
  | .heap _ => Keeps.modifyGet fun t pre => steady.heap t _ pre

theorem actualEmit {rt : Runtime} {factory : Factory ω} {lower : Level ω}
    (invokes : ∀ {R : Type} m (p : UserMethod ω R), m.ofMapper = false → Keeps I (lower.invoke m p))
    (k v : PyObj) : Keeps I (Task.actualEmit rt factory lower k v) := by
  refine keeps_getContext.bind fun ctx => ?_
  split
  · exact keeps_callOn (fun p => invokes .writerEmit p rfl) true _
  · refine (steady.onContext (TaskContext.keepsComponents_maybeSerialize rt k v)).bind
      fun ⟨k', v'⟩ => keeps_getContext.bind fun ctx' => ?_
    split
    · exact (keeps_callOn (fun p => invokes .partition p rfl) true _).bind fun _ =>
        steady.onContext (TaskContext.KeepsComponents.onUplink _)
    · exact steady.onContext (TaskContext.KeepsComponents.onUplink _)

end Steady

section Levels

variable (rt : Runtime) (factory : Factory ω)

/-- A steady invariant that calls on the cache keep, and that recording an event keeps unless it
is a call of a method outside `callable`. The answers to context calls keep it when the calls
one level down of every method but `mapper.map` do, which no context call reaches. -/
structure Recording (callable : Method → Prop) (I : Task ω → Prop) : Prop extends Steady I where
  log : ∀ e, (∀ m key value, e = .call m key value → callable m) → Keeps I (Task.log e)
  onCache : ∀ {α : Type} (x : Effect PyExc CombinerCache α), Keeps I (Task.onCache x)

namespace Recording

variable {callable : Method → Prop} {I : Task ω → Prop} (recording : Recording callable I)
include recording

variable {rt factory}

theorem spillAll {invoke : Invoke ω}
    (invokes : ∀ {R : Type} m (p : UserMethod ω R), m ≠ .mapperMap → Keeps I (invoke m p)) :
    Keeps I (Task.spillAll rt factory invoke) := by
  refine (recording.onCache _).bind fun _ => keeps_getCache.bind fun cache => ?_
  refine (Keeps.forM fun key _ => ?_).bind fun _ => recording.onCache _
  refine (recording.onContext (TaskContext.KeepsComponents.modify fun _ => by rfl)).bind
    fun _ => ?_
  refine keeps_getCache.bind fun cache' => ?_
  split
  · exact Keeps.throw _
  · exact (recording.setValues _).bind fun _ =>
      (recording.log _ fun _ _ _ spilled => by cases spilled).bind fun _ =>
        keeps_getContext.bind fun _ => keeps_callOn (fun p => invokes _ p (by decide)) _ _

theorem spillIfFull {invoke : Invoke ω}
    (invokes : ∀ {R : Type} m (p : UserMethod ω R), m ≠ .mapperMap → Keeps I (invoke m p)) :
    Keeps I (Task.spillIfFull rt factory invoke) := by
  refine keeps_getCache.bind fun _ => (Keeps.ofExcept _).bind fun full => ?_
  split
  · exact recording.spillAll invokes
  · exact Keeps.pure ()

theorem emit {lower : Level ω}
    (invokes : ∀ {R : Type} m (p : UserMethod ω R), m ≠ .mapperMap → Keeps I (lower.invoke m p))
    (caller : Method) (key value : PyObj) :
    Keeps I (Task.emit rt factory lower caller key value) := by
  refine keeps_getCache.bind fun cache =>
    (recording.log _ fun _ _ _ emitted => by cases emitted).bind fun _ =>
      Keeps.bind ?_ fun _ => recording.progress rt
  split
  · refine recording.actualEmit (fun m p notMapper => invokes m p ?_) key value
    rintro rfl
    cases notMapper
  · exact (recording.onCache _).bind fun _ => recording.spillIfFull invokes

theorem closeCombiner {invoke : Invoke ω}
    (invokes : ∀ {R : Type} m (p : UserMethod ω R), m ≠ .mapperMap → Keeps I (invoke m p)) :
    Keeps I (Task.closeCombiner rt factory invoke) := by
  refine keeps_getCache.bind fun _ => ?_
  split
  · exact (recording.spillAll invokes).bind fun _ => (recording.onCache _).bind fun _ =>
      keeps_getContext.bind fun _ => keeps_callOn (fun p => invokes _ p (by decide)) _ _
  · exact Keeps.pure ()

theorem close {invoke : Invoke ω}
    (invokes : ∀ {R : Type} m (p : UserMethod ω R), m ≠ .mapperMap → Keeps I (invoke m p)) :
    Keeps I (Task.close rt factory invoke) := by
  refine (recording.onContext (TaskContext.KeepsComponents.onUplink _)).bind fun _ =>
    Keeps.tryFinally ?_ ?_
  · refine keeps_getContext.bind fun _ =>
      (keeps_closeIf (fun p => invokes _ p (by decide)) _ _).bind fun _ =>
        (recording.closeCombiner invokes).bind fun _ => ?_
    exact keeps_getContext.bind fun _ =>
      (keeps_closeIf (fun p => invokes _ p (by decide)) _ _).bind fun _ =>
        keeps_getContext.bind fun _ =>
          (keeps_closeIf (fun p => invokes _ p (by decide)) _ _).bind fun _ =>
            keeps_getContext.bind fun _ =>
              (keeps_closeIf (fun p => invokes _ p (by decide)) _ _).bind fun _ =>
                recording.onContext TaskContext.keepsComponents_spillCounters
  · exact (recording.onContext (TaskContext.KeepsComponents.onUplink _)).bind fun _ =>
      recording.onContext (TaskContext.KeepsComponents.onUplink _)

end Recording

/-- Every call of a method in `callable`, at every level, keeps a recording invariant when
`callable` holds of all methods but `mapper.map`; by induction on the levels, the calls one level
down keeping it. -/
theorem levels_recording {callable : Method → Prop} {I : Task ω → Prop}
    (recording : Recording callable I) (reaches : ∀ m, m ≠ .mapperMap → callable m) :
    ∀ n {R : Type} m (p : UserMethod ω R), callable m →
      Keeps I ((levels rt factory n).invoke m p)
  | 0, _, _, _, _ => (recording.log _ fun _ _ _ raised => by cases raised).bind fun _ =>
      Keeps.throw _
  | n + 1, _, _, p, called => keeps_invokeWith p
      (fun _ _ => recording.log _ fun _ _ _ same => by cases same; exact called)
      (fun _ => recording.log _ fun _ _ _ raised => by cases raised)
      (recording.handle fun key value => recording.emit
        (fun m' p' other => levels_recording recording reaches n m' p' (reaches m' other)) _ key value)

/-- What every call of a user method keeps: the record of the run so far stays a prefix of the
record, the components stay `k`, and `context.values` stays no generator. -/
structure Calm (T : List Event) (k : Components) (t : Task ω) : Prop where
  trace : T <+: t.trace
  components : t.context.components = k
  values : t.input.values.isGenerator = false

namespace Calm

variable {T : List Event} {k : Components}

theorem mapper {t : Task ω} (calm : Calm T k t) : t.context.mapper = k.mapper := by
  rw [← calm.components]
  rfl

theorem steady : Steady (Calm (ω := ω) T k) where
  context _ _ same calm := ⟨calm.trace, same.trans calm.components, calm.values⟩
  heap _ _ calm := ⟨calm.trace, calm.components, calm.values⟩
  clock _ _ calm := ⟨calm.trace, calm.components, calm.values⟩
  list _ _ calm := ⟨calm.trace, calm.components, rfl⟩
  values _ calm := calm.values

theorem log (e : Event) : Keeps (Calm (ω := ω) T k) (Task.log e) :=
  Keeps.modify fun _ calm =>
    ⟨calm.trace.trans (List.prefix_append _ _), calm.components, calm.values⟩

theorem onCache {α : Type} (x : Effect PyExc CombinerCache α) :
    Keeps (Calm (ω := ω) T k) (Task.onCache x) :=
  Keeps.zoom fun _ _ calm => ⟨calm.trace, calm.components, calm.values⟩

theorem recording : Recording (fun _ => True) (Calm (ω := ω) T k) where
  toSteady := steady
  log e _ := Calm.log e
  onCache x := Calm.onCache x

variable {rt factory}

theorem emit {lower : Level ω}
    (invokes : ∀ {R : Type} m (p : UserMethod ω R), Keeps (Calm T k) (lower.invoke m p))
    (caller : Method) (key value : PyObj) :
    Keeps (Calm T k) (Task.emit rt factory lower caller key value) :=
  recording.emit (fun m p _ => invokes m p) caller key value

theorem closeCombiner {invoke : Invoke ω}
    (invokes : ∀ {R : Type} m (p : UserMethod ω R), Keeps (Calm T k) (invoke m p)) :
    Keeps (Calm T k) (Task.closeCombiner rt factory invoke) :=
  recording.closeCombiner fun m p _ => invokes m p

end Calm

theorem levels_calm {T : List Event} {k : Components} :
    ∀ n {R : Type} m (p : UserMethod ω R), Keeps (Calm T k) ((levels rt factory n).invoke m p) :=
  fun n _ m p => levels_recording rt factory Calm.recording (fun _ _ => trivial) n m p trivial

/-- While the cache spills: the cache stays `c`, `context.values` is no generator, and every
event recorded after `T` is quiet. -/
structure Frozen (c : CombinerCache) (T : List Event) (t : Task ω) : Prop where
  cache : t.cache = c
  values : t.input.values.isGenerator = false
  quiet : ∃ new, t.trace = T ++ new ∧ ∀ e ∈ new, e.quiet = true

namespace Frozen

variable {c : CombinerCache} {T : List Event}

theorem steady : Steady (Frozen (ω := ω) c T) where
  context _ _ _ frozen := ⟨frozen.cache, frozen.values, frozen.quiet⟩
  heap _ _ frozen := ⟨frozen.cache, frozen.values, frozen.quiet⟩
  clock _ _ frozen := ⟨frozen.cache, frozen.values, frozen.quiet⟩
  list _ _ frozen := ⟨frozen.cache, rfl, frozen.quiet⟩
  values _ frozen := frozen.values

theorem log {e : Event} (quiet : e.quiet = true) : Keeps (Frozen (ω := ω) c T) (Task.log e) := by
  refine Keeps.modify fun t frozen => ⟨frozen.cache, frozen.values, ?_⟩
  obtain ⟨new, trace, quiets⟩ := frozen.quiet
  refine ⟨new ++ [e], by rw [trace, List.append_assoc], fun e' member => ?_⟩
  rcases List.mem_append.mp member with old | added
  · exact quiets e' old
  · rw [List.mem_singleton.mp added]
    exact quiet

variable {rt factory}

theorem emit (spilling : c.spilling = true) {lower : Level ω}
    (invokes : ∀ {R : Type} m (p : UserMethod ω R), m.ofMapper = false →
      Keeps (Frozen c T) (lower.invoke m p))
    {caller : Method} (notMapper : caller.ofMapper = false) (key value : PyObj) :
    Keeps (Frozen c T) (Task.emit rt factory lower caller key value) := by
  refine Triple.read_bind run_getCache fun cache => ?_
  rintro t ⟨frozen, rfl⟩
  rw [frozen.cache]
  refine ((log ?_).bind (fun _ => Keeps.bind ?_ fun _ => steady.progress rt)) t frozen
  · simp [Event.quiet, spilling, notMapper]
  · rw [if_pos spilling]
    exact steady.actualEmit invokes key value

end Frozen

/-- While the cache spills, every call of a user method but the mapper's, at every level, leaves
the cache as it is and records only quiet events; by induction on the levels. -/
theorem levels_frozen {c : CombinerCache} {T : List Event} (spilling : c.spilling = true) :
    ∀ n {R : Type} m (p : UserMethod ω R), m.ofMapper = false →
      Keeps (Frozen c T) ((levels rt factory n).invoke m p)
  | 0, _, _, _, _ => (Frozen.log rfl).bind fun _ => Keeps.throw _
  | n + 1, _, _, p, notMapper => keeps_invokeWith p (fun _ _ => Frozen.log rfl)
      (fun _ => Frozen.log rfl)
      (Frozen.steady.handle fun key value =>
        Frozen.emit spilling (fun m' p' => levels_frozen spilling n m' p') notMapper key value)

theorem invokeWith_raises (handle : Method → ContextOp ω → Effect PyExc (Task ω) PyObj)
    (m : Method) {R : Type} (p : UserMethod ω R) :
    Triple (fun _ => True) (invokeWith handle m p) fun o t =>
      ∀ e, o = .error e → Event.raise m e ∈ t.trace :=
  triple_invokeWith (I := fun _ => True) p (fun _ _ => trivial) (fun _ _ _ => trivial)
    (fun _ _ _ e returned => by cases returned)
    fun e _ _ e' raised => by
      cases raised
      exact List.mem_append_right _ (List.mem_singleton_self _)

theorem levels_raises :
    ∀ n {R : Type} m (p : UserMethod ω R),
      Triple (fun _ => True) ((levels rt factory n).invoke m p) fun o t =>
        ∀ e, o = .error e → Event.raise m e ∈ t.trace
  | 0, _, m, _ => by
    intro t _ e same
    simp only [levels, Level.bottom, run_bind_ok (run_log _ t), run_throw] at same ⊢
    cases same
    exact List.mem_append_right _ (List.mem_singleton_self _)
  | _ + 1, _, m, p => invokeWith_raises _ m p

/-- What the calls of user methods do at every level: while the cache spills, those of all but
the mapper leave it as it is and record only quiet events; all keep the record growing, the
components, and `context.values` no generator; and a call that raises records its exception. -/
structure Nested (invoke : Invoke ω) : Prop where
  frozen : ∀ {c : CombinerCache} {T : List Event} {R : Type} m (p : UserMethod ω R),
    c.spilling = true → m.ofMapper = false → Keeps (Frozen c T) (invoke m p)
  calm : ∀ {T : List Event} {k : Components} {R : Type} m (p : UserMethod ω R),
    Keeps (Calm T k) (invoke m p)
  raises : ∀ {R : Type} m (p : UserMethod ω R),
    Triple (fun _ => True) (invoke m p) fun o t => ∀ e, o = .error e → Event.raise m e ∈ t.trace

theorem levels_nested (n : Nat) : Nested (levels rt factory n).invoke where
  frozen m p spilling notMapper := levels_frozen rt factory spilling n m p notMapper
  calm m p := levels_calm rt factory n m p
  raises m p := levels_raises rt factory n m p

end Levels

end Task

end Pydoop.Mapreduce
