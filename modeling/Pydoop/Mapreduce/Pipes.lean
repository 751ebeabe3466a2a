import Mathlib.Data.List.Sort
import Pydoop.Lib.Program
import Pydoop.Lib.GroupBy
import Pydoop.Mapreduce.BinaryProtocol

/-! `pipes.py`: the `TaskContext` of a task and the user components it calls. A method of a user
component is a `Program` whose questions are the calls it makes on its `context`: the task runs
it, answering each call with its value or with the exception it raised, and takes back the
method's own result or exception. The user's objects keep their attributes in a heap `ω` of the
user's choosing, reached by calls of their own.

User methods call back into the context, and the context calls user methods again (an `emit`
may spill the combiner's cache into `combiner.reduce`, and reading `context.values` in a reduce
task reads commands): these nested calls go one `Level` down. -/

namespace Pydoop.Sercore

/-- Python's truth value of an object: zero, empty and `None` are false, any other object true. -/
def PyObj.truthy : PyObj → Bool
  | .none => false
  | .int n => n ≠ 0
  | .float bits => bits &&& 0x7fffffffffffffff ≠ 0
  | .str text => text ≠ ""
  | .bytes data => data ≠ []
  | .object _ => true

/-- `int(x)` of a job configuration value, a string of digits with an optional sign. -/
def PyObj.toInt : PyObj → Except PyExc Int
  | .int n => .ok n
  | .str text =>
    match text.trimAscii.copy.toInt? with
    | some n => .ok n
    | Option.none => .error (.valueError s!"invalid literal for int() with base 10: '{text}'")
  | _ => .error .typeError

/-- `x.upper()` of a string. -/
def PyObj.upper : Option PyObj → Except PyExc String
  | some (.str text) => .ok text.toUpper
  | _ => .error .attributeError

end Pydoop.Sercore

namespace Pydoop.Mapreduce

open Effect HadoopUtils PyText
open Sercore hiding OUTPUT PARTITIONED_OUTPUT

/-- The calls user code makes on `context`. -/
inductive ContextOp (ω : Type)
  /-- `context.emit(key, value)` -/
  | emit (key value : PyObj)
  /-- `context.key` -/
  | key
  /-- `context.value` -/
  | value
  /-- `next(context.values)` -/
  | nextValue
  /-- `context.progress()` -/
  | progress
  /-- `context.set_status(status)` -/
  | setStatus (status : PyObj)
  /-- `context.get_counter(group, name)` -/
  | getCounter (group name : PyObj)
  /-- `context.increment_counter(counter, amount)` -/
  | incrementCounter (counter amount : PyObj)
  /-- the user's own work on its objects, with the value it yields -/
  | heap (work : ω → ω × PyObj)

/-- A method of a user component with result `R`. -/
abbrev UserMethod (ω R : Type) := Program (ContextOp ω) (Except PyExc PyObj) (Except PyExc R)

/-- A `Mapper` class: its constructor, `map` and `close`. -/
structure MapperClass (ω : Type) where
  init : UserMethod ω Unit
  map : UserMethod ω Unit
  close : UserMethod ω Unit

/-- A `Reducer` class, used as the reducer or as the combiner. -/
structure ReducerClass (ω : Type) where
  init : UserMethod ω Unit
  reduce : UserMethod ω Unit
  close : UserMethod ω Unit

/-- A `Partitioner` class: `partition(key, num_of_reduces)`. -/
structure PartitionerClass (ω : Type) where
  init : UserMethod ω Unit
  partition : PyObj → PyObj → UserMethod ω PyObj

/-- A `RecordReader` class: `__next__` yields a key and a value or raises `StopIteration`. -/
structure RecordReaderClass (ω : Type) where
  init : UserMethod ω Unit
  next : UserMethod ω (PyObj × PyObj)
  getProgress : UserMethod ω PyObj
  close : UserMethod ω Unit

/-- A `RecordWriter` class. -/
structure RecordWriterClass (ω : Type) where
  init : UserMethod ω Unit
  emit : PyObj → PyObj → UserMethod ω Unit
  close : UserMethod ω Unit

/-- `pipes.Factory(mapper_class, reducer_class, combiner_class, partitioner_class,
record_writer_class, record_reader_class)`. -/
structure Factory (ω : Type) where
  mclass : MapperClass ω
  rclass : Option (ReducerClass ω)
  cclass : Option (ReducerClass ω)
  pclass : Option (PartitionerClass ω)
  rwclass : Option (RecordWriterClass ω)
  rrclass : Option (RecordReaderClass ω)

/-- The user methods a task calls. -/
inductive Method
  | mapperInit | mapperMap | mapperClose
  | reducerInit | reducerReduce | reducerClose
  | combinerInit | combinerReduce | combinerClose
  | partitionerInit | partition
  | readerInit | readerNext | readerProgress | readerClose
  | writerInit | writerEmit | writerClose
  deriving DecidableEq, Repr

/-- What a run records beyond the program's own state: each call of a user method with
`context.key` and `context.value` at the time, each exception such a call raised, each `emit`
with its caller and whether it went into the combiner's cache, and the key and values that
`__spill_all` hands to each `combiner.reduce`. -/
inductive Event
  | call (method : Method) (key value : PyObj)
  | raise (method : Method) (e : PyExc)
  | emit (caller : Method) (cached : Bool) (key value : PyObj)
  | spill (key : PyObj) (values : List PyObj)
  deriving DecidableEq, Repr

/-- A `TaskContext` but for `_values`, kept with the task's input, and for the combiner's cache.
A component field says whether the component was created; `jobConf` is `none` while it is still
the plain `{}` of `__init__`. -/
structure TaskContext where
  uplink : FileOutStreamObj
  combiner : Bool
  mapper : Bool
  partitioner : Bool
  recordReader : Bool
  recordWriter : Bool
  reducer : Bool
  nred : PyObj
  progressValue : PyObj
  lastProgressT : ℚ
  status : PyObj
  counters : PyDict PyObj PyObj
  taskType : Option String
  avroKeySerializer : Option PyObj
  avroValueSerializer : Option PyObj
  privateEncoding : Bool
  rawSplit : PyObj
  jobConf : Option (PyDict PyObj PyObj)
  key : PyObj
  value : PyObj
  autoSerialize : Bool

/-- The combiner's cache: `__cache`, `__cache_size`, `__spill_size` and `__spilling`. -/
structure CombinerCache where
  cache : PyDict PyObj (List PyObj)
  cacheSize : Int
  spillSize : Option Int
  spilling : Bool

/-- What `context.values` is: `None`, `iter(self.__cache[k])` with the values it has left, or the
generator `(v for _, v in subs)` over grouper `grouper` of groupby object `groupby`. -/
inductive Values
  | none
  | list (rest : List PyObj)
  | generator (groupby grouper : Nat) (finished : Bool)
  deriving DecidableEq, Repr

/-- What a task reads: the `Downlink`, the `groupby` objects over it (by number), and
`context._values`. -/
structure Input where
  downlink : Downlink
  groupbys : List (GroupBy Int (Int × PyObj))
  values : Values

/-- A running task: its context, the combiner's cache, its input, the user's objects, how many
times `time()` was read, and the record of the run. -/
structure Task (ω : Type) where
  context : TaskContext
  cache : CombinerCache
  input : Input
  heap : ω
  clock : Nat
  trace : List Event

/-- `api.AVRO_IO_MODES`. -/
def AVRO_IO_MODES : List String := ["k", "v", "kv", "K", "V", "KV"]

def AVRO_INPUT : String := "pydoop.mapreduce.avro.input"
def AVRO_OUTPUT : String := "pydoop.mapreduce.avro.output"
def AVRO_KEY_INPUT_SCHEMA : String := "pydoop.mapreduce.avro.key.input.schema"
def AVRO_KEY_OUTPUT_SCHEMA : String := "pydoop.mapreduce.avro.key.output.schema"
def AVRO_VALUE_INPUT_SCHEMA : String := "pydoop.mapreduce.avro.value.input.schema"
def AVRO_VALUE_OUTPUT_SCHEMA : String := "pydoop.mapreduce.avro.value.output.schema"

namespace TaskContext

/-- `TaskContext(factory, private_encoding=..., auto_serialize=...)`, with the uplink stream the
connection gives it. -/
def init (uplink : FileOutStreamObj) (privateEncoding autoSerialize : Bool) : TaskContext where
  uplink := uplink
  combiner := false
  mapper := false
  partitioner := false
  recordReader := false
  recordWriter := false
  reducer := false
  nred := .none
  progressValue := .float 0
  lastProgressT := 0
  status := .none
  counters := .empty
  taskType := none
  avroKeySerializer := none
  avroValueSerializer := none
  privateEncoding := privateEncoding
  rawSplit := .none
  jobConf := none
  key := .none
  value := .none
  autoSerialize := autoSerialize

/-- A call on `self.uplink`. -/
def onUplink {α : Type} (x : Effect PyExc FileOutStreamObj α) : Effect PyExc TaskContext α :=
  zoom TaskContext.uplink (fun c uplink => { c with uplink }) x

/-- `key in self.job_conf`. -/
def hasConf (ctx : TaskContext) (key : String) : Bool :=
  match ctx.jobConf with
  | some jc => (jc.get? (.str key)).isSome
  | none => false

/-- `self.job_conf.get(key)`. -/
def confGet (ctx : TaskContext) (key : String) : Option PyObj :=
  ctx.jobConf.bind fun jc => jc.get? (.str key)

/-- `self.job_conf.get_int(key, default)`. -/
def getInt (ctx : TaskContext) (key : String) (default : Int) : Except PyExc Int :=
  match ctx.jobConf with
  | some jc => ((jc.get? (.str key)).getD (.int default)).toInt
  | none => .error .attributeError

/-- `self.job_conf.get_bool(key)`: `None` when the key is missing. -/
def getBool (ctx : TaskContext) (key : String) : Except PyExc (Option Bool) :=
  match ctx.jobConf with
  | none => .error .attributeError
  | some jc =>
    match jc.get? (.str key) with
    | none => .ok none
    | some (.str text) =>
      let v := text.trimAscii.copy.toLower
      if v = "true" then .ok (some true)
      else if v = "false" then .ok (some false)
      else .error (.runtimeError s!"invalid bool string: {v}")
    | some _ => .error .attributeError

variable (rt : Runtime)

/-- One pass of the `__spill_counters` loop: a counter with a non-zero amount is sent and zeroed.
The loop runs over `self.counters.items()` while it sets the current counter only, so it sees
the amounts it started with. -/
def spillCounter (entry : PyObj × PyObj) : Effect PyExc TaskContext Unit := do
  if entry.2.truthy then
    onUplink (Uplink.incrementCounter entry.1 entry.2)
    modify fun c => { c with counters := c.counters.insert entry.1 (.int 0) }

/-- `__spill_counters()`. -/
def spillCounters : Effect PyExc TaskContext Unit := do
  (← get).counters.entries.forM spillCounter

/-- `progress()` once `time()` gave `now`: report to upstream at most once a second. -/
def progressAt (now : ℚ) : Effect PyExc TaskContext Unit := do
  if now - (← get).lastProgressT > 1 then
    modify fun c => { c with lastProgressT := now }
    let status := (← get).status
    (if status.truthy then do
      onUplink (Uplink.status status)
      modify fun c => { c with status := .none }
    else pure ())
    spillCounters
    onUplink (Uplink.progress (← get).progressValue)
    onUplink Uplink.flush

/-- `get_counter(group, name)`: the new counter's id is the number of counters so far. -/
def getCounter (group name : PyObj) : Effect PyExc TaskContext PyObj := do
  let id : PyObj := .int (← get).counters.entries.length
  onUplink (Uplink.registerCounter id group name)
  onUplink Uplink.flush
  modify fun c => { c with counters := c.counters.insert id (.int 0) }
  return id

/-- `increment_counter(counter, amount)`. -/
def incrementCounter (counter amount : PyObj) : Effect PyExc TaskContext Unit := do
  match (← get).counters.get? counter with
  | none => throw (.valueError ("invalid counter: " ++ rt.repr counter))
  | some current =>
    let total ← MonadExcept.ofExcept (rt.add current amount)
    modify fun c => { c with counters := c.counters.insert counter total }

/-- `_authenticate(password, digest, challenge)`. -/
def authenticate (password : Bytes) (digest challenge : PyObj) : Effect PyExc TaskContext Unit := do
  let message ← MonadExcept.ofExcept (asBytesBuffer challenge)
  (if PyObj.bytes (rt.createDigest password message) ≠ digest then
    throw (.runtimeError "server failed to authenticate")
  else pure ())
  let digestBytes ← MonadExcept.ofExcept (asBytesBuffer digest)
  onUplink (Uplink.authenticate (.bytes (rt.createDigest password digestBytes)))
  onUplink Uplink.flush

/-- `_setup_avro_ser()`: a serializer, built on its parsed schema, for what the output mode
covers. -/
def setupAvroSer : Effect PyExc TaskContext Unit := do
  (match rt.avroImport with
  | some e => throw (.runtimeError ("cannot handle avro output: " ++ e))
  | none => pure ())
  let mode ← MonadExcept.ofExcept (PyObj.upper ((← get).confGet AVRO_OUTPUT))
  (if mode ∉ AVRO_IO_MODES then throw (.runtimeError s!"invalid avro output mode: {mode}")
  else pure ())
  (if mode = "K" ∨ mode = "KV" then do
    let schema := ((← get).confGet AVRO_KEY_OUTPUT_SCHEMA).getD .none
    let serializer ← MonadExcept.ofExcept (rt.avroParse schema)
    modify fun c => { c with avroKeySerializer := some serializer }
  else pure ())
  if mode = "V" ∨ mode = "KV" then
    let schema := ((← get).confGet AVRO_VALUE_OUTPUT_SCHEMA).getD .none
    let serializer ← MonadExcept.ofExcept (rt.avroParse schema)
    modify fun c => { c with avroValueSerializer := some serializer }

/-- One half of `__maybe_serialize`: through the Avro serializer if there is one, otherwise
`as_text(x).encode("utf-8")` when auto-serializing. -/
def serializeWith (serializer : Option PyObj) (autoSerialize : Bool) (x : PyObj) :
    Except PyExc PyObj :=
  match serializer with
  | some serializer => rt.avroSerialize serializer x
  | none => .ok (if autoSerialize then .bytes (utf8 (rt.str x)) else x)

/-- `__maybe_serialize(key, value)`. -/
def maybeSerialize (k v : PyObj) : Effect PyExc TaskContext (PyObj × PyObj) := do
  let ctx ← get
  if ctx.taskType = some "m" ∧ ctx.privateEncoding then
    pure (.bytes (rt.dumps k), .bytes (rt.dumps v))
  else
    let k ← MonadExcept.ofExcept (serializeWith rt ctx.avroKeySerializer ctx.autoSerialize k)
    let v ← MonadExcept.ofExcept (serializeWith rt ctx.avroValueSerializer ctx.autoSerialize v)
    pure (k, v)

end TaskContext

namespace CombinerCache

/-- No cache yet: `__spill_size` is `None` and `__spilling` is on, so `emit` emits. -/
def init : CombinerCache := ⟨.empty, 0, none, true⟩

/-- The key `self.__cache` holds for `k`: the first key in it that is `k` or equal to it, or `k`
itself when there is none, as a `dict` keeps the key it was first given. -/
def slot (rt : Runtime) (c : CombinerCache) (k : PyObj) : PyObj :=
  (c.cache.keys.find? fun k0 => k0 == k || rt.eq k0 k).getD k

theorem slot_of_plain (rt : Runtime) {Plain : PyObj → Prop}
    (plain : ∀ a b, Plain a → Plain b → rt.eq a b = true → a = b) {c : CombinerCache}
    (held : ∀ k0 ∈ c.cache.keys, Plain k0) {k : PyObj} (plainKey : Plain k) : c.slot rt k = k := by
  unfold slot
  cases found : c.cache.keys.find? (fun k0 => k0 == k || rt.eq k0 k) with
  | none => rfl
  | some k0 =>
    have equal := List.find?_some found
    rcases Bool.or_eq_true_iff.mp equal with same | related
    · exact beq_iff_eq.mp same
    · exact plain k0 k (held k0 (List.mem_of_find?_eq_some found)) plainKey related

/-- `self.__cache.setdefault(key, []).append(value)` and the size update. -/
def add (rt : Runtime) (c : CombinerCache) (k v : PyObj) : CombinerCache :=
  { c with
    cache := c.cache.append (c.slot rt k) v
    cacheSize := c.cacheSize + rt.sizeof k + rt.sizeof v }

/-- `self.__cache_size >= self.__spill_size`. -/
def full (c : CombinerCache) : Except PyExc Bool :=
  match c.spillSize with
  | some size => .ok (decide (size ≤ c.cacheSize))
  | none => .error .typeError

/-- `sorted(self.__cache)`: the keys in insertion order, stably sorted by `<`. -/
def sortedKeys (rt : Runtime) (c : CombinerCache) : List PyObj :=
  c.cache.keys.insertionSort fun a b => rt.lt b a = false

end CombinerCache

/-- Calling user methods. -/
abbrev Invoke (ω : Type) := {R : Type} → Method → UserMethod ω R → Effect PyExc (Task ω) R

/-- The functions of a task at one depth of nested calls: calling a user method, and
`Downlink.__next__`. -/
structure Level (ω : Type) where
  invoke : Invoke ω
  next : Effect PyExc (Task ω) (Option (Int × PyObj))

namespace Task

variable {ω α : Type}

def onContext (x : Effect PyExc TaskContext α) : Effect PyExc (Task ω) α :=
  zoom Task.context (fun t context => { t with context }) x

def onCache (x : Effect PyExc CombinerCache α) : Effect PyExc (Task ω) α :=
  zoom Task.cache (fun t cache => { t with cache }) x

def onInput (x : Effect PyExc Input α) : Effect PyExc (Task ω) α :=
  zoom Task.input (fun t input => { t with input }) x

/-- A call on the `Downlink`. -/
def onDownlink (x : Effect PyExc Downlink α) : Effect PyExc (Task ω) α :=
  onInput (zoom Input.downlink (fun i downlink => { i with downlink }) x)

def getContext : Effect PyExc (Task ω) TaskContext := onContext get

def getCache : Effect PyExc (Task ω) CombinerCache := onCache get

/-- Record an event of the run. -/
def log (e : Event) : Effect PyExc (Task ω) Unit :=
  modify fun t => { t with trace := t.trace ++ [e] }

/-- `time()`. -/
def tick (rt : Runtime) : Effect PyExc (Task ω) ℚ :=
  modifyGet fun t => (rt.time t.clock, { t with clock := t.clock + 1 })

/-- `context._values = values`. -/
def setValues (values : Values) : Effect PyExc (Task ω) Unit :=
  onInput (modify fun i => { i with values })

/-- Groupby object number `gb` of the task. -/
def groupby (gb : Nat) (t : Task ω) : GroupBy Int (Int × PyObj) :=
  (t.input.groupbys[gb]?).getD .new

def setGroupby (gb : Nat) (t : Task ω) (g : GroupBy Int (Int × PyObj)) : Task ω :=
  { t with input := { t.input with groupbys := t.input.groupbys.set gb g } }

/-- Call user method `m`, answering its context calls with `handle`. -/
def invokeWith (handle : Method → ContextOp ω → Effect PyExc (Task ω) PyObj) {R : Type}
    (m : Method) (p : UserMethod ω R) : Effect PyExc (Task ω) R := do
  let ctx ← getContext
  log (.call m ctx.key ctx.value)
  match ← p.interpret fun op => reify (handle m op) with
  | .ok r => pure r
  | .error e =>
    log (.raise m e)
    throw e

/-- `self.<component>.<method>(...)`: `AttributeError` when the component is `None`. -/
def callOn (invoke : Invoke ω) {R : Type} (present : Bool) (m : Method)
    (p : Option (UserMethod ω R)) : Effect PyExc (Task ω) R :=
  match present, p with
  | true, some p => invoke m p
  | _, _ => throw .attributeError

/-- `next(self)` on the `Downlink`, as `groupby_step` pulls it: `none` when it raises
`StopIteration`; a `None` item raises `TypeError` in `itemgetter(0)` before the groupby object
changes. -/
def itemSource (lower : Level ω) : Effect PyExc (Task ω) (Option (Int × PyObj)) := do
  match ← reify lower.next with
  | .ok (some item) => pure (some item)
  | .ok none => throw .typeError
  | .error .stopIteration => pure none
  | .error e => throw e

/-- `next(context.values)`. The generator over a grouper is finished once it stops or raises. -/
def nextValue (lower : Level ω) : Effect PyExc (Task ω) PyObj := do
  match (← onInput get).values with
  | .none => throw .typeError
  | .list [] => throw .stopIteration
  | .list (v :: rest) =>
    setValues (.list rest)
    pure v
  | .generator _ _ true => throw .stopIteration
  | .generator gb g false =>
    match ← reify (GroupBy.grouperNext (groupby gb) (setGroupby gb) (itemSource lower) Prod.fst g)
      with
    | .ok (some (_, v)) => pure v
    | .ok none =>
      setValues (.generator gb g true)
      throw .stopIteration
    | .error e =>
      setValues (.generator gb g true)
      throw e

variable (rt : Runtime) (factory : Factory ω)

/-- `TaskContext.progress()`. -/
def progress : Effect PyExc (Task ω) Unit := do
  let now ← tick rt
  onContext (TaskContext.progressAt now)

/-- One pass of the `__spill_all` loop: `combiner.reduce` on key `k` and its cached values. -/
def spillKey (invoke : Invoke ω) (k : PyObj) : Effect PyExc (Task ω) Unit := do
  onContext (modify fun c => { c with key := k })
  match (← getCache).cache.get? k with
  | none => throw .keyError
  | some vs =>
    setValues (.list vs)
    log (.spill k vs)
    callOn invoke (← getContext).combiner .combinerReduce (factory.cclass.map (·.reduce))

/-- `TaskContext.__spill_all()`, with the combiner called through `invoke`. -/
def spillAll (invoke : Invoke ω) : Effect PyExc (Task ω) Unit := do
  onCache (modify fun c => { c with spilling := true })
  (CombinerCache.sortedKeys rt (← getCache)).forM (spillKey factory invoke)
  onCache (modify fun c => { c with cache := .empty, cacheSize := 0, spilling := false })

/-- `if self.__cache_size >= self.__spill_size: self.__spill_all()`. -/
def spillIfFull (invoke : Invoke ω) : Effect PyExc (Task ω) Unit := do
  if ← MonadExcept.ofExcept (← getCache).full then spillAll rt factory invoke

/-- `TaskContext.__actual_emit(key, value)`, with the user's writer or partitioner called at
level `lower`. -/
def actualEmit (lower : Level ω) (k v : PyObj) : Effect PyExc (Task ω) Unit := do
  if (← getContext).recordWriter then
    callOn lower.invoke true .writerEmit (factory.rwclass.map fun c => c.emit k v)
  else
    let (k, v) ← onContext (TaskContext.maybeSerialize rt k v)
    let ctx ← getContext
    if ctx.partitioner then
      let part ← callOn lower.invoke true .partition
        (factory.pclass.map fun c => c.partition k ctx.nred)
      onContext (TaskContext.onUplink (Uplink.partitionedOutput part k v))
    else
      onContext (TaskContext.onUplink (Uplink.output k v))

/-- `TaskContext.emit(key, value)` called by user method `caller`. -/
def emit (lower : Level ω) (caller : Method) (k v : PyObj) : Effect PyExc (Task ω) Unit := do
  let cache ← getCache
  log (.emit caller (!cache.spilling) k v)
  (if cache.spilling then
    actualEmit rt factory lower k v
  else do
    onCache (modify fun c => c.add rt k v)
    spillIfFull rt factory lower.invoke)
  progress rt

/-- The answer to a context call of user method `caller`, with nested calls at level `lower`. -/
def handle (lower : Level ω) (caller : Method) : ContextOp ω → Effect PyExc (Task ω) PyObj
  | .emit k v => do
    emit rt factory lower caller k v
    pure .none
  | .key => do pure (← getContext).key
  | .value => do pure (← getContext).value
  | .nextValue => nextValue lower
  | .progress => do
    progress rt
    pure .none
  | .setStatus status => do
    onContext (modify fun c => { c with status })
    progress rt
    pure .none
  | .getCounter group name => onContext (TaskContext.getCounter group name)
  | .incrementCounter counter amount => do
    onContext (TaskContext.incrementCounter rt counter amount)
    pure .none
  | .heap work => modifyGet fun t => ((work t.heap).2, { t with heap := (work t.heap).1 })

/-- `if self.<component>: self.<component>.close()`. -/
def closeIf (invoke : Invoke ω) (present : Bool) (m : Method)
    (p : Option (UserMethod ω Unit)) : Effect PyExc (Task ω) Unit :=
  if present then callOn invoke true m p else pure ()

/-- The combiner's part of `TaskContext.close()`: what the cache still holds is spilled, and
`combiner.close()` runs with emits going upstream, but only when the cache holds something. -/
def closeCombiner (invoke : Invoke ω) : Effect PyExc (Task ω) Unit := do
  if !(← getCache).cache.entries.isEmpty then
    spillAll rt factory invoke
    onCache (modify fun c => { c with spilling := true })
    callOn invoke (← getContext).combiner .combinerClose (factory.cclass.map (·.close))

/-- The `try` block of `TaskContext.close()`. -/
def closeComponents (invoke : Invoke ω) : Effect PyExc (Task ω) Unit := do
  closeIf invoke (← getContext).mapper .mapperClose (some factory.mclass.close)
  closeCombiner rt factory invoke
  closeIf invoke (← getContext).recordReader .readerClose (factory.rrclass.map (·.close))
  closeIf invoke (← getContext).recordWriter .writerClose (factory.rwclass.map (·.close))
  closeIf invoke (← getContext).reducer .reducerClose (factory.rclass.map (·.close))
  onContext TaskContext.spillCounters

/-- `TaskContext.close()`, with the user's methods called through `invoke`: `DONE` is written in
the `finally` block. -/
def close (invoke : Invoke ω) : Effect PyExc (Task ω) Unit := do
  onContext (TaskContext.onUplink Uplink.flush)
  Effect.tryFinally (closeComponents rt factory invoke) do
    onContext (TaskContext.onUplink Uplink.done)
    onContext (TaskContext.onUplink Uplink.flush)

end Task

end Pydoop.Mapreduce
