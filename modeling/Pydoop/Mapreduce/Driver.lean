import Pydoop.Mapreduce.Pipes

/-! `Downlink.__next__` and `pipes._run`: the command loop that drives a task. `RUN_MAP` with a
Python record reader and `RUN_REDUCE` run loops of their own inside one call of `__next__`; the
reduce loop is an `itertools.groupby` over the `Downlink` itself, which pulls the items it
groups by calling `__next__` again, one level down. Every loop and every nesting is bounded by a
fuel, and running out of it raises `RecursionError`. -/

namespace Pydoop.Mapreduce

open Effect HadoopUtils PyText
open Sercore hiding OUTPUT PARTITIONED_OUTPUT

def IS_JAVA_RW : String := "mapreduce.pipes.isjavarecordwriter"

namespace Downlink

/-- `DESERIALIZERS.get(type)`. -/
def DESERIALIZERS : PyObj → Option Getter
  | .str "org.apache.hadoop.io.LongWritable" => some .longWritable
  | .str "org.apache.hadoop.io.Text" => some .text
  | _ => none

/-- `setup_deser(key_type, value_type)`: a known Java type patches its getter in, unless the
keys (values) are raw. -/
def setupDeser (keyType valueType : PyObj) : Effect PyExc Downlink Unit := do
  (if !(← get).rawK then
    match DESERIALIZERS keyType with
    | some g => modify fun d => { d with getK := g }
    | none => pure ()
  else pure ())
  if !(← get).rawV then
    match DESERIALIZERS valueType with
    | some g => modify fun d => { d with getV := g }
    | none => pure ()

/-- `setup_avro_deser()`, reading the job configuration of `ctx`. The conditions are Python's
`a == 'K' or a == 'KV' and not self.raw_k`, where `and` binds tighter than `or`. -/
def setupAvroDeser (rt : Runtime) (ctx : TaskContext) : Effect PyExc Downlink Unit := do
  (match rt.avroImport with
  | some e => throw (.runtimeError ("cannot handle avro input: " ++ e))
  | none => pure ())
  let mode ← MonadExcept.ofExcept (PyObj.upper (ctx.confGet AVRO_INPUT))
  (if mode ∉ AVRO_IO_MODES then throw (.runtimeError s!"invalid avro input mode: {mode}")
  else pure ())
  (if mode = "K" ∨ (mode = "KV" ∧ (← get).rawK = false) then do
    let schema := (ctx.confGet AVRO_KEY_INPUT_SCHEMA).getD .none
    let deserializer ← MonadExcept.ofExcept (rt.avroParse schema)
    modify fun d => { d with avroKeyDeserializer := some deserializer, getK := .avroKey }
  else pure ())
  if mode = "V" ∨ (mode = "KV" ∧ (← get).rawV = false) then
    let schema := (ctx.confGet AVRO_VALUE_INPUT_SCHEMA).getD .none
    let deserializer ← MonadExcept.ofExcept (rt.avroParse schema)
    modify fun d => { d with avroValueDeserializer := some deserializer, getV := .avroValue }

end Downlink

namespace Task

variable {ω : Type} (rt : Runtime) (factory : Factory ω)

/-- `context.create_<component>()` through `pipes.Factory`: with a class, its constructor runs;
the context then records whether the component exists. -/
def create (invoke : Invoke ω) (m : Method) (init : Option (UserMethod ω Unit))
    (set : TaskContext → Bool → TaskContext) : Effect PyExc (Task ω) Bool := do
  let created ← match init with
    | some init => do
      invoke m init
      pure true
    | none => pure false
  onContext (modify fun c => set c created)
  pure created

/-- `TaskContext.create_combiner()`: a combiner turns the cache on, with a spill threshold of
`mapreduce.task.io.sort.mb` MiB. -/
def createCombiner (invoke : Invoke ω) : Effect PyExc (Task ω) Bool := do
  let combiner ← create invoke .combinerInit (factory.cclass.map (·.init))
    fun c created => { c with combiner := created }
  (if combiner then do
    let sortMb ← MonadExcept.ofExcept ((← getContext).getInt "mapreduce.task.io.sort.mb" 100)
    onCache (modify fun c => { c with spillSize := some (1024 * 1024 * sortMb), spilling := false })
  else pure ())
  pure combiner

/-- `Downlink.setup_record_writer(piped_output)`. -/
def setupRecordWriter (invoke : Invoke ω) (pipedOutput : Bool) : Effect PyExc (Task ω) Unit := do
  let writer ← create invoke .writerInit (factory.rwclass.map (·.init))
    fun c created => { c with recordWriter := created }
  (if writer && pipedOutput then throw (.runtimeError "record writer defined when not needed")
  else pure ())
  if !writer && !pipedOutput then throw (.runtimeError "record writer not defined")

/-- `Downlink.verify_digest(digest, challenge)`. -/
def verifyDigest (digest challenge : PyObj) : Effect PyExc (Task ω) Unit := do
  (match (← onDownlink get).password with
  | some password => onContext (TaskContext.authenticate rt password digest challenge)
  | none => pure ())
  onDownlink (modify fun d => { d with authDone := true })

/-- `self.context.mapper.map(self.context)`. -/
def callMap (invoke : Invoke ω) : Effect PyExc (Task ω) Unit := do
  callOn invoke (← getContext).mapper .mapperMap (some factory.mclass.map)

/-- The `RUN_MAP` loop `for self.context._key, self.context._value in reader:`, for at most
`fuel` records. -/
def readerLoop (invoke : Invoke ω) (reader : RecordReaderClass ω) :
    Nat → Effect PyExc (Task ω) Unit
  | 0 => throw .recursionError
  | fuel + 1 => do
    match ← reify (invoke .readerNext reader.next) with
    | .error .stopIteration => pure ()
    | .error e => throw e
    | .ok (key, value) =>
      onContext (modify fun c => { c with key, value })
      callMap factory invoke
      let progressValue ← invoke .readerProgress reader.getProgress
      onContext (modify fun c => { c with progressValue })
      progress rt
      readerLoop invoke reader fuel

/-- `nred < 1` of the `int` read for `RUN_MAP`. -/
def lessThanOne : PyObj → Except PyExc Bool
  | .int n => .ok (decide (n < 1))
  | _ => .error .typeError

/-- The `RUN_MAP` branch of `__next__`, once its fields are read. With a Python record reader it
runs the whole map task, closes the context and stops the iteration. -/
def runMap (invoke : Invoke ω) (fuel : Nat) (split nred pipedInput : PyObj) :
    Effect PyExc (Task ω) Unit := do
  onContext (modify fun c => { c with taskType := some "m", rawSplit := split })
  let reader ← create invoke .readerInit (factory.rrclass.map (·.init))
    fun c created => { c with recordReader := created }
  (if reader && pipedInput.truthy then
    throw (.runtimeError "record reader defined when not needed")
  else pure ())
  (if !reader && !pipedInput.truthy then throw (.runtimeError "record reader not defined")
  else pure ())
  let combiner ← createCombiner factory invoke
  (if ← MonadExcept.ofExcept (lessThanOne nred) then do
    (if combiner then throw (.runtimeError "combiner defined in map-only job") else pure ())
    onContext (modify fun c => { c with privateEncoding := false })
    let pipedOutput ← MonadExcept.ofExcept ((← getContext).getBool IS_JAVA_RW)
    setupRecordWriter factory invoke (pipedOutput.getD false)
  else pure ())
  onContext (modify fun c => { c with nred })
  let _ ← create invoke .mapperInit (some factory.mclass.init)
    fun c created => { c with mapper := created }
  let _ ← create invoke .partitionerInit (factory.pclass.map (·.init))
    fun c created => { c with partitioner := created }
  if reader then
    match factory.rrclass with
    | some cls =>
      readerLoop rt factory invoke cls fuel
      -- no more commands from upstream, not even `CLOSE`
      Effect.tryFinally (close rt factory invoke) (throw .stopIteration)
    | none => pure ()

/-- The loop `for cmd, subs in groupby(self, itemgetter(0)):` of `RUN_REDUCE` over groupby object
`gb`, for at most `passes` groups. -/
def reduceLoop (lower : Level ω) (invoke : Invoke ω) (gb fuel : Nat) :
    Nat → Effect PyExc (Task ω) Unit
  | 0 => throw .recursionError
  | passes + 1 => do
    match ← GroupBy.next (groupby gb) (setGroupby gb) (itemSource lower) Prod.fst .recursionError fuel
      with
    | none => pure ()
    | some (cmd, g) =>
      (if cmd = REDUCE_KEY then do
        -- `_, self.context._key = next(subs)`
        match ← GroupBy.grouperNext (groupby gb) (setGroupby gb) (itemSource lower) Prod.fst g with
        | some (_, key) => onContext (modify fun c => { c with key })
        | none => throw .stopIteration
      else pure ())
      (if cmd = REDUCE_VALUE then do
        setValues (.generator gb g false)
        callOn invoke (← getContext).reducer .reducerReduce (factory.rclass.map (·.reduce))
      else pure ())
      (if cmd = CLOSE then Effect.tryFinally (close rt factory invoke) (throw .stopIteration)
      else pure ())
      reduceLoop lower invoke gb fuel passes

/-- The `RUN_REDUCE` branch of `__next__`, once its fields are read. -/
def runReduce (lower : Level ω) (invoke : Invoke ω) (fuel : Nat) (pipedOutput : PyObj) :
    Effect PyExc (Task ω) Unit := do
  onContext (modify fun c => { c with taskType := some "r" })
  let _ ← create invoke .reducerInit (factory.rclass.map (·.init))
    fun c created => { c with reducer := created }
  setupRecordWriter factory invoke pipedOutput.truthy
  (if (← getContext).privateEncoding then
    onDownlink (modify fun d => { d with getK := .pickled, getV := .pickled })
  else pure ())
  let gb ← onInput (modifyGet fun i =>
    (i.groupbys.length, { i with groupbys := i.groupbys ++ [GroupBy.new] }))
  reduceLoop rt factory lower invoke gb fuel fuel

/-- `Downlink.__next__`: read a command and act on it, with user methods called through
`invoke`, nested reads at level `lower`, and loops of at most `fuel` passes. Only `REDUCE_KEY`,
`REDUCE_VALUE` and `CLOSE` in a task without a mapper return an item; the rest return `None`. -/
def next (lower : Level ω) (invoke : Invoke ω) (fuel : Nat) :
    Effect PyExc (Task ω) (Option (Int × PyObj)) := do
  match ← onDownlink (Downlink.readCommand rt) with
  | .authenticationReq digest challenge =>
    verifyDigest rt digest challenge
    pure none
  | .start version =>
    (if version ≠ PROTOCOL_VERSION then throw (.runtimeError s!"Unknown protocol id: {version}")
    else pure ())
    pure none
  | .setJobConf jobConf =>
    onContext (modify fun c => { c with jobConf := some jobConf })
    (if (← getContext).hasConf AVRO_OUTPUT then onContext (TaskContext.setupAvroSer rt) else pure ())
    pure none
  | .runMap split nred pipedInput =>
    runMap rt factory invoke fuel split nred pipedInput
    pure none
  | .setInputTypes keyType valueType =>
    let ctx ← getContext
    (if ctx.hasConf AVRO_INPUT then onDownlink (Downlink.setupAvroDeser rt ctx)
    else onDownlink (Downlink.setupDeser keyType valueType))
    pure none
  | .mapItem key value =>
    onContext (modify fun c => { c with key, value })
    callMap factory invoke
    pure none
  | .runReduce _ pipedOutput =>
    runReduce rt factory lower invoke fuel pipedOutput
    pure none
  | .reduceKey key => pure (some (REDUCE_KEY, key))
  | .reduceValue value => pure (some (REDUCE_VALUE, value))
  | .abort => throw (.runtimeError "received ABORT command")
  | .close =>
    if (← getContext).mapper then
      Effect.tryFinally (do close rt factory invoke; pure none) (throw .stopIteration)
    else pure (some (CLOSE, .none))

/-- Below the last level every call fails, as Python does past its recursion limit. -/
def Level.bottom : Level ω where
  invoke m _ := do
    log (.raise m .recursionError)
    throw .recursionError
  next := throw .recursionError

/-- The level above `lower`, with loops of at most `fuel` passes. -/
def Level.succ (fuel : Nat) (lower : Level ω) : Level ω where
  invoke := invokeWith (handle rt factory lower)
  next := next rt factory lower (invokeWith (handle rt factory lower)) fuel

/-- The task's functions with `depth` levels of nesting below them. -/
def levels : Nat → Level ω
  | 0 => Level.bottom
  | depth + 1 => Level.succ rt factory (depth + 1) (levels depth)

/-- `for _ in connection.downlink: pass`, for at most `fuel` commands. -/
def runLoop (lvl : Level ω) : Nat → Effect PyExc (Task ω) Unit
  | 0 => throw .recursionError
  | fuel + 1 => do
    match ← reify lvl.next with
    | .ok _ => runLoop lvl fuel
    | .error .stopIteration => pure ()
    | .error e => throw e

/-- `Connection.close()` on leaving the `with` block: the uplink's stream, then the downlink's. -/
def closeConnection : Effect PyExc (Task ω) Unit := do
  onContext (TaskContext.onUplink (modify fun s => { s with closed := true }))
  onDownlink (Downlink.onStream (modify fun s => { s with closed := true }))

/-- `pipes._run(context)`, with `fuel` bounding the commands, the loops and the nesting. -/
def run (fuel : Nat) : Effect PyExc (Task ω) Unit :=
  Effect.tryFinally (runLoop (levels rt factory fuel) fuel) closeConnection

end Task

/-- The task `run_task(factory, raw_keys=rawKeys, raw_values=rawValues,
private_encoding=privateEncoding, auto_serialize=autoSerialize)` starts on a connection whose
input stream holds `input`, `get_password()` having found `password`, with the user's objects
in `heap`. -/
def Task.init {ω : Type} (input : Bytes) (rawKeys rawValues privateEncoding autoSerialize : Bool)
    (password : Option Bytes) (heap : ω) : Task ω where
  context := TaskContext.init (FileOutStreamObj.at []) privateEncoding autoSerialize
  cache := CombinerCache.init
  input := ⟨Downlink.init (FileInStreamObj.at input) rawKeys rawValues password, [], .none⟩
  heap := heap
  clock := 0
  trace := []

end Pydoop.Mapreduce
