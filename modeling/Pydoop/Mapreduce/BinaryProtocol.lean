import Mathlib.Data.Rat.Defs
import Pydoop.Sercore.WireFormat
import Pydoop.Lib.PyDict

/-! `binary_protocol.py`: the pipes command codes, what the `Downlink` reads for each downward
command, and what the `Uplink` writes for each upward one. -/

namespace Pydoop.Mapreduce

open Effect HadoopUtils PyText
open Sercore hiding OUTPUT PARTITIONED_OUTPUT

def PROTOCOL_VERSION : Int := 0

def START : Int := 0
def SET_JOB_CONF : Int := 1
def SET_INPUT_TYPES : Int := 2
def RUN_MAP : Int := 3
def MAP_ITEM : Int := 4
def RUN_REDUCE : Int := 5
def REDUCE_KEY : Int := 6
def REDUCE_VALUE : Int := 7
def CLOSE : Int := 8
def ABORT : Int := 9
def AUTHENTICATION_REQ : Int := 10
def OUTPUT : Int := 50
def PARTITIONED_OUTPUT : Int := 51
def STATUS : Int := 52
def PROGRESS : Int := 53
def DONE : Int := 54
def REGISTER_COUNTER : Int := 55
def INCREMENT_COUNTER : Int := 56
def AUTHENTICATION_RESP : Int := 57

/-- The calls of the pipes code into Python libraries, which are not part of this repository. -/
structure Runtime where
  /-- `pickle.loads` -/
  loads : Bytes → Except PyExc PyObj
  /-- `pickle.dumps(x, HIGHEST_PROTOCOL)` -/
  dumps : PyObj → Bytes
  /-- the message of the `ImportError` raised by `from pydoop.avrolib import ...`, if any -/
  avroImport : Option String
  /-- `parse(schema_str)`, run by the constructors `AvroDeserializer(schema)` and
  `AvroSerializer(schema)`: the parsed schema, or what parsing raises -/
  avroParse : PyObj → Except PyExc PyObj
  /-- `deserialize(raw)` of a deserializer built on a parsed schema -/
  avroDeserialize : PyObj → Bytes → Except PyExc PyObj
  /-- `serialize(x)` of a serializer built on a parsed schema -/
  avroSerialize : PyObj → PyObj → Except PyExc PyObj
  /-- `str(x)` -/
  str : PyObj → String
  /-- `repr(x)` -/
  repr : PyObj → String
  /-- `sys.getsizeof(x)` -/
  sizeof : PyObj → Nat
  /-- `a < b`, as `sorted` compares keys -/
  lt : PyObj → PyObj → Bool
  /-- `a == b` between dictionary keys of equal hash, as a `dict` finds the slot of a key -/
  eq : PyObj → PyObj → Bool
  /-- `a + b` -/
  add : PyObj → PyObj → Except PyExc PyObj
  /-- the successive readings of `time.time()` -/
  time : Nat → ℚ
  /-- `create_digest(key, msg)`: the base64 HMAC-SHA1 of `msg` under `key` -/
  createDigest : Bytes → Bytes → Bytes
  deriving Inhabited

/-- What `Downlink.get_k` or `get_v` is: the class's own method, or a `_get_*` function
patched into the class. -/
inductive Getter
  | readBytes
  | longWritable
  | text
  | avroKey
  | avroValue
  | pickled
  deriving DecidableEq, Repr

/-- A `Downlink`: its command stream, the options it was built with, and the deserialization
its commands set up (the deserializers are named by the schemas they were built from). -/
structure Downlink where
  stream : FileInStreamObj
  rawK : Bool
  rawV : Bool
  password : Option Bytes
  authDone : Bool
  avroKeyDeserializer : Option PyObj
  avroValueDeserializer : Option PyObj
  getK : Getter
  getV : Getter

namespace Downlink

/-- `Downlink(istream, context, raw_keys=rawK, raw_values=rawV)`, where `get_password()` found
`password`. -/
def init (stream : FileInStreamObj) (rawK rawV : Bool) (password : Option Bytes) : Downlink :=
  ⟨stream, rawK, rawV, password, false, none, none, .readBytes, .readBytes⟩

/-- A call on `self.stream`. -/
def onStream {α : Type} (x : Effect PyExc FileInStreamObj α) : Effect PyExc Downlink α :=
  zoom Downlink.stream (fun d stream => { d with stream }) x

variable (rt : Runtime)

/-- `self.get_k()` or `self.get_v()`, with the function `g` the class holds. -/
def callGetter (g : Getter) : Effect PyExc Downlink PyObj :=
  match g with
  | .readBytes => PyObj.bytes <$> onStream FileInStreamObj.readBytes
  | .longWritable => do
    if (← onStream FileInStreamObj.readVInt) ≠ 8 then throw .assertionError
    PyObj.int <$> onStream FileInStreamObj.readLongWritable
  | .text => PyObj.str <$> onStream FileInStreamObj.readString
  | .avroKey => do
    let raw ← onStream FileInStreamObj.readBytes
    match (← get).avroKeyDeserializer with
    | some deserializer => MonadExcept.ofExcept (rt.avroDeserialize deserializer raw)
    | none => throw .attributeError
  | .avroValue => do
    let raw ← onStream FileInStreamObj.readBytes
    match (← get).avroValueDeserializer with
    | some deserializer => MonadExcept.ofExcept (rt.avroDeserialize deserializer raw)
    | none => throw .attributeError
  | .pickled => do MonadExcept.ofExcept (rt.loads (← onStream FileInStreamObj.readBytes))

/-- The slices `t[i:i + 2]` for `i in range(0, n, 2)`, `n` the (even) length of `t`. -/
def itemPairs {α : Type} : List α → List (α × α)
  | a :: b :: rest => (a, b) :: itemPairs rest
  | _ => []

/-- `read_job_conf()`. -/
def readJobConf : Effect PyExc Downlink (PyDict PyObj PyObj) := do
  let n ← onStream FileInStreamObj.readVInt
  if n % 2 = 1 then throw (.runtimeError "number of items is not even")
  let t ← onStream (FileInStreamObj.readTuple (String.ofList (List.replicate n.toNat 's')))
  return PyDict.ofPairs (itemPairs t)

/-- `a, b = self.stream.read_tuple(fmt)`. -/
def readPair (fmt : String) : Effect PyExc Downlink (PyObj × PyObj) := do
  match ← onStream (FileInStreamObj.readTuple fmt) with
  | [a, b] => pure (a, b)
  | _ => throw (.valueError "not enough values to unpack")

/-- `a, b, c = self.stream.read_tuple(fmt)`. -/
def readTriple (fmt : String) : Effect PyExc Downlink (PyObj × PyObj × PyObj) := do
  match ← onStream (FileInStreamObj.readTuple fmt) with
  | [a, b, c] => pure (a, b, c)
  | _ => throw (.valueError "not enough values to unpack")

end Downlink

/-- A downward command with the fields `Downlink.__next__` reads for it. -/
inductive Command
  | authenticationReq (digest challenge : PyObj)
  | start (version : Int)
  | setJobConf (jobConf : PyDict PyObj PyObj)
  | runMap (split nred pipedInput : PyObj)
  | setInputTypes (keyType valueType : PyObj)
  | mapItem (key value : PyObj)
  | runReduce (part pipedOutput : PyObj)
  | reduceKey (key : PyObj)
  | reduceValue (value : PyObj)
  | abort
  | close

namespace Downlink

variable (rt : Runtime)

/-- The fields the branch of `Downlink.__next__` for the command code `cmd` reads. -/
def readFields (cmd : Int) : Effect PyExc Downlink Command :=
  if cmd = AUTHENTICATION_REQ then do
    let (digest, challenge) ← readPair "bb"
    return .authenticationReq digest challenge
  else if cmd = START then do
    return .start (← onStream FileInStreamObj.readVInt)
  else if cmd = SET_JOB_CONF then do
    return .setJobConf (← readJobConf)
  else if cmd = RUN_MAP then do
    let (split, nred, pipedInput) ← readTriple "bii"
    return .runMap split nred pipedInput
  else if cmd = SET_INPUT_TYPES then do
    let (keyType, valueType) ← readPair "ss"
    return .setInputTypes keyType valueType
  else if cmd = MAP_ITEM then do
    let key ← callGetter rt (← get).getK
    let value ← callGetter rt (← get).getV
    return .mapItem key value
  else if cmd = RUN_REDUCE then do
    let (part, pipedOutput) ← readPair "ii"
    return .runReduce part pipedOutput
  else if cmd = REDUCE_KEY then do
    return .reduceKey (← callGetter rt (← get).getK)
  else if cmd = REDUCE_VALUE then do
    return .reduceValue (← callGetter rt (← get).getV)
  else if cmd = ABORT then
    return .abort
  else if cmd = CLOSE then
    return .close
  else
    throw (.runtimeError s!"unknown command: {cmd}")

/-- The reads of `Downlink.__next__`: the command code, the authentication check, and the
fields of the command. Every branch of `__next__` reads all its fields before it acts. -/
def readCommand : Effect PyExc Downlink Command := do
  let cmd ← onStream FileInStreamObj.readVInt
  if cmd ≠ AUTHENTICATION_REQ ∧ !(← get).authDone then
    throw (.runtimeError s!"{cmd} received before authentication")
  readFields rt cmd

end Downlink

/-- The upward messages, with their fields as they go on the wire. -/
inductive UpMessage
  | authenticationResp (digest : Bytes)
  | output (key value : Bytes)
  | partitionedOutput (part : Int) (key value : Bytes)
  | status (message : Bytes)
  | progress (bits : UInt32)
  | done
  | registerCounter (id : Int) (group name : Bytes)
  | incrementCounter (id amount : Int)
  deriving DecidableEq, Repr

/-- The bytes of an upward message. -/
def UpMessage.encode : UpMessage → Bytes
  | .authenticationResp digest => serializeInt AUTHENTICATION_RESP ++ serializeString digest
  | .output key value =>
    serializeInt OUTPUT ++ serializeString key ++ serializeString value
  | .partitionedOutput part key value =>
    serializeInt PARTITIONED_OUTPUT ++ serializeInt part ++ serializeString key ++
      serializeString value
  | .status message => serializeInt STATUS ++ serializeString message
  | .progress bits => serializeInt PROGRESS ++ serializeFloat bits
  | .done => serializeInt DONE
  | .registerCounter id group name =>
    serializeInt REGISTER_COUNTER ++ serializeInt id ++ serializeString group ++
      serializeString name
  | .incrementCounter id amount =>
    serializeInt INCREMENT_COUNTER ++ serializeInt id ++ serializeLong amount

/-! The `Uplink` methods, on the uplink's output stream. -/
namespace Uplink

def authenticate (responseDigest : PyObj) : Effect PyExc FileOutStreamObj Unit :=
  FileOutStreamObj.writeTuple "ib" [.int AUTHENTICATION_RESP, responseDigest]

def output (k v : PyObj) : Effect PyExc FileOutStreamObj Unit :=
  FileOutStreamObj.writeOutput k v none

def partitionedOutput (part k v : PyObj) : Effect PyExc FileOutStreamObj Unit :=
  FileOutStreamObj.writeOutput k v (some part)

def status (msg : PyObj) : Effect PyExc FileOutStreamObj Unit :=
  FileOutStreamObj.writeTuple "is" [.int STATUS, msg]

def progress (p : PyObj) : Effect PyExc FileOutStreamObj Unit :=
  FileOutStreamObj.writeTuple "if" [.int PROGRESS, p]

def done : Effect PyExc FileOutStreamObj Unit :=
  FileOutStreamObj.writeVInt (.int DONE)

def registerCounter (id group name : PyObj) : Effect PyExc FileOutStreamObj Unit :=
  FileOutStreamObj.writeTuple "iiss" [.int REGISTER_COUNTER, id, group, name]

def incrementCounter (id amount : PyObj) : Effect PyExc FileOutStreamObj Unit :=
  FileOutStreamObj.writeTuple "iil" [.int INCREMENT_COUNTER, id, amount]

def flush : Effect PyExc FileOutStreamObj Unit := FileOutStreamObj.flush

end Uplink

end Pydoop.Mapreduce
