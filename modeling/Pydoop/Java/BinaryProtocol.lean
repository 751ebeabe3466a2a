import Pydoop.Mapreduce.BinaryProtocol

/-! `BinaryProtocol.java`: the Java side of the pipes protocol, which writes the downward
commands. Hadoop's serialization calls are not part of this repository: they are parameters,
with their documented formats as hypotheses where a result needs them. -/

namespace Pydoop.Java

open Effect HadoopUtils PyText

/-- `MessageType`, the command codes of the Java side. -/
inductive MessageType
  | START
  | SET_JOB_CONF
  | SET_INPUT_TYPES
  | RUN_MAP
  | MAP_ITEM
  | RUN_REDUCE
  | REDUCE_KEY
  | REDUCE_VALUE
  | CLOSE
  | ABORT
  | AUTHENTICATION_REQ
  | OUTPUT
  | PARTITIONED_OUTPUT
  | STATUS
  | PROGRESS
  | DONE
  | REGISTER_COUNTER
  | INCREMENT_COUNTER
  | AUTHENTICATION_RESP
  deriving DecidableEq, Repr

/-- The `code` each `MessageType` is built with. -/
def MessageType.code : MessageType → Int
  | .START => 0
  | .SET_JOB_CONF => 1
  | .SET_INPUT_TYPES => 2
  | .RUN_MAP => 3
  | .MAP_ITEM => 4
  | .RUN_REDUCE => 5
  | .REDUCE_KEY => 6
  | .REDUCE_VALUE => 7
  | .CLOSE => 8
  | .ABORT => 9
  | .AUTHENTICATION_REQ => 10
  | .OUTPUT => 50
  | .PARTITIONED_OUTPUT => 51
  | .STATUS => 52
  | .PROGRESS => 53
  | .DONE => 54
  | .REGISTER_COUNTER => 55
  | .INCREMENT_COUNTER => 56
  | .AUTHENTICATION_RESP => 57

def CURRENT_PROTOCOL_VERSION : Int := 0

/-- The Hadoop and Java library calls that write the downward stream. -/
structure HadoopIO where
  /-- `WritableUtils.writeVInt` -/
  writeVInt : Int → Bytes
  /-- `Text.writeString` -/
  writeString : String → Bytes
  /-- `DataOutput.writeLong`, which `LongWritable.write` calls -/
  writeLong : Int → Bytes

/-- The formats Hadoop and Java document for them: the zero-compressed VInt (which
`HadoopUtils::serializeInt` also writes), a VInt byte count followed by the UTF-8 bytes, and the
eight big-endian bytes of a two's complement `long`. -/
structure HadoopIO.Documented (io : HadoopIO) : Prop where
  writeVInt_eq : ∀ n : Int, -2 ^ 31 ≤ n → n < 2 ^ 31 → io.writeVInt n = serializeInt n
  writeString_eq : ∀ s : String, (utf8 s).length < 2 ^ 31 →
    io.writeString s = serializeInt (utf8 s).length ++ utf8 s
  writeLong_eq : ∀ n : Int, io.writeLong n = BigEndian.bytes 8 (n % 2 ^ 64).toNat

/-- Hadoop's own implementation of the three calls, in the formats it documents. -/
def HadoopIO.hadoop : HadoopIO where
  writeVInt := serializeInt
  writeString s := serializeInt (utf8 s).length ++ utf8 s
  writeLong n := BigEndian.bytes 8 (n % 2 ^ 64).toNat

theorem HadoopIO.documented_hadoop : HadoopIO.hadoop.Documented where
  writeVInt_eq _ _ _ := rfl
  writeString_eq _ _ := rfl
  writeLong_eq _ := rfl

/-- The Hadoop `Writable` objects the protocol sends: a `Text` by its bytes, which need not be
UTF-8 (`Text.set(byte[])` takes any), a `BytesWritable`, `null`, a `LongWritable`, or any other
`Writable`, named by the bytes its `write` puts out. -/
inductive Writable
  | text (data : Bytes)
  | bytesWritable (data : Bytes)
  | null
  | longWritable (n : Int)
  | other (serialized : Bytes)
  deriving DecidableEq, Repr

/-- The calls the Java side makes on its `DownwardProtocol`. -/
inductive DownwardCall
  | authenticate (digest challenge : String)
  | start
  | setJobConf (conf : List (String × String))
  | setInputTypes (keyType valueType : String)
  | runMap (split : Writable) (numReduces : Int) (pipedInput : Bool)
  | mapItem (key value : Writable)
  | runReduce (reduce : Int) (pipedOutput : Bool)
  | reduceKey (key : Writable)
  | reduceValue (value : Writable)
  | endOfInput
  | abort
  deriving DecidableEq, Repr

/-- `Configuration` keys and values alternating, the list `setJobConf` builds. -/
def confItems (conf : List (String × String)) : List String :=
  conf.flatMap fun (key, value) => [key, value]

namespace BinaryProtocol

variable (io : HadoopIO)

/-- `writeObject(obj)`: `Text` and `BytesWritable` with their own length, `null` as an empty
string, any other object through the buffer its `write` fills. -/
def writeObject : Writable → Bytes
  | .text data => io.writeVInt data.length ++ data
  | .bytesWritable data => io.writeVInt data.length ++ data
  | .null => io.writeVInt 0
  | .longWritable n =>
    let buffer := io.writeLong n
    io.writeVInt buffer.length ++ buffer
  | .other serialized => io.writeVInt serialized.length ++ serialized

def authenticate (digest challenge : String) : Bytes :=
  io.writeVInt MessageType.AUTHENTICATION_REQ.code ++ io.writeString digest ++
    io.writeString challenge

def start : Bytes :=
  io.writeVInt MessageType.START.code ++ io.writeVInt CURRENT_PROTOCOL_VERSION

/-- `setJobConf(conf)`: the keys and values of the configuration, alternating. -/
def setJobConf (conf : List (String × String)) : Bytes :=
  let list := confItems conf
  io.writeVInt MessageType.SET_JOB_CONF.code ++ io.writeVInt list.length ++
    list.flatMap io.writeString

def setInputTypes (keyType valueType : String) : Bytes :=
  io.writeVInt MessageType.SET_INPUT_TYPES.code ++ io.writeString keyType ++
    io.writeString valueType

def runMap (split : Writable) (numReduces : Int) (pipedInput : Bool) : Bytes :=
  io.writeVInt MessageType.RUN_MAP.code ++ writeObject io split ++ io.writeVInt numReduces ++
    io.writeVInt (if pipedInput then 1 else 0)

def mapItem (key value : Writable) : Bytes :=
  io.writeVInt MessageType.MAP_ITEM.code ++ writeObject io key ++ writeObject io value

def runReduce (reduce : Int) (pipedOutput : Bool) : Bytes :=
  io.writeVInt MessageType.RUN_REDUCE.code ++ io.writeVInt reduce ++
    io.writeVInt (if pipedOutput then 1 else 0)

def reduceKey (key : Writable) : Bytes :=
  io.writeVInt MessageType.REDUCE_KEY.code ++ writeObject io key

def reduceValue (value : Writable) : Bytes :=
  io.writeVInt MessageType.REDUCE_VALUE.code ++ writeObject io value

def endOfInput : Bytes := io.writeVInt MessageType.CLOSE.code

def abort : Bytes := io.writeVInt MessageType.ABORT.code

/-- The bytes a downward call puts on the stream. -/
def send : DownwardCall → Bytes
  | .authenticate digest challenge => authenticate io digest challenge
  | .start => start io
  | .setJobConf conf => setJobConf io conf
  | .setInputTypes keyType valueType => setInputTypes io keyType valueType
  | .runMap split numReduces pipedInput => runMap io split numReduces pipedInput
  | .mapItem key value => mapItem io key value
  | .runReduce reduce pipedOutput => runReduce io reduce pipedOutput
  | .reduceKey key => reduceKey io key
  | .reduceValue value => reduceValue io value
  | .endOfInput => endOfInput io
  | .abort => abort io

end BinaryProtocol

/-- Values the Java side can hold: `int`s, `long`s, and arrays shorter than `2 ^ 31`. -/
def Writable.Valid : Writable → Prop
  | .text data => data.length < 2 ^ 31
  | .bytesWritable data => data.length < 2 ^ 31
  | .null => True
  | .longWritable n => -2 ^ 63 ≤ n ∧ n < 2 ^ 63
  | .other serialized => serialized.length < 2 ^ 31

/-- The bytes `writeObject` puts after the length. -/
def Writable.payload (io : HadoopIO) : Writable → Bytes
  | .text data => data
  | .bytesWritable data => data
  | .null => []
  | .longWritable n => io.writeLong n
  | .other serialized => serialized

/-- The arguments of a downward call are Java values, and a configuration is a map. -/
def DownwardCall.Valid : DownwardCall → Prop
  | .authenticate digest challenge =>
    (utf8 digest).length < 2 ^ 31 ∧ (utf8 challenge).length < 2 ^ 31
  | .start => True
  | .setJobConf conf =>
    (conf.map Prod.fst).Nodup ∧ 2 * conf.length < 2 ^ 31 ∧
      ∀ item ∈ confItems conf, (utf8 item).length < 2 ^ 31
  | .setInputTypes keyType valueType =>
    (utf8 keyType).length < 2 ^ 31 ∧ (utf8 valueType).length < 2 ^ 31
  | .runMap split numReduces _ => split.Valid ∧ -2 ^ 31 ≤ numReduces ∧ numReduces < 2 ^ 31
  | .mapItem key value => key.Valid ∧ value.Valid
  | .runReduce reduce _ => -2 ^ 31 ≤ reduce ∧ reduce < 2 ^ 31
  | .reduceKey key => key.Valid
  | .reduceValue value => value.Valid
  | .endOfInput => True
  | .abort => True

/-! `UplinkReaderThread`: the Java thread that reads the upward messages and calls the
`OutputHandler` for each. -/

/-- What the loop of `run()` catches: the `IOException` of a read that fails (at the end of the
stream among others), the `NegativeArraySizeException` of a negative length, and the
`IOException` it throws itself for a bad command code. -/
inductive Throwable
  | ioException
  | negativeArraySize
  | badCommandCode (cmd : Int)
  deriving DecidableEq, Repr

/-- The Hadoop and Java library calls that read the upward stream, on the bytes not yet read. -/
structure HadoopIn where
  /-- `WritableUtils.readVInt` -/
  readVInt : Effect Throwable Bytes Int
  /-- `WritableUtils.readVLong` -/
  readVLong : Effect Throwable Bytes Int
  /-- `Text.readString` -/
  readString : Effect Throwable Bytes String
  /-- `DataInputStream.readFloat`, as the float's bits -/
  readFloat : Effect Throwable Bytes UInt32
  /-- `readFully` into a new `byte[n]` -/
  readFully : Nat → Effect Throwable Bytes Bytes

/-- The formats Hadoop and Java document for them, which are those `HadoopUtils` writes. -/
structure HadoopIn.Documented (input : HadoopIn) : Prop where
  readVInt_reads : ∀ n : Int, -2 ^ 31 ≤ n → n < 2 ^ 31 → Reads id input.readVInt (serializeInt n) n
  readVLong_reads : ∀ n : Int, -2 ^ 63 ≤ n → n < 2 ^ 63 →
    Reads id input.readVLong (serializeLong n) n
  readString_reads : ∀ s : String, (utf8 s).length < 2 ^ 31 →
    Reads id input.readString (serializeString (utf8 s)) s
  readFloat_reads : ∀ bits : UInt32, Reads id input.readFloat (serializeFloat bits) bits
  readFully_reads : ∀ data : Bytes, Reads id (input.readFully data.length) data data

/-- A `HadoopUtils` reader run on the bytes the Java side has not read; its failures are the
`IOException`s of the Java reads. -/
def HadoopIn.ofSercore {α : Type} (x : Effect Error FileInStream α) : Effect Throwable Bytes α :=
  ExceptT.mk fun bytes =>
    match x.run (FileInStream.at bytes) with
    | (.ok a, file) => (.ok a, file.rest)
    | (.error _, file) => (.error .ioException, file.rest)

theorem HadoopIn.ofSercore_reads {α : Type} {x : Effect Error FileInStream α} {bs : Bytes} {a : α}
    (reads : Reads FileInStream.at x bs a) : Reads id (HadoopIn.ofSercore x) bs a := by
  intro rest
  have ran := reads rest
  simp only [Effect.run, StateT.run] at ran
  simp only [HadoopIn.ofSercore, Effect.run, ExceptT.run_mk, StateT.run, id, ran]
  rfl

/-- The Java readers realised by the `HadoopUtils` deserializers of the same formats. Where
`Text.decode` would replace malformed UTF-8, this one gives the empty string. -/
def HadoopIn.sercore : HadoopIn where
  readVInt := HadoopIn.ofSercore deserializeInt
  readVLong := HadoopIn.ofSercore deserializeLong
  readString := HadoopIn.ofSercore do
    let bytes ← deserializeString
    return (decodeUtf8 bytes).getD ""
  readFloat := HadoopIn.ofSercore deserializeFloat
  readFully n := HadoopIn.ofSercore (if n = 0 then pure [] else InStream.read n)

theorem HadoopIn.documented_sercore : HadoopIn.sercore.Documented where
  readVInt_reads _ low high :=
    HadoopIn.ofSercore_reads (deserializeInt_serializeInt fileInStream_readsExactly low high)
  readVLong_reads _ low high :=
    HadoopIn.ofSercore_reads (deserializeLong_serializeLong fileInStream_readsExactly low high)
  readString_reads s short := by
    refine HadoopIn.ofSercore_reads
      ((deserializeString_serializeString fileInStream_readsExactly short).bind_pure ?_)
    rw [decodeUtf8_utf8]
    rfl
  readFloat_reads bits :=
    HadoopIn.ofSercore_reads (deserializeFloat_serializeFloat fileInStream_readsExactly bits)
  readFully_reads data := by
    refine HadoopIn.ofSercore_reads ?_
    by_cases empty : data = []
    · subst empty
      exact Reads.pure []
    · have positive : data.length ≠ 0 := by simpa using empty
      rw [if_neg positive]
      exact fileInStream_readsExactly data empty

/-- The class of the job's output key or value, as `readObject` tells them apart. The
`readFields` of any other class reads an instance, named here by its serialization. -/
inductive ObjectClass
  | bytesWritable
  | text
  | other (readFields : Effect Throwable Bytes Bytes)

/-- A payload an object of the class reads back whole: any for `BytesWritable` and `Text`, and
one serialized instance for any other class. -/
def ObjectClass.Holds : ObjectClass → Bytes → Prop
  | .other readFields, payload => Reads id readFields payload payload
  | _, _ => True

/-- The calls the reader thread makes on its `OutputHandler`. -/
inductive HandlerCall
  | authenticate (digest : String)
  | output (key value : Bytes)
  | partitionedOutput (part : Int) (key value : Bytes)
  | status (msg : String)
  | progress (bits : UInt32)
  | registerCounter (id : Int) (group name : String)
  | incrementCounter (id amount : Int)
  | done
  | failed (e : Throwable)
  deriving DecidableEq, Repr

/-- The reader thread: the bytes its `inStream` has not read, `authPending`, and the calls it
has made on the handler, oldest first. -/
structure UplinkReaderThread where
  inStream : Bytes
  authPending : Bool
  handled : List HandlerCall

namespace UplinkReaderThread

/-- A read on `inStream`. -/
def onStream {α : Type} (x : Effect Throwable Bytes α) : Effect Throwable UplinkReaderThread α :=
  zoom inStream (fun t inStream => { t with inStream }) x

/-- A call on the handler. -/
def call (c : HandlerCall) : Effect Throwable UplinkReaderThread Unit :=
  modify fun t => { t with handled := t.handled ++ [c] }

variable (input : HadoopIn)

/-- `readObject(obj)`: a `BytesWritable` or a `Text` is set to the buffer of the length read, any
other object reads its own fields after it. -/
def readObject : ObjectClass → Effect Throwable Bytes Bytes
  | .bytesWritable | .text => do
    let numBytes ← input.readVInt
    if numBytes < 0 then throw .negativeArraySize
    input.readFully numBytes.toNat
  | .other readFields => do
    let _ ← input.readVInt
    readFields

variable (keyClass valueClass : ObjectClass) (expectedDigest : String)

/-- The branches of the loop body of `run()` for the commands other than
`AUTHENTICATION_RESP`, once authenticated: `true` to go round again, `false` where it returns. -/
def handleCommand (cmd : Int) : Effect Throwable UplinkReaderThread Bool :=
  if cmd = MessageType.OUTPUT.code then do
    let key ← onStream (readObject input keyClass)
    let value ← onStream (readObject input valueClass)
    call (.output key value)
    return true
  else if cmd = MessageType.PARTITIONED_OUTPUT.code then do
    let part ← onStream input.readVInt
    let key ← onStream (readObject input keyClass)
    let value ← onStream (readObject input valueClass)
    call (.partitionedOutput part key value)
    return true
  else if cmd = MessageType.STATUS.code then do
    call (.status (← onStream input.readString))
    return true
  else if cmd = MessageType.PROGRESS.code then do
    call (.progress (← onStream input.readFloat))
    return true
  else if cmd = MessageType.REGISTER_COUNTER.code then do
    let id ← onStream input.readVInt
    let group ← onStream input.readString
    let name ← onStream input.readString
    call (.registerCounter id group name)
    return true
  else if cmd = MessageType.INCREMENT_COUNTER.code then do
    let id ← onStream input.readVInt
    let amount ← onStream input.readVLong
    call (.incrementCounter id amount)
    return true
  else if cmd = MessageType.DONE.code then do
    call .done
    return false
  else
    throw (.badCommandCode cmd)

/-- One pass of the `while (true)` loop of `run()`. `handler.authenticate(digest)` succeeds on
the handler's expected digest; any other message before that is ignored, its code alone read. -/
def iteration : Effect Throwable UplinkReaderThread Bool := do
  let cmd ← onStream input.readVInt
  if cmd = MessageType.AUTHENTICATION_RESP.code then
    let digest ← onStream input.readString
    call (.authenticate digest)
    modify fun t => { t with authPending := !(expectedDigest == digest) }
    return true
  else if (← get).authPending then
    return true
  else
    handleCommand input keyClass valueClass cmd

/-- `run()`, for at most `fuel` passes of its loop; `none` if it has not returned by then. What
the loop catches goes to `handler.failed` and ends it. -/
def run : Nat → UplinkReaderThread → Option UplinkReaderThread
  | 0, _ => none
  | fuel + 1, t =>
    match (iteration input keyClass valueClass expectedDigest).run t with
    | (.ok true, t') => run fuel t'
    | (.ok false, t') => some t'
    | (.error e, t') => some { t' with handled := t'.handled ++ [.failed e] }

end UplinkReaderThread

end Pydoop.Java
