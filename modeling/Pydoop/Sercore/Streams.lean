import Pydoop.Sercore.HuExtras
import Pydoop.Lib.Text

/-! The `sercore` stream objects (`streams.cpp`): Python methods over a `HadoopUtils` file
stream, with their argument conversions and errors, including the tuple reader and writer and
the `write_output` fast path that the pipes protocol uses. -/

namespace Pydoop.Sercore

open Effect HadoopUtils PyText

/-- Python values: a float is its IEEE double bits, and any other object (a tuple, an Avro
record, an instance of a user class) is named by an identity of its own. -/
inductive PyObj
  | none
  | int (value : Int)
  | float (bits : UInt64)
  | str (text : String)
  | bytes (data : Bytes)
  | object (id : Nat)
  deriving DecidableEq, Repr, Inhabited

/-- Python exceptions. -/
inductive PyExc
  /-- `ValueError("I/O operation on closed stream")` -/
  | closedStream
  /-- `ValueError("Unknown format '%c'")` -/
  | unknownFormat (c : UInt8)
  /-- `ValueError("not enough items")` -/
  | notEnoughItems
  /-- `ValueError` of the `"s"` conversion for a string with an embedded NUL -/
  | embeddedNull
  /-- `TypeError` of an argument conversion -/
  | typeError
  /-- `OverflowError` of an integer conversion -/
  | overflowError
  /-- `UnicodeDecodeError` building a `str` -/
  | unicodeDecodeError
  /-- `IOError` carrying the message of a `HadoopUtils::Error` -/
  | ioError (error : Error)
  /-- `RuntimeError(message)` -/
  | runtimeError (message : String)
  /-- `ValueError(message)` -/
  | valueError (message : String)
  /-- `AssertionError` of a failed `assert` -/
  | assertionError
  /-- `AttributeError`: a method looked up on `None` -/
  | attributeError
  /-- `IndexError` of a subscript out of range -/
  | indexError
  /-- `KeyError` of a missing dictionary key -/
  | keyError
  /-- `IOError` of a call into a native library, with its message -/
  | libraryError (message : String)
  /-- `StopIteration`: an iterator is exhausted -/
  | stopIteration
  /-- `RecursionError`: the interpreter's bound on nested calls is reached -/
  | recursionError
  /-- an exception raised by user code -/
  | raised (tag : Nat)
  /-- `struct.error(message)` of `struct.pack` or `struct.unpack` -/
  | structError (message : String)
  deriving DecidableEq, Repr, Inhabited

/-- `#define OUTPUT 50` -/
def OUTPUT : Int := 50

/-- `#define PARTITIONED_OUTPUT 51` -/
def PARTITIONED_OUTPUT : Int := 51

/-- The format letters `read_tuple` and `write_tuple` dispatch on. -/
inductive Format
  | i
  | l
  | f
  | s
  | b
  deriving DecidableEq, Repr

/-- The letter of each format. -/
def Format.letter : Format → Char
  | .i => 'i'
  | .l => 'l'
  | .f => 'f'
  | .s => 's'
  | .b => 'b'

/-- `switch (fmt[i])`: the format a byte of the format string names. -/
def Format.ofByte? (c : UInt8) : Option Format :=
  [Format.i, .l, .f, .s, .b].find? fun format => format.letter.toUInt8 = c

/-- A `FileInStream` object: its `closed` flag and the `HadoopUtils` stream it reads. -/
structure FileInStreamObj where
  closed : Bool
  stream : FileInStream
  deriving DecidableEq, Repr

/-- A `FileOutStream` object: its `closed` flag and every byte its stream has written. -/
structure FileOutStreamObj where
  closed : Bool
  written : Bytes
  deriving DecidableEq, Repr

namespace FileInStreamObj

/-- An open input stream positioned before `rest`. -/
def «at» (rest : Bytes) : FileInStreamObj := ⟨false, FileInStream.at rest⟩

/-- `_ASSERT_STREAM_OPEN`. -/
def assertOpen : Effect PyExc FileInStreamObj Unit := do
  if (← get).closed then throw .closedStream

/-- A `HadoopUtils` call on `*self->stream`; a `HadoopUtils::Error` becomes an `IOError`. -/
def onStream {α : Type} (x : Effect Error FileInStream α) : Effect PyExc FileInStreamObj α := do
  let self ← get
  let (outcome, stream) := x.run self.stream
  set { self with stream }
  match outcome with
  | .ok a => pure a
  | .error e => throw (.ioError e)

/-- `read_vint()`. -/
def readVInt : Effect PyExc FileInStreamObj Int := do
  assertOpen
  onStream deserializeInt

/-- `read_vlong()`. -/
def readVLong : Effect PyExc FileInStreamObj Int := do
  assertOpen
  onStream deserializeLong

/-- `read_float()`: the C `float` read, widened to a Python float. -/
def readFloat : Effect PyExc FileInStreamObj UInt64 := do
  assertOpen
  return (Float32.ofBits (← onStream deserializeFloat)).toFloat.toBits

/-- `read_string()`: the bytes read, decoded as UTF-8. -/
def readString : Effect PyExc FileInStreamObj String := do
  assertOpen
  match decodeUtf8 (← onStream deserializeString) with
  | some text => pure text
  | none => throw .unicodeDecodeError

/-- `read_bytes()`. -/
def readBytes : Effect PyExc FileInStreamObj Bytes := do
  assertOpen
  onStream deserializeString

/-- `read_long_writable()`. -/
def readLongWritable : Effect PyExc FileInStreamObj Int := do
  assertOpen
  onStream deserializeLongWritable

/-- The method each `case` of the `read_tuple` switch calls, with the Python object it builds. -/
def reader : Format → Effect PyExc FileInStreamObj PyObj
  | .i => PyObj.int <$> readVInt
  | .l => PyObj.int <$> readVLong
  | .f => PyObj.float <$> readFloat
  | .s => PyObj.str <$> readString
  | .b => PyObj.bytes <$> readBytes

/-- One iteration of the `read_tuple` loop. -/
def readItem (c : UInt8) : Effect PyExc FileInStreamObj PyObj :=
  match Format.ofByte? c with
  | some format => reader format
  | none => throw (.unknownFormat c)

/-- `read_tuple(fmt)`: one item per byte of the format string. -/
def readTuple (fmt : String) : Effect PyExc FileInStreamObj (List PyObj) := do
  assertOpen
  if '\x00' ∈ fmt.toList then throw .embeddedNull
  (utf8 fmt).mapM readItem

end FileInStreamObj

/-- `PyArg_ParseTuple(args, "i", &val)`. -/
def asInt (item : PyObj) : Except PyExc Int :=
  match item with
  | .int n => if -2 ^ 31 ≤ n ∧ n < 2 ^ 31 then .ok n else .error .overflowError
  | _ => .error .typeError

/-- `PyArg_ParseTuple(args, "L", &val)`. -/
def asLongLong (item : PyObj) : Except PyExc Int :=
  match item with
  | .int n => if -2 ^ 63 ≤ n ∧ n < 2 ^ 63 then .ok n else .error .overflowError
  | _ => .error .typeError

/-- `PyArg_ParseTuple(args, "f", &val)`: a float or an int, rounded to a C `float`. -/
def asFloat (item : PyObj) : Except PyExc UInt32 :=
  match item with
  | .float bits => .ok (Float.ofBits bits).toFloat32.toBits
  | .int n => .ok (Float.ofInt n).toFloat32.toBits
  | _ => .error .typeError

/-- `PyArg_ParseTuple(args, "s#", &buf, &len)`: a `str` as UTF-8, or a bytes object as is. -/
def asStringBuffer (item : PyObj) : Except PyExc Bytes :=
  match item with
  | .str text => .ok (utf8 text)
  | .bytes data => .ok data
  | _ => .error .typeError

/-- `PyArg_ParseTuple(args, "y#", &buf, &len)`. -/
def asBytesBuffer (item : PyObj) : Except PyExc Bytes :=
  match item with
  | .bytes data => .ok data
  | _ => .error .typeError

namespace FileOutStreamObj

/-- An open output stream that has written `written`. -/
def «at» (written : Bytes) : FileOutStreamObj := ⟨false, written⟩

/-- `_ASSERT_STREAM_OPEN`. -/
def assertOpen : Effect PyExc FileOutStreamObj Unit := do
  if (← get).closed then throw .closedStream

/-- An argument conversion; its failure is raised. -/
def convert {α : Type} (parsed : Except PyExc α) : Effect PyExc FileOutStreamObj α :=
  match parsed with
  | .ok a => pure a
  | .error e => throw e

/-- The writes a `serialize*` call makes on `*self->stream`, each of at least one byte, which
`fwrite` always accepts. -/
def put (bytes : Bytes) : Effect PyExc FileOutStreamObj Unit :=
  modify fun self => { self with written := self.written ++ bytes }

/-- `write_vint(val)`. -/
def writeVInt (item : PyObj) : Effect PyExc FileOutStreamObj Unit := do
  assertOpen
  put (serializeInt (← convert (asInt item)))

/-- `write_vlong(val)`. -/
def writeVLong (item : PyObj) : Effect PyExc FileOutStreamObj Unit := do
  assertOpen
  put (serializeLong (← convert (asLongLong item)))

/-- `write_float(val)`. -/
def writeFloat (item : PyObj) : Effect PyExc FileOutStreamObj Unit := do
  assertOpen
  put (serializeFloat (← convert (asFloat item)))

/-- `write_string(val)`. -/
def writeString (item : PyObj) : Effect PyExc FileOutStreamObj Unit := do
  assertOpen
  put (serializeString (← convert (asStringBuffer item)))

/-- `write_bytes(val)`. -/
def writeBytes (item : PyObj) : Effect PyExc FileOutStreamObj Unit := do
  assertOpen
  put (serializeString (← convert (asBytesBuffer item)))

/-- The method each `case` of the `write_tuple` switch calls. -/
def writer : Format → PyObj → Effect PyExc FileOutStreamObj Unit
  | .i => writeVInt
  | .l => writeVLong
  | .f => writeFloat
  | .s => writeString
  | .b => writeBytes

/-- One iteration of the `write_tuple` loop, after the item was taken. -/
def writeItem (c : UInt8) (item : PyObj) : Effect PyExc FileOutStreamObj Unit :=
  match Format.ofByte? c with
  | some format => writer format item
  | none => throw (.unknownFormat c)

/-- The `write_tuple` loop: one item per format byte, taken from the iterable first; items
beyond the format are left untouched. -/
def writeItems : List UInt8 → List PyObj → Effect PyExc FileOutStreamObj Unit
  | [], _ => pure ()
  | _ :: _, [] => throw .notEnoughItems
  | c :: fmt, item :: items => do
    writeItem c item
    writeItems fmt items

/-- `write_tuple(fmt, items)`. -/
def writeTuple (fmt : String) (items : List PyObj) : Effect PyExc FileOutStreamObj Unit := do
  assertOpen
  if '\x00' ∈ fmt.toList then throw .embeddedNull
  writeItems (utf8 fmt) items

/-- `flush()`: the bytes are already in `written`. -/
def flush : Effect PyExc FileOutStreamObj Unit := assertOpen

/-- `write_output(k, v[, part])`, `part` given or not: it defaults to `-1`, and only a
non-negative one is sent, as a `PARTITIONED_OUTPUT`. -/
def writeOutput (key value : PyObj) (part : Option PyObj) :
    Effect PyExc FileOutStreamObj Unit := do
  assertOpen
  let key ← convert (asBytesBuffer key)
  let value ← convert (asBytesBuffer value)
  let part ← match part with
    | none => pure (-1)
    | some given => convert (asInt given)
  if part ≥ 0 then
    put (serializeInt PARTITIONED_OUTPUT)
    put (serializeInt part)
  else
    put (serializeInt OUTPUT)
  put (serializeString key)
  put (serializeString value)

end FileOutStreamObj

end Pydoop.Sercore
