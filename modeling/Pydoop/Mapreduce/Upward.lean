import Pydoop.Java.BinaryProtocol

/-! Upward agreement: every message the task's `Uplink` writes is read by the Java
`UplinkReaderThread` into the handler call with the same arguments, message after message, up
to `DONE`. -/

namespace Pydoop.Mapreduce

open Effect HadoopUtils PyText Java
open Sercore hiding OUTPUT PARTITIONED_OUTPUT

/-- A call the task makes on its `Uplink`, with the values it passes: the response digest as
text (the base64 that `create_digest` returns), keys and values as byte strings, and a float by
its bits. -/
inductive UplinkCall
  | authenticate (responseDigest : String)
  | output (k v : Bytes)
  | partitionedOutput (part : Int) (k v : Bytes)
  | status (msg : String)
  | progress (p : UInt64)
  | done
  | registerCounter (id : Int) (group name : String)
  | incrementCounter (id amount : Int)
  deriving DecidableEq, Repr

namespace UplinkCall

/-- The `Uplink` method the call runs. -/
def invoke : UplinkCall → Effect PyExc FileOutStreamObj Unit
  | .authenticate responseDigest => Uplink.authenticate (.bytes (utf8 responseDigest))
  | .output k v => Uplink.output (.bytes k) (.bytes v)
  | .partitionedOutput part k v => Uplink.partitionedOutput (.int part) (.bytes k) (.bytes v)
  | .status msg => Uplink.status (.str msg)
  | .progress p => Uplink.progress (.float p)
  | .done => Uplink.done
  | .registerCounter id group name => Uplink.registerCounter (.int id) (.str group) (.str name)
  | .incrementCounter id amount => Uplink.incrementCounter (.int id) (.int amount)

/-- The message the call is meant to send; a progress goes as the C `float` nearest to it. -/
def message : UplinkCall → UpMessage
  | .authenticate responseDigest => .authenticationResp (utf8 responseDigest)
  | .output k v => .output k v
  | .partitionedOutput part k v => .partitionedOutput part k v
  | .status msg => .status (utf8 msg)
  | .progress p => .progress (Float.ofBits p).toFloat32.toBits
  | .done => .done
  | .registerCounter id group name => .registerCounter id (utf8 group) (utf8 name)
  | .incrementCounter id amount => .incrementCounter id amount

/-- The handler call the Java side is meant to make for it, with the same arguments. -/
def handled : UplinkCall → HandlerCall
  | .authenticate responseDigest => .authenticate responseDigest
  | .output k v => .output k v
  | .partitionedOutput part k v => .partitionedOutput part k v
  | .status msg => .status msg
  | .progress p => .progress (Float.ofBits p).toFloat32.toBits
  | .done => .done
  | .registerCounter id group name => .registerCounter id group name
  | .incrementCounter id amount => .incrementCounter id amount

/-- Arguments that the conversions accept and the length prefixes carry: byte strings and texts
shorter than `2 ^ 31`, ids in the range of an `int`, amounts in that of a `long`, and
partitions that are not negative. -/
def Valid : UplinkCall → Prop
  | .authenticate responseDigest => (utf8 responseDigest).length < 2 ^ 31
  | .output k v => k.length < 2 ^ 31 ∧ v.length < 2 ^ 31
  | .partitionedOutput part k v =>
    0 ≤ part ∧ part < 2 ^ 31 ∧ k.length < 2 ^ 31 ∧ v.length < 2 ^ 31
  | .status msg => (utf8 msg).length < 2 ^ 31
  | .progress _ => True
  | .done => True
  | .registerCounter id group name =>
    -2 ^ 31 ≤ id ∧ id < 2 ^ 31 ∧ (utf8 group).length < 2 ^ 31 ∧ (utf8 name).length < 2 ^ 31
  | .incrementCounter id amount => -2 ^ 31 ≤ id ∧ id < 2 ^ 31 ∧ -2 ^ 63 ≤ amount ∧ amount < 2 ^ 63

end UplinkCall

/-- The key and value classes read back the payloads of the call. -/
def UplinkCall.Held (keyClass valueClass : ObjectClass) : UplinkCall → Prop
  | .output k v | .partitionedOutput _ k v => keyClass.Holds k ∧ valueClass.Holds v
  | _ => True

section Python

open FileOutStreamObj

theorem writeOutput_writes (k v : Bytes) :
    Writes «at» (writeOutput (.bytes k) (.bytes v) none) (UpMessage.encode (.output k v)) := by
  intro out
  simp [writeOutput, assertOpen, convert, asBytesBuffer, put, run_bind, «at», UpMessage.encode,
    Sercore.OUTPUT, OUTPUT]

theorem writeOutput_partitioned_writes (k v : Bytes) {part : Int} (low : 0 ≤ part)
    (high : part < 2 ^ 31) :
    Writes «at» (writeOutput (.bytes k) (.bytes v) (some (.int part)))
      (UpMessage.encode (.partitionedOutput part k v)) := by
  have converted : asInt (.int part) = .ok part := by
    rw [asInt, if_pos ⟨by omega, high⟩]
  intro out
  simp [writeOutput, assertOpen, convert, asBytesBuffer, converted, low, put, run_bind, «at»,
    UpMessage.encode, Sercore.PARTITIONED_OUTPUT, PARTITIONED_OUTPUT]

theorem writeOutput_negative_writes (k v : Bytes) {part : Int} (low : -2 ^ 31 ≤ part)
    (negative : part < 0) :
    Writes «at» (writeOutput (.bytes k) (.bytes v) (some (.int part)))
      (UpMessage.encode (.output k v)) := by
  have converted : asInt (.int part) = .ok part := by
    rw [asInt, if_pos ⟨low, by omega⟩]
  have dropped : ¬0 ≤ part := by omega
  intro out
  simp [writeOutput, assertOpen, convert, asBytesBuffer, converted, dropped, put, run_bind, «at»,
    UpMessage.encode, Sercore.OUTPUT, OUTPUT]

theorem writeTuple_output_writes (k v : Bytes) :
    Writes «at» (writeTuple "ibb" [.int OUTPUT, .bytes k, .bytes v])
      (UpMessage.encode (.output k v)) := by
  have code : Writes «at» (writer .i (.int OUTPUT)) (serializeInt OUTPUT) :=
    writer_writes (show Carries .i (.int OUTPUT) from ⟨by decide, by decide⟩)
  refine writeTuple_of_items (by decide) ?_
  rw [show utf8 "ibb" = [Format.i.letter.toUInt8, Format.b.letter.toUInt8,
    Format.b.letter.toUInt8] from rfl]
  simp only [writeItems, writeItem, ofByte_letter]
  exact (code.bind ((writeBytes_writes k).bind ((writeBytes_writes v).bind Writes.pure))).congr
    (by simp [UpMessage.encode])

theorem writeTuple_partitioned_writes (k v : Bytes) {part : Int} (low : -2 ^ 31 ≤ part)
    (high : part < 2 ^ 31) :
    Writes «at» (writeTuple "iibb" [.int PARTITIONED_OUTPUT, .int part, .bytes k, .bytes v])
      (UpMessage.encode (.partitionedOutput part k v)) := by
  have code : Writes «at» (writer .i (.int PARTITIONED_OUTPUT)) (serializeInt PARTITIONED_OUTPUT) :=
    writer_writes (show Carries .i (.int PARTITIONED_OUTPUT) from ⟨by decide, by decide⟩)
  have partition : Writes «at» (writer .i (.int part)) (serializeInt part) :=
    writer_writes (show Carries .i (.int part) from ⟨low, high⟩)
  refine writeTuple_of_items (by decide) ?_
  rw [show utf8 "iibb" = [Format.i.letter.toUInt8, Format.i.letter.toUInt8,
    Format.b.letter.toUInt8, Format.b.letter.toUInt8] from rfl]
  simp only [writeItems, writeItem, ofByte_letter]
  exact (code.bind (partition.bind ((writeBytes_writes k).bind
    ((writeBytes_writes v).bind Writes.pure)))).congr (by simp [UpMessage.encode])

theorem invoke_writes {c : UplinkCall} (valid : c.Valid) :
    Writes «at» c.invoke c.message.encode := by
  cases c with
  | authenticate responseDigest =>
    have carried : List.Forall₂ Carries [.i, .b]
        [.int AUTHENTICATION_RESP, .bytes (utf8 responseDigest)] :=
      .cons ⟨by decide, by decide⟩ (.cons valid .nil)
    rw [UplinkCall.invoke, Uplink.authenticate, show "ib" = formatText [.i, .b] from rfl]
    refine (writeTuple_writes carried).congr ?_
    simp [tupleBytes, itemBytes, UplinkCall.message, UpMessage.encode]
  | output k v => exact writeOutput_writes k v
  | partitionedOutput part k v =>
    obtain ⟨low, high, -, -⟩ := valid
    exact writeOutput_partitioned_writes k v low high
  | status msg =>
    have carried : List.Forall₂ Carries [.i, .s] [.int STATUS, .str msg] :=
      .cons ⟨by decide, by decide⟩ (.cons valid .nil)
    rw [UplinkCall.invoke, Uplink.status, show "is" = formatText [.i, .s] from rfl]
    refine (writeTuple_writes carried).congr ?_
    simp [tupleBytes, itemBytes, UplinkCall.message, UpMessage.encode]
  | progress p =>
    have code : Writes «at» (writer .i (.int PROGRESS)) (serializeInt PROGRESS) :=
      writer_writes (show Carries .i (.int PROGRESS) from ⟨by decide, by decide⟩)
    rw [UplinkCall.invoke, Uplink.progress]
    refine writeTuple_of_items (by decide) ?_
    rw [show utf8 "if" = [Format.i.letter.toUInt8, Format.f.letter.toUInt8] from rfl]
    simp only [writeItems, writeItem, ofByte_letter]
    exact (code.bind ((writeFloat_writes p).bind Writes.pure)).congr (by
      simp [UplinkCall.message, UpMessage.encode, serializeFloat])
  | done =>
    exact writer_writes (show Carries .i (.int DONE) from ⟨by decide, by decide⟩)
  | registerCounter id group name =>
    obtain ⟨low, high, shortGroup, shortName⟩ := valid
    have carried : List.Forall₂ Carries [.i, .i, .s, .s]
        [.int REGISTER_COUNTER, .int id, .str group, .str name] :=
      .cons ⟨by decide, by decide⟩ (.cons ⟨low, high⟩ (.cons shortGroup (.cons shortName .nil)))
    rw [UplinkCall.invoke, Uplink.registerCounter,
      show "iiss" = formatText [.i, .i, .s, .s] from rfl]
    refine (writeTuple_writes carried).congr ?_
    simp [tupleBytes, itemBytes, UplinkCall.message, UpMessage.encode]
  | incrementCounter id amount =>
    obtain ⟨low, high, amountLow, amountHigh⟩ := valid
    have carried : List.Forall₂ Carries [.i, .i, .l]
        [.int INCREMENT_COUNTER, .int id, .int amount] :=
      .cons ⟨by decide, by decide⟩ (.cons ⟨low, high⟩ (.cons ⟨amountLow, amountHigh⟩ .nil))
    rw [UplinkCall.invoke, Uplink.incrementCounter,
      show "iil" = formatText [.i, .i, .l] from rfl]
    refine (writeTuple_writes carried).congr ?_
    simp [tupleBytes, itemBytes, UplinkCall.message, UpMessage.encode]

end Python

end Pydoop.Mapreduce

namespace Pydoop.Java.UplinkReaderThread

open Effect HadoopUtils PyText Mapreduce

/-- The thread before `rest`, with `authPending` as given, having made the calls `handled`. -/
def reading (pending : Bool) (handled : List HandlerCall) (rest : Bytes) : UplinkReaderThread :=
  ⟨rest, pending, handled⟩

theorem onStream_reads (pending : Bool) (handled : List HandlerCall) {α : Type}
    {x : Effect Throwable Bytes α} {bs : Bytes} {a : α} (reads : Reads id x bs a) :
    Reads (reading pending handled) (onStream x) bs a :=
  Reads.zoom reads (⟨[], pending, handled⟩ : UplinkReaderThread) (fun _ => rfl) (fun _ _ => rfl)

theorem call_moves (pending : Bool) (handled : List HandlerCall) (c : HandlerCall) :
    Moves (reading pending handled) (reading pending (handled ++ [c])) (call c) [] () :=
  Moves.modify _

theorem call_answers (pending : Bool) (handled : List HandlerCall) (c : HandlerCall)
    (again : Bool) :
    Moves (reading pending handled) (reading pending (handled ++ [c]))
      (call c >>= fun _ => pure again) [] again :=
  (call_moves pending handled c).bind (Reads.pure again).moves

variable {input : HadoopIn} {keyClass valueClass : ObjectClass} {expectedDigest : String}

theorem handleCommand_done (handled : List HandlerCall) :
    Moves (reading false handled) (reading false (handled ++ [.done]))
      (handleCommand input keyClass valueClass MessageType.DONE.code) [] false := by
  rw [handleCommand]
  repeat rw [if_neg (by decide)]
  rw [if_pos rfl]
  exact call_answers false handled _ false

variable (documented : input.Documented)
include documented

theorem readObject_reads {cls : ObjectClass} {payload : Bytes} (short : payload.length < 2 ^ 31)
    (holds : cls.Holds payload) :
    Reads id (readObject input cls) (serializeString payload) payload := by
  have length := documented.readVInt_reads payload.length (by omega) (by omega)
  rw [serializeString_eq]
  cases cls with
  | bytesWritable | text =>
    have counted : ¬(payload.length : Int) < 0 := by omega
    unfold readObject
    refine length.bind ?_
    simp only [counted, if_false, Int.toNat_natCast]
    exact documented.readFully_reads payload
  | other readFields => exact length.bind holds

section Branches

variable (handled : List HandlerCall)

theorem handleCommand_output {k v : Bytes} (shortKey : k.length < 2 ^ 31)
    (shortValue : v.length < 2 ^ 31) (holdsKey : keyClass.Holds k)
    (holdsValue : valueClass.Holds v) :
    Moves (reading false handled) (reading false (handled ++ [.output k v]))
      (handleCommand input keyClass valueClass MessageType.OUTPUT.code)
      (serializeString k ++ serializeString v) true := by
  have key := (onStream_reads false handled (readObject_reads documented shortKey holdsKey)).moves
  have value :=
    (onStream_reads false handled (readObject_reads documented shortValue holdsValue)).moves
  rw [handleCommand, if_pos rfl]
  exact (key.bind (value.bind (call_answers false handled _ true))).congr (by simp)

theorem handleCommand_partitionedOutput {part : Int} {k v : Bytes} (low : -2 ^ 31 ≤ part)
    (high : part < 2 ^ 31) (shortKey : k.length < 2 ^ 31) (shortValue : v.length < 2 ^ 31)
    (holdsKey : keyClass.Holds k) (holdsValue : valueClass.Holds v) :
    Moves (reading false handled) (reading false (handled ++ [.partitionedOutput part k v]))
      (handleCommand input keyClass valueClass MessageType.PARTITIONED_OUTPUT.code)
      (serializeInt part ++ serializeString k ++ serializeString v) true := by
  have partition := (onStream_reads false handled (documented.readVInt_reads part low high)).moves
  have key := (onStream_reads false handled (readObject_reads documented shortKey holdsKey)).moves
  have value :=
    (onStream_reads false handled (readObject_reads documented shortValue holdsValue)).moves
  rw [handleCommand]
  repeat rw [if_neg (by decide)]
  rw [if_pos rfl]
  exact (partition.bind (key.bind (value.bind (call_answers false handled _ true)))).congr (by simp)

theorem handleCommand_status {msg : String} (short : (utf8 msg).length < 2 ^ 31) :
    Moves (reading false handled) (reading false (handled ++ [.status msg]))
      (handleCommand input keyClass valueClass MessageType.STATUS.code)
      (serializeString (utf8 msg)) true := by
  have text := (onStream_reads false handled (documented.readString_reads msg short)).moves
  rw [handleCommand]
  repeat rw [if_neg (by decide)]
  rw [if_pos rfl]
  exact (text.bind (call_answers false handled _ true)).congr (by simp)

theorem handleCommand_progress (bits : UInt32) :
    Moves (reading false handled) (reading false (handled ++ [.progress bits]))
      (handleCommand input keyClass valueClass MessageType.PROGRESS.code)
      (serializeFloat bits) true := by
  have float := (onStream_reads false handled (documented.readFloat_reads bits)).moves
  rw [handleCommand]
  repeat rw [if_neg (by decide)]
  rw [if_pos rfl]
  exact (float.bind (call_answers false handled _ true)).congr (by simp)

theorem handleCommand_registerCounter {id : Int} {group name : String} (low : -2 ^ 31 ≤ id)
    (high : id < 2 ^ 31) (shortGroup : (utf8 group).length < 2 ^ 31)
    (shortName : (utf8 name).length < 2 ^ 31) :
    Moves (reading false handled) (reading false (handled ++ [.registerCounter id group name]))
      (handleCommand input keyClass valueClass MessageType.REGISTER_COUNTER.code)
      (serializeInt id ++ serializeString (utf8 group) ++ serializeString (utf8 name)) true := by
  have counter := (onStream_reads false handled (documented.readVInt_reads id low high)).moves
  have groupText :=
    (onStream_reads false handled (documented.readString_reads group shortGroup)).moves
  have nameText := (onStream_reads false handled (documented.readString_reads name shortName)).moves
  rw [handleCommand]
  repeat rw [if_neg (by decide)]
  rw [if_pos rfl]
  exact (counter.bind (groupText.bind (nameText.bind
    (call_answers false handled _ true)))).congr (by simp)

theorem handleCommand_incrementCounter {id amount : Int} (low : -2 ^ 31 ≤ id) (high : id < 2 ^ 31)
    (amountLow : -2 ^ 63 ≤ amount) (amountHigh : amount < 2 ^ 63) :
    Moves (reading false handled) (reading false (handled ++ [.incrementCounter id amount]))
      (handleCommand input keyClass valueClass MessageType.INCREMENT_COUNTER.code)
      (serializeInt id ++ serializeLong amount) true := by
  have counter := (onStream_reads false handled (documented.readVInt_reads id low high)).moves
  have increment :=
    (onStream_reads false handled (documented.readVLong_reads amount amountLow amountHigh)).moves
  rw [handleCommand]
  repeat rw [if_neg (by decide)]
  rw [if_pos rfl]
  exact (counter.bind (increment.bind (call_answers false handled _ true))).congr (by simp)

end Branches

theorem iteration_authenticate (pending : Bool) (handled : List HandlerCall) {digest : String}
    (short : (utf8 digest).length < 2 ^ 31) :
    Moves (reading pending handled)
      (reading (!(expectedDigest == digest)) (handled ++ [.authenticate digest]))
      (iteration input keyClass valueClass expectedDigest)
      (UpMessage.encode (.authenticationResp (utf8 digest))) true := by
  have code := (onStream_reads pending handled
    (documented.readVInt_reads MessageType.AUTHENTICATION_RESP.code (by decide) (by decide))).moves
  have text := (onStream_reads pending handled (documented.readString_reads digest short)).moves
  unfold iteration
  rw [UpMessage.encode]
  refine code.bind ?_
  rw [if_pos rfl]
  exact (text.bind ((call_moves pending handled _).bind
    ((Moves.modify _).bind (Reads.pure true).moves))).congr (by simp)

theorem iteration_authenticated (handled : List HandlerCall) {cmd : Int} (low : -2 ^ 31 ≤ cmd)
    (high : cmd < 2 ^ 31) (other : cmd ≠ MessageType.AUTHENTICATION_RESP.code)
    {after : Bytes → UplinkReaderThread} {bs : Bytes} {again : Bool}
    (handles : Moves (reading false handled) after (handleCommand input keyClass valueClass cmd)
      bs again) :
    Moves (reading false handled) after (iteration input keyClass valueClass expectedDigest)
      (serializeInt cmd ++ bs) again := by
  unfold iteration
  refine (onStream_reads false handled (documented.readVInt_reads cmd low high)).moves.bind ?_
  rw [if_neg other]
  exact Moves.get_bind (fun _ => rfl) handles

theorem iteration_moves (handled : List HandlerCall) {c : UplinkCall} (valid : c.Valid)
    (held : c.Held keyClass valueClass) (notDone : c ≠ .done)
    (expected : ∀ digest, c = .authenticate digest → digest = expectedDigest) :
    Moves (reading false handled) (reading false (handled ++ [c.handled]))
      (iteration input keyClass valueClass expectedDigest) c.message.encode true := by
  cases c with
  | authenticate digest =>
    obtain rfl := expected digest rfl
    have moves : Moves (reading false handled)
        (reading (!(digest == digest)) (handled ++ [.authenticate digest]))
        (iteration input keyClass valueClass digest)
        (UpMessage.encode (.authenticationResp (utf8 digest))) true :=
      iteration_authenticate documented false handled valid
    simpa [UplinkCall.handled, UplinkCall.message] using moves
  | output k v =>
    obtain ⟨shortKey, shortValue⟩ := valid
    obtain ⟨holdsKey, holdsValue⟩ := held
    exact (iteration_authenticated documented handled (by decide) (by decide) (by decide)
      (handleCommand_output documented handled shortKey shortValue holdsKey holdsValue)).congr
      (by simp [UplinkCall.message, UpMessage.encode, MessageType.code, OUTPUT])
  | partitionedOutput part k v =>
    obtain ⟨low, high, shortKey, shortValue⟩ := valid
    obtain ⟨holdsKey, holdsValue⟩ := held
    exact (iteration_authenticated documented handled (by decide) (by decide) (by decide)
      (handleCommand_partitionedOutput documented handled (by omega) high shortKey shortValue
        holdsKey holdsValue)).congr
      (by simp [UplinkCall.message, UpMessage.encode, MessageType.code, PARTITIONED_OUTPUT])
  | status msg =>
    exact (iteration_authenticated documented handled (by decide) (by decide) (by decide)
      (handleCommand_status documented handled valid)).congr
      (by simp [UplinkCall.message, UpMessage.encode, MessageType.code, STATUS])
  | progress p =>
    exact (iteration_authenticated documented handled (by decide) (by decide) (by decide)
      (handleCommand_progress documented handled _)).congr
      (by simp [UplinkCall.message, UpMessage.encode, MessageType.code, PROGRESS])
  | done => exact absurd rfl notDone
  | registerCounter id group name =>
    obtain ⟨low, high, shortGroup, shortName⟩ := valid
    exact (iteration_authenticated documented handled (by decide) (by decide) (by decide)
      (handleCommand_registerCounter documented handled low high shortGroup shortName)).congr
      (by simp [UplinkCall.message, UpMessage.encode, MessageType.code, REGISTER_COUNTER])
  | incrementCounter id amount =>
    obtain ⟨low, high, amountLow, amountHigh⟩ := valid
    exact (iteration_authenticated documented handled (by decide) (by decide) (by decide)
      (handleCommand_incrementCounter documented handled low high amountLow amountHigh)).congr
      (by simp [UplinkCall.message, UpMessage.encode, MessageType.code, INCREMENT_COUNTER])

theorem iteration_done (handled : List HandlerCall) :
    Moves (reading false handled) (reading false (handled ++ [.done]))
      (iteration input keyClass valueClass expectedDigest) (UpMessage.encode .done) false :=
  (iteration_authenticated documented handled (by decide) (by decide) (by decide)
    (handleCommand_done handled)).congr (List.append_nil _)

theorem run_handles {calls : List UplinkCall}
    (sound : ∀ c ∈ calls, c.Valid ∧ c.Held keyClass valueClass ∧ c ≠ .done ∧
      ∀ digest, c = .authenticate digest → digest = expectedDigest)
    (handled : List HandlerCall) (fuel : Nat) (enough : calls.length < fuel) (rest : Bytes) :
    run input keyClass valueClass expectedDigest fuel
        (reading false handled
          ((calls.flatMap fun c => c.message.encode) ++ UpMessage.encode .done ++ rest)) =
      some (reading false (handled ++ calls.map UplinkCall.handled ++ [.done]) rest) := by
  obtain ⟨fuel, rfl⟩ : ∃ smaller, fuel = smaller + 1 := ⟨fuel - 1, by omega⟩
  induction calls generalizing handled fuel with
  | nil =>
    simp only [List.flatMap_nil, List.nil_append, List.map_nil, List.append_nil]
    rw [run, iteration_done documented handled rest]
  | cons c calls ih =>
    obtain ⟨valid, held, notDone, expected⟩ := sound c (List.mem_cons_self ..)
    have later : ∀ c' ∈ calls, c'.Valid ∧ c'.Held keyClass valueClass ∧ c' ≠ .done ∧
        ∀ digest, c' = .authenticate digest → digest = expectedDigest :=
      fun c' member => sound c' (List.mem_cons_of_mem _ member)
    have shorter : calls.length < fuel := by
      simp only [List.length_cons] at enough
      omega
    obtain ⟨fuel', rfl⟩ : ∃ smaller, fuel = smaller + 1 := ⟨fuel - 1, by omega⟩
    have bytes : ((c :: calls).flatMap fun c => c.message.encode) ++ UpMessage.encode .done ++
        rest = c.message.encode ++
          ((calls.flatMap fun c => c.message.encode) ++ UpMessage.encode .done ++ rest) := by
      simp
    rw [bytes, run, iteration_moves documented handled valid held notDone expected]
    dsimp only
    rw [ih later _ _ shorter]
    simp

theorem run_session (short : (utf8 expectedDigest).length < 2 ^ 31) {body : List UplinkCall}
    (sound : ∀ c ∈ body, c.Valid ∧ c.Held keyClass valueClass ∧ c ≠ .done ∧
      ∀ digest, c = .authenticate digest → digest = expectedDigest)
    (fuel : Nat) (enough : body.length + 2 ≤ fuel) (rest : Bytes) :
    run input keyClass valueClass expectedDigest fuel
        ⟨((UplinkCall.authenticate expectedDigest :: body ++ [UplinkCall.done]).flatMap fun c =>
          c.message.encode) ++ rest, true, []⟩ =
      some ⟨rest, false,
        (UplinkCall.authenticate expectedDigest :: body ++ [UplinkCall.done]).map UplinkCall.handled⟩ := by
  obtain ⟨fuel, rfl⟩ : ∃ smaller, fuel = smaller + 1 := ⟨fuel - 1, by omega⟩
  have bytes : ((UplinkCall.authenticate expectedDigest :: body ++ [UplinkCall.done]).flatMap fun c =>
      c.message.encode) ++ rest =
      UpMessage.encode (.authenticationResp (utf8 expectedDigest)) ++
        ((body.flatMap fun c => c.message.encode) ++ UpMessage.encode .done ++ rest) := by
    simp [UplinkCall.message]
  rw [bytes]
  change run input keyClass valueClass expectedDigest (fuel + 1) (reading true [] _) = _
  rw [run, iteration_authenticate documented true [] short, beq_self_eq_true, Bool.not_true]
  dsimp only
  rw [run_handles documented sound _ fuel (by omega) rest]
  simp [reading, UplinkCall.handled]

end Pydoop.Java.UplinkReaderThread

namespace Pydoop.Mapreduce

open Effect HadoopUtils PyText Java
open Sercore hiding OUTPUT PARTITIONED_OUTPUT

/-- Upward agreement. In a session the task authenticates with the digest the handler expects,
makes its calls, and ends with `done`: the `Uplink` writes their messages one after another, and
the reader thread makes the same calls on its handler, then returns right after `DONE` with
nothing more read and no failure reported. `write_output` writes what `write_tuple` writes for
the same message. -/
theorem uplink_reader_agreement {input : HadoopIn} (documented : input.Documented)
    {keyClass valueClass : ObjectClass} {expectedDigest : String}
    (short : (utf8 expectedDigest).length < 2 ^ 31) {body : List UplinkCall}
    (sound : ∀ c ∈ body, c.Valid ∧ c.Held keyClass valueClass ∧ c ≠ .done ∧
      ∀ digest, c = .authenticate digest → digest = expectedDigest)
    (fuel : Nat) (enough : body.length + 2 ≤ fuel) (rest : Bytes) :
    Writes FileOutStreamObj.at
        ((UplinkCall.authenticate expectedDigest :: body ++ [UplinkCall.done]).forM UplinkCall.invoke)
        ((UplinkCall.authenticate expectedDigest :: body ++ [UplinkCall.done]).flatMap fun c =>
          c.message.encode) ∧
      UplinkReaderThread.run input keyClass valueClass expectedDigest fuel
          ⟨((UplinkCall.authenticate expectedDigest :: body ++ [UplinkCall.done]).flatMap fun c =>
            c.message.encode) ++ rest, true, []⟩ =
        some ⟨rest, false,
          (UplinkCall.authenticate expectedDigest :: body ++ [UplinkCall.done]).map UplinkCall.handled⟩ ∧
      (∀ k v : Bytes,
        Writes FileOutStreamObj.at (FileOutStreamObj.writeOutput (.bytes k) (.bytes v) none)
            (UpMessage.encode (.output k v)) ∧
          Writes FileOutStreamObj.at
            (FileOutStreamObj.writeTuple "ibb" [.int OUTPUT, .bytes k, .bytes v])
            (UpMessage.encode (.output k v))) ∧
      ∀ (part : Int) (k v : Bytes), 0 ≤ part → part < 2 ^ 31 →
        Writes FileOutStreamObj.at
            (FileOutStreamObj.writeOutput (.bytes k) (.bytes v) (some (.int part)))
            (UpMessage.encode (.partitionedOutput part k v)) ∧
          Writes FileOutStreamObj.at
            (FileOutStreamObj.writeTuple "iibb"
              [.int PARTITIONED_OUTPUT, .int part, .bytes k, .bytes v])
            (UpMessage.encode (.partitionedOutput part k v)) := by
  refine ⟨Writes.forM fun c member => invoke_writes ?_,
    UplinkReaderThread.run_session documented short sound fuel enough rest,
    fun k v => ⟨writeOutput_writes k v, writeTuple_output_writes k v⟩,
    fun part k v low high =>
      ⟨writeOutput_partitioned_writes k v low high,
        writeTuple_partitioned_writes k v (by omega) high⟩⟩
  simp only [List.cons_append, List.mem_cons, List.mem_append, List.not_mem_nil, or_false]
    at member
  rcases member with rfl | inBody | rfl
  · exact short
  · exact (sound c inBody).1
  · trivial

theorem uplink_reader_agreement_sample :
    UplinkReaderThread.run HadoopIn.sercore .bytesWritable .text "digest" 3
        ⟨((UplinkCall.authenticate "digest" :: [.output [1] [2]] ++ [UplinkCall.done]).flatMap fun c =>
          c.message.encode) ++ [], true, []⟩ =
      some ⟨[], false, [.authenticate "digest", .output [1] [2], .done]⟩ :=
  (uplink_reader_agreement HadoopIn.documented_sercore (by decide)
    (by simp [UplinkCall.Valid, UplinkCall.Held, ObjectClass.Holds]) 3 (by decide) []).2.1

/-- A negative partition is not sent: `partitioned_output(-1, k, v)` writes the `OUTPUT`
message, unlike `write_tuple('iibb', (PARTITIONED_OUTPUT, -1, k, v))`, and the reader thread
calls `output(k, v)` on its handler. -/
theorem uplink_partitioned_negative :
    Writes FileOutStreamObj.at (UplinkCall.partitionedOutput (-1) [1] [2]).invoke
        (UpMessage.encode (.output [1] [2])) ∧
      Writes FileOutStreamObj.at
        (FileOutStreamObj.writeTuple "iibb"
          [.int PARTITIONED_OUTPUT, .int (-1), .bytes [1], .bytes [2]])
        (UpMessage.encode (.partitionedOutput (-1) [1] [2])) ∧
      UpMessage.encode (.output [1] [2]) ≠ UpMessage.encode (.partitionedOutput (-1) [1] [2]) ∧
      UplinkReaderThread.run HadoopIn.sercore .bytesWritable .bytesWritable "digest" 3
          ⟨UpMessage.encode (.authenticationResp (utf8 "digest")) ++
            UpMessage.encode (.output [1] [2]) ++ UpMessage.encode .done, true, []⟩ =
        some ⟨[], false, [.authenticate "digest", .output [1] [2], .done]⟩ := by
  refine ⟨writeOutput_negative_writes [1] [2] (by decide) (by decide),
    writeTuple_partitioned_writes [1] [2] (by decide) (by decide), by decide, ?_⟩
  have session : UplinkReaderThread.run HadoopIn.sercore .bytesWritable .bytesWritable "digest" 3
      ⟨((UplinkCall.authenticate "digest" :: [.output [1] [2]] ++ [UplinkCall.done]).flatMap fun c =>
        c.message.encode) ++ [], true, []⟩ =
      some ⟨[], false,
        (UplinkCall.authenticate "digest" :: [.output [1] [2]] ++ [UplinkCall.done]).map UplinkCall.handled⟩ :=
    UplinkReaderThread.run_session HadoopIn.documented_sercore (by decide)
      (by simp [UplinkCall.Valid, UplinkCall.Held, ObjectClass.Holds]) 3 (by decide) []
  simpa [UplinkCall.message, UplinkCall.handled] using session

end Pydoop.Mapreduce
