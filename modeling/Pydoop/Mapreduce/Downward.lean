import Pydoop.Java.BinaryProtocol

/-! Downward agreement: the `Downlink` reads every command the Java side writes back into the
command and the fields that were sent, taking exactly the command's bytes. -/

namespace Pydoop.Mapreduce

open Effect HadoopUtils PyText Java
open Sercore hiding OUTPUT PARTITIONED_OUTPUT

/-- A getter decodes an object: the raw bytes of any, the long of a `LongWritable`, the string of
a payload that is UTF-8, and what `pickle.loads` gives for a payload it loads. -/
def Getter.Fits (rt : Runtime) (io : HadoopIO) : Getter → Writable → Prop
  | .readBytes, _ => True
  | .longWritable, .longWritable _ => True
  | .text, w => (decodeUtf8 (w.payload io)).isSome = true
  | .pickled, w => (rt.loads (w.payload io)).toBool = true
  | _, _ => False

/-- What a getter yields for an object it fits. -/
def Getter.decode (rt : Runtime) (io : HadoopIO) : Getter → Writable → PyObj
  | .longWritable, .longWritable n => .int n
  | .text, w => .str ((decodeUtf8 (w.payload io)).getD "")
  | .pickled, w =>
    match rt.loads (w.payload io) with
    | .ok loaded => loaded
    | .error _ => .none
  | _, w => .bytes (w.payload io)

/-- The installed getters fit the objects a call sends. -/
def callFits (rt : Runtime) (io : HadoopIO) (getK getV : Getter) : DownwardCall → Prop
  | .mapItem key value => getK.Fits rt io key ∧ getV.Fits rt io value
  | .reduceKey key => getK.Fits rt io key
  | .reduceValue value => getV.Fits rt io value
  | _ => True

/-- The command the `Downlink` should read for a call: the same fields, strings as the bytes
or `str`s the Python side asked for, flags as `0` or `1`. -/
def parsedCommand (rt : Runtime) (io : HadoopIO) (getK getV : Getter) : DownwardCall → Command
  | .authenticate digest challenge =>
    .authenticationReq (.bytes (utf8 digest)) (.bytes (utf8 challenge))
  | .start => .start CURRENT_PROTOCOL_VERSION
  | .setJobConf conf => .setJobConf (PyDict.ofPairs (conf.map fun kv => (.str kv.1, .str kv.2)))
  | .setInputTypes keyType valueType => .setInputTypes (.str keyType) (.str valueType)
  | .runMap split numReduces pipedInput =>
    .runMap (.bytes (split.payload io)) (.int numReduces) (.int (if pipedInput then 1 else 0))
  | .mapItem key value => .mapItem (getK.decode rt io key) (getV.decode rt io value)
  | .runReduce reduce pipedOutput => .runReduce (.int reduce) (.int (if pipedOutput then 1 else 0))
  | .reduceKey key => .reduceKey (getK.decode rt io key)
  | .reduceValue value => .reduceValue (getV.decode rt io value)
  | .endOfInput => .close
  | .abort => .abort

theorem length_confItems (conf : List (String × String)) :
    (confItems conf).length = 2 * conf.length := by
  induction conf with
  | nil => rfl
  | cons kv rest ih =>
    obtain ⟨key, value⟩ := kv
    have unfolded : confItems ((key, value) :: rest) = key :: value :: confItems rest := rfl
    rw [unfolded, List.length_cons, List.length_cons, ih, List.length_cons]
    omega

theorem itemPairs_confItems (conf : List (String × String)) :
    Downlink.itemPairs ((confItems conf).map PyObj.str) =
      conf.map fun kv => (PyObj.str kv.1, PyObj.str kv.2) := by
  induction conf with
  | nil => rfl
  | cons kv rest ih =>
    obtain ⟨key, value⟩ := kv
    have unfolded : (confItems ((key, value) :: rest)).map PyObj.str =
        .str key :: .str value :: (confItems rest).map PyObj.str := rfl
    rw [unfolded, Downlink.itemPairs, ih, List.map_cons]

theorem carries_strs {items : List String} (short : ∀ item ∈ items, (utf8 item).length < 2 ^ 31) :
    List.Forall₂ Carries (List.replicate items.length .s) (items.map .str) := by
  induction items with
  | nil => exact .nil
  | cons item rest ih =>
    exact .cons (short item (List.mem_cons_self ..))
      (ih fun other member => short other (List.mem_cons_of_mem _ member))

theorem tupleBytes_strs (items : List String) :
    tupleBytes (List.replicate items.length .s) (items.map .str) =
      items.flatMap fun item => serializeString (utf8 item) := by
  induction items with
  | nil => rfl
  | cons item rest ih =>
    have unfolded : tupleBytes (List.replicate (item :: rest).length .s) ((item :: rest).map .str) =
        serializeString (utf8 item) ++ tupleBytes (List.replicate rest.length .s) (rest.map .str) :=
      rfl
    rw [unfolded, ih, List.flatMap_cons]

section Java

variable {io : HadoopIO} (documented : io.Documented)
include documented

theorem writeString_eq_serializeString {s : String} (short : (utf8 s).length < 2 ^ 31) :
    io.writeString s = serializeString (utf8 s) := by
  rw [documented.writeString_eq s short, serializeString_eq]

theorem writeFlag_eq (flag : Bool) :
    io.writeVInt (if flag then 1 else 0) = serializeInt (if flag then 1 else 0) :=
  documented.writeVInt_eq _ (by cases flag <;> decide) (by cases flag <;> decide)

theorem writeCode_eq (type : MessageType) :
    io.writeVInt type.code = serializeInt type.code :=
  documented.writeVInt_eq _ (by cases type <;> decide) (by cases type <;> decide)

theorem writeObject_eq {w : Writable} (valid : w.Valid) :
    BinaryProtocol.writeObject io w = serializeString (w.payload io) := by
  cases w with
  | text s =>
    simp only [Writable.Valid] at valid
    rw [BinaryProtocol.writeObject, documented.writeVInt_eq _ (by omega) (by omega),
      Writable.payload, serializeString_eq]
  | bytesWritable data =>
    simp only [Writable.Valid] at valid
    rw [BinaryProtocol.writeObject, documented.writeVInt_eq _ (by omega) (by omega),
      Writable.payload, serializeString_eq]
  | null =>
    rw [BinaryProtocol.writeObject, documented.writeVInt_eq 0 (by decide) (by decide),
      Writable.payload, serializeString_eq, List.length_nil, List.append_nil]
    rfl
  | longWritable n =>
    have eight : (io.writeLong n).length = 8 := by
      rw [documented.writeLong_eq, BigEndian.length_bytes]
    simp only [BinaryProtocol.writeObject, Writable.payload, serializeString_eq, eight]
    rw [documented.writeVInt_eq ((8 : Nat) : Int) (by decide) (by decide)]
  | other serialized =>
    simp only [Writable.Valid] at valid
    rw [BinaryProtocol.writeObject, documented.writeVInt_eq _ (by omega) (by omega),
      Writable.payload, serializeString_eq]

end Java

namespace Downlink

/-- The downlink `d` with its stream positioned before `rest`. -/
def «at» (d : Downlink) (rest : Bytes) : Downlink := { d with stream := FileInStreamObj.at rest }

variable {rt : Runtime} {d : Downlink}

theorem onStream_reads {α : Type} {x : Effect PyExc FileInStreamObj α} {bs : Bytes} {a : α}
    (reads : Reads FileInStreamObj.at x bs a) : Reads d.at (onStream x) bs a :=
  Reads.zoom reads d (fun _ => rfl) (fun _ _ => rfl)

theorem readPair_reads {fmt : List Format} {a b : PyObj}
    (carried : List.Forall₂ Carries fmt [a, b]) :
    Reads d.at (readPair (formatText fmt)) (tupleBytes fmt [a, b]) (a, b) := by
  unfold readPair
  refine ((onStream_reads (FileInStreamObj.readTuple_reads carried)).bind ?_).congr
    (List.append_nil _)
  exact Reads.pure _

theorem readTriple_reads {fmt : List Format} {a b c : PyObj}
    (carried : List.Forall₂ Carries fmt [a, b, c]) :
    Reads d.at (readTriple (formatText fmt)) (tupleBytes fmt [a, b, c]) (a, b, c) := by
  unfold readTriple
  refine ((onStream_reads (FileInStreamObj.readTuple_reads carried)).bind ?_).congr
    (List.append_nil _)
  exact Reads.pure _

theorem callGetter_readBytes {data : Bytes} (short : data.length < 2 ^ 31) :
    Reads d.at (callGetter rt .readBytes) (serializeString data) (.bytes data) := by
  rw [callGetter]
  exact (onStream_reads (FileInStreamObj.readBytes_reads short)).map _

theorem callGetter_text {data : Bytes} {s : String} (short : data.length < 2 ^ 31)
    (decoded : decodeUtf8 data = some s) :
    Reads d.at (callGetter rt .text) (serializeString data) (.str s) := by
  rw [callGetter]
  exact (onStream_reads (FileInStreamObj.readString_decodes short decoded)).map _

theorem callGetter_pickled {data : Bytes} {loaded : PyObj} (short : data.length < 2 ^ 31)
    (loads : rt.loads data = .ok loaded) :
    Reads d.at (callGetter rt .pickled) (serializeString data) loaded := by
  rw [callGetter]
  refine Reads.congr ((onStream_reads (FileInStreamObj.readBytes_reads short)).bind ?_)
    (List.append_nil _)
  rw [loads]
  exact Reads.pure _

theorem callGetter_longWritable {n : Int} (low : -2 ^ 63 ≤ n) (high : n < 2 ^ 63) :
    Reads d.at (callGetter rt .longWritable)
      (serializeInt 8 ++ BigEndian.bytes 8 (n % 2 ^ 64).toNat) (.int n) := by
  rw [callGetter]
  refine (onStream_reads (FileInStreamObj.readVInt_reads (n := 8) (by decide) (by decide))).bind ?_
  simp only [ne_eq, not_true_eq_false, if_false]
  exact (onStream_reads (FileInStreamObj.readLongWritable_reads low high)).map _

theorem readJobConf_reads {conf : List (String × String)} (counted : 2 * conf.length < 2 ^ 31)
    (short : ∀ item ∈ confItems conf, (utf8 item).length < 2 ^ 31) :
    Reads d.at readJobConf
      (serializeInt (confItems conf).length ++
        (confItems conf).flatMap fun item => serializeString (utf8 item))
      (PyDict.ofPairs (conf.map fun kv => (.str kv.1, .str kv.2))) := by
  have length := length_confItems conf
  have fmt : String.ofList (List.replicate ((confItems conf).length : Int).toNat 's') =
      formatText (List.replicate (confItems conf).length .s) := by
    rw [Int.toNat_natCast, formatText, List.map_replicate]
    rfl
  unfold readJobConf
  refine (onStream_reads (FileInStreamObj.readVInt_reads (by omega) (by omega))).bind ?_
  have even : ¬((confItems conf).length : Int) % 2 = 1 := by omega
  simp only [even, if_false, fmt]
  rw [← itemPairs_confItems, ← tupleBytes_strs, ← List.append_nil (tupleBytes _ _)]
  exact (onStream_reads (FileInStreamObj.readTuple_reads (carries_strs short))).bind (Reads.pure _)

section Fields

theorem readFields_authenticationReq {digest challenge : Bytes}
    (shortDigest : digest.length < 2 ^ 31) (shortChallenge : challenge.length < 2 ^ 31) :
    Reads d.at (readFields rt AUTHENTICATION_REQ)
      (serializeString digest ++ serializeString challenge)
      (.authenticationReq (.bytes digest) (.bytes challenge)) := by
  have fieldBytes : serializeString digest ++ serializeString challenge =
      tupleBytes [.b, .b] [.bytes digest, .bytes challenge] := by
    simp [tupleBytes, itemBytes]
  have fields := readPair_reads (d := d) (.cons (show Carries .b (.bytes digest) from shortDigest)
    (.cons (show Carries .b (.bytes challenge) from shortChallenge) .nil))
  rw [readFields, if_pos rfl, show "bb" = formatText [.b, .b] from rfl]
  rw [fieldBytes]
  exact fields.bind_pure rfl

theorem readFields_start {version : Int} (low : -2 ^ 31 ≤ version) (high : version < 2 ^ 31) :
    Reads d.at (readFields rt START) (serializeInt version) (.start version) := by
  rw [readFields, if_neg (by decide), if_pos rfl]
  exact (onStream_reads (FileInStreamObj.readVInt_reads low high)).bind_pure rfl

theorem readFields_setJobConf {conf : List (String × String)} (counted : 2 * conf.length < 2 ^ 31)
    (short : ∀ item ∈ confItems conf, (utf8 item).length < 2 ^ 31) :
    Reads d.at (readFields rt SET_JOB_CONF)
      (serializeInt (confItems conf).length ++
        (confItems conf).flatMap fun item => serializeString (utf8 item))
      (.setJobConf (PyDict.ofPairs (conf.map fun kv => (.str kv.1, .str kv.2)))) := by
  rw [readFields, if_neg (by decide), if_neg (by decide), if_pos rfl]
  exact (readJobConf_reads counted short).bind_pure rfl

theorem readFields_runMap {split : Bytes} {nred pipedInput : Int}
    (short : split.length < 2 ^ 31) (nredLow : -2 ^ 31 ≤ nred) (nredHigh : nred < 2 ^ 31)
    (flagLow : -2 ^ 31 ≤ pipedInput) (flagHigh : pipedInput < 2 ^ 31) :
    Reads d.at (readFields rt RUN_MAP)
      (serializeString split ++ serializeInt nred ++ serializeInt pipedInput)
      (.runMap (.bytes split) (.int nred) (.int pipedInput)) := by
  have fieldBytes : serializeString split ++ serializeInt nred ++ serializeInt pipedInput =
      tupleBytes [.b, .i, .i] [.bytes split, .int nred, .int pipedInput] := by
    simp [tupleBytes, itemBytes]
  have fields := readTriple_reads (d := d)
    (.cons (show Carries .b (.bytes split) from short)
      (.cons (show Carries .i (.int nred) from ⟨nredLow, nredHigh⟩)
        (.cons (show Carries .i (.int pipedInput) from ⟨flagLow, flagHigh⟩) .nil)))
  rw [readFields, if_neg (by decide), if_neg (by decide), if_neg (by decide), if_pos rfl,
    show "bii" = formatText [.b, .i, .i] from rfl]
  rw [fieldBytes]
  exact fields.bind_pure rfl

theorem readFields_setInputTypes {keyType valueType : String}
    (shortKey : (utf8 keyType).length < 2 ^ 31) (shortValue : (utf8 valueType).length < 2 ^ 31) :
    Reads d.at (readFields rt SET_INPUT_TYPES)
      (serializeString (utf8 keyType) ++ serializeString (utf8 valueType))
      (.setInputTypes (.str keyType) (.str valueType)) := by
  have fieldBytes : serializeString (utf8 keyType) ++ serializeString (utf8 valueType) =
      tupleBytes [.s, .s] [.str keyType, .str valueType] := by
    simp [tupleBytes, itemBytes]
  have fields := readPair_reads (d := d) (.cons (show Carries .s (.str keyType) from shortKey)
    (.cons (show Carries .s (.str valueType) from shortValue) .nil))
  rw [readFields, if_neg (by decide), if_neg (by decide), if_neg (by decide), if_neg (by decide),
    if_pos rfl, show "ss" = formatText [.s, .s] from rfl]
  rw [fieldBytes]
  exact fields.bind_pure rfl

theorem readFields_mapItem {keyBytes valueBytes : Bytes} {key value : PyObj}
    (readKey : Reads d.at (callGetter rt d.getK) keyBytes key)
    (readValue : Reads d.at (callGetter rt d.getV) valueBytes value) :
    Reads d.at (readFields rt MAP_ITEM) (keyBytes ++ valueBytes) (.mapItem key value) := by
  rw [readFields, if_neg (by decide), if_neg (by decide), if_neg (by decide), if_neg (by decide),
    if_neg (by decide), if_pos rfl]
  refine Reads.get_bind (fun _ => rfl) (readKey.bind ?_)
  exact Reads.get_bind (fun _ => rfl) (readValue.bind_pure rfl)

theorem onStream_raises {α : Type} {x : Effect PyExc FileInStreamObj α} {bs rest : Bytes} {e : PyExc}
    (raised : x.run (FileInStreamObj.at bs) = (.error e, FileInStreamObj.at rest)) :
    (onStream x).run (d.at bs) = (.error e, d.at rest) := by
  simp only [onStream, run_zoom, Downlink.at, raised]

theorem readFields_mapItem_rejects {data : Bytes} (getter : d.getK = .text) (short : data.length < 2 ^ 31)
    (invalid : decodeUtf8 data = none) (rest : Bytes) :
    (readFields rt MAP_ITEM).run (d.at (serializeString data ++ rest)) =
      (.error .unicodeDecodeError, d.at rest) := by
  have rejected : (callGetter rt .text).run (d.at (serializeString data ++ rest)) =
      (.error .unicodeDecodeError, d.at rest) := by
    rw [callGetter, run_map, onStream_raises (FileInStreamObj.readString_rejects short invalid rest)]
    rfl
  rw [readFields, if_neg (by decide), if_neg (by decide), if_neg (by decide), if_neg (by decide),
    if_neg (by decide), if_pos rfl, run_bind_ok (run_get _), show (d.at _).getK = d.getK from rfl,
    getter, run_bind_error rejected]

theorem readFields_runReduce {part pipedOutput : Int}
    (partLow : -2 ^ 31 ≤ part) (partHigh : part < 2 ^ 31)
    (flagLow : -2 ^ 31 ≤ pipedOutput) (flagHigh : pipedOutput < 2 ^ 31) :
    Reads d.at (readFields rt RUN_REDUCE) (serializeInt part ++ serializeInt pipedOutput)
      (.runReduce (.int part) (.int pipedOutput)) := by
  have fieldBytes : serializeInt part ++ serializeInt pipedOutput =
      tupleBytes [.i, .i] [.int part, .int pipedOutput] := by
    simp [tupleBytes, itemBytes]
  have fields := readPair_reads (d := d)
    (.cons (show Carries .i (.int part) from ⟨partLow, partHigh⟩)
      (.cons (show Carries .i (.int pipedOutput) from ⟨flagLow, flagHigh⟩) .nil))
  rw [readFields, if_neg (by decide), if_neg (by decide), if_neg (by decide), if_neg (by decide),
    if_neg (by decide), if_neg (by decide), if_pos rfl, show "ii" = formatText [.i, .i] from rfl]
  rw [fieldBytes]
  exact fields.bind_pure rfl

theorem readFields_reduceKey {keyBytes : Bytes} {key : PyObj}
    (readKey : Reads d.at (callGetter rt d.getK) keyBytes key) :
    Reads d.at (readFields rt REDUCE_KEY) keyBytes (.reduceKey key) := by
  rw [readFields]
  repeat rw [if_neg (by decide)]
  rw [if_pos rfl]
  exact Reads.get_bind (fun _ => rfl) (readKey.bind_pure rfl)

theorem readFields_reduceValue {valueBytes : Bytes} {value : PyObj}
    (readValue : Reads d.at (callGetter rt d.getV) valueBytes value) :
    Reads d.at (readFields rt REDUCE_VALUE) valueBytes (.reduceValue value) := by
  rw [readFields]
  repeat rw [if_neg (by decide)]
  rw [if_pos rfl]
  exact Reads.get_bind (fun _ => rfl) (readValue.bind_pure rfl)

theorem readFields_abort : Reads d.at (readFields rt ABORT) [] .abort := by
  rw [readFields]
  repeat rw [if_neg (by decide)]
  rw [if_pos rfl]
  exact Reads.pure _

theorem readFields_close : Reads d.at (readFields rt CLOSE) [] .close := by
  rw [readFields]
  repeat rw [if_neg (by decide)]
  rw [if_pos rfl]
  exact Reads.pure _

end Fields

theorem readCommand_reads {cmd : Int} (low : -2 ^ 31 ≤ cmd) (high : cmd < 2 ^ 31)
    (authorized : d.authDone = true ∨ cmd = AUTHENTICATION_REQ) {bs : Bytes} {command : Command}
    (fields : Reads d.at (readFields rt cmd) bs command) :
    Reads d.at (readCommand rt) (serializeInt cmd ++ bs) command := by
  unfold readCommand
  refine (onStream_reads (FileInStreamObj.readVInt_reads low high)).bind ?_
  refine Reads.get_bind (fun rest => ?_) fields
  have allowed : ¬(cmd ≠ AUTHENTICATION_REQ ∧ (!(d.at rest).authDone) = true) := by
    rcases authorized with done | authenticating
    · simp [Downlink.at, done]
    · simp [authenticating]
  simp only [allowed, if_false]

section Java

variable {io : HadoopIO} (documented : io.Documented)
include documented

theorem length_payload {w : Writable} (valid : w.Valid) : (w.payload io).length < 2 ^ 31 := by
  cases w with
  | text s => exact valid
  | bytesWritable data => exact valid
  | null => simp [Writable.payload]
  | longWritable n =>
    rw [Writable.payload, documented.writeLong_eq, BigEndian.length_bytes]
    decide
  | other serialized => exact valid

theorem callGetter_decode {g : Getter} {w : Writable} (fits : g.Fits rt io w) (valid : w.Valid) :
    Reads d.at (callGetter rt g) (BinaryProtocol.writeObject io w) (g.decode rt io w) := by
  rw [writeObject_eq documented valid]
  cases g with
  | readBytes =>
    have decoded : Getter.decode rt io .readBytes w = .bytes (w.payload io) := by cases w <;> rfl
    rw [decoded]
    exact callGetter_readBytes (length_payload documented valid)
  | longWritable =>
    cases w with
    | longWritable n =>
      have payload : serializeString (Writable.payload io (.longWritable n)) =
          serializeInt 8 ++ BigEndian.bytes 8 (n % 2 ^ 64).toNat := by
        rw [Writable.payload, documented.writeLong_eq, serializeString_eq, BigEndian.length_bytes]
        rfl
      obtain ⟨low, high⟩ := valid
      rw [payload]
      exact callGetter_longWritable low high
    | _ => simp only [Getter.Fits] at fits
  | text =>
    obtain ⟨s, decoded⟩ := Option.isSome_iff_exists.mp fits
    have yields : Getter.decode rt io .text w = .str s := by
      rw [Getter.decode, decoded, Option.getD_some]
    rw [yields]
    exact callGetter_text (length_payload documented valid) decoded
  | pickled =>
    obtain ⟨loaded, loads⟩ : ∃ loaded, rt.loads (w.payload io) = .ok loaded := by
      simp only [Getter.Fits] at fits
      cases outcome : rt.loads (w.payload io) with
      | ok loaded => exact ⟨loaded, rfl⟩
      | error e => rw [outcome] at fits; cases fits
    have yields : Getter.decode rt io .pickled w = loaded := by
      rw [Getter.decode, loads]
    rw [yields]
    exact callGetter_pickled (length_payload documented valid) loads
  | _ => simp only [Getter.Fits] at fits

theorem readCommand_send {call : DownwardCall} (valid : call.Valid)
    (fits : callFits rt io d.getK d.getV call)
    (authorized : d.authDone = true ∨ ∃ digest challenge, call = .authenticate digest challenge) :
    Reads d.at (readCommand rt) (BinaryProtocol.send io call)
      (parsedCommand rt io d.getK d.getV call) := by
  cases call with
  | authenticate digest challenge =>
    obtain ⟨shortDigest, shortChallenge⟩ := valid
    rw [BinaryProtocol.send, BinaryProtocol.authenticate, writeCode_eq documented,
      writeString_eq_serializeString documented shortDigest,
      writeString_eq_serializeString documented shortChallenge, List.append_assoc]
    exact readCommand_reads (by decide) (by decide) (.inr rfl)
      (readFields_authenticationReq shortDigest shortChallenge)
  | start =>
    have done := authorized.resolve_right (by simp)
    rw [BinaryProtocol.send, BinaryProtocol.start, writeCode_eq documented,
      documented.writeVInt_eq CURRENT_PROTOCOL_VERSION (by decide) (by decide)]
    exact readCommand_reads (by decide) (by decide) (.inl done) (readFields_start (by decide) (by decide))
  | setJobConf conf =>
    have done := authorized.resolve_right (by simp)
    obtain ⟨_, counted, short⟩ := valid
    have length := length_confItems conf
    have strings : (confItems conf).flatMap io.writeString =
        (confItems conf).flatMap fun item => serializeString (utf8 item) :=
      List.flatMap_congr fun item member => writeString_eq_serializeString documented (short item member)
    rw [BinaryProtocol.send, BinaryProtocol.setJobConf, writeCode_eq documented,
      documented.writeVInt_eq _ (by omega) (by omega), strings, List.append_assoc]
    exact readCommand_reads (by decide) (by decide) (.inl done) (readFields_setJobConf counted short)
  | setInputTypes keyType valueType =>
    have done := authorized.resolve_right (by simp)
    obtain ⟨shortKey, shortValue⟩ := valid
    rw [BinaryProtocol.send, BinaryProtocol.setInputTypes, writeCode_eq documented,
      writeString_eq_serializeString documented shortKey,
      writeString_eq_serializeString documented shortValue, List.append_assoc]
    exact readCommand_reads (by decide) (by decide) (.inl done)
      (readFields_setInputTypes shortKey shortValue)
  | runMap split numReduces pipedInput =>
    have done := authorized.resolve_right (by simp)
    obtain ⟨splitValid, low, high⟩ := valid
    rw [BinaryProtocol.send, BinaryProtocol.runMap, writeCode_eq documented,
      writeObject_eq documented splitValid, documented.writeVInt_eq numReduces low high,
      writeFlag_eq documented]
    refine (readCommand_reads (by decide) (by decide) (.inl done)
      (readFields_runMap (length_payload documented splitValid) low high
        (by cases pipedInput <;> decide) (by cases pipedInput <;> decide))).congr ?_
    simp only [List.append_assoc]
    rfl
  | mapItem key value =>
    have done := authorized.resolve_right (by simp)
    obtain ⟨keyValid, valueValid⟩ := valid
    obtain ⟨keyFits, valueFits⟩ := fits
    rw [BinaryProtocol.send, BinaryProtocol.mapItem, writeCode_eq documented, List.append_assoc]
    exact readCommand_reads (by decide) (by decide) (.inl done)
      (readFields_mapItem (callGetter_decode documented keyFits keyValid)
        (callGetter_decode documented valueFits valueValid))
  | runReduce reduce pipedOutput =>
    have done := authorized.resolve_right (by simp)
    obtain ⟨low, high⟩ := valid
    rw [BinaryProtocol.send, BinaryProtocol.runReduce, writeCode_eq documented,
      documented.writeVInt_eq reduce low high, writeFlag_eq documented, List.append_assoc]
    exact readCommand_reads (by decide) (by decide) (.inl done)
      (readFields_runReduce low high (by cases pipedOutput <;> decide)
        (by cases pipedOutput <;> decide))
  | reduceKey key =>
    have done := authorized.resolve_right (by simp)
    rw [BinaryProtocol.send, BinaryProtocol.reduceKey, writeCode_eq documented]
    exact readCommand_reads (by decide) (by decide) (.inl done)
      (readFields_reduceKey (callGetter_decode documented fits valid))
  | reduceValue value =>
    have done := authorized.resolve_right (by simp)
    rw [BinaryProtocol.send, BinaryProtocol.reduceValue, writeCode_eq documented]
    exact readCommand_reads (by decide) (by decide) (.inl done)
      (readFields_reduceValue (callGetter_decode documented fits valid))
  | endOfInput =>
    have done := authorized.resolve_right (by simp)
    rw [BinaryProtocol.send, BinaryProtocol.endOfInput, writeCode_eq documented]
    exact (readCommand_reads (by decide) (by decide) (.inl done) readFields_close).congr
      (List.append_nil _)
  | abort =>
    have done := authorized.resolve_right (by simp)
    rw [BinaryProtocol.send, BinaryProtocol.abort, writeCode_eq documented]
    exact (readCommand_reads (by decide) (by decide) (.inl done) readFields_abort).congr
      (List.append_nil _)

end Java

end Downlink

theorem parsedCommand_setJobConf (rt : Runtime) (io : HadoopIO) (getK getV : Getter)
    {conf : List (String × String)} (distinct : (conf.map Prod.fst).Nodup) :
    ∃ jobConf, parsedCommand rt io getK getV (.setJobConf conf) = .setJobConf jobConf ∧
      jobConf.entries = conf.map fun kv => (.str kv.1, .str kv.2) := by
  have keys : ((conf.map fun kv => (PyObj.str kv.1, PyObj.str kv.2)).map Prod.fst) =
      (conf.map Prod.fst).map PyObj.str := by
    simp only [List.map_map]
    rfl
  refine ⟨_, rfl, PyDict.entries_ofPairs ?_⟩
  rw [keys]
  exact distinct.map fun _ _ same => PyObj.str.inj same

/-- Downward agreement over a whole stream. The Java side writes its calls one after another;
before each read the downlink's other fields are whatever the handling of the earlier commands
left (authenticated after the first, getters installed by `setup_deser`). Each read yields the
call's command and stops exactly at the next call's bytes, and a configuration arrives as a
`JobConf` with its entries. -/
theorem downlink_reads_downward_calls {io : HadoopIO} (documented : io.Documented) (rt : Runtime)
    (steps : List (Downlink × DownwardCall))
    (accepted : ∀ step ∈ steps, step.2.Valid ∧ callFits rt io step.1.getK step.1.getV step.2 ∧
      (step.1.authDone = true ∨ ∃ digest challenge, step.2 = .authenticate digest challenge))
    (rest : Bytes) :
    (∀ (i : Nat) (bound : i < steps.length),
      (Downlink.readCommand rt).run
          (steps[i].1.at ((steps.drop i).flatMap (fun step => BinaryProtocol.send io step.2) ++
            rest)) =
        (.ok (parsedCommand rt io steps[i].1.getK steps[i].1.getV steps[i].2),
          steps[i].1.at ((steps.drop (i + 1)).flatMap (fun step => BinaryProtocol.send io step.2) ++
            rest))) ∧
    ∀ step ∈ steps, ∀ conf, step.2 = .setJobConf conf →
      ∃ jobConf, parsedCommand rt io step.1.getK step.1.getV step.2 = .setJobConf jobConf ∧
        jobConf.entries = conf.map fun kv => (.str kv.1, .str kv.2) := by
  refine ⟨fun i bound => ?_, fun step member conf call => ?_⟩
  · obtain ⟨valid, fits, authorized⟩ := accepted steps[i] (List.getElem_mem bound)
    rw [List.drop_eq_getElem_cons bound, List.flatMap_cons, List.append_assoc]
    exact Downlink.readCommand_send documented valid fits authorized _
  · obtain ⟨valid, -, -⟩ := accepted step member
    rw [call] at valid ⊢
    exact parsedCommand_setJobConf rt io _ _ valid.1

theorem downlink_reads_downward_calls_sample :
    (Downlink.readCommand default).run
        ({ Downlink.init (FileInStreamObj.at []) false false none with authDone := true }.at
          (BinaryProtocol.send HadoopIO.hadoop (.mapItem (.text (utf8 "key")) (.bytesWritable [7])))) =
      (.ok (.mapItem (.bytes (utf8 "key")) (.bytes [7])),
        { Downlink.init (FileInStreamObj.at []) false false none with authDone := true }.at []) := by
  have agreement := (downlink_reads_downward_calls HadoopIO.documented_hadoop default
    [(Downlink.init (FileInStreamObj.at []) false false none, .authenticate "digest" "challenge"),
      ({ Downlink.init (FileInStreamObj.at []) false false none with authDone := true },
        .mapItem (.text (utf8 "key")) (.bytesWritable [7]))]
    (by simp [DownwardCall.Valid, Writable.Valid, callFits, Getter.Fits, Downlink.init]; decide)
    []).1 1 (by decide)
  simpa [parsedCommand, Getter.decode, Writable.payload, Downlink.init] using agreement

theorem Downlink.readCommand_rejects_text {d : Downlink} (done : d.authDone = true)
    (getter : d.getK = .text) {data : Bytes} (short : data.length < 2 ^ 31)
    (invalid : decodeUtf8 data = none) (value : Writable) (rest : Bytes) (rt : Runtime) :
    ((Downlink.readCommand rt).run (d.at (BinaryProtocol.send HadoopIO.hadoop
      (.mapItem (.text data) value) ++ rest))).1 = .error .unicodeDecodeError := by
  have code := Downlink.onStream_reads (d := d) (FileInStreamObj.readVInt_reads (n := MAP_ITEM)
    (by decide) (by decide))
  have key : BinaryProtocol.writeObject HadoopIO.hadoop (.text data) = serializeString data :=
    writeObject_eq HadoopIO.documented_hadoop short
  rw [BinaryProtocol.send, BinaryProtocol.mapItem, writeCode_eq HadoopIO.documented_hadoop, key,
    show MessageType.MAP_ITEM.code = MAP_ITEM from rfl, List.append_assoc, List.append_assoc,
    Downlink.readCommand,
    run_bind_ok (code (serializeString data ++ _)), run_bind_ok (run_get _),
    if_neg (fun gate => by simp [Downlink.at, done] at gate),
    Downlink.readFields_mapItem_rejects getter short invalid]

/-- A `Text` need not hold UTF-8: one that does not, read by `_get_Text`, makes `__next__` raise
`UnicodeDecodeError` where the Java side sent a well-formed `MAP_ITEM`. -/
theorem downlink_rejects_non_utf8_text :
    ((Downlink.readCommand default).run
        ({ Downlink.init (FileInStreamObj.at []) false false none with authDone := true, getK := .text }.at
          (BinaryProtocol.send HadoopIO.hadoop (.mapItem (.text [0xff]) (.bytesWritable [7]))))).1 =
      .error .unicodeDecodeError := by
  have rejected := Downlink.readCommand_rejects_text
    (d := { Downlink.init (FileInStreamObj.at []) false false none with authDone := true, getK := .text })
    rfl rfl (show [(0xff : UInt8)].length < 2 ^ 31 by decide) (by decide) (.bytesWritable [7]) [] default
  rwa [List.append_nil] at rejected

end Pydoop.Mapreduce
