import Pydoop.Mapreduce.Combiner
import Pydoop.Mapreduce.Downward

/-! A map task fed by a Java record reader, as `Downlink.__next__` drives it: how the keys and
values of `MAP_ITEM` are decoded, and how the task ends. The decoding is patched in by
`setup_avro_deser`, whose key condition `a == 'K' or a == 'KV' and not self.raw_k` leaves
`raw_keys` out of the `K` mode. `CLOSE` calls `TaskContext.close()` inside `try: ... finally:
raise StopIteration`: whatever `close` raised is replaced by the `StopIteration` that ends
`for _ in connection.downlink`, and `close` has written `DONE` in its own `finally` block. -/

namespace Pydoop.Mapreduce

open Effect HadoopUtils PyText Java
open Sercore hiding OUTPUT PARTITIONED_OUTPUT

namespace Downlink

/-- A runtime where `pydoop.avrolib` imports, whose schema parser takes any string and raises
`TypeError` on `None`, and whose deserializer reads every record as the string `"record"`. -/
def avroRuntime : Runtime :=
  { Task.sampleRuntime with
    avroParse := fun schema => match schema with
      | .str _ => .ok schema
      | _ => .error .typeError
    avroDeserialize := fun _ _ => .ok (.str "record") }

/-- The commands of a map task over one record with the avro input mode `K` and a key schema. -/
def avroKeyStream : Bytes :=
  [DownwardCall.authenticate "c" "c", .start,
    .setJobConf [(AVRO_INPUT, "K"), (AVRO_KEY_INPUT_SCHEMA, "\"string\"")],
    .runMap (.bytesWritable []) 1 true,
    .setInputTypes "org.apache.hadoop.io.BytesWritable" "org.apache.hadoop.io.BytesWritable",
    .mapItem (.bytesWritable [1]) (.bytesWritable [2]), .endOfInput].flatMap
    (BinaryProtocol.send HadoopIO.hadoop)

end Downlink

namespace Task

variable {ω : Type} (rt : Runtime) (factory : Factory ω)

/-- A job whose mapper runs `echoMap`, without a combiner. -/
def plainEchoFactory : Factory Nat := { echoFactory (.ret (.ok ())) with cclass := none }

/-- The same job with a `mapper.close` that raises. -/
def closeFailingFactory : Factory Nat :=
  { plainEchoFactory with mclass := ⟨.ret (.ok ()), echoMap, .ret (.error (.runtimeError "close"))⟩ }

/-- With `raw_keys` set and the avro input mode `K`, `mapper.map` is called with the Avro record
and not with the raw key `b'\x01'`. -/
theorem raw_keys_avro_decoded :
    ((Task.run Downlink.avroRuntime plainEchoFactory 8).run
        (Task.init Downlink.avroKeyStream true false false false none 0)).1 = .ok () ∧
      Event.call .mapperMap (.str "record") (.bytes [2]) ∈
        ((Task.run Downlink.avroRuntime plainEchoFactory 8).run
          (Task.init Downlink.avroKeyStream true false false false none 0)).2.trace ∧
      Event.call .mapperMap (.bytes [1]) (.bytes [2]) ∉
        ((Task.run Downlink.avroRuntime plainEchoFactory 8).run
          (Task.init Downlink.avroKeyStream true false false false none 0)).2.trace := by
  decide +kernel

theorem run_onDownlink_reads {α : Type} {x : Effect PyExc Downlink α} {d : Downlink} {bs : Bytes}
    {a : α} (reads : Reads d.at x bs a) (rest : Bytes) {t : Task ω}
    (reading : t.input.downlink = d.at (bs ++ rest)) :
    (onDownlink x).run t = (.ok a, { t with input := { t.input with downlink := d.at rest } }) := by
  simp only [onDownlink, onInput, run_zoom, reading, reads rest]

/-- `mapper.close` raises, yet the task ends normally and the uplink ends with `DONE`. -/
theorem close_failure_reported_done :
    ((Task.run sampleRuntime closeFailingFactory 8).run
        (Task.init echoStream false false false false none 0)).1 = .ok () ∧
      Event.raise .mapperClose (.runtimeError "close") ∈
        ((Task.run sampleRuntime closeFailingFactory 8).run
          (Task.init echoStream false false false false none 0)).2.trace ∧
      serializeInt DONE <:+ ((Task.run sampleRuntime closeFailingFactory 8).run
        (Task.init echoStream false false false false none 0)).2.context.uplink.written := by
  decide +kernel

end Task

end Pydoop.Mapreduce
