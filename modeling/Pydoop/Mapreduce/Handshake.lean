import Pydoop.Mapreduce.MapLoop
import Pydoop.Mapreduce.Upward
import Pydoop.Java.OutputHandler

/-! The handshake that opens a session. `Application` sends `AUTHENTICATION_REQ` with the digest
of a random challenge under the job's password and waits for the digest of that digest. The
task checks the digest sent against its own digest of the challenge under the password it read,
raises if they differ, and otherwise answers `AUTHENTICATION_RESP` with its digest of the digest
sent; the reader thread hands the answer to the `OutputHandler`, which compares it with the
digest `Application` expects, and `waitForAuthentication` returns or throws on its verdict.

Both sides compute the base64 HMAC-SHA1 of a message under the password: Java's
`SecureShuffleUtils.hashFromString` and Python's `create_digest`. The model takes it as a
function `hmac` of the key and the message's bytes, and the task's `Runtime.createDigest` as the
bytes of the same text (`DigestsAgree`). -/

namespace Pydoop.Java.Application

open HadoopUtils PyText

variable (hmac : Bytes → Bytes → String)

/-- `createDigest(password, data)`: `hashFromString(data, createSecretKey(password))`, the digest
of the text's UTF-8 bytes. -/
def createDigest (password : Bytes) (data : String) : String :=
  hmac password (utf8 data)

/-- `digestToSend = createDigest(password, challenge)`. -/
def digestToSend (password : Bytes) (challenge : String) : String :=
  createDigest hmac password challenge

/-- `digestExpected = createDigest(password, digestToSend)`. -/
def digestExpected (password : Bytes) (challenge : String) : String :=
  createDigest hmac password (digestToSend hmac password challenge)

end Pydoop.Java.Application

namespace Pydoop.Mapreduce

open Effect HadoopUtils PyText Java
open Sercore hiding OUTPUT PARTITIONED_OUTPUT

/-- The task's `create_digest` gives the bytes of the text that Java's `hashFromString` gives. -/
def DigestsAgree (rt : Runtime) (hmac : Bytes → Bytes → String) : Prop :=
  ∀ key msg, rt.createDigest key msg = utf8 (hmac key msg)

namespace TaskContext

variable (rt : Runtime) {password digest challenge : Bytes} (c : TaskContext)

theorem run_authenticate_rejects (rejects : rt.createDigest password challenge ≠ digest) :
    (authenticate rt password (.bytes digest) (.bytes challenge)).run c =
      (.error (.runtimeError "server failed to authenticate"), c) := by
  have differs : PyObj.bytes (rt.createDigest password challenge) ≠ .bytes digest :=
    fun same => rejects (PyObj.bytes.inj same)
  simp only [authenticate, run_bind, asBytesBuffer, run_ofExcept_ok, if_pos differs, run_throw]

theorem run_authenticate_accepts {response : String} {w : Bytes}
    (opened : c.uplink = FileOutStreamObj.at w)
    (accepts : rt.createDigest password challenge = digest)
    (answer : rt.createDigest password digest = utf8 response) (short : (utf8 response).length < 2 ^ 31) :
    (authenticate rt password (.bytes digest) (.bytes challenge)).run c =
      (.ok (), { c with uplink := .at (w ++ (UplinkCall.authenticate response).message.encode) }) := by
  have writes := invoke_writes (c := .authenticate response) short w
  rw [UplinkCall.invoke] at writes
  simp only [authenticate, run_bind, asBytesBuffer, run_ofExcept_ok, accepts, ne_eq,
    not_true_eq_false, if_false, run_pure, answer, onUplink, run_zoom, opened, writes]
  rfl

end TaskContext

namespace Task

variable {ω : Type} (rt : Runtime) (factory : Factory ω)

theorem run_verifyDigest {s : Task ω} {password : Bytes}
    (stored : s.input.downlink.password = some password) (digest challenge : PyObj) :
    (verifyDigest rt digest challenge).run s =
      match (TaskContext.authenticate rt password digest challenge).run s.context with
      | (.ok (), c) => (.ok (), { s with
          context := c, input := { s.input with downlink := { s.input.downlink with authDone := true } } })
      | (.error e, c) => (.error e, { s with context := c }) := by
  simp only [verifyDigest, run_bind, onDownlink, onInput, run_zoom, run_get, stored, onContext]
  -- `stored` also rewrote the password kept in the downlink of the result: put it back
  rcases (TaskContext.authenticate rt password digest challenge).run s.context with ⟨_ | ⟨⟩, c⟩
  · rfl
  · simp [stored]

variable {io : HadoopIO} (documented : io.Documented)
include documented

theorem run_next_authenticationReq (lower : Level ω) (invoke : Invoke ω) (fuel : Nat) {d : Downlink}
    {digest challenge : String} (valid : (DownwardCall.authenticate digest challenge).Valid)
    {rest : Bytes} {t : Task ω}
    (stream : t.input.downlink = d.at (BinaryProtocol.send io (.authenticate digest challenge) ++ rest)) :
    (next rt factory lower invoke fuel).run t =
      (verifyDigest rt (.bytes (utf8 digest)) (.bytes (utf8 challenge)) >>= fun _ => pure none).run
        (putDownlink t (d.at rest)) := by
  have reads : Reads d.at (Downlink.readCommand rt) (BinaryProtocol.send io (.authenticate digest challenge))
      (.authenticationReq (.bytes (utf8 digest)) (.bytes (utf8 challenge))) :=
    Downlink.readCommand_send documented valid trivial (.inr ⟨_, _, rfl⟩)
  have request : (onDownlink (Downlink.readCommand rt)).run t =
      (.ok (.authenticationReq (.bytes (utf8 digest)) (.bytes (utf8 challenge))), putDownlink t (d.at rest)) :=
    run_onDownlink_reads reads rest stream
  rw [next, run_bind_ok request]

/-- `__next__` on `AUTHENTICATION_REQ` in a task that has a password: with the digest that the
task computes for the challenge, `AUTHENTICATION_RESP` is written with the digest of the digest
sent and the downlink is authenticated; with any other, `RuntimeError` is raised with nothing
written. -/
theorem run_next_request {hmac : Bytes → Bytes → String} (agrees : DigestsAgree rt hmac)
    (short : ∀ key msg, (utf8 (hmac key msg)).length < 2 ^ 31) (lower : Level ω) (invoke : Invoke ω)
    (fuel : Nat) {d : Downlink} {password : Bytes} (stored : d.password = some password)
    {digest challenge : String} (valid : (DownwardCall.authenticate digest challenge).Valid)
    {rest w : Bytes} {t : Task ω}
    (stream : t.input.downlink = d.at (BinaryProtocol.send io (.authenticate digest challenge) ++ rest))
    (opened : t.context.uplink = FileOutStreamObj.at w) :
    (next rt factory lower invoke fuel).run t =
      if Application.createDigest hmac password challenge = digest then
        (.ok none, { putDownlink t ({ d with authDone := true }.at rest) with
          context := { t.context with uplink := .at (w ++
            (UplinkCall.authenticate (Application.createDigest hmac password digest)).message.encode) } })
      else (.error (.runtimeError "server failed to authenticate"), putDownlink t (d.at rest)) := by
  have found : (putDownlink t (d.at rest)).input.downlink.password = some password := stored
  rw [run_next_authenticationReq rt factory documented lower invoke fuel valid stream, run_bind,
    run_verifyDigest rt found, context_putDownlink]
  by_cases accepted : Application.createDigest hmac password challenge = digest
  · have same : rt.createDigest password (utf8 challenge) = utf8 digest := by
      rw [agrees, ← accepted, Application.createDigest]
    rw [TaskContext.run_authenticate_accepts rt _ opened same (agrees _ _) (short _ _), if_pos accepted]
    rfl
  · have differs : rt.createDigest password (utf8 challenge) ≠ utf8 digest := by
      rw [agrees]
      exact fun same => accepted (utf8_inj same)
    rw [TaskContext.run_authenticate_rejects rt _ differs, if_neg accepted]
    rfl

end Task

end Pydoop.Mapreduce

namespace Pydoop.Java

open Effect HadoopUtils PyText Mapreduce

/-- A fresh handler given one `authenticate(digest)` call: `waitForAuthentication` returns on the
expected digest and throws the handler's `IOException` on any other, whose message reports
`digestReceived` as `false`. -/
theorem OutputHandler.waitForAuthentication_first (part : Bytes → Bytes → Int) (expected digest : String) :
    OutputHandler.waitForAuthentication
        (OutputHandler.receive part [.authenticate digest] (OutputHandler.fresh expected)) =
      if digest = expected then some (.ok ())
      else some (.error (.ioException
        ("Authentication Failed: Expected digest=" ++ expected ++ ", received=false"))) := by
  rw [OutputHandler.receive, OutputHandler.dispatch, run_bind_ok (OutputHandler.run_authenticate digest),
    run_pure]
  dsimp only
  rw [OutputHandler.receive_nil]
  by_cases same : digest = expected
  · subst same
    simp [OutputHandler.waitForAuthentication, OutputHandler.fresh]
  · simp [OutputHandler.waitForAuthentication, OutputHandler.fresh, same, Ne.symm same]
    rw [String.append_assoc]
    rfl

end Pydoop.Java

namespace Pydoop.Mapreduce

open Effect HadoopUtils PyText Java
open Sercore hiding OUTPUT PARTITIONED_OUTPUT

namespace Task

variable {ω : Type} (rt : Runtime) (factory : Factory ω)

/-- The handshake, end to end. `Application` sends the digest of its challenge under its
password. The task, with a password of its own, goes past the request exactly when its digest of
the challenge is the one sent: it then answers with its digest of the digest sent and marks the
downlink authenticated, and otherwise raises `RuntimeError` having written nothing. The reader
thread's first pass reads exactly that answer and hands it to the handler, and
`waitForAuthentication` returns exactly when the answer is the digest `Application` expects,
throwing the handler's `IOException` otherwise. -/
theorem handshake_authenticates {hmac : Bytes → Bytes → String} (agrees : DigestsAgree rt hmac)
    (short : ∀ key msg, (utf8 (hmac key msg)).length < 2 ^ 31) (javaPassword taskPassword : Bytes)
    {challenge : String} (shortChallenge : (utf8 challenge).length < 2 ^ 31)
    {io : HadoopIO} (documented : io.Documented) {input : HadoopIn} (inputDocumented : input.Documented)
    (keyClass valueClass : ObjectClass) (part : Bytes → Bytes → Int)
    (lower : Level ω) (invoke : Invoke ω) (fuel : Nat) {d : Downlink}
    (stored : d.password = some taskPassword) {rest w : Bytes} {t : Task ω}
    (stream : t.input.downlink = d.at (BinaryProtocol.send io
      (.authenticate (Application.digestToSend hmac javaPassword challenge) challenge) ++ rest))
    (opened : t.context.uplink = FileOutStreamObj.at w) :
    (next rt factory lower invoke fuel).run t =
        (if Application.createDigest hmac taskPassword challenge =
            Application.digestToSend hmac javaPassword challenge then
          (.ok none, { putDownlink t ({ d with authDone := true }.at rest) with
            context := { t.context with uplink := .at (w ++ (UplinkCall.authenticate
              (Application.createDigest hmac taskPassword
                (Application.digestToSend hmac javaPassword challenge))).message.encode) } })
        else (.error (.runtimeError "server failed to authenticate"), putDownlink t (d.at rest))) ∧
      ∀ more, ∃ thread : UplinkReaderThread,
        (UplinkReaderThread.iteration input keyClass valueClass
            (Application.digestExpected hmac javaPassword challenge)).run
          ⟨(UplinkCall.authenticate (Application.createDigest hmac taskPassword
            (Application.digestToSend hmac javaPassword challenge))).message.encode ++ more, true, []⟩ =
            (.ok true, thread) ∧
          thread.inStream = more ∧
          OutputHandler.waitForAuthentication (OutputHandler.receive part thread.handled
              (OutputHandler.fresh (Application.digestExpected hmac javaPassword challenge))) =
            if Application.createDigest hmac taskPassword
                (Application.digestToSend hmac javaPassword challenge) =
                Application.digestExpected hmac javaPassword challenge then some (.ok ())
            else some (.error (.ioException ("Authentication Failed: Expected digest=" ++
              Application.digestExpected hmac javaPassword challenge ++ ", received=false"))) := by
  refine ⟨run_next_request rt factory documented agrees short lower invoke fuel stored
    ⟨short _ _, shortChallenge⟩ stream opened, fun more => ?_⟩
  refine ⟨UplinkReaderThread.reading _ [.authenticate (Application.createDigest hmac taskPassword
      (Application.digestToSend hmac javaPassword challenge))] more,
    UplinkReaderThread.iteration_authenticate inputDocumented true [] (short _ _) more, rfl, ?_⟩
  exact OutputHandler.waitForAuthentication_first part _ _

/-- A stand-in for the HMAC on both sides, which only tells the key `[7]` from the others. -/
def sampleHmac (key _ : Bytes) : String :=
  if key = [7] then "ok" else "no"

/-- A runtime whose `create_digest` is `sampleHmac`. -/
def sampleDigestRuntime : Runtime :=
  { (default : Runtime) with createDigest := fun key msg => utf8 (sampleHmac key msg) }

/-- A task with the password `[7]`, before the request Java sends for the challenge `"4242"` under
the same password. -/
def requestTask : Task Nat :=
  Task.init (BinaryProtocol.send HadoopIO.hadoop
    (.authenticate (Application.digestToSend sampleHmac [7] "4242") "4242")) false false false false
    (some [7]) 0

theorem handshake_authenticates_same_password :
    ((next sampleDigestRuntime plainEchoFactory Level.bottom Level.bottom.invoke 1).run requestTask).1 =
        .ok none ∧
      ∀ more, ∃ thread : UplinkReaderThread,
        (UplinkReaderThread.iteration HadoopIn.sercore .bytesWritable .bytesWritable
            (Application.digestExpected sampleHmac [7] "4242")).run
          ⟨(UplinkCall.authenticate (Application.createDigest sampleHmac [7]
            (Application.digestToSend sampleHmac [7] "4242"))).message.encode ++ more, true, []⟩ =
            (.ok true, thread) ∧
          thread.inStream = more ∧
          OutputHandler.waitForAuthentication (OutputHandler.receive (fun _ _ => 0) thread.handled
            (OutputHandler.fresh (Application.digestExpected sampleHmac [7] "4242"))) = some (.ok ()) := by
  have shake := handshake_authenticates sampleDigestRuntime plainEchoFactory (fun _ _ => rfl)
    (fun key msg => by rw [sampleHmac]; split <;> decide) [7] [7]
    (show (utf8 "4242").length < 2 ^ 31 by decide)
    HadoopIO.documented_hadoop HadoopIn.documented_sercore .bytesWritable .bytesWritable (fun _ _ => 0)
    Level.bottom Level.bottom.invoke 1 (d := Downlink.init (FileInStreamObj.at []) false false (some [7]))
    (t := requestTask) rfl (by rw [List.append_nil]; rfl) rfl
  have accepted : Application.createDigest sampleHmac [7] "4242" =
      Application.digestToSend sampleHmac [7] "4242" := rfl
  have expected : Application.createDigest sampleHmac [7] (Application.digestToSend sampleHmac [7] "4242") =
      Application.digestExpected sampleHmac [7] "4242" := rfl
  refine ⟨by rw [shake.1, if_pos accepted], fun more => ?_⟩
  obtain ⟨thread, read, left, verdict⟩ := shake.2 more
  exact ⟨thread, read, left, by rw [verdict, if_pos expected]⟩

end Task

end Pydoop.Mapreduce
