import Pydoop.Java.BinaryProtocol
import Pydoop.Lib.PyDict

/-! `OutputHandler.java` and `PipesPartitioner.java`: what the Java side of a task does with the
calls its `UplinkReaderThread` makes. Records go to the map context, each with the partition
`PipesPartitioner.getPartition` gives it: the one `partitionedOutput` last set on the reader
thread, which is never cleared, or the job's Java partitioner if none was set. Counters are
registered by id and incremented through the context's counter of the same group and name.
`done`, `failed` and `authenticate` set the flags the application thread waits on in
`waitForFinish` and `waitForAuthentication`.

The two threads share the handler: the application thread looks at it after some prefix of the
reader thread's calls. The main results: every run of the reader thread ends with `done` or
`failed`, so the application thread always leaves `waitForFinish`, and wherever it looks at the
handler it leaves with the verdict the end of the run gives. -/

namespace Pydoop.Java

open Effect HadoopUtils

/-- What `OutputHandler.exception` holds: a `Throwable` the reader thread caught and passed to
`failed`, the `IOException` a handler method throws, with its message, or the
`NullPointerException` of `incrementCounter` on an id with no counter. -/
inductive Failure
  | thread (e : Throwable)
  | ioException (message : String)
  | nullPointer
  deriving DecidableEq, Repr

/-- The fields of an `OutputHandler` with the parts of the map task's context it writes to: the
records collected, each with its partition, the status, the counters by group and name (Java
`long`s), and `PipesPartitioner.cache`, the reader thread's thread-local partition. -/
structure HandlerState where
  expectedDigest : String
  written : List (Bytes × Bytes × Int)
  nextPartition : Option Int
  status : String
  progressValue : UInt32
  registeredCounters : PyDict Int (String × String)
  counters : String × String → Int
  done : Bool
  exception : Option Failure
  digestReceived : Bool

/-- `PipesPartitioner.getPartition(key, value, numPartitions)`: the partition set by hand on this
thread, if there is one, else what the job's Java partitioner `part` gives. -/
def PipesPartitioner.getPartition (part : Bytes → Bytes → Int) (cache : Option Int)
    (key value : Bytes) : Int :=
  match cache with
  | some result => result
  | none => part key value

/-- A call that ends the reader thread's run: `done()` after `DONE`, or `failed(e)` from its
`catch`. -/
def HandlerCall.Final : HandlerCall → Bool
  | .done | .failed _ => true
  | _ => false

namespace UplinkReaderThread

section Ends

variable (base : List HandlerCall)

/-- The calls made since `base`: none of them ends the run. -/
def Ongoing (t : UplinkReaderThread) : Prop :=
  ∃ new, t.handled = base ++ new ∧ ∀ c ∈ new, c.Final = false

/-- The calls made since `base`: some that do not end the run, then `done()`. -/
def Finished (t : UplinkReaderThread) : Prop :=
  ∃ new, t.handled = base ++ new ++ [.done] ∧ ∀ c ∈ new, c.Final = false

/-- What a pass of the loop leaves: `done()` as the last call where it returns `false`, no call
that ends the run otherwise. -/
def Passed : Except Throwable Bool → UplinkReaderThread → Prop
  | .ok false, t => Finished base t
  | _, t => Ongoing base t

theorem onStream_keeps {α : Type} (x : Effect Throwable Bytes α) : Keeps (Ongoing base) (onStream x) :=
  Keeps.zoom fun _ _ ongoing => ongoing

theorem call_keeps {c : HandlerCall} (going : c.Final = false) : Keeps (Ongoing base) (call c) := by
  refine Keeps.modify fun t ongoing => ?_
  obtain ⟨new, handled, others⟩ := ongoing
  refine ⟨new ++ [c], by rw [handled, List.append_assoc], fun c' member => ?_⟩
  rcases List.mem_append.mp member with earlier | last
  · exact others c' earlier
  · rw [List.mem_singleton.mp last]
    exact going

theorem passed_bind {α : Type} {x : Effect Throwable UplinkReaderThread α}
    {f : α → Effect Throwable UplinkReaderThread Bool} (first : Keeps (Ongoing base) x)
    (next : ∀ a, Triple (Ongoing base) (f a) (Passed base)) :
    Triple (Ongoing base) (x >>= f) (Passed base) :=
  Triple.bind first next fun _ _ ongoing => ongoing

theorem passed_true : Triple (Ongoing base) (pure true) (Passed base) :=
  Triple.pure true fun _ ongoing => ongoing

variable (input : HadoopIn) (keyClass valueClass : ObjectClass) (expectedDigest : String)

theorem handleCommand_passed (cmd : Int) :
    Triple (Ongoing base) (handleCommand input keyClass valueClass cmd) (Passed base) := by
  unfold handleCommand
  split_ifs
  · exact passed_bind base (onStream_keeps base _) fun _ => passed_bind base (onStream_keeps base _)
      fun _ => passed_bind base (call_keeps base rfl) fun _ => passed_true base
  · exact passed_bind base (onStream_keeps base _) fun _ => passed_bind base (onStream_keeps base _)
      fun _ => passed_bind base (onStream_keeps base _) fun _ =>
        passed_bind base (call_keeps base rfl) fun _ => passed_true base
  · exact passed_bind base (onStream_keeps base _) fun _ =>
      passed_bind base (call_keeps base rfl) fun _ => passed_true base
  · exact passed_bind base (onStream_keeps base _) fun _ =>
      passed_bind base (call_keeps base rfl) fun _ => passed_true base
  · exact passed_bind base (onStream_keeps base _) fun _ => passed_bind base (onStream_keeps base _)
      fun _ => passed_bind base (onStream_keeps base _) fun _ =>
        passed_bind base (call_keeps base rfl) fun _ => passed_true base
  · exact passed_bind base (onStream_keeps base _) fun _ => passed_bind base (onStream_keeps base _)
      fun _ => passed_bind base (call_keeps base rfl) fun _ => passed_true base
  · -- `DONE`: `done()` is the last call
    intro t ongoing
    obtain ⟨new, handled, others⟩ := ongoing
    exact ⟨new, by simp [call, handled], others⟩
  · exact Triple.throw _ fun _ ongoing => ongoing

theorem iteration_passed :
    Triple (Ongoing base) (iteration input keyClass valueClass expectedDigest) (Passed base) := by
  unfold iteration
  refine passed_bind base (onStream_keeps base _) fun cmd => ?_
  split
  · -- `AUTHENTICATION_RESP`
    refine passed_bind base (onStream_keeps base _) fun _ => ?_
    refine passed_bind base (call_keeps base rfl) fun _ => ?_
    exact passed_bind base (Keeps.modify fun _ ongoing => ongoing) fun _ => passed_true base
  · refine passed_bind base (fun _ ongoing => ongoing) fun _ => ?_
    split
    · exact passed_true base
    · exact handleCommand_passed base input keyClass valueClass cmd

/-- Every run of the thread that returns ends with `done()` or `failed(e)`, after calls that do
not end it. The induction is on the fuel, one pass of the loop at a time. -/
theorem run_ends {fuel : Nat} {t t' : UplinkReaderThread} (ongoing : Ongoing base t)
    (ran : run input keyClass valueClass expectedDigest fuel t = some t') :
    ∃ new last, t'.handled = base ++ new ++ [last] ∧ (∀ c ∈ new, c.Final = false) ∧
      last.Final = true := by
  induction fuel generalizing t with
  | zero => cases ran
  | succ fuel ih =>
    have passed := iteration_passed base input keyClass valueClass expectedDigest t ongoing
    rw [run] at ran
    rcases pass : (iteration input keyClass valueClass expectedDigest).run t with ⟨o, t₁⟩
    rw [pass] at ran passed
    rcases o with e | again
    · -- the loop's `catch`: `failed(e)` is the last call
      obtain ⟨new, handled, others⟩ := passed
      cases ran
      exact ⟨new, .failed e, by rw [handled], others, rfl⟩
    · cases again with
      | false =>
        obtain ⟨new, handled, others⟩ := passed
        cases ran
        exact ⟨new, .done, handled, others, rfl⟩
      | true => exact ih passed ran

end Ends

end UplinkReaderThread

namespace OutputHandler

/-- `new OutputHandler(context, recordReader, expectedDigest)` on a fresh context, with the reader
thread's partition cache empty. -/
def fresh (expectedDigest : String) : HandlerState :=
  ⟨expectedDigest, [], none, "", 0, .empty, fun _ => 0, false, none, false⟩

variable (part : Bytes → Bytes → Int)

/-- `context.write(key, value)` of the map context, whose collector asks the partitioner for the
record's partition. -/
def write (key value : Bytes) : Effect Failure HandlerState Unit :=
  modify fun h => { h with
    written := h.written ++ [(key, value, PipesPartitioner.getPartition part h.nextPartition key value)] }

/-- `output(key, value)` -/
def output (key value : Bytes) : Effect Failure HandlerState Unit :=
  write part key value

/-- `partitionedOutput(reduce, key, value)`: `PipesPartitioner.setNextPartition(reduce)`, then the
write. -/
def partitionedOutput (reduce : Int) (key value : Bytes) : Effect Failure HandlerState Unit := do
  modify fun h => { h with nextPartition := some reduce }
  write part key value

/-- `status(msg)`: `context.setStatus(msg)`. -/
def status (msg : String) : Effect Failure HandlerState Unit :=
  modify fun h => { h with status := msg }

/-- `progress(progress)`, with the float by its bits. -/
def progress (bits : UInt32) : Effect Failure HandlerState Unit :=
  modify fun h => { h with progressValue := bits }

/-- `done()` -/
def done : Effect Failure HandlerState Unit :=
  modify fun h => { h with done := true }

/-- `failed(e)` -/
def failed (e : Failure) : Effect Failure HandlerState Unit :=
  modify fun h => { h with exception := some e }

/-- `registerCounter(id, group, name)`: the context's counter of that group and name, put under
the id. -/
def registerCounter (id : Int) (group name : String) : Effect Failure HandlerState Unit :=
  modify fun h => { h with registeredCounters := h.registeredCounters.insert id (group, name) }

/-- `incrementCounter(id, amount)`: the check is on the number of ids registered, not on the id;
`Counter.increment` adds to a `long`. -/
def incrementCounter (id amount : Int) : Effect Failure HandlerState Unit := do
  let h ← get
  if id < h.registeredCounters.keys.length then
    match h.registeredCounters.get? id with
    | some counter =>
      set { h with
        counters := Function.update h.counters counter ((h.counters counter + amount).bmod (2 ^ 64)) }
    | none => throw .nullPointer
  else throw (.ioException ("Invalid counter with id: " ++ toString id))

/-- `authenticate(digest)`. The message of the failure names `digestReceived`, not the digest
received. -/
def authenticate (digest : String) : Effect Failure HandlerState Bool := do
  let h ← get
  let success := h.expectedDigest == digest
  if !success then
    set { h with exception := some (.ioException ("Authentication Failed: Expected digest=" ++
      h.expectedDigest ++ ", received=" ++ toString h.digestReceived)) }
  modify fun h => { h with digestReceived := true }
  return success

/-- The handler method the reader thread calls for each of its calls. -/
def dispatch : HandlerCall → Effect Failure HandlerState Unit
  | .authenticate digest => do
    let _ ← authenticate digest
    pure ()
  | .output key value => output part key value
  | .partitionedOutput reduce key value => partitionedOutput part reduce key value
  | .status msg => status msg
  | .progress bits => progress bits
  | .registerCounter id group name => registerCounter id group name
  | .incrementCounter id amount => incrementCounter id amount
  | .done => done
  | .failed e => failed (.thread e)

/-- The reader thread's calls on the handler, one after another. What a handler method throws
is caught by the thread's `catch (Throwable e)`, which calls `failed(e)` and returns: the calls
after it are not made. -/
def receive : List HandlerCall → HandlerState → HandlerState
  | [], h => h
  | c :: calls, h =>
    match (dispatch part c).run h with
    | (.ok (), h') => receive calls h'
    | (.error e, h') => ((failed e).run h').2

/-- Where `waitForFinish()` leaves its loop on the handler it finds: `none` while it waits,
neither `done` nor an exception being set, else the exception it throws or `done`. -/
def waitForFinish (h : HandlerState) : Option (Except Failure Bool) :=
  if !h.done && h.exception.isNone then none
  else
    match h.exception with
    | some e => some (.error e)
    | none => some (.ok h.done)

/-- Where `waitForAuthentication()` leaves its loop: `none` while it waits; an exception is
thrown again as an `IOException` with its message, which `Failure` carries. -/
def waitForAuthentication (h : HandlerState) : Option (Except Failure Unit) :=
  if !h.digestReceived && h.exception.isNone then none
  else
    match h.exception with
    | some e => some (.error e)
    | none => some (.ok ())

/-- The records a run of calls writes, each with the partition `getPartition` gives it when the
partition last set on the thread is `last`. -/
def routed (last : Option Int) : List HandlerCall → List (Bytes × Bytes × Int)
  | [] => []
  | .output key value :: calls =>
    (key, value, PipesPartitioner.getPartition part last key value) :: routed last calls
  | .partitionedOutput reduce key value :: calls => (key, value, reduce) :: routed (some reduce) calls
  | _ :: calls => routed last calls

section Steps

variable {part : Bytes → Bytes → Int} {h : HandlerState}

@[simp] theorem run_output (key value : Bytes) :
    (output part key value).run h =
      (.ok (), { h with
        written := h.written ++ [(key, value, PipesPartitioner.getPartition part h.nextPartition key value)] }) :=
  rfl

@[simp] theorem run_partitionedOutput (reduce : Int) (key value : Bytes) :
    (partitionedOutput part reduce key value).run h =
      (.ok (), { h with nextPartition := some reduce, written := h.written ++ [(key, value, reduce)] }) :=
  rfl

theorem run_authenticate (digest : String) :
    (authenticate digest).run h =
      (.ok (h.expectedDigest == digest), { h with
        exception := if h.expectedDigest = digest then h.exception
          else some (.ioException ("Authentication Failed: Expected digest=" ++ h.expectedDigest ++
            ", received=" ++ toString h.digestReceived)),
        digestReceived := true }) := by
  by_cases same : h.expectedDigest = digest
  · simp [authenticate, run_bind, same, Except.map]
  · simp [authenticate, run_bind, same, Except.map]

theorem run_incrementCounter {id amount : Int} {counter : String × String}
    (inside : id < h.registeredCounters.keys.length) (found : h.registeredCounters.get? id = some counter) :
    (incrementCounter id amount).run h =
      (.ok (), { h with
        counters := Function.update h.counters counter ((h.counters counter + amount).bmod (2 ^ 64)) }) := by
  simp [incrementCounter, run_bind, inside, found]

theorem incrementCounter_raises {id amount : Int} {o : Except Failure Unit} {h' : HandlerState}
    (ran : (incrementCounter id amount).run h = (o, h')) :
    (o = .ok () ∧ ∃ counter, h' = { h with
      counters := Function.update h.counters counter ((h.counters counter + amount).bmod (2 ^ 64)) }) ∨
      h' = h := by
  unfold incrementCounter at ran
  rw [run_bind_ok (run_get h)] at ran
  split at ran
  · split at ran
    · rename_i counter _
      rw [run_set, Prod.mk.injEq] at ran
      exact .inl ⟨ran.1.symm, counter, ran.2.symm⟩
    · exact .inr (Prod.mk.inj ran).2.symm
  · exact .inr (Prod.mk.inj ran).2.symm

variable {c : HandlerCall} {o : Except Failure Unit} {h' : HandlerState}

theorem done_dispatch (ran : (dispatch part c).run h = (o, h')) :
    h'.done = (h.done || decide (c = .done)) := by
  cases c with
  | authenticate digest =>
    rw [dispatch, run_bind_ok (run_authenticate digest), run_pure, Prod.mk.injEq] at ran
    rw [← ran.2]
    simp
  | incrementCounter id amount =>
    rcases incrementCounter_raises ran with ⟨-, counter, rfl⟩ | rfl <;> simp
  | done =>
    rw [dispatch, done, run_modify, Prod.mk.injEq] at ran
    rw [← ran.2]
    simp
  | _ =>
    simp only [dispatch, status, progress, registerCounter, failed, run_output,
      run_partitionedOutput, run_modify, Prod.mk.injEq] at ran
    rw [← ran.2]
    simp

theorem exception_dispatch (ran : (dispatch part c).run h = (o, h')) (set : h.exception ≠ none) :
    h'.exception ≠ none := by
  cases c with
  | authenticate digest =>
    rw [dispatch, run_bind_ok (run_authenticate digest), run_pure, Prod.mk.injEq] at ran
    rw [← ran.2]
    by_cases same : h.expectedDigest = digest
    · simpa [same] using set
    · simp [same]
  | incrementCounter id amount =>
    rcases incrementCounter_raises ran with ⟨-, counter, rfl⟩ | rfl <;> exact set
  | failed e =>
    rw [dispatch, failed, run_modify, Prod.mk.injEq] at ran
    rw [← ran.2]
    simp
  | _ =>
    simp only [dispatch, status, progress, registerCounter, done, run_output,
      run_partitionedOutput, run_modify, Prod.mk.injEq] at ran
    rw [← ran.2]
    exact set

theorem dispatch_final (last : c.Final = true) :
    ∃ h', (dispatch part c).run h = (.ok (), h') ∧ (h'.done = true ∨ h'.exception ≠ none) := by
  cases c with
  | done => exact ⟨_, rfl, .inl rfl⟩
  | failed e => exact ⟨_, rfl, .inr (by simp)⟩
  | _ => cases last

@[simp] theorem receive_nil : receive part [] h = h := rfl

theorem receive_cons_ok (calls : List HandlerCall) (ran : (dispatch part c).run h = (.ok (), h')) :
    receive part (c :: calls) h = receive part calls h' := by
  rw [receive, ran]

theorem receive_cons_error (calls : List HandlerCall) {e : Failure}
    (ran : (dispatch part c).run h = (.error e, h')) :
    receive part (c :: calls) h = { h' with exception := some e } := by
  rw [receive, ran]
  rfl

end Steps

section Runs

variable {part : Bytes → Bytes → Int}

theorem exception_receive {calls : List HandlerCall} {h : HandlerState} (set : h.exception ≠ none) :
    (receive part calls h).exception ≠ none := by
  induction calls generalizing h with
  | nil => exact set
  | cons c calls ih =>
    rcases ran : (dispatch part c).run h with ⟨o, h'⟩
    cases o with
    | ok u =>
      rw [receive_cons_ok calls ran]
      exact ih (exception_dispatch ran set)
    | error e =>
      rw [receive_cons_error calls ran]
      simp

theorem done_receive {calls : List HandlerCall} {h : HandlerState}
    (going : ∀ c ∈ calls, c.Final = false) : (receive part calls h).done = h.done := by
  induction calls generalizing h with
  | nil => rfl
  | cons c calls ih =>
    have notDone : c ≠ .done := by
      rintro rfl
      simpa [HandlerCall.Final] using going .done List.mem_cons_self
    rcases ran : (dispatch part c).run h with ⟨o, h'⟩
    have kept : h'.done = h.done := by simp [done_dispatch ran, notDone]
    cases o with
    | ok u =>
      rw [receive_cons_ok calls ran, ih fun c' member => going c' (List.mem_cons_of_mem _ member), kept]
    | error e =>
      rw [receive_cons_error calls ran]
      exact kept

theorem exception_receive_append {pre : List HandlerCall} {h : HandlerState}
    (set : (receive part pre h).exception ≠ none) (rest : List HandlerCall) :
    (receive part (pre ++ rest) h).exception ≠ none := by
  induction pre generalizing h with
  | nil => exact exception_receive set
  | cons c pre ih =>
    rcases ran : (dispatch part c).run h with ⟨o, h'⟩
    cases o with
    | ok u =>
      rw [receive_cons_ok pre ran] at set
      rw [List.cons_append, receive_cons_ok _ ran]
      exact ih set
    | error e =>
      rw [receive_cons_error pre ran] at set
      rw [List.cons_append, receive_cons_error _ ran]
      exact set

theorem receive_final {calls : List HandlerCall} {h : HandlerState} {c : HandlerCall}
    (last : c.Final = true) :
    (receive part (calls ++ [c]) h).done = true ∨ (receive part (calls ++ [c]) h).exception ≠ none := by
  induction calls generalizing h with
  | nil =>
    obtain ⟨h', ran, ended⟩ := @dispatch_final part h c last
    rw [List.nil_append, receive_cons_ok [] ran, receive_nil]
    exact ended
  | cons c' calls ih =>
    rcases ran : (dispatch part c').run h with ⟨o, h'⟩
    cases o with
    | ok u =>
      rw [List.cons_append, receive_cons_ok _ ran]
      exact ih
    | error e =>
      rw [List.cons_append, receive_cons_error _ ran]
      exact .inr (by simp)

end Runs

section Waiting

variable {h : HandlerState} {r : Except Failure Bool}

theorem waitForFinish_ne_none (ended : h.done = true ∨ h.exception ≠ none) :
    waitForFinish h ≠ none := by
  cases set : h.exception with
  | none =>
    have done : h.done = true := by simpa [set] using ended
    simp [waitForFinish, set, done]
  | some e => simp [waitForFinish, set]

theorem waitForFinish_of_exception (set : h.exception ≠ none) :
    ∃ e, waitForFinish h = some (.error e) := by
  obtain ⟨e, found⟩ := Option.ne_none_iff_exists'.mp set
  exact ⟨e, by simp [waitForFinish, found]⟩

theorem waitForFinish_before_done (idle : h.done = false) (leaves : waitForFinish h = some r) :
    r.toBool = false ∧ h.exception ≠ none := by
  cases set : h.exception with
  | none => simp [waitForFinish, set, idle] at leaves
  | some e =>
    simp only [waitForFinish, set, idle, Option.isNone_some, Bool.not_false, Bool.and_false,
      Bool.false_eq_true, if_false, Option.some.injEq] at leaves
    subst leaves
    exact ⟨rfl, by simp⟩

end Waiting

section Threads

variable (part : Bytes → Bytes → Int) (input : HadoopIn) (keyClass valueClass : ObjectClass)
  (expectedDigest : String)

/-- The two threads around the handler. Whenever the reader thread's run returns, its calls leave
the handler where the application thread leaves `waitForFinish`: it is never left waiting. And
at whatever point of those calls the application thread looks at the handler, if it leaves
`waitForFinish` there, it leaves with the verdict of the end of the run: success only once all
the calls are made, a failure only if the run ends in one. -/
theorem waitForFinish_interleaved {h : HandlerState} (idle : h.done = false) {fuel : Nat}
    {bytes : Bytes} {t : UplinkReaderThread}
    (ran : UplinkReaderThread.run input keyClass valueClass expectedDigest fuel ⟨bytes, true, []⟩ = some t) :
    waitForFinish (receive part t.handled h) ≠ none ∧
      ∀ pre, pre <+: t.handled → ∀ r, waitForFinish (receive part pre h) = some r →
        (waitForFinish (receive part t.handled h)).map Except.toBool = some r.toBool := by
  obtain ⟨new, last, handled, going, final⟩ :=
    UplinkReaderThread.run_ends [] input keyClass valueClass expectedDigest ⟨[], by simp, by simp⟩ ran
  rw [List.nil_append] at handled
  refine ⟨waitForFinish_ne_none (handled ▸ receive_final final), fun pre before r leaves => ?_⟩
  rcases List.prefix_concat_iff.mp (handled ▸ before) with whole | early
  · rw [← handled] at whole
    rw [← whole, leaves]
    rfl
  · -- before the last call `done` is still unset, so the application thread leaves only on an
    have idlePre : (receive part pre h).done = false := by
      rw [done_receive fun c member => going c (early.subset member), idle]
    obtain ⟨failure, set⟩ := waitForFinish_before_done idlePre leaves
    obtain ⟨rest, split⟩ := before
    obtain ⟨e, thrown⟩ := waitForFinish_of_exception (split ▸ exception_receive_append set rest)
    rw [thrown, failure]
    rfl

/-- A stream that ends at once: the thread reports the failed read, and the application thread
leaves with it. -/
theorem waitForFinish_interleaved_empty_stream :
    waitForFinish (receive (fun _ _ => 0) [.failed .ioException] (fresh "digest")) ≠ none ∧
      ∀ pre, pre <+: [.failed .ioException] → ∀ r,
        waitForFinish (receive (fun _ _ => 0) pre (fresh "digest")) = some r →
          (waitForFinish (receive (fun _ _ => 0) [.failed .ioException] (fresh "digest"))).map
            Except.toBool = some r.toBool :=
  waitForFinish_interleaved (fun _ _ => 0) HadoopIn.sercore .bytesWritable .text "digest"
    (h := fresh "digest") rfl
    (show UplinkReaderThread.run HadoopIn.sercore .bytesWritable .text "digest" 1 ⟨[], true, []⟩ =
      some ⟨[], true, [.failed .ioException]⟩ from rfl)

end Threads

end OutputHandler

end Pydoop.Java
