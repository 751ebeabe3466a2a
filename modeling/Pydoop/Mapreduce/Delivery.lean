import Mathlib.Algebra.BigOperators.Group.Finset.Piecewise
import Pydoop.Mapreduce.Counters
import Pydoop.Java.OutputHandler

/-! Delivery of a task's upward calls to Hadoop. In a session the task authenticates, makes its
calls and ends with `done`: its `Uplink` writes their messages, the reader thread hands each call
to the `OutputHandler`, and the handler writes the records into the map context with the
partitions `PipesPartitioner` gives them, adds every increment to the context counter that its id
was registered with, and lets the application thread leave `waitForFinish` with success. When the
task registers its counters as `TaskContext.get_counter` does, ids `0, 1, ...`, no increment is
lost or counted twice: each counter ends with the amounts sent to all the ids registered under its
group and name. -/

namespace Pydoop.Mapreduce

open Effect HadoopUtils PyText Java Java.OutputHandler
open Sercore hiding OUTPUT PARTITIONED_OUTPUT

/-- The counters the calls register, by group and name, in id order. -/
def registeredNames : List UplinkCall → List (String × String)
  | [] => []
  | .registerCounter _ group name :: calls => (group, name) :: registeredNames calls
  | _ :: calls => registeredNames calls

/-- The handler's `registeredCounters` once the counters `names` are registered with ids
`0, 1, ...`. -/
def registry (names : List (String × String)) : List (Int × (String × String)) :=
  names.mapIdx fun i name => ((i : Int), name)

/-- What the increments of `sent` add to the counter `key`: the amounts sent to every id
registered under its group and name. -/
def addedTo (names : List (String × String)) (sent : List UpMessage) (key : String × String) : Int :=
  ∑ i ∈ Finset.range names.length, if names[i]? = some key then sentTo i sent else 0

/-- The calls of a session: the authentication, the task's calls, and `done`. -/
def session (expectedDigest : String) (body : List UplinkCall) : List UplinkCall :=
  UplinkCall.authenticate expectedDigest :: body ++ [UplinkCall.done]

section Registry

variable {names : List (String × String)}

theorem registry_concat (name : String × String) :
    registry (names ++ [name]) = registry names ++ [((names.length : Int), name)] := by
  simp [registry, List.mapIdx_concat]

theorem keys_registry : (registry names).map Prod.fst = (List.range names.length).map Nat.cast := by
  induction names using List.reverseRecOn with
  | nil => rfl
  | append_singleton names name ih => simp [registry_concat, ih, List.range_succ]

theorem lookup_registry (i : Nat) : (registry names).lookup (i : Int) = names[i]? := by
  induction names using List.reverseRecOn with
  | nil => rfl
  | append_singleton names name ih =>
    rw [registry_concat, List.lookup_append, ih]
    by_cases earlier : i < names.length
    · rw [List.getElem?_append_left earlier, List.getElem?_eq_getElem earlier]
      rfl
    · rw [List.getElem?_eq_none (by omega), Option.none_or, List.getElem?_append_right (by omega)]
      by_cases last : i = names.length
      · subst last
        simp
      · have other : (i : Int) ≠ names.length := by omega
        rw [List.getElem?_eq_none (by simp; omega), List.lookup_cons, beq_false_of_ne other]
        rfl

end Registry

section Amounts

variable {names : List (String × String)} {sent : List UpMessage} {key : String × String}

theorem addedTo_incrementCounter {id : Nat} (inside : id < names.length) (amount : Int) :
    addedTo names (.incrementCounter id amount :: sent) key =
      (if names[id]? = some key then amount else 0) + addedTo names sent key := by
  unfold addedTo
  have split : ∀ i ∈ Finset.range names.length,
      (if names[i]? = some key then sentTo i (.incrementCounter id amount :: sent) else 0) =
        (if id = i then (if names[i]? = some key then amount else 0) else 0) +
          (if names[i]? = some key then sentTo i sent else 0) := by
    intro i _
    by_cases same : id = i
    · subst same
      by_cases named : names[id]? = some key <;> simp [sentTo, named]
    · have other : (id : Int) ≠ i := by omega
      by_cases named : names[i]? = some key <;> simp [sentTo, named, same, other]
  rw [Finset.sum_congr rfl split, Finset.sum_add_distrib, Finset.sum_ite_eq,
    if_pos (Finset.mem_range.mpr inside)]

theorem addedTo_cons_of_ne {m : UpMessage} (notIncrement : ∀ id amount, m ≠ .incrementCounter id amount) :
    addedTo names (m :: sent) key = addedTo names sent key := by
  unfold addedTo
  refine Finset.sum_congr rfl fun i _ => ?_
  cases m <;> simp_all [sentTo]

@[simp] theorem addedTo_nil : addedTo names [] key = 0 := by
  simp [addedTo, sentTo]

theorem addedTo_cons (more : List (String × String)) {m : UpMessage}
    (log : CounterLog names.length [m]) :
    addedTo (names ++ more) (m :: sent) key = addedTo names [m] key + addedTo (names ++ more) sent key := by
  cases m with
  | incrementCounter id amount =>
    obtain ⟨low, high, -⟩ := log
    obtain ⟨j, rfl⟩ := Int.eq_ofNat_of_zero_le low
    have inside : j < names.length := by omega
    rw [addedTo_incrementCounter (by simp; omega), addedTo_incrementCounter inside,
      List.getElem?_append_left inside, addedTo_nil, Int.add_zero]
  | _ =>
    rw [addedTo_cons_of_ne (by simp), addedTo_cons_of_ne (by simp), addedTo_nil, Int.zero_add]

end Amounts

section Handler

variable (part : Bytes → Bytes → Int) (expectedDigest : String)

/-- The handler while a session's calls are received: it expects the session's digest, holds the
counters `names` under ids `0, 1, ...` with `added key` in counter `key` as a Java `long`, and has
neither an exception nor `done` set. -/
structure Delivering (names : List (String × String)) (added : String × String → Int)
    (h : HandlerState) : Prop where
  expected : h.expectedDigest = expectedDigest
  registered : h.registeredCounters.entries = registry names
  counted : ∀ key, h.counters key = (added key).bmod (2 ^ 64)
  clear : h.exception = none
  idle : h.done = false

variable {expectedDigest}

/-- One call of the task, received: its handler method returns, registers the counter it
registers under the next id, adds the amount of an increment to the counter its id names, and
writes its record as `routed` says. -/
theorem Delivering.step {names : List (String × String)} {added : String × String → Int}
    {h : HandlerState} (delivering : Delivering expectedDigest names added h) {c : UplinkCall}
    (notDone : c ≠ .done) (expected : ∀ digest, c = .authenticate digest → digest = expectedDigest)
    (log : CounterLog names.length [c.message]) :
    ∃ h', (dispatch part c.handled).run h = (.ok (), h') ∧
      Delivering expectedDigest (names ++ registeredNames [c])
        (fun key => added key + addedTo names [c.message] key) h' ∧
      ∀ rest, h'.written ++ routed part h'.nextPartition rest =
        h.written ++ routed part h.nextPartition (c.handled :: rest) := by
  obtain ⟨expectedIs, registered, counted, clear, idle⟩ := delivering
  have unchanged : ∀ {m : UpMessage}, (∀ id amount, m ≠ .incrementCounter id amount) →
      ∀ key, h.counters key = (added key + addedTo names [m] key).bmod (2 ^ 64) := by
    intro m notIncrement key
    rw [addedTo_cons_of_ne notIncrement, addedTo_nil, Int.add_zero, counted]
  cases c with
  | authenticate digest =>
    have same : h.expectedDigest = digest := by rw [expectedIs, expected digest rfl]
    refine ⟨{ h with digestReceived := true }, ?_, ⟨expectedIs, by simpa [registeredNames] using registered,
      unchanged (by simp [UplinkCall.message]), clear, idle⟩, fun rest => rfl⟩
    rw [UplinkCall.handled, dispatch, run_bind_ok (run_authenticate digest)]
    simp [same]
  | output k v =>
    refine ⟨_, rfl, ⟨expectedIs, by simpa [registeredNames] using registered,
      unchanged (by simp [UplinkCall.message]), clear, idle⟩, fun rest => ?_⟩
    simp [UplinkCall.handled, routed]
  | partitionedOutput reduce k v =>
    refine ⟨_, rfl, ⟨expectedIs, by simpa [registeredNames] using registered,
      unchanged (by simp [UplinkCall.message]), clear, idle⟩, fun rest => ?_⟩
    simp [UplinkCall.handled, routed, PipesPartitioner.getPartition]
  | status msg =>
    exact ⟨_, rfl, ⟨expectedIs, by simpa [registeredNames] using registered,
      unchanged (by simp [UplinkCall.message]), clear, idle⟩, fun rest => rfl⟩
  | progress p =>
    exact ⟨_, rfl, ⟨expectedIs, by simpa [registeredNames] using registered,
      unchanged (by simp [UplinkCall.message]), clear, idle⟩, fun rest => rfl⟩
  | done => exact absurd rfl notDone
  | registerCounter id group name =>
    obtain ⟨rfl, -⟩ := log
    have fresh : (names.length : Int) ∉ h.registeredCounters.keys := by
      simp [PyDict.keys, registered, keys_registry]
    refine ⟨_, rfl, ⟨expectedIs, ?_, unchanged (by simp [UplinkCall.message]), clear, idle⟩,
      fun rest => rfl⟩
    simp [PyDict.entries_insert_of_not_mem fresh, registered, registeredNames, registry_concat]
  | incrementCounter id amount =>
    obtain ⟨low, high, -⟩ := log
    obtain ⟨j, rfl⟩ := Int.eq_ofNat_of_zero_le low
    have inside : j < names.length := by omega
    have found : h.registeredCounters.get? j = some names[j] := by
      rw [PyDict.get?, registered, lookup_registry, List.getElem?_eq_getElem inside]
    have counting : (j : Int) < h.registeredCounters.keys.length := by
      simp [PyDict.keys, registered, keys_registry]
      omega
    refine ⟨_, OutputHandler.run_incrementCounter counting found, ⟨expectedIs, by simpa [registeredNames] using registered,
      fun key => ?_, clear, idle⟩, fun rest => rfl⟩
    rw [UplinkCall.message, addedTo_incrementCounter inside, addedTo_nil, Int.add_zero]
    by_cases named : names[j] = key
    · subst named
      simp [counted, Int.bmod_add_bmod]
    · have other : key ≠ names[j] := Ne.symm named
      simp [counted, Function.update_of_ne other, List.getElem?_eq_getElem inside, named]

theorem registeredNames_cons (c : UplinkCall) (body : List UplinkCall) :
    registeredNames (c :: body) = registeredNames [c] ++ registeredNames body := by
  cases c <;> rfl

theorem counterLog_cons {c : UplinkCall} {registered : Nat} {rest : List UpMessage}
    (log : CounterLog registered (c.message :: rest)) :
    CounterLog registered [c.message] ∧ CounterLog (registered + (registeredNames [c]).length) rest := by
  cases c <;> simp_all [CounterLog, UplinkCall.message, registeredNames]

/-- The task's calls between its authentication and `done`, received one after another: each
returns, and together they register their counters after those of `names`, add what they send,
and write their records as `routed` says. The induction follows the calls, each received by
`Delivering.step`. -/
theorem Delivering.receive {body : List UplinkCall}
    (sound : ∀ c ∈ body, c ≠ .done ∧ ∀ digest, c = .authenticate digest → digest = expectedDigest) :
    ∀ {names : List (String × String)} {added : String × String → Int} {h : HandlerState},
      Delivering expectedDigest names added h → CounterLog names.length (body.map UplinkCall.message) →
      Delivering expectedDigest (names ++ registeredNames body)
          (fun key => added key + addedTo (names ++ registeredNames body) (body.map UplinkCall.message) key)
          (OutputHandler.receive part (body.map UplinkCall.handled) h) ∧
        (OutputHandler.receive part (body.map UplinkCall.handled) h).written =
          h.written ++ routed part h.nextPartition (body.map UplinkCall.handled) ∧
        ∀ more, OutputHandler.receive part (body.map UplinkCall.handled ++ more) h =
          OutputHandler.receive part more (OutputHandler.receive part (body.map UplinkCall.handled) h) := by
  induction body with
  | nil =>
    intro names added h delivering _
    exact ⟨by simpa [registeredNames] using delivering, by simp [routed], fun _ => rfl⟩
  | cons c body ih =>
    intro names added h delivering log
    obtain ⟨notDone, expected⟩ := sound c List.mem_cons_self
    obtain ⟨head, tail⟩ := counterLog_cons log
    obtain ⟨h', ran, delivering', written'⟩ := delivering.step part notDone expected head
    have grown : names.length + (registeredNames [c]).length = (names ++ registeredNames [c]).length :=
      (List.length_append ..).symm
    obtain ⟨delivered, written, later⟩ := ih (fun c' member => sound c' (List.mem_cons_of_mem _ member))
      delivering' (grown ▸ tail)
    simp only [List.map_cons, List.cons_append]
    rw [receive_cons_ok _ ran, registeredNames_cons, ← List.append_assoc]
    have amounts : (fun key => added key + addedTo names [c.message] key +
          addedTo (names ++ registeredNames [c] ++ registeredNames body)
            (body.map UplinkCall.message) key) =
        fun key => added key + addedTo (names ++ registeredNames [c] ++ registeredNames body)
          ((c :: body).map UplinkCall.message) key := by
      funext key
      rw [List.map_cons, List.append_assoc, addedTo_cons _ head, Int.add_assoc]
    refine ⟨amounts ▸ delivered, by rw [written, written'], fun more => ?_⟩
    rw [receive_cons_ok _ ran]
    exact later more

end Handler

section Session

/-- The handler once it has received the calls of a session. -/
def delivered (part : Bytes → Bytes → Int) (expectedDigest : String) (body : List UplinkCall) :
    HandlerState :=
  OutputHandler.receive part ((session expectedDigest body).map UplinkCall.handled) (fresh expectedDigest)

theorem session_writes {expectedDigest : String} (short : (utf8 expectedDigest).length < 2 ^ 31)
    {body : List UplinkCall} (valid : ∀ c ∈ body, c.Valid) :
    Writes FileOutStreamObj.at ((session expectedDigest body).forM UplinkCall.invoke)
      ((session expectedDigest body).flatMap fun c => c.message.encode) := by
  refine Writes.forM fun c member => invoke_writes ?_
  simp only [session, List.cons_append, List.mem_cons, List.mem_append, List.not_mem_nil, or_false]
    at member
  rcases member with rfl | inBody | rfl
  · exact short
  · exact valid c inBody
  · trivial

/-- What the handler holds after the session: `done` and no exception, the records `routed`
gives from an empty partition cache, and counter `key` with the amounts sent to every id
registered under it. -/
theorem delivered_eq (part : Bytes → Bytes → Int) {expectedDigest : String} {body : List UplinkCall}
    (sound : ∀ c ∈ body, c ≠ .done ∧ ∀ digest, c = .authenticate digest → digest = expectedDigest)
    (counted : CounterLog 0 (body.map UplinkCall.message)) :
    waitForFinish (delivered part expectedDigest body) = some (.ok true) ∧
      (delivered part expectedDigest body).written = routed part none (body.map UplinkCall.handled) ∧
      ∀ key, (delivered part expectedDigest body).counters key =
        (addedTo (registeredNames body) (body.map UplinkCall.message) key).bmod (2 ^ 64) := by
  have authenticated : (dispatch part (.authenticate expectedDigest)).run (fresh expectedDigest) =
      (.ok (), { fresh expectedDigest with digestReceived := true }) := by
    rw [dispatch, run_bind_ok (run_authenticate expectedDigest)]
    simp [fresh]
  have start : Delivering expectedDigest [] (fun _ => 0) { fresh expectedDigest with digestReceived := true } :=
    ⟨rfl, rfl, fun _ => rfl, rfl, rfl⟩
  obtain ⟨⟨-, -, counters, clear, idle⟩, written, later⟩ :=
    Delivering.receive part sound start (by simpa using counted)
  simp only [delivered, session, List.cons_append, List.map_cons, List.map_append, List.map_nil]
  rw [show (UplinkCall.authenticate expectedDigest).handled = .authenticate expectedDigest from rfl,
    receive_cons_ok _ authenticated, later]
  refine ⟨?_, ?_, fun key => ?_⟩
  · simp [UplinkCall.handled, waitForFinish, receive, dispatch, OutputHandler.done, clear]
  · simpa [UplinkCall.handled, receive, dispatch, OutputHandler.done, fresh] using written
  · simpa [UplinkCall.handled, receive, dispatch, OutputHandler.done] using counters key

end Session


end Pydoop.Mapreduce
