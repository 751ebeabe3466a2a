import Pydoop.Mapreduce.Pipes
import Pydoop.Mapreduce.Upward

/-! Counter accounting of `TaskContext` (`get_counter`, `increment_counter`, `progress`,
`__spill_counters` and the end of `close`). A counter's id is the number of counters before it,
an increment is added to the counter in `self.counters`, and a progress report or `close` sends
each non-zero amount in an `INCREMENT_COUNTER` and sets it back to zero. Over any interleaving
whose reports and registrations are written in full, the uplink carries the registrations in id
order, every increment names a registered id, and what is sent plus what is held adds up to what
was incremented. A report writes `INCREMENT_COUNTER` item by item, so an amount outside the
`int64_t` range raises `OverflowError` after the code and the id are out: a caller that catches
it leaves a message without its amount on the uplink. -/

namespace Pydoop.Mapreduce

open Effect HadoopUtils PyText
open Sercore hiding OUTPUT PARTITIONED_OUTPUT

section Messages

open FileOutStreamObj

theorem run_registerCounter (out : Bytes) (id : Int) (group name : String) :
    (Uplink.registerCounter (.int id) (.str group) (.str name)).run (FileOutStreamObj.at out) =
      if -2 ^ 31 ≤ id ∧ id < 2 ^ 31 then
        (.ok (), .at (out ++ (UpMessage.registerCounter id (utf8 group) (utf8 name)).encode))
      else (.error .overflowError, .at (out ++ serializeInt REGISTER_COUNTER)) := by
  rw [Uplink.registerCounter, show "iiss" = formatText [.i, .i, .s, .s] from rfl]
  by_cases fits : -2 ^ 31 ≤ id ∧ id < 2 ^ 31
  · have literal : -2147483648 ≤ id ∧ id < 2147483648 := fits
    simp [literal, writeTuple, writeItems, utf8_formatText, nul_not_mem_formatText, writeItem,
      writer, writeVInt, writeString, assertOpen, convert, asInt, asStringBuffer, put,
      FileOutStreamObj.at, run_bind, REGISTER_COUNTER, UpMessage.encode]
  · have literal : ¬(-2147483648 ≤ id ∧ id < 2147483648) := fits
    simp only [fits, if_false]
    simp [literal, writeTuple, writeItems, utf8_formatText, nul_not_mem_formatText, writeItem,
      writer, writeVInt, assertOpen, convert, asInt, put, FileOutStreamObj.at, run_bind,
      REGISTER_COUNTER]

theorem run_incrementCounter (out : Bytes) {id : Int} (fits : -2 ^ 31 ≤ id ∧ id < 2 ^ 31)
    (amount : Int) :
    (Uplink.incrementCounter (.int id) (.int amount)).run (FileOutStreamObj.at out) =
      if -2 ^ 63 ≤ amount ∧ amount < 2 ^ 63 then
        (.ok (), .at (out ++ (UpMessage.incrementCounter id amount).encode))
      else
        (.error .overflowError,
          .at (out ++ serializeInt INCREMENT_COUNTER ++ serializeInt id)) := by
  rw [Uplink.incrementCounter, show "iil" = formatText [.i, .i, .l] from rfl]
  have small : -2147483648 ≤ id ∧ id < 2147483648 := fits
  by_cases long : -2 ^ 63 ≤ amount ∧ amount < 2 ^ 63
  · have literal : -9223372036854775808 ≤ amount ∧ amount < 9223372036854775808 := long
    simp [small, literal, writeTuple, writeItems, utf8_formatText, nul_not_mem_formatText, writeItem,
      writer, writeVInt, writeVLong, assertOpen, convert, asInt, asLongLong, put,
      FileOutStreamObj.at, run_bind, INCREMENT_COUNTER, UpMessage.encode]
  · have literal : ¬(-9223372036854775808 ≤ amount ∧ amount < 9223372036854775808) := long
    simp only [long, if_false]
    simp [small, literal, writeTuple, writeItems, utf8_formatText, nul_not_mem_formatText,
      writeItem, writer, writeVInt, writeVLong, assertOpen, convert, asInt, asLongLong, put,
      FileOutStreamObj.at, run_bind, INCREMENT_COUNTER]

theorem run_progress (out : Bytes) (p : UInt64) :
    (Uplink.progress (.float p)).run (FileOutStreamObj.at out) =
      (.ok (), .at (out ++ (UpMessage.progress (Float.ofBits p).toFloat32.toBits).encode)) :=
  invoke_writes (c := .progress p) trivial out

theorem run_done (out : Bytes) :
    Uplink.done.run (FileOutStreamObj.at out) = (.ok (), .at (out ++ UpMessage.done.encode)) :=
  invoke_writes (c := .done) trivial out

theorem run_flush (out : Bytes) :
    Uplink.flush.run (FileOutStreamObj.at out) = (.ok (), .at out) := by
  simp [Uplink.flush, flush, assertOpen, FileOutStreamObj.at, run_bind]

end Messages

/-- A call user code makes on its context's counters, or a progress report at time `now`. -/
inductive CounterCall
  | getCounter (group name : String)
  | incrementCounter (counter : PyObj) (amount : Int)
  | progress (now : ℚ)

/-- A call as user code makes it: what `get_counter` and a report raise goes to the caller, and
the `ValueError` of an increment of an unregistered id is caught. -/
def CounterCall.run (rt : Runtime) : CounterCall → Effect PyExc TaskContext Unit
  | .getCounter group name => do
    let _ ← TaskContext.getCounter (.str group) (.str name)
    pure ()
  | .incrementCounter counter amount => do
    let _ ← reify (TaskContext.incrementCounter rt counter (.int amount))
    pure ()
  | .progress now => TaskContext.progressAt now

/-- `TaskContext.close()` once no user component is left to close: `flush`, then
`__spill_counters()`, with `DONE` and a flush in the `finally` block. -/
def TaskContext.closeCounters : Effect PyExc TaskContext Unit := do
  TaskContext.onUplink Uplink.flush
  Effect.tryFinally TaskContext.spillCounters do
    TaskContext.onUplink Uplink.done
    TaskContext.onUplink Uplink.flush

/-- The calls one after another, then `close()`. -/
def counterSession (rt : Runtime) (calls : List CounterCall) : Effect PyExc TaskContext Unit := do
  calls.forM (CounterCall.run rt)
  TaskContext.closeCounters

/-- What the counter calls are for: the number of registered counters, and for each id the sum
of the amounts added to it. -/
structure Ledger where
  registered : Nat
  total : Int → Int

namespace Ledger

def empty : Ledger := ⟨0, fun _ => 0⟩

/-- `get_counter` registers the next id, an increment of a registered id adds its amount to it,
and nothing else changes the ledger. -/
def record (l : Ledger) : CounterCall → Ledger
  | .getCounter _ _ => { l with registered := l.registered + 1 }
  | .incrementCounter (.int id) amount =>
    if 0 ≤ id ∧ id < l.registered then
      { l with total := Function.update l.total id (l.total id + amount) }
    else l
  | _ => l

@[simp] theorem record_getCounter (l : Ledger) (group name : String) :
    l.record (.getCounter group name) = { l with registered := l.registered + 1 } := rfl

theorem record_incrementCounter_of_lt {l : Ledger} {id : Nat} (registered : id < l.registered)
    (amount : Int) :
    l.record (.incrementCounter (.int id) amount) =
      { l with total := Function.update l.total id (l.total id + amount) } :=
  if_pos ⟨Int.natCast_nonneg id, Int.ofNat_lt.mpr registered⟩

end Ledger

section Log

/-- The amount the `INCREMENT_COUNTER` messages of `sent` add to counter `id`. -/
def sentTo (id : Int) : List UpMessage → Int
  | [] => 0
  | .incrementCounter j amount :: rest => (if j = id then amount else 0) + sentTo id rest
  | _ :: rest => sentTo id rest

/-- The `REGISTER_COUNTER` messages of `sent`. -/
def registrations : List UpMessage → Nat
  | [] => 0
  | .registerCounter .. :: rest => registrations rest + 1
  | _ :: rest => registrations rest

/-- The counter messages of `sent`, after `registered` registrations: each `REGISTER_COUNTER`
registers the next id and each `INCREMENT_COUNTER` names a registered one, which is what
`OutputHandler.incrementCounter` checks (`id < registeredCounters.size()`). -/
def CounterLog : Nat → List UpMessage → Prop
  | _, [] => True
  | registered, .registerCounter id _ _ :: rest => id = registered ∧ CounterLog (registered + 1) rest
  | registered, .incrementCounter id _ :: rest =>
    0 ≤ id ∧ id < registered ∧ CounterLog registered rest
  | registered, _ :: rest => CounterLog registered rest

@[simp] theorem sentTo_append (id : Int) (sent more : List UpMessage) :
    sentTo id (sent ++ more) = sentTo id sent + sentTo id more := by
  induction sent with
  | nil => simp [sentTo]
  | cons m rest ih => cases m <;> simp [sentTo, ih, Int.add_assoc]

@[simp] theorem registrations_append (sent more : List UpMessage) :
    registrations (sent ++ more) = registrations sent + registrations more := by
  induction sent with
  | nil => simp [registrations]
  | cons m rest ih =>
    cases m <;> simp only [registrations, List.cons_append, ih]
    omega

theorem counterLog_append {registered : Nat} {sent : List UpMessage} (log : CounterLog registered sent)
    {more : List UpMessage} (next : CounterLog (registered + registrations sent) more) :
    CounterLog registered (sent ++ more) := by
  induction sent generalizing registered with
  | nil => simpa [registrations] using next
  | cons m rest ih =>
    cases m <;> simp only [CounterLog, registrations] at log next ⊢
    case registerCounter id group name =>
      have shifted : registered + (registrations rest + 1) = registered + 1 + registrations rest := by
        omega
      exact ⟨log.1, ih log.2 (shifted ▸ next)⟩
    case incrementCounter id amount => exact ⟨log.1, log.2.1, ih log.2.2 next⟩
    all_goals exact ih log next

theorem sentTo_unregistered {registered : Nat} {sent : List UpMessage}
    (log : CounterLog registered sent) {id : Int}
    (outside : ¬(0 ≤ id ∧ id < registered + registrations sent)) : sentTo id sent = 0 := by
  induction sent generalizing registered with
  | nil => rfl
  | cons m rest ih =>
    cases m <;> simp only [CounterLog, registrations, sentTo] at log outside ⊢
    case registerCounter j group name =>
      exact ih log.2 (by push_cast at outside ⊢; omega)
    case incrementCounter j amount =>
      have other : j ≠ id := by omega
      rw [if_neg other, ih log.2.2 outside, Int.add_zero]
    all_goals exact ih log outside

end Log

section Accounts

/-- The items of `self.counters` for `registered` counters holding `pending`: ids `0, 1, ...` in
registration order. -/
def counterEntries (registered : Nat) (pending : Int → Int) : List (PyObj × PyObj) :=
  (List.range registered).map fun i : Nat => (.int i, .int (pending i))

theorem counterEntries_succ (registered : Nat) (pending : Int → Int) :
    counterEntries (registered + 1) pending =
      counterEntries registered pending ++ [(.int registered, .int (pending registered))] := by
  simp [counterEntries, List.range_succ]

theorem length_counterEntries (registered : Nat) (pending : Int → Int) :
    (counterEntries registered pending).length = registered := by
  simp [counterEntries]

theorem lookup_counterEntries (registered : Nat) (pending : Int → Int) (counter : PyObj) :
    (counterEntries registered pending).lookup counter =
      match counter with
      | .int id => if 0 ≤ id ∧ id < registered then some (.int (pending id)) else none
      | _ => none := by
  induction registered with
  | zero => cases counter <;> simp [counterEntries]
  | succ n ih =>
    rw [counterEntries_succ, List.lookup_append, ih]
    cases counter with
    | int id =>
      by_cases below : 0 ≤ id ∧ id < n
      · simp [below]
        omega
      · by_cases last : id = n
        · subst last
          simp
        · have other : (PyObj.int id == PyObj.int n) = false := by simp [last]
          simp [below, List.lookup_cons, other]
          omega
    | _ => rfl

theorem replace_counterEntries (registered : Nat) (pending : Int → Int) (id amount : Int) :
    PyDict.replace (counterEntries registered pending) (.int id) (.int amount) =
      counterEntries registered (Function.update pending id amount) := by
  unfold PyDict.replace counterEntries
  rw [List.map_map]
  refine List.map_congr_left fun i _ => ?_
  by_cases same : (i : Int) = id
  · subst same
    simp
  · simp [same]

/-- The context accounts for ledger `l` with the messages `sent` after the uplink's first `w0`
bytes: the uplink is open and holds exactly those messages, they register ids in order and
increment registered ones, and every counter holds what was added to it and not yet sent. A
report writes no status and its progress value is a float. -/
structure Accounted (w0 : Bytes) (l : Ledger) (sent : List UpMessage) (c : TaskContext) :
    Prop where
  uplink : c.uplink = .at (w0 ++ sent.flatMap UpMessage.encode)
  log : CounterLog 0 sent
  registered : registrations sent = l.registered
  fits : l.registered ≤ 2 ^ 31
  unused : ∀ id : Int, ¬(0 ≤ id ∧ id < l.registered) → l.total id = 0
  counters : c.counters.entries = counterEntries l.registered fun id => l.total id - sentTo id sent
  quiet : c.status.truthy = false
  reported : ∃ p, c.progressValue = .float p

theorem Accounted.start {c : TaskContext} (fresh : c.counters = .empty) (isOpen : c.uplink.closed = false)
    (quiet : c.status.truthy = false) (reported : ∃ p, c.progressValue = .float p) :
    Accounted c.uplink.written Ledger.empty [] c where
  uplink := by
    rcases stream : c.uplink with ⟨closed, written⟩
    rw [stream] at isOpen
    subst isOpen
    simp [FileOutStreamObj.at]
  log := trivial
  registered := rfl
  fits := by simp [Ledger.empty]
  unused := fun _ _ => rfl
  counters := by simp [fresh, PyDict.empty, counterEntries, Ledger.empty]
  quiet := quiet
  reported := reported

end Accounts

section Steps

variable {w0 : Bytes} {l : Ledger} {sent : List UpMessage} {c : TaskContext}

theorem Accounted.not_mem_keys (acc : Accounted w0 l sent c) :
    PyObj.int l.registered ∉ c.counters.keys := by
  rw [PyDict.mem_keys_iff, PyDict.get?, acc.counters, lookup_counterEntries]
  simp

theorem Accounted.mem_keys (acc : Accounted w0 l sent c) {id : Int}
    (inside : 0 ≤ id ∧ id < l.registered) : PyObj.int id ∈ c.counters.keys := by
  rw [PyDict.mem_keys_iff, PyDict.get?, acc.counters, lookup_counterEntries]
  simp [inside]

theorem Accounted.getCounter (acc : Accounted w0 l sent c) (group name : String) {id : PyObj}
    {c' : TaskContext} (ran : (TaskContext.getCounter (.str group) (.str name)).run c = (.ok id, c')) :
    id = .int l.registered ∧
      Accounted w0 (l.record (.getCounter group name))
        (sent ++ [.registerCounter l.registered (utf8 group) (utf8 name)]) c' := by
  have counted : c.counters.entries.length = l.registered := by
    rw [acc.counters, length_counterEntries]
  have small : -2 ^ 31 ≤ (l.registered : Int) ∧ (l.registered : Int) < 2 ^ 31 := by
    by_contra large
    have big : ¬((l.registered : Int) < 2147483648) := by omega
    simp [TaskContext.getCounter, run_bind, TaskContext.onUplink, run_zoom, acc.uplink, counted,
      run_registerCounter, big] at ran
  simp only [TaskContext.getCounter, run_bind, run_get, TaskContext.onUplink, run_zoom, acc.uplink,
    counted, run_registerCounter, if_pos small, run_flush, run_modify, run_pure] at ran
  obtain ⟨returned, rfl⟩ := Prod.mk.inj ran
  have unregistered : l.total l.registered - sentTo l.registered sent = 0 := by
    rw [acc.unused _ (by omega), sentTo_unregistered acc.log (by rw [acc.registered]; omega)]
    rfl
  refine ⟨(Except.ok.inj returned).symm, ⟨?_, ?_, ?_, ?_, ?_, ?_, acc.quiet, acc.reported⟩⟩
  · simp [List.flatMap_append, List.append_assoc]
  · refine counterLog_append acc.log ?_
    simp [CounterLog, acc.registered]
  · simp [registrations, acc.registered, Ledger.record]
  · simp only [Ledger.record]
    omega
  · intro id outside
    exact acc.unused id (by simp only [Ledger.record] at outside; omega)
  · simp only [PyDict.entries_insert_of_not_mem acc.not_mem_keys, acc.counters, Ledger.record,
      counterEntries_succ, sentTo_append]
    simp [sentTo, unregistered]

theorem Accounted.incrementCounter {rt : Runtime}
    (pythonInts : ∀ a b : Int, rt.add (.int a) (.int b) = .ok (.int (a + b)))
    (acc : Accounted w0 l sent c) (counter : PyObj) (amount : Int) :
    Accounted w0 (l.record (.incrementCounter counter amount)) sent
      ((TaskContext.incrementCounter rt counter (.int amount)).run c).2 := by
  unfold TaskContext.incrementCounter
  cases counter with
  | int id =>
    have found : c.counters.entries.lookup (.int id) =
        if 0 ≤ id ∧ id < l.registered then some (.int (l.total id - sentTo id sent)) else none := by
      rw [acc.counters, lookup_counterEntries]
    by_cases inside : 0 ≤ id ∧ id < l.registered
    · have present : PyObj.int id ∈ c.counters.keys := acc.mem_keys inside
      have recorded : l.record (.incrementCounter (.int id) amount) =
          { l with total := Function.update l.total id (l.total id + amount) } := if_pos inside
      simp only [run_bind, run_get, PyDict.get?, found, if_pos inside, pythonInts, run_ofExcept_ok,
        run_modify]
      rw [recorded]
      refine ⟨acc.uplink, acc.log, acc.registered, acc.fits, ?_, ?_, acc.quiet, acc.reported⟩
      · intro other outside
        dsimp only at outside ⊢
        rw [Function.update_of_ne (by omega)]
        exact acc.unused other outside
      · simp only [PyDict.entries_insert_of_mem present, acc.counters, replace_counterEntries]
        congr 1
        funext other
        by_cases same : other = id
        · subst same
          simp
          omega
        · simp [Function.update_of_ne same]
    · simp only [run_bind, run_get, PyDict.get?, found, if_neg inside, run_throw]
      simpa [Ledger.record, inside] using acc
  | _ => simpa [run_bind, PyDict.get?, acc.counters, lookup_counterEntries, Ledger.record] using acc

theorem Accounted.congr (acc : Accounted w0 l sent c) {c' : TaskContext} (uplink : c'.uplink = c.uplink)
    (counters : c'.counters = c.counters) (status : c'.status = c.status)
    (progress : c'.progressValue = c.progressValue) : Accounted w0 l sent c' where
  uplink := uplink ▸ acc.uplink
  log := acc.log
  registered := acc.registered
  fits := acc.fits
  unused := acc.unused
  counters := counters ▸ acc.counters
  quiet := status ▸ acc.quiet
  reported := progress ▸ acc.reported

/-- One pass of the `__spill_counters` loop over a registered counter: a non-zero amount goes out
in `INCREMENT_COUNTER` and the counter is set to zero; the pass returns only if the amount fits
the `long long` the message carries. -/
theorem Accounted.spillCounter (acc : Accounted w0 l sent c) {i : Int}
    (inside : 0 ≤ i ∧ i < l.registered) {c' : TaskContext}
    (ran : (TaskContext.spillCounter (.int i, .int (l.total i - sentTo i sent))).run c = (.ok (), c')) :
    ∃ more, Accounted w0 l (sent ++ more) c' ∧ l.total i - sentTo i (sent ++ more) = 0 ∧
      ∀ j, j ≠ i → sentTo j more = 0 := by
  unfold TaskContext.spillCounter at ran
  by_cases zero : l.total i - sentTo i sent = 0
  · have skipped : (PyObj.int (l.total i - sentTo i sent)).truthy = false := by
      simp [PyObj.truthy, zero]
    simp only [skipped, Bool.false_eq_true, if_false, run_pure, Prod.mk.injEq] at ran
    obtain ⟨-, rfl⟩ := ran
    exact ⟨[], by simpa using acc, by simpa using zero, fun _ _ => rfl⟩
  · have sending : (PyObj.int (l.total i - sentTo i sent)).truthy = true := by
      simp [PyObj.truthy, zero]
    have fits : -2 ^ 31 ≤ i ∧ i < 2 ^ 31 := by
      have := acc.fits
      omega
    have long : -2 ^ 63 ≤ l.total i - sentTo i sent ∧ l.total i - sentTo i sent < 2 ^ 63 := by
      by_contra outside
      simp only [sending, if_true, run_bind, TaskContext.onUplink, run_zoom, acc.uplink,
        run_incrementCounter _ fits, if_neg outside] at ran
      simp at ran
    simp only [sending, if_true, run_bind, TaskContext.onUplink, run_zoom, acc.uplink,
      run_incrementCounter _ fits, if_pos long, run_modify, Prod.mk.injEq] at ran
    obtain ⟨-, rfl⟩ := ran
    have present : PyObj.int i ∈ c.counters.keys := acc.mem_keys inside
    refine ⟨[.incrementCounter i (l.total i - sentTo i sent)],
      ⟨?_, ?_, ?_, acc.fits, acc.unused, ?_, acc.quiet, acc.reported⟩, ?_, ?_⟩
    · simp [List.flatMap_append, List.append_assoc]
    · refine counterLog_append acc.log ?_
      simp only [CounterLog, Nat.zero_add, acc.registered]
      exact ⟨inside.1, inside.2, trivial⟩
    · simp [registrations, acc.registered]
    · simp only [PyDict.entries_insert_of_mem present, acc.counters, replace_counterEntries]
      congr 1
      funext j
      by_cases same : j = i
      · subst same
        simp [sentTo]
      · simp [Function.update_of_ne same, sentTo, Ne.symm same]
    · simp [sentTo]
    · intro j other
      simp [sentTo, Ne.symm other]

theorem Accounted.spillLoop (pending : Int → Int) :
    ∀ (ids : List Nat) {sent : List UpMessage} {c c' : TaskContext}, Accounted w0 l sent c →
      ids.Nodup → (∀ i ∈ ids, i < l.registered) →
      (∀ i ∈ ids, l.total i - sentTo i sent = pending i) →
      ((ids.map fun i : Nat => (PyObj.int i, PyObj.int (pending i))).forM
        TaskContext.spillCounter).run c =
        (.ok (), c') →
      ∃ more, Accounted w0 l (sent ++ more) c' ∧
        (∀ i ∈ ids, l.total i - sentTo i (sent ++ more) = 0) ∧
        ∀ j : Int, (∀ i ∈ ids, j ≠ i) → sentTo j more = 0 := by
  intro ids
  -- induction on the ids still to spill, for any log and context reached so far
  induction ids with
  | nil =>
    intro sent c c' acc _ _ _ ran
    rw [List.map_nil, List.forM, run_pure, Prod.mk.injEq] at ran
    obtain ⟨-, rfl⟩ := ran
    exact ⟨[], by simpa using acc, fun _ member => absurd member List.not_mem_nil, fun _ _ => rfl⟩
  | cons i ids ih =>
    intro sent c c' acc distinct below holding ran
    rw [List.nodup_cons] at distinct
    rw [List.map_cons, List.forM, ← holding i List.mem_cons_self] at ran
    obtain ⟨u, c₁, first, ran⟩ := run_bind_eq_ok ran
    obtain ⟨more₁, acc₁, zeroed, untouched⟩ :=
      acc.spillCounter ⟨by omega, by exact_mod_cast below i List.mem_cons_self⟩ first
    have holding₁ : ∀ j ∈ ids, l.total j - sentTo j (sent ++ more₁) = pending j := by
      intro j member
      have other : (j : Int) ≠ i := by
        intro same
        rw [Int.natCast_inj] at same
        subst same
        exact distinct.1 member
      rw [sentTo_append, untouched j other, Int.add_zero]
      exact holding j (List.mem_cons_of_mem i member)
    obtain ⟨more₂, acc₂, zeroed₂, untouched₂⟩ :=
      ih acc₁ distinct.2 (fun j member => below j (List.mem_cons_of_mem i member)) holding₁ ran
    refine ⟨more₁ ++ more₂, by simpa using acc₂, ?_, ?_⟩
    · intro j member
      rcases List.mem_cons.mp member with rfl | later
      · have missed : sentTo j more₂ = 0 := by
          refine untouched₂ j fun k member same => distinct.1 ?_
          rw [Int.natCast_inj] at same
          rwa [same]
        simpa [← List.append_assoc, missed] using zeroed
      · simpa using zeroed₂ j later
    · intro j outside
      rw [sentTo_append, untouched j (outside i List.mem_cons_self),
        untouched₂ j fun k member => outside k (List.mem_cons_of_mem i member)]
      rfl

theorem Accounted.spillCounters (acc : Accounted w0 l sent c) {c' : TaskContext}
    (ran : TaskContext.spillCounters.run c = (.ok (), c')) :
    ∃ more, Accounted w0 l (sent ++ more) c' ∧ ∀ id, sentTo id (sent ++ more) = l.total id := by
  simp only [TaskContext.spillCounters, run_bind, run_get, acc.counters, counterEntries] at ran
  obtain ⟨more, acc', zeroed, _⟩ := Accounted.spillLoop (fun id => l.total id - sentTo id sent)
    (List.range l.registered) acc List.nodup_range
    (fun i member => List.mem_range.mp member) (fun _ _ => rfl) ran
  refine ⟨more, acc', fun id => ?_⟩
  by_cases inside : 0 ≤ id ∧ id < l.registered
  · obtain ⟨n, rfl⟩ := Int.eq_ofNat_of_zero_le inside.1
    have sentAll := zeroed n (List.mem_range.mpr (by exact_mod_cast inside.2))
    omega
  · rw [acc.unused id inside]
    exact sentTo_unregistered acc'.log (by rw [acc'.registered]; simpa using inside)

theorem Accounted.writePlain (acc : Accounted w0 l sent c) {m : UpMessage}
    (plain : m = .done ∨ ∃ bits, m = .progress bits) {c' : TaskContext}
    (uplink : c'.uplink = .at (w0 ++ (sent ++ [m]).flatMap UpMessage.encode))
    (counters : c'.counters = c.counters) (status : c'.status = c.status)
    (progress : c'.progressValue = c.progressValue) : Accounted w0 l (sent ++ [m]) c' := by
  have silent : CounterLog (0 + registrations sent) [m] ∧ registrations [m] = 0 ∧
      ∀ id, sentTo id [m] = 0 := by
    rcases plain with rfl | ⟨bits, rfl⟩ <;> exact ⟨trivial, rfl, fun _ => rfl⟩
  refine ⟨uplink, counterLog_append acc.log silent.1, ?_, acc.fits, acc.unused, ?_,
    status ▸ acc.quiet, progress ▸ acc.reported⟩
  · rw [registrations_append, silent.2.1, Nat.add_zero, acc.registered]
  · simp only [counters, acc.counters, sentTo_append, silent.2.2, Int.add_zero]

theorem Accounted.progressAt (acc : Accounted w0 l sent c) (now : ℚ) {c' : TaskContext}
    (ran : (TaskContext.progressAt now).run c = (.ok (), c')) :
    ∃ more, Accounted w0 l (sent ++ more) c' := by
  unfold TaskContext.progressAt at ran
  rw [run_bind, run_get] at ran
  dsimp only at ran
  split at ran
  · simp only [run_bind, run_modify, run_get, acc.quiet, Bool.false_eq_true, if_false,
      run_pure] at ran
    have acc₁ : Accounted w0 l sent { c with lastProgressT := now } := acc.congr rfl rfl rfl rfl
    rcases spilled : TaskContext.spillCounters.run { c with lastProgressT := now } with
      ⟨outcome, c₂⟩
    rw [spilled] at ran
    cases outcome with
    | error e => simp at ran
    | ok u =>
      obtain ⟨more, acc₂, -⟩ := acc₁.spillCounters spilled
      obtain ⟨p, float⟩ := acc₂.reported
      simp only [TaskContext.onUplink, run_zoom, float, acc₂.uplink, run_progress,
        run_flush] at ran
      obtain ⟨-, rfl⟩ := Prod.mk.inj ran
      refine ⟨more ++ [.progress (Float.ofBits p).toFloat32.toBits], ?_⟩
      rw [← List.append_assoc]
      exact acc₂.writePlain (.inr ⟨_, rfl⟩) (by simp [List.flatMap_append]) rfl rfl float.symm
  · simp only [run_pure, Prod.mk.injEq] at ran
    obtain ⟨-, rfl⟩ := ran
    exact ⟨[], by simpa using acc⟩

variable {rt : Runtime}

theorem Accounted.call (pythonInts : ∀ a b : Int, rt.add (.int a) (.int b) = .ok (.int (a + b)))
    (acc : Accounted w0 l sent c) (call : CounterCall) {c' : TaskContext}
    (ran : (call.run rt).run c = (.ok (), c')) :
    ∃ more, Accounted w0 (l.record call) (sent ++ more) c' := by
  cases call with
  | getCounter group name =>
    rw [CounterCall.run] at ran
    obtain ⟨id, c₁, registered, returned⟩ := run_bind_eq_ok ran
    obtain ⟨-, rfl⟩ := Prod.mk.inj returned
    exact ⟨_, (acc.getCounter group name registered).2⟩
  | incrementCounter counter amount =>
    simp only [CounterCall.run, run_bind, run_reify, run_pure, Prod.mk.injEq] at ran
    obtain ⟨-, rfl⟩ := ran
    exact ⟨[], by simpa using acc.incrementCounter pythonInts counter amount⟩
  | progress now => exact acc.progressAt now ran

theorem Accounted.calls (pythonInts : ∀ a b : Int, rt.add (.int a) (.int b) = .ok (.int (a + b))) :
    ∀ (calls : List CounterCall) {l : Ledger} {sent : List UpMessage} {c c' : TaskContext},
      Accounted w0 l sent c → (calls.forM (CounterCall.run rt)).run c = (.ok (), c') →
      ∃ more, Accounted w0 (calls.foldl Ledger.record l) (sent ++ more) c'
  | [], _, _, _, _, acc, ran => by
    rw [List.forM, run_pure, Prod.mk.injEq] at ran
    obtain ⟨-, rfl⟩ := ran
    exact ⟨[], by simpa using acc⟩
  | call :: calls, l, sent, c, c', acc, ran => by
    rw [List.forM] at ran
    obtain ⟨u, c₁, first, rest⟩ := run_bind_eq_ok ran
    obtain ⟨more₁, acc₁⟩ := acc.call pythonInts call first
    obtain ⟨more₂, acc₂⟩ := Accounted.calls pythonInts calls acc₁ rest
    exact ⟨more₁ ++ more₂, by simpa using acc₂⟩

theorem Accounted.close (acc : Accounted w0 l sent c) {c' : TaskContext}
    (ran : TaskContext.closeCounters.run c = (.ok (), c')) :
    ∃ more, Accounted w0 l (sent ++ more) c' ∧ (∀ id, sentTo id (sent ++ more) = l.total id) ∧
      (sent ++ more).getLast? = some .done := by
  simp only [TaskContext.closeCounters, run_bind, TaskContext.onUplink, run_zoom, acc.uplink,
    run_flush] at ran
  have acc₁ : Accounted w0 l sent { c with uplink := .at (w0 ++ sent.flatMap UpMessage.encode) } :=
    acc.congr acc.uplink.symm rfl rfl rfl
  rw [run_tryFinally] at ran
  rcases spilled : TaskContext.spillCounters.run
      { c with uplink := .at (w0 ++ sent.flatMap UpMessage.encode) } with ⟨outcome, c₂⟩
  obtain ⟨more, acc₂, sentAll⟩ : ∃ more, Accounted w0 l (sent ++ more) c₂ ∧
      ∀ id, sentTo id (sent ++ more) = l.total id := by
    cases outcome with
    | ok u => exact acc₁.spillCounters spilled
    | error e =>
      -- the body raised: whatever the `finally` block does, `close` raises
      rw [spilled] at ran
      simp only at ran
      split at ran <;> simp at ran
  rw [spilled] at ran
  simp only [run_bind, run_zoom, acc₂.uplink, run_done, run_flush] at ran
  cases outcome with
  | error e => simp at ran
  | ok u =>
    obtain ⟨-, rfl⟩ := Prod.mk.inj ran
    refine ⟨more ++ [.done], ?_, ?_, ?_⟩
    · rw [← List.append_assoc]
      exact acc₂.writePlain (.inl rfl) (by simp [List.flatMap_append]) rfl rfl rfl
    · intro id
      rw [← List.append_assoc, sentTo_append, sentAll id]
      simp [sentTo]
    · simp

end Steps

section Accounting

/-- A runtime whose `+` is that of Python's `int`. -/
def intRuntime : Runtime :=
  { (default : Runtime) with
    add := fun
      | .int a, .int b => .ok (.int (a + b))
      | _, _ => .error .typeError }

/-- Two counters, an increment of each, a report and one increment of an id never registered. -/
def sampleCounterCalls : List CounterCall :=
  [.getCounter "g" "a", .getCounter "g" "b", .incrementCounter (.int 0) 5, .progress 2,
    .incrementCounter (.int 1) 7, .incrementCounter (.int 0) (-2), .incrementCounter (.int 2) 1]

/-- User code that increments a counter past the `int64_t` range, catches the `OverflowError` of
the report, and brings the amount back in range before the task closes. -/
def overflowSession (rt : Runtime) : Effect PyExc TaskContext Unit := do
  let id ← TaskContext.getCounter (.str "g") (.str "n")
  TaskContext.incrementCounter rt id (.int (2 ^ 63))
  let _ ← reify (TaskContext.progressAt 2)
  TaskContext.incrementCounter rt id (.int (-1))
  TaskContext.closeCounters

end Accounting

end Pydoop.Mapreduce
