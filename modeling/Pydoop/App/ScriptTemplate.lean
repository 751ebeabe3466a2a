import Pydoop.Mapreduce.Counters
import Mathlib.Algebra.BigOperators.Group.Finset.Piecewise
import Mathlib.Algebra.BigOperators.Group.Finset.Basic

/-! `pydoop.app.script_template`: the driver `pydoop script` generates for a user module. Each
`map`, `reduce` or `combine` call hands the user function a fresh `ContextWriter`, whose `count`
looks the counter id up by name with `dict.setdefault`. Python evaluates the default argument,
a `get_counter` call, before the lookup, so every `count` registers a counter: a task sends one
`REGISTER_COUNTER` per call, not per name. The amounts still add up per name, since an
increment only ever goes to a counter registered under its name. -/

namespace Pydoop.App

open Effect HadoopUtils PyText Mapreduce
open Sercore hiding OUTPUT PARTITIONED_OUTPUT

/-- `ContextWriter(context)`: the counter ids its `count` has looked up, by name. -/
structure ContextWriter where
  counters : PyDict String PyObj

namespace ContextWriter

variable (rt : Runtime) (module : String)

/-- `count(what, howmany)` in the driver for `module`:
`self.counters.setdefault(what, self.context.get_counter(module, what))`, then
`increment_counter` of the id it gives. -/
def count (w : ContextWriter) (what : String) (howmany : Int) :
    Effect PyExc TaskContext ContextWriter := do
  let fresh ← TaskContext.getCounter (.str module) (.str what)
  let (counter, counters) := w.counters.setdefault what fresh
  TaskContext.incrementCounter rt counter (.int howmany)
  return ⟨counters⟩

/-- The user function's `writer.count` calls, one after another, through one writer. -/
def countAll : ContextWriter → List (String × Int) → Effect PyExc TaskContext ContextWriter
  | w, [] => pure w
  | w, (what, howmany) :: rest => do
    let w ← w.count rt module what howmany
    countAll w rest

end ContextWriter

/-- One `without_conf` or `with_conf` call of the driver's mapper, reducer or combiner: the user
function gets `ContextWriter(ctx)` and makes the counts `counts` through it. -/
def userCall (rt : Runtime) (module : String) (counts : List (String × Int)) :
    Effect PyExc TaskContext Unit := do
  let _ ← ContextWriter.countAll rt module ⟨PyDict.empty⟩ counts
  pure ()

/-- A task of the driver as far as its counters go: the user calls, then `close()`. -/
def scriptSession (rt : Runtime) (module : String) (calls : List (List (String × Int))) :
    Effect PyExc TaskContext Unit := do
  calls.forM (userCall rt module)
  TaskContext.closeCounters

/-! ### Counters by name -/

/-- The names of the counters the messages register, in order. -/
def registeredNames : List UpMessage → List Bytes
  | [] => []
  | .registerCounter _ _ name :: rest => name :: registeredNames rest
  | _ :: rest => registeredNames rest

/-- What the messages send for the counters registered under `name`. -/
def sentForName (sent : List UpMessage) (name : Bytes) : Int :=
  ∑ i ∈ Finset.range (registeredNames sent).length,
    if (registeredNames sent)[i]? = some name then sentTo (i : Int) sent else 0

/-- The amount counted under `name`. -/
def counted (counts : List (String × Int)) (name : String) : Int :=
  ((counts.filter (·.1 = name)).map (·.2)).sum

/-- The total of the counters with ids `0, 1, ...` named by `names` whose name is `name`. -/
def nameTotal (names : List String) (total : Int → Int) (name : String) : Int :=
  ∑ i ∈ Finset.range names.length, if names[i]? = some name then total (i : Int) else 0

@[simp] theorem registeredNames_append (sent more : List UpMessage) :
    registeredNames (sent ++ more) = registeredNames sent ++ registeredNames more := by
  induction sent with
  | nil => rfl
  | cons m rest ih => cases m <;> simp [registeredNames, ih]

theorem length_registeredNames (sent : List UpMessage) :
    (registeredNames sent).length = registrations sent := by
  induction sent with
  | nil => rfl
  | cons m rest ih => cases m <;> simp [registeredNames, registrations, ih]

theorem counted_concat (counts : List (String × Int)) (what name : String) (howmany : Int) :
    counted (counts ++ [(what, howmany)]) name = counted counts name + if what = name then howmany else 0 := by
  by_cases same : what = name <;> simp [counted, same]

theorem nameTotal_concat (names : List String) (total : Int → Int) (what name : String) :
    nameTotal (names ++ [what]) total name =
      nameTotal names total name + if what = name then total names.length else 0 := by
  rw [nameTotal, List.length_append, List.length_singleton, Finset.sum_range_succ]
  have earlier : ∀ i ∈ Finset.range names.length,
      (if (names ++ [what])[i]? = some name then total i else 0) =
        if names[i]? = some name then total i else 0 := by
    intro i below
    rw [List.getElem?_append_left (Finset.mem_range.mp below)]
  rw [Finset.sum_congr rfl earlier, nameTotal]
  simp

theorem nameTotal_update {names : List String} {i : Nat} {what : String}
    (named : names[i]? = some what) (total : Int → Int) (amount : Int) (name : String) :
    nameTotal names (Function.update total i (total i + amount)) name =
      nameTotal names total name + if what = name then amount else 0 := by
  have below := (List.getElem?_eq_some_iff.mp named).1
  have pointwise : ∀ j ∈ Finset.range names.length,
      (if names[j]? = some name then Function.update total i (total i + amount) j else 0) =
        (if names[j]? = some name then total j else 0) +
          if j = i then (if what = name then amount else 0) else 0 := by
    intro j _
    by_cases same : j = i
    · subst same
      by_cases asked : what = name <;> simp [named, asked]
    · have apart : (j : Int) ≠ i := by omega
      simp [same]
  rw [nameTotal, Finset.sum_congr rfl pointwise, Finset.sum_add_distrib, Finset.sum_ite_eq',
    if_pos (Finset.mem_range.mpr below), nameTotal]

/-! ### The invariant of a task -/

/-- The writer's ids are counters registered under their names. -/
def Knows (names : List String) (w : ContextWriter) : Prop :=
  ∀ what id, w.counters.get? what = some id → ∃ i : Nat, id = .int i ∧ names[i]? = some what

theorem knows_empty (names : List String) : Knows names ⟨PyDict.empty⟩ := by
  intro what id found
  cases found

theorem Knows.concat {names : List String} {w : ContextWriter} (knows : Knows names w)
    (what : String) : Knows (names ++ [what]) w := by
  intro name id found
  obtain ⟨i, rfl, named⟩ := knows name id found
  have below := (List.getElem?_eq_some_iff.mp named).1
  exact ⟨i, rfl, by rw [List.getElem?_append_left below, named]⟩

theorem Knows.setdefault {names : List String} {w : ContextWriter} (knows : Knows names w)
    (what : String) {fresh : PyObj} (isNext : fresh = .int names.length) :
    ∃ i : Nat, (w.counters.setdefault what fresh).1 = .int i ∧ (names ++ [what])[i]? = some what ∧
      Knows (names ++ [what]) ⟨(w.counters.setdefault what fresh).2⟩ := by
  have last : (names ++ [what])[names.length]? = some what := by simp
  cases known : w.counters.get? what with
  | some id =>
    obtain ⟨i, rfl, earlier⟩ := knows what id known
    have below := (List.getElem?_eq_some_iff.mp earlier).1
    rw [PyDict.setdefault_of_get?_some known]
    exact ⟨i, rfl, by rw [List.getElem?_append_left below, earlier], knows.concat what⟩
  | none =>
    rw [PyDict.setdefault_of_get?_none known]
    refine ⟨names.length, isNext, last, fun name id found => ?_⟩
    rw [PyDict.get?_insert] at found
    by_cases same : name = what
    · subst same
      rw [if_pos rfl] at found
      cases found
      exact ⟨names.length, isNext, last⟩
    · rw [if_neg same] at found
      exact knows.concat what name id found

/-- The context accounts, as `Accounted` says, for the counts `done` made so far: one counter
registered per count, under the count's name, and the amounts of each name added to counters of
that name. -/
structure Tallied (w0 : Bytes) (l : Ledger) (done : List (String × Int)) (sent : List UpMessage)
    (c : TaskContext) : Prop where
  accounted : Accounted w0 l sent c
  length : done.length = l.registered
  named : registeredNames sent = done.map fun count => utf8 count.1
  tallies : ∀ name, nameTotal (done.map Prod.fst) l.total name = counted done name

theorem Tallied.start {w0 : Bytes} {c : TaskContext} (acc : Accounted w0 Ledger.empty [] c) :
    Tallied w0 Ledger.empty [] [] c where
  accounted := acc
  length := rfl
  named := rfl
  tallies := fun _ => by simp [nameTotal, counted]

section Steps

variable {rt : Runtime} {module : String} {w0 : Bytes}

theorem Tallied.count (pythonInts : ∀ a b : Int, rt.add (.int a) (.int b) = .ok (.int (a + b)))
    {l : Ledger} {done : List (String × Int)} {sent : List UpMessage} {c : TaskContext}
    (tal : Tallied w0 l done sent c) {w : ContextWriter} (knows : Knows (done.map Prod.fst) w)
    {what : String} {howmany : Int} {w' : ContextWriter} {c' : TaskContext}
    (ran : (w.count rt module what howmany).run c = (.ok w', c')) :
    ∃ l', Tallied w0 l' (done ++ [(what, howmany)])
        (sent ++ [.registerCounter l.registered (utf8 module) (utf8 what)]) c' ∧
      Knows ((done ++ [(what, howmany)]).map Prod.fst) w' := by
  rw [ContextWriter.count] at ran
  obtain ⟨fresh, c₁, registered, rest⟩ := run_bind_eq_ok ran
  obtain ⟨isNext, acc₁⟩ := tal.accounted.getCounter module what registered
  have names : ((done ++ [(what, howmany)]).map Prod.fst) = done.map Prod.fst ++ [what] := by simp
  have next : fresh = .int (done.map Prod.fst).length := by rw [isNext, List.length_map, tal.length]
  obtain ⟨i, picked, named, knows'⟩ := knows.setdefault what next
  rcases chosen : w.counters.setdefault what fresh with ⟨counter, counters⟩
  rw [chosen] at picked knows'
  dsimp only at picked knows'
  subst picked
  rw [chosen] at rest
  have below : i < l.registered + 1 := by
    have within := (List.getElem?_eq_some_iff.mp named).1
    simpa [tal.length] using within
  rcases incremented : (TaskContext.incrementCounter rt (.int i) (.int howmany)).run c₁ with
    ⟨outcome, c₂⟩
  obtain ⟨u, c₃, stepped, returned⟩ := run_bind_eq_ok rest
  rw [incremented] at stepped
  obtain ⟨rfl, rfl⟩ := Prod.mk.inj stepped
  rw [run_pure] at returned
  obtain ⟨kept, rfl⟩ := Prod.mk.inj returned
  cases Except.ok.inj kept
  have acc₂ := acc₁.incrementCounter pythonInts (.int i) howmany
  rw [incremented] at acc₂
  have recorded : (l.record (.getCounter module what)).record (.incrementCounter (.int i) howmany) =
      { l with registered := l.registered + 1,
               total := Function.update l.total i (l.total i + howmany) } := by
    rw [Ledger.record_getCounter, Ledger.record_incrementCounter_of_lt below]
  rw [recorded] at acc₂
  refine ⟨_, ⟨acc₂, by simp [tal.length], by simp [tal.named, registeredNames], fun name => ?_⟩,
    names ▸ knows'⟩
  have unused : l.total (done.map Prod.fst).length = 0 :=
    tal.accounted.unused _ (by simp [tal.length])
  dsimp only
  rw [names, nameTotal_update named, nameTotal_concat, unused, tal.tallies, counted_concat]
  simp

theorem Tallied.countAll (pythonInts : ∀ a b : Int, rt.add (.int a) (.int b) = .ok (.int (a + b))) :
    ∀ (counts : List (String × Int)) {l : Ledger} {done : List (String × Int)}
      {sent : List UpMessage} {c : TaskContext} {w w' : ContextWriter} {c' : TaskContext},
      Tallied w0 l done sent c → Knows (done.map Prod.fst) w →
      (w.countAll rt module counts).run c = (.ok w', c') →
      ∃ l' more, Tallied w0 l' (done ++ counts) (sent ++ more) c'
  | [], l, done, sent, c, w, w', c', tal, _, ran => by
    rw [ContextWriter.countAll, run_pure, Prod.mk.injEq] at ran
    obtain ⟨-, rfl⟩ := ran
    exact ⟨l, [], by simpa using tal⟩
  | (what, howmany) :: rest, l, done, sent, c, w, w', c', tal, knows, ran => by
    rw [ContextWriter.countAll] at ran
    obtain ⟨w₁, c₁, first, later⟩ := run_bind_eq_ok ran
    obtain ⟨l₁, tal₁, knows₁⟩ := tal.count pythonInts knows first
    obtain ⟨l₂, more, tal₂⟩ := Tallied.countAll pythonInts rest tal₁ knows₁ later
    exact ⟨l₂, [.registerCounter l.registered (utf8 module) (utf8 what)] ++ more,
      by simpa using tal₂⟩

theorem Tallied.userCalls (pythonInts : ∀ a b : Int, rt.add (.int a) (.int b) = .ok (.int (a + b))) :
    ∀ (calls : List (List (String × Int))) {l : Ledger} {done : List (String × Int)}
      {sent : List UpMessage} {c c' : TaskContext},
      Tallied w0 l done sent c → (calls.forM (userCall rt module)).run c = (.ok (), c') →
      ∃ l' more, Tallied w0 l' (done ++ calls.flatten) (sent ++ more) c'
  | [], l, done, sent, c, c', tal, ran => by
    rw [List.forM, run_pure, Prod.mk.injEq] at ran
    obtain ⟨-, rfl⟩ := ran
    exact ⟨l, [], by simpa using tal⟩
  | counts :: calls, l, done, sent, c, c', tal, ran => by
    rw [List.forM] at ran
    obtain ⟨u, c₁, first, later⟩ := run_bind_eq_ok ran
    rw [userCall] at first
    obtain ⟨w, c₂, counted, returned⟩ := run_bind_eq_ok first
    rw [run_pure, Prod.mk.injEq] at returned
    obtain ⟨-, rfl⟩ := returned
    obtain ⟨l₁, more₁, tal₁⟩ := tal.countAll pythonInts counts (knows_empty _) counted
    obtain ⟨l₂, more₂, tal₂⟩ := Tallied.userCalls pythonInts calls tal₁ later
    exact ⟨l₂, more₁ ++ more₂, by simpa using tal₂⟩

end Steps

/-- Counters of `pydoop script`, as far as they hold. From a fresh context, if the user calls and
`close()` return, the uplink has received exactly a list of counter messages ending with `DONE`
that registers one counter for every `writer.count` call, whatever its name, and sends for the
counters of each name the sum of the amounts counted under it. -/
theorem scriptSession_counters {rt : Runtime} (module : String)
    (pythonInts : ∀ a b : Int, rt.add (.int a) (.int b) = .ok (.int (a + b)))
    {c : TaskContext} (fresh : c.counters = .empty) (isOpen : c.uplink.closed = false)
    (quiet : c.status.truthy = false) (reported : ∃ p, c.progressValue = .float p)
    (calls : List (List (String × Int)))
    (returned : ((scriptSession rt module calls).run c).1 = .ok ()) :
    ∃ sent, ((scriptSession rt module calls).run c).2.uplink.written =
        c.uplink.written ++ sent.flatMap UpMessage.encode ∧
      CounterLog 0 sent ∧ sent.getLast? = some .done ∧
      registrations sent = calls.flatten.length ∧
      ∀ name, sentForName sent (utf8 name) = counted calls.flatten name := by
  rcases session : (scriptSession rt module calls).run c with ⟨outcome, c'⟩
  rw [session] at returned
  dsimp only at returned
  subst returned
  rw [scriptSession] at session
  obtain ⟨u, c₁, ran, closing⟩ := run_bind_eq_ok session
  have start := Tallied.start (Accounted.start fresh isOpen quiet reported)
  obtain ⟨l, more, tal⟩ := start.userCalls pythonInts calls ran
  simp only [List.nil_append] at tal
  obtain ⟨rest, acc, sentAll, last⟩ := tal.accounted.close closing
  have quietClose : registeredNames rest = [] := by
    have counts := acc.registered
    rw [registrations_append, tal.accounted.registered] at counts
    rw [← List.length_eq_zero_iff, length_registeredNames]
    omega
  have names : registeredNames (more ++ rest) = calls.flatten.map fun count => utf8 count.1 := by
    rw [registeredNames_append, quietClose, List.append_nil, tal.named]
  refine ⟨more ++ rest, ?_, acc.log, last, ?_, fun name => ?_⟩
  · rw [acc.uplink]
    simp [FileOutStreamObj.at]
  · rw [acc.registered, ← tal.length]
  · rw [sentForName, names, ← tal.tallies name, nameTotal, List.length_map, List.length_map]
    refine Finset.sum_congr rfl fun i _ => ?_
    have sameName : ((calls.flatten.map fun count => utf8 count.1)[i]? = some (utf8 name)) ↔
        ((calls.flatten.map Prod.fst)[i]? = some name) := by
      simp only [List.getElem?_map, Option.map_eq_some_iff]
      constructor
      · rintro ⟨count, found, same⟩
        exact ⟨count, found, utf8_inj same⟩
      · rintro ⟨count, found, same⟩
        exact ⟨count, found, by rw [same]⟩
    rw [sentAll i]
    exact if_congr sameName rfl rfl

/-- Two user calls counting under one name, the first one twice: three counters are registered
for `x`, and the 7 counted under it are sent for them. -/
theorem scriptSession_counts_registered_thrice :
    ∃ sent, ((scriptSession intRuntime "wc" [[("x", 1), ("x", 2)], [("x", 4)]]).run
          (TaskContext.init (.at []) false true)).2.uplink.written = sent.flatMap UpMessage.encode ∧
      CounterLog 0 sent ∧ sent.getLast? = some .done ∧ registrations sent = 3 ∧
      ∀ name, sentForName sent (utf8 name) = counted [("x", 1), ("x", 2), ("x", 4)] name := by
  have closed : ((scriptSession intRuntime "wc" [[("x", 1), ("x", 2)], [("x", 4)]]).run
      (TaskContext.init (.at []) false true)).1 = .ok () := by
    decide +kernel
  simpa [TaskContext.init, FileOutStreamObj.at] using
    @scriptSession_counters intRuntime "wc" (fun _ _ => rfl) _ rfl rfl rfl ⟨0, rfl⟩
      [[("x", 1), ("x", 2)], [("x", 4)]] closed

end Pydoop.App
