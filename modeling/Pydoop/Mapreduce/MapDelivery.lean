import Pydoop.Mapreduce.MapLoop

/-! Downward delivery in a map task fed by Java: each record `PipesMapper` sends reaches
`mapper.map`, once, in the order sent, with `context.key` and `context.value` set to it.

The record of the run shows it: the calls of `mapper.map` it records are the records sent, since
no context call, at any depth of nesting, and no part of `close()` calls `mapper.map`. The loop
stops before the last record only when `mapper.map` raises on a record, which is then the last
event of the run: the loop raises the exception, or returns normally when it is a
`StopIteration`, the later records never reaching the mapper (`map_records_delivered`). -/

namespace Pydoop.Mapreduce

open Effect HadoopUtils PyText Java
open Sercore hiding OUTPUT PARTITIONED_OUTPUT

/-- The record a call of `mapper.map` was made on, as the run records it. -/
def Event.mapCall : Event → Option (PyObj × PyObj)
  | .call .mapperMap key value => some (key, value)
  | _ => none

theorem Event.mapCall_eq_none {e : Event}
    (other : ∀ m key value, e = .call m key value → m ≠ .mapperMap) : e.mapCall = none := by
  cases e with
  | call m key value =>
    cases m
    case mapperMap => exact absurd rfl (other _ _ _ rfl)
    all_goals rfl
  | _ => rfl

namespace Task

variable {ω : Type} (rt : Runtime) (factory : Factory ω)

/-- Since `T`, the run has recorded calls of `mapper.map` on the records `ms` and on nothing else,
and `context.values` is no generator. -/
structure Mapped (T : List Event) (ms : List (PyObj × PyObj)) (t : Task ω) : Prop where
  record : ∃ new, t.trace = T ++ new ∧ new.filterMap Event.mapCall = ms
  values : t.input.values.isGenerator = false

namespace Mapped

variable {T : List Event} {ms : List (PyObj × PyObj)}

theorem log (e : Event) :
    Triple (Mapped (ω := ω) T ms) (Task.log e) fun _ => Mapped T (ms ++ e.mapCall.toList) := by
  intro t mapped
  obtain ⟨new, trace, calls⟩ := mapped.record
  refine ⟨⟨new ++ [e], by rw [run_log, trace, List.append_assoc], ?_⟩, mapped.values⟩
  rw [List.filterMap_append, calls, List.filterMap_cons, List.filterMap_nil]
  cases e.mapCall <;> rfl

theorem recording : Recording (· ≠ .mapperMap) (Mapped (ω := ω) T ms) where
  context _ _ _ mapped := ⟨mapped.record, mapped.values⟩
  heap _ _ mapped := ⟨mapped.record, mapped.values⟩
  clock _ _ mapped := ⟨mapped.record, mapped.values⟩
  list _ _ mapped := ⟨mapped.record, rfl⟩
  values _ mapped := mapped.values
  log e other t mapped := by
    have kept := log e t mapped
    rwa [Event.mapCall_eq_none other, Option.toList_none, List.append_nil] at kept
  onCache _ := Keeps.zoom fun _ _ mapped => ⟨mapped.record, mapped.values⟩

theorem putDownlink {t : Task ω} (mapped : Mapped T ms t) (dl : Downlink) :
    Mapped T ms (t.putDownlink dl) :=
  ⟨mapped.record, mapped.values⟩

end Mapped

section Delivery

variable {T : List Event} {ms : List (PyObj × PyObj)}

theorem levels_mapped (n : Nat) {R : Type} (m : Method) (p : UserMethod ω R)
    (other : m ≠ .mapperMap) : Keeps (Mapped T ms) ((levels rt factory n).invoke m p) :=
  levels_recording rt factory Mapped.recording (fun _ other => other) n m p other

theorem invoke_mapperMap (d : Nat) (p : UserMethod ω Unit) (key value : PyObj) :
    Triple (fun t => Mapped T ms t ∧ t.context.key = key ∧ t.context.value = value)
      ((levels rt factory (d + 1)).invoke .mapperMap p)
      fun o t => Mapped T (ms ++ [(key, value)]) t ∧
        ∀ e, o = .error e → t.trace.getLast? = some (.raise .mapperMap e) := by
  refine triple_invokeWith p (fun t ⟨mapped, keyed, valued⟩ => ?_)
    (Mapped.recording.handle fun key value =>
      Mapped.recording.emit (fun m p other => levels_mapped rt factory d m p other) _ key value)
    (fun _ _ mapped => ⟨mapped, fun _ returned => by cases returned⟩)
    fun e t mapped => ⟨Mapped.recording.log _ (fun _ _ _ raised => by cases raised) t mapped,
      fun _ raised => by cases raised; simp⟩
  have called := Mapped.log (.call .mapperMap t.context.key t.context.value) t mapped
  rw [keyed, valued] at called ⊢
  exact called

theorem callMap_mapped (d : Nat) (key value : PyObj) :
    Triple (fun t => Mapped T ms t ∧ t.context.mapper = true ∧ t.context.key = key ∧
        t.context.value = value)
      (callMap factory (levels rt factory (d + 1)).invoke)
      fun o t => Mapped T (ms ++ [(key, value)]) t ∧
        ∀ e, o = .error e → t.trace.getLast? = some (.raise .mapperMap e) := by
  refine Triple.read_bind run_getContext fun ctx => ?_
  rintro t ⟨⟨mapped, mapper, keyed, valued⟩, rfl⟩
  rw [mapper]
  exact invoke_mapperMap rt factory d _ key value t ⟨mapped, keyed, valued⟩

theorem mapItem_mapped (d : Nat) (key value : PyObj) :
    Triple (fun t => Mapped T ms t ∧ t.context.mapper = true)
      (onContext (modify fun c => { c with key, value }) >>= fun _ =>
        callMap factory (levels rt factory (d + 1)).invoke)
      fun o t => Mapped T (ms ++ [(key, value)]) t ∧
        ∀ e, o = .error e → t.trace.getLast? = some (.raise .mapperMap e) := by
  rintro t ⟨mapped, mapper⟩
  rw [run_bind_ok (run_onContext_modify _ t)]
  exact callMap_mapped rt factory d key value _
    ⟨Mapped.recording.context t { t.context with key, value } rfl mapped, mapper, rfl, rfl⟩

end Delivery

/-- How the loop over the commands for `items` ends, `mapper.map` having been called on the
records `ms` since `T`: either it was called on every record and the loop returned, or its call
on a record raised `e`, the last event of the run, and the loop stopped there, returning normally
if `e` is a `StopIteration` and raising it otherwise. -/
def Delivered (T : List Event) (ms items : List (PyObj × PyObj))
    (x : Except PyExc Unit × Task ω) : Prop :=
  (Mapped T (ms ++ items) x.2 ∧ x.1 = .ok ()) ∨
    ∃ i < items.length, ∃ e, Mapped T (ms ++ items.take (i + 1)) x.2 ∧
      x.2.trace.getLast? = some (.raise .mapperMap e) ∧
      x.1 = if e = .stopIteration then .ok () else .error e

theorem Delivered.cons {T : List Event} {ms items : List (PyObj × PyObj)} {item : PyObj × PyObj}
    {x : Except PyExc Unit × Task ω} (delivered : Delivered T (ms ++ [item]) items x) :
    Delivered T ms (item :: items) x := by
  rcases delivered with ⟨mapped, returned⟩ | ⟨i, inside, e, mapped, last, outcome⟩
  · left
    rw [List.append_assoc, List.singleton_append] at mapped
    exact ⟨mapped, returned⟩
  · right
    refine ⟨i + 1, by simpa using inside, e, ?_, last, outcome⟩
    rwa [List.append_assoc, List.singleton_append] at mapped

section Loop

variable {T T' : List Event} {k : Components} {dl : Downlink} {encode : Command → Bytes}
  {ts : Bytes}

/-- The loop from before the commands for `items`, `mapper.map` having been called on `ms`, ends
delivering `items`; by induction on the items, one pass for each and one for `CLOSE`. The
downlink stays before the commands left, since nothing but the loop reads it. -/
theorem runLoop_delivers (d : Nat) (mapper : k.mapper = true) :
    ∀ (items : List (PyObj × PyObj)) (fuel : Nat) (ms : List (PyObj × PyObj)) (s : Task ω),
      items.length + 1 ≤ fuel →
      (∀ cmd ∈ mapCommands items, ReadsCommand rt dl encode cmd) →
      s.input.downlink = dl.at ((mapCommands items).flatMap encode ++ ts) →
      Calm T k s → Mapped T' ms s →
      Delivered T' ms items ((runLoop (levels rt factory (d + 1)) fuel).run s) := by
  intro items
  induction items with
  | nil =>
    intro fuel ms s enough reads stream calm mapped
    obtain ⟨fuel, rfl⟩ : ∃ f, fuel = f + 1 := ⟨fuel - 1, by simp at enough; omega⟩
    have hasMapper : s.context.mapper = true := calm.mapper.trans mapper
    have closing : s.input.downlink = dl.at (encode .close ++ ts) := by
      simpa [mapCommands] using stream
    have stops := run_next_close rt factory (levels rt factory d) (levels rt factory (d + 1)).invoke
      (d + 1) (reads .close (by simp [mapCommands])) closing hasMapper
    have closed : Mapped T' ms
        ((close rt factory (levels rt factory (d + 1)).invoke).run (putDownlink s (dl.at ts))).2 :=
      Mapped.recording.close (fun m p other => levels_mapped rt factory (d + 1) m p other)
        (putDownlink s (dl.at ts)) (mapped.putDownlink _)
    rw [run_runLoop_raise stops, if_pos rfl]
    left
    rw [List.append_nil]
    exact ⟨closed, rfl⟩
  | cons item items ih =>
    obtain ⟨key, value⟩ := item
    intro fuel ms s enough reads stream calm mapped
    obtain ⟨fuel, rfl⟩ : ∃ f, fuel = f + 1 := ⟨fuel - 1, by simp at enough; omega⟩
    have hasMapper : s.context.mapper = true := calm.mapper.trans mapper
    have item : s.input.downlink =
        dl.at (encode (.mapItem key value) ++ ((mapCommands items).flatMap encode ++ ts)) := by
      simpa [mapCommands] using stream
    have passes : (levels rt factory (d + 1)).next.run s = _ :=
      run_next_mapItem rt factory (levels rt factory d) (levels rt factory (d + 1)).invoke (d + 1)
        (reads _ (by simp [mapCommands])) item
    have body := ((apart_onContext
      (TaskContext.KeepsComponents.modify (f := fun c => { c with key, value }) fun _ => rfl)).bind
      fun _ => apart_callMap factory (apart_levels rt factory (d + 1)))
      (putDownlink s (dl.at ((mapCommands items).flatMap encode ++ ts)))
      (putDownlink s (dl.at ((mapCommands items).flatMap encode ++ ts)))
      ⟨rfl, calm.trace, calm.components, calm.values⟩
    have delivers := mapItem_mapped rt factory d key value
      (putDownlink s (dl.at ((mapCommands items).flatMap encode ++ ts))) ⟨mapped.putDownlink _, hasMapper⟩
    rcases ran : (onContext (modify fun c => { c with key, value }) >>= fun _ =>
        callMap factory (levels rt factory (d + 1)).invoke).run
        (putDownlink s (dl.at ((mapCommands items).flatMap encode ++ ts))) with ⟨o, s'⟩
    rw [ran] at body delivers
    obtain ⟨-, moved, calm'⟩ := body
    obtain ⟨mapped', last⟩ := delivers
    cases o with
    | ok u =>
      rw [run_runLoop_ok (by rw [passes, run_bind_ok ran, run_pure])]
      refine Delivered.cons (ih fuel (ms ++ [(key, value)]) s' (by simp at enough; omega)
        (fun cmd member => reads cmd ?_) ?_ calm' mapped')
      · simp only [mapCommands, List.map_cons, List.cons_append]
        exact List.mem_cons_of_mem _ member
      · dsimp only at moved
        rw [moved, downlink_putDownlink]
    | error e =>
      rw [run_runLoop_raise (by rw [passes, run_bind_error ran])]
      right
      exact ⟨0, by simp, e, by simpa using mapped', last e rfl, rfl⟩

/-- Downward delivery in a map task fed by Java. On the commands `PipesMapper` sends for `items`,
read back as sent, the loop calls `mapper.map` on each record in turn and on nothing else, and
returns; or its call on one record raises `e`, the last event of the run, after the calls on the
records before it, and the loop raises `e`, or returns normally if `e` is a `StopIteration`, the
later records never reaching the mapper. -/
theorem map_records_delivered (d fuel : Nat) (items : List (PyObj × PyObj)) (T : List Event)
    (reads : ∀ cmd ∈ mapCommands items, ReadsCommand rt dl encode cmd)
    (enough : items.length + 1 ≤ fuel) :
    Triple (fun t => t.trace = T ∧ t.context.mapper = true ∧ t.input.values.isGenerator = false ∧
        t.input.downlink = dl.at ((mapCommands items).flatMap encode ++ ts))
      (runLoop (levels rt factory (d + 1)) fuel)
      fun o t => ∃ new, t.trace = T ++ new ∧
        ((new.filterMap Event.mapCall = items ∧ o = .ok ()) ∨
          ∃ i < items.length, ∃ e, new.filterMap Event.mapCall = items.take (i + 1) ∧
            new.getLast? = some (.raise .mapperMap e) ∧
            o = if e = .stopIteration then .ok () else .error e) := by
  rintro t ⟨rfl, mapper, calm, stream⟩
  have start : Mapped t.trace [] t := ⟨⟨[], by simp, rfl⟩, calm⟩
  rcases runLoop_delivers rt factory d (k := t.context.components) mapper items fuel [] t enough
      reads stream ⟨List.prefix_refl _, rfl, calm⟩ start with
    ⟨⟨⟨new, trace, calls⟩, -⟩, returned⟩ | ⟨i, inside, e, ⟨⟨new, trace, calls⟩, -⟩, last, outcome⟩
  · exact ⟨new, trace, .inl ⟨by simpa using calls, returned⟩⟩
  · rw [List.nil_append] at calls
    -- the run recorded at least the call that raised, so its last event is a new one
    have recorded : new ≠ [] := by
      rintro rfl
      simp only [List.filterMap_nil, List.nil_eq, List.take_eq_nil_iff] at calls
      rcases calls with zero | empty
      · omega
      · simp [empty] at inside
    rw [trace, List.getLast?_append_of_ne_nil _ recorded] at last
    exact ⟨new, trace, .inr ⟨i, inside, e, calls, last, outcome⟩⟩

theorem map_records_delivered_two_items :
    ∃ new, ((runLoop (levels default plainEchoFactory 2) 3).run (mapTask twoItemStream)).2.trace =
        [] ++ new ∧
      ((new.filterMap Event.mapCall = bytesItems [([1], [2]), ([3], [4])] ∧
          ((runLoop (levels default plainEchoFactory 2) 3).run (mapTask twoItemStream)).1 =
            .ok ()) ∨
        ∃ i < (bytesItems [([1], [2]), ([3], [4])]).length, ∃ e,
          new.filterMap Event.mapCall = (bytesItems [([1], [2]), ([3], [4])]).take (i + 1) ∧
          new.getLast? = some (.raise .mapperMap e) ∧
          ((runLoop (levels default plainEchoFactory 2) 3).run (mapTask twoItemStream)).1 =
            if e = .stopIteration then .ok () else .error e) :=
  map_records_delivered default plainEchoFactory 1 3 (bytesItems [([1], [2]), ([3], [4])]) []
    (readsCommand_bytesItems default rfl rfl rfl (by decide)) (by decide) (mapTask twoItemStream)
    ⟨rfl, rfl, rfl, by rw [List.append_nil]; rfl⟩

end Loop

end Task

end Pydoop.Mapreduce
