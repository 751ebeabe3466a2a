import Pydoop.Lib.KeyedBuffer
import Pydoop.Java.BinaryProtocol
import Pydoop.Mapreduce.Nesting

/-! The combiner's cache of `TaskContext` (`emit`, `__spill_all`, `close`) is a keyed buffer.
While the mapper runs, its emits go into the cache; an emit that fills the cache spills it,
handing every key in sorted order with its values to `combiner.reduce`, whose own emits go
upstream; `close` spills what is left. Read off the record of a run, each spill flushes exactly
what was cached since the one before. This holds as long as no call of `combiner.reduce` raises:
one that does leaves the cache spilling and full, and if the mapper catches the exception, its
later emits bypass the cache and `close` hands the cached pairs to the combiner a second
time. -/

namespace Pydoop.Mapreduce

open Effect HadoopUtils PyText KeyedBuffer Java
open Sercore hiding OUTPUT PARTITIONED_OUTPUT

/-- The order `sorted` puts keys in: `a` may come before `b` unless `b < a`. -/
abbrev sortOrder (rt : Runtime) (a b : PyObj) : Prop := rt.lt b a = false

/-- What an event does to the combiner's cache, as a step of a keyed buffer: an emit that went
into the cache takes its pair in, a spill hands a key on with its values. -/
def Event.cacheSteps : Event → List (Step PyObj PyObj)
  | .emit _ true k v => [.put k v]
  | .spill k vs => [.hand k vs]
  | _ => []

/-- The combiner's cache as a keyed buffer, as a record of a run shows it. -/
def cacheLog (events : List Event) : List (Step PyObj PyObj) :=
  events.flatMap Event.cacheSteps

/-- An emit went into the cache exactly when the mapper made it. -/
def Event.placed : Event → Bool
  | .emit caller cached _ _ => cached == caller.ofMapper
  | _ => true

/-- The pair of an emit by the mapper. -/
def Event.mapperEmit : Event → List (PyObj × PyObj)
  | .emit caller _ k v => if caller.ofMapper then [(k, v)] else []
  | _ => []

/-- The pairs a spill hands to `combiner.reduce`: its key with each of its values. -/
def Event.spilled : Event → List (PyObj × PyObj)
  | .spill k vs => vs.map (k, ·)
  | _ => []

/-- The user method an event records a call of. -/
def Event.called : Event → List Method
  | .call m _ _ => [m]
  | _ => []

/-- The event records an exception raised by `combiner.reduce`. -/
def Event.reduceRaised : Event → Bool
  | .raise .combinerReduce _ => true
  | _ => false

@[simp] theorem cacheLog_append (xs ys : List Event) :
    cacheLog (xs ++ ys) = cacheLog xs ++ cacheLog ys :=
  List.flatMap_append

theorem Event.cacheSteps_of_quiet {e : Event} (quiet : e.quiet = true) : e.cacheSteps = [] := by
  cases e with
  | emit caller cached k v =>
    cases cached
    · rfl
    · simp [Event.quiet] at quiet
  | spill k vs => simp [Event.quiet] at quiet
  | _ => rfl

theorem Event.placed_of_quiet {e : Event} (quiet : e.quiet = true) : e.placed = true := by
  cases e with
  | emit caller cached k v =>
    simp only [Event.quiet, Bool.and_eq_true, Bool.not_eq_eq_eq_not, Bool.not_true] at quiet
    simp [Event.placed, quiet.1, quiet.2]
  | _ => rfl

theorem cacheLog_of_quiet {new : List Event} (quiet : ∀ e ∈ new, e.quiet = true) :
    cacheLog new = [] := by
  induction new with
  | nil => rfl
  | cons e rest ih =>
    rw [cacheLog, List.flatMap_cons, Event.cacheSteps_of_quiet (quiet e (List.mem_cons_self ..))]
    exact ih fun e' member => quiet e' (List.mem_cons_of_mem _ member)

theorem taken_cacheLog {new : List Event} (placed : ∀ e ∈ new, e.placed = true) :
    (cacheLog new).flatMap Step.taken = new.flatMap Event.mapperEmit := by
  induction new with
  | nil => rfl
  | cons e rest ih =>
    have own : e.cacheSteps.flatMap Step.taken = e.mapperEmit := by
      have placedHere := placed e (List.mem_cons_self ..)
      cases e with
      | emit caller cached k v =>
        cases cached <;> cases mapper : caller.ofMapper <;>
          simp_all [Event.placed, Event.cacheSteps, Event.mapperEmit, Step.taken]
      | spill k vs => rfl
      | _ => rfl
    rw [cacheLog, List.flatMap_cons, List.flatMap_append, own, ← cacheLog,
      ih fun e' member => placed e' (List.mem_cons_of_mem _ member), List.flatMap_cons]

theorem handed_cacheLog (new : List Event) :
    (cacheLog new).flatMap Step.handed = new.flatMap Event.spilled := by
  induction new with
  | nil => rfl
  | cons e rest ih =>
    have own : e.cacheSteps.flatMap Step.handed = e.spilled := by
      cases e with
      | emit caller cached k v => cases cached <;> rfl
      | spill k vs => simp [Event.cacheSteps, Event.spilled, Step.handed]
      | _ => rfl
    rw [cacheLog, List.flatMap_cons, List.flatMap_append, own, ← cacheLog, ih, List.flatMap_cons]

namespace Task

variable {ω : Type} (rt : Runtime) (factory : Factory ω)

/-- The task `spillKey` hands to `combiner.reduce`: the key set, its values as `context.values`,
and the spill recorded. -/
def handing (t : Task ω) (key : PyObj) (vs : List PyObj) : Task ω :=
  { t with
    context := { t.context with key }
    input := { t.input with values := .list vs }
    trace := t.trace ++ [.spill key vs] }

theorem run_spillKey (invoke : Invoke ω) {t : Task ω} {key : PyObj} {vs : List PyObj}
    (found : t.cache.cache.get? key = some vs) :
    (spillKey factory invoke key).run t =
      (callOn invoke t.context.combiner .combinerReduce (factory.cclass.map (·.reduce))).run
        (handing t key vs) := by
  simp only [spillKey, run_bind, run_onContext_modify, run_getCache, found, run_setValues, run_log,
    run_getContext]
  rfl

/-- The task after an emit of `key, value` by `caller` went into the cache. -/
def caching (t : Task ω) (caller : Method) (key value : PyObj) : Task ω :=
  { t with
    trace := t.trace ++ [.emit caller true key value]
    cache := t.cache.add rt key value }

theorem run_emit_caching {lower : Level ω} {t : Task ω} (spilling : t.cache.spilling = false)
    (caller : Method) (key value : PyObj) :
    (emit rt factory lower caller key value).run t =
      (spillIfFull rt factory lower.invoke >>= fun _ => progress rt).run
        (caching rt t caller key value) := by
  simp only [emit, run_bind, run_getCache, spilling, Bool.not_false, run_log, Bool.false_eq_true,
    if_false, run_onCache_modify]
  rfl

/-- The map phase of a task fed by a Java record reader, with `depth` levels of nesting below the
calls of user methods: for each `MAP_ITEM` command `__next__` sets `context.key` and
`context.value` and calls `mapper.map`; `CLOSE` calls `context.close()`. -/
def mapSession (depth : Nat) (items : List (PyObj × PyObj)) : Effect PyExc (Task ω) Unit := do
  items.forM fun (key, value) => do
    onContext (modify fun c => { c with key, value })
    callMap factory (levels rt factory (depth + 1)).invoke
  close rt factory (levels rt factory (depth + 1)).invoke

section Cache

variable (S : Int) (T : List Event) (k : Components) (Plain : PyObj → Prop)

/-- The record after `T` accounts for the combiner's cache, which holds the pairs `rest`: it is a
run of a keyed buffer flushing in sorted order that holds `rest`, and its emits went into the
cache exactly when the mapper made them. -/
structure Accounted (rest : List (PyObj × PyObj)) (t : Task ω) : Prop where
  cache : t.cache.cache = PyDict.grouped rest
  record : ∃ new, t.trace = T ++ new ∧ Batched (sortOrder rt) (cacheLog new) rest ∧
    ∀ e ∈ new, e.placed = true

/-- The cache is accounted for, the components are `k`, and `context.values` is no generator. -/
structure Settled (rest : List (PyObj × PyObj)) (t : Task ω) : Prop where
  accounted : Accounted rt T rest t
  components : t.context.components = k
  values : t.input.values.isGenerator = false

/-- Between calls of the mapper: the cache is settled, takes emits in, and spills at `S`. -/
structure Holding (rest : List (PyObj × PyObj)) (t : Task ω) : Prop where
  settled : Settled rt T k rest t
  spillSize : t.cache.spillSize = some S
  spilling : t.cache.spilling = false

/-- A call of `combiner.reduce` has raised. -/
structure Stuck (t : Task ω) : Prop where
  raised : ∃ e, Event.raise .combinerReduce e ∈ t.trace
  components : t.context.components = k
  values : t.input.values.isGenerator = false

/-- The mapper has emitted a key outside the class `Plain`. -/
structure Strayed (t : Task ω) : Prop where
  strayed : ∃ e ∈ t.trace, ∃ pair ∈ e.mapperEmit, ¬Plain pair.1
  components : t.context.components = k
  values : t.input.values.isGenerator = false

/-- The run has left what the cache accounts for: a call of `combiner.reduce` has raised, or the
mapper has emitted a key outside `Plain`. -/
def Escaped (t : Task ω) : Prop := Stuck k t ∨ Strayed k Plain t

/-- The map phase: the cache holds keys of `Plain`, takes the mapper's emits in and is accounted
for, or the run has escaped. -/
def MapPhase (t : Task ω) : Prop :=
  (∃ rest, (∀ pair ∈ rest, Plain pair.1) ∧ Holding rt S T k rest t) ∨ Escaped k Plain t

/-- After the combiner's part of `close`: the cache is empty and accounted for, or the run has
escaped. -/
def Drained (t : Task ω) : Prop := Settled rt T k [] t ∨ Escaped k Plain t

/-- After `close` with outcome `o`: the cache is accounted for, and empty if `close` returned; or
the run has escaped. -/
def Closed (o : Except PyExc Unit) (t : Task ω) : Prop :=
  (∃ rest, (o = .ok () → rest = []) ∧ Settled rt T k rest t) ∨ Escaped k Plain t

/-- Partway through `__spill_all` of the cache `c` that held the pairs of a record ending in
`T`, with the keys `done` handed to `combiner.reduce`: the cache is still `c`, and the record after
`T` hands on exactly those keys with their values. -/
structure SpillProgress (c : CombinerCache) (done : List PyObj) (t : Task ω) : Prop where
  cache : t.cache = c
  components : t.context.components = k
  values : t.input.values.isGenerator = false
  record : ∃ mid, t.trace = T ++ mid ∧
    cacheLog mid = done.map (fun key => .hand key ((c.cache.get? key).getD [])) ∧
    ∀ e ∈ mid, e.placed = true

variable {rt S T k Plain}

theorem Accounted.congr {rest : List (PyObj × PyObj)} {t t' : Task ω}
    (accounted : Accounted rt T rest t) (cache : t'.cache.cache = t.cache.cache)
    (trace : t'.trace = t.trace) : Accounted rt T rest t' :=
  ⟨cache.trans accounted.cache, trace ▸ accounted.record⟩

theorem Accounted.log {rest : List (PyObj × PyObj)} {t : Task ω} {e : Event}
    (accounted : Accounted rt T rest t) (steps : e.cacheSteps = []) (placed : e.placed = true) :
    Accounted rt T rest { t with trace := t.trace ++ [e] } := by
  obtain ⟨new, trace, batched, placedAll⟩ := accounted.record
  refine ⟨accounted.cache, new ++ [e], by rw [trace, List.append_assoc], ?_, ?_⟩
  · have single : cacheLog [e] = [] := by simp [cacheLog, steps]
    rw [cacheLog_append, single, List.append_nil]
    exact batched
  · intro e' member
    rcases List.mem_append.mp member with old | added
    · exact placedAll e' old
    · rw [List.mem_singleton.mp added]
      exact placed

theorem Accounted.frozen {rest : List (PyObj × PyObj)} {t t' : Task ω}
    (accounted : Accounted rt T rest t) (frozen : Frozen t.cache t.trace t') :
    Accounted rt T rest t' := by
  obtain ⟨new, trace, batched, placedAll⟩ := accounted.record
  obtain ⟨added, trace', quiet⟩ := frozen.quiet
  refine ⟨by rw [frozen.cache]; exact accounted.cache, new ++ added, ?_, ?_, ?_⟩
  · rw [trace', trace, List.append_assoc]
  · rw [cacheLog_append, cacheLog_of_quiet quiet, List.append_nil]
    exact batched
  · intro e member
    rcases List.mem_append.mp member with old | late
    · exact placedAll e old
    · exact Event.placed_of_quiet (quiet e late)

theorem Settled.steady {rest : List (PyObj × PyObj)} : Steady (Settled (ω := ω) rt T k rest) where
  context _ _ same settled :=
    ⟨settled.accounted.congr rfl rfl, same.trans settled.components, settled.values⟩
  heap _ _ settled := ⟨settled.accounted.congr rfl rfl, settled.components, settled.values⟩
  clock _ _ settled := ⟨settled.accounted.congr rfl rfl, settled.components, settled.values⟩
  list _ _ settled := ⟨settled.accounted.congr rfl rfl, settled.components, rfl⟩
  values _ settled := settled.values

theorem Holding.steady {rest : List (PyObj × PyObj)} : Steady (Holding (ω := ω) rt S T k rest) where
  context t c same holding :=
    ⟨Settled.steady.context t c same holding.settled, holding.spillSize, holding.spilling⟩
  heap t h holding := ⟨Settled.steady.heap t h holding.settled, holding.spillSize, holding.spilling⟩
  clock t n holding :=
    ⟨Settled.steady.clock t n holding.settled, holding.spillSize, holding.spilling⟩
  list t vs holding :=
    ⟨Settled.steady.list t vs holding.settled, holding.spillSize, holding.spilling⟩
  values _ holding := holding.settled.values

theorem Stuck.steady : Steady (Stuck (ω := ω) k) where
  context _ _ same stuck := ⟨stuck.raised, same.trans stuck.components, stuck.values⟩
  heap _ _ stuck := ⟨stuck.raised, stuck.components, stuck.values⟩
  clock _ _ stuck := ⟨stuck.raised, stuck.components, stuck.values⟩
  list _ _ stuck := ⟨stuck.raised, stuck.components, rfl⟩
  values _ stuck := stuck.values

theorem Stuck.keeps {α : Type} {x : Effect PyExc (Task ω) α}
    (calm : ∀ T, Keeps (Calm T k) x) : Keeps (Stuck k) x := by
  intro t stuck
  have grown := calm t.trace t ⟨List.prefix_refl _, stuck.components, stuck.values⟩
  obtain ⟨e, member⟩ := stuck.raised
  exact ⟨⟨e, grown.trace.subset member⟩, grown.components, grown.values⟩

theorem Strayed.steady : Steady (Strayed (ω := ω) k Plain) where
  context _ _ same strayed := ⟨strayed.strayed, same.trans strayed.components, strayed.values⟩
  heap _ _ strayed := ⟨strayed.strayed, strayed.components, strayed.values⟩
  clock _ _ strayed := ⟨strayed.strayed, strayed.components, strayed.values⟩
  list _ _ strayed := ⟨strayed.strayed, strayed.components, rfl⟩
  values _ strayed := strayed.values

theorem Strayed.keeps {α : Type} {x : Effect PyExc (Task ω) α}
    (calm : ∀ T, Keeps (Calm T k) x) : Keeps (Strayed k Plain) x := by
  intro t strayed
  have grown := calm t.trace t ⟨List.prefix_refl _, strayed.components, strayed.values⟩
  obtain ⟨e, member, stray⟩ := strayed.strayed
  exact ⟨⟨e, grown.trace.subset member, stray⟩, grown.components, grown.values⟩

theorem Escaped.steady : Steady (Escaped (ω := ω) k Plain) :=
  Stuck.steady.or Strayed.steady

theorem Escaped.keeps {α : Type} {x : Effect PyExc (Task ω) α}
    (calm : ∀ T, Keeps (Calm T k) x) : Keeps (Escaped k Plain) x := by
  rintro t (stuck | strayed)
  · exact .inl (Stuck.keeps calm t stuck)
  · exact .inr (Strayed.keeps calm t strayed)

theorem Escaped.components {t : Task ω} (escaped : Escaped k Plain t) : t.context.components = k :=
  escaped.elim Stuck.components Strayed.components

theorem MapPhase.steady : Steady (MapPhase (ω := ω) rt S T k Plain) :=
  (Steady.exists fun _ => Holding.steady.guard _).or Escaped.steady

theorem Drained.steady : Steady (Drained (ω := ω) rt T k Plain) :=
  Settled.steady.or Escaped.steady

theorem Closed.steady (o : Except PyExc Unit) : Steady (Closed (ω := ω) rt T k Plain o) :=
  (Steady.exists fun _ => Settled.steady.guard _).or Escaped.steady

theorem Drained.components {t : Task ω} (drained : Drained rt T k Plain t) :
    t.context.components = k :=
  drained.elim Settled.components Escaped.components

theorem Drained.closed {t : Task ω} (drained : Drained rt T k Plain t) (o : Except PyExc Unit) :
    Closed rt T k Plain o t :=
  drained.imp (fun settled => ⟨[], fun _ => rfl, settled⟩) id

theorem Closed.error {o : Except PyExc Unit} {t : Task ω} (closed : Closed rt T k Plain o t)
    (e : PyExc) : Closed rt T k Plain (.error e) t :=
  closed.imp (fun ⟨rest, _, settled⟩ => ⟨rest, nofun, settled⟩) id

theorem MapPhase.closed {t : Task ω} (phase : MapPhase rt S T k Plain t) (e : PyExc) :
    Closed rt T k Plain (.error e) t :=
  phase.imp (fun ⟨rest, _, holding⟩ => ⟨rest, nofun, holding.settled⟩) id

theorem Holding.start {t : Task ω} (empty : t.cache = ⟨.empty, 0, some S, false⟩)
    (components : t.context.components = k) (values : t.input.values.isGenerator = false) :
    Holding rt S t.trace k [] t := by
  refine ⟨⟨⟨by rw [empty]; rfl, [], (List.append_nil _).symm, Batched.nil, ?_⟩, components, values⟩,
    by rw [empty], by rw [empty]⟩
  exact fun _ member => absurd member List.not_mem_nil

theorem MapPhase.log {e : Event} (steps : e.cacheSteps = []) (placed : e.placed = true) :
    Keeps (MapPhase (ω := ω) rt S T k Plain) (Task.log e) := by
  rintro t (⟨rest, plainRest, holding⟩ | stuck | strayed)
  · exact .inl ⟨rest, plainRest, ⟨Accounted.log holding.settled.accounted steps placed,
      holding.settled.components, holding.settled.values⟩, holding.spillSize, holding.spilling⟩
  · obtain ⟨e', member⟩ := stuck.raised
    exact .inr (.inl ⟨⟨e', List.mem_append_left _ member⟩, stuck.components, stuck.values⟩)
  · obtain ⟨e', member, stray⟩ := strayed.strayed
    exact .inr (.inr ⟨⟨e', List.mem_append_left _ member, stray⟩, strayed.components,
      strayed.values⟩)

theorem SpillProgress.spillKey {invoke : Invoke ω} (nested : Nested invoke)
    (combiner : k.combiner = true) (hasCombiner : factory.cclass.isSome = true)
    {c : CombinerCache} (spilling : c.spilling = true) {done : List PyObj} {key : PyObj}
    (present : key ∈ c.cache.keys) :
    Triple (SpillProgress T k c done) (Task.spillKey factory invoke key) fun o t =>
      (o = .ok () → SpillProgress T k c (done ++ [key]) t) ∧ ∀ e, o = .error e → Stuck k t := by
  intro t progress
  obtain ⟨vs, found⟩ := Option.isSome_iff_exists.mp ((PyDict.mem_keys_iff _ _).mp present)
  obtain ⟨cls, chosen⟩ := Option.isSome_iff_exists.mp hasCombiner
  have flag : t.context.combiner = true := by
    rw [← combiner, ← progress.components]
    rfl
  rw [run_spillKey factory invoke (by rw [progress.cache]; exact found), flag, chosen]
  let handed := handing t key vs
  have frozen := nested.frozen (c := c) (T := handed.trace) .combinerReduce cls.reduce spilling
    rfl handed ⟨progress.cache, rfl, [], by simp, by simp⟩
  have calm := nested.calm (T := handed.trace) (k := k) .combinerReduce cls.reduce handed
    ⟨List.prefix_refl _, progress.components, rfl⟩
  have raises := nested.raises .combinerReduce cls.reduce handed trivial
  simp only [callOn, Option.map_some]
  refine ⟨fun _ => ?_, fun e failed => ⟨⟨e, raises e failed⟩, calm.components, calm.values⟩⟩
  obtain ⟨mid, midTrace, midLog, midPlaced⟩ := progress.record
  obtain ⟨added, trace, quiet⟩ := frozen.quiet
  refine ⟨frozen.cache, calm.components, calm.values, mid ++ [.spill key vs] ++ added, ?_, ?_, ?_⟩
  · rw [trace]
    simp [handed, handing, midTrace]
  · rw [cacheLog_append, cacheLog_append, cacheLog_of_quiet quiet, midLog]
    simp [cacheLog, Event.cacheSteps, found]
  · intro e member
    simp only [List.mem_append, List.mem_singleton] at member
    rcases member with (old | rfl) | late
    · exact midPlaced e old
    · rfl
    · exact Event.placed_of_quiet (quiet e late)

theorem Holding.spillAll {invoke : Invoke ω} (nested : Nested invoke)
    (combiner : k.combiner = true) (hasCombiner : factory.cclass.isSome = true)
    {rest : List (PyObj × PyObj)} :
    Triple (Holding rt S T k rest) (Task.spillAll rt factory invoke) fun o t =>
      (o = .ok () ∧ Holding rt S T k [] t) ∨ Stuck k t := by
  intro t holding
  let c : CombinerCache := { t.cache with spilling := true }
  let started : Task ω := { t with cache := c }
  have loop : Triple (SpillProgress t.trace k c [])
      ((CombinerCache.sortedKeys rt c).forM (Task.spillKey factory invoke)) fun o s =>
        (o = .ok () → SpillProgress t.trace k c ([] ++ CombinerCache.sortedKeys rt c) s) ∧
          ∀ e, o = .error e → Stuck k s :=
    Triple.forM (I := SpillProgress t.trace k c) (fun pre key post split => by
      have present : key ∈ c.cache.keys := by
        have member : key ∈ CombinerCache.sortedKeys rt c := by
          rw [← split]
          exact List.mem_append_right _ (List.mem_cons_self ..)
        exact (List.mem_insertionSort _).mp member
      exact SpillProgress.spillKey factory nested combiner hasCombiner rfl present)
  have ended := loop started ⟨rfl, holding.settled.components, holding.settled.values, [],
    (List.append_nil _).symm, rfl, fun _ member => absurd member List.not_mem_nil⟩
  simp only [Task.spillAll, run_bind, run_onCache_modify, run_getCache]
  rcases ran : (List.forM (CombinerCache.sortedKeys rt c) (Task.spillKey factory invoke)).run
    started with ⟨outcome, finished⟩
  rw [ran] at ended
  cases outcome with
  | error e => exact .inr (ended.2 e rfl)
  | ok u =>
    dsimp only at ended ⊢
    obtain ⟨sameCache, components, values, mid, midTrace, midLog, midPlaced⟩ := ended.1 rfl
    obtain ⟨new, trace, batched, placed⟩ := holding.settled.accounted.record
    have flush := flushes_grouped (sortOrder rt) rest
    rw [← holding.settled.accounted.cache] at flush
    have hands : (CombinerCache.sortedKeys rt c).map
        (fun key => Step.hand key ((c.cache.get? key).getD [])) =
        (((t.cache.cache.keys.insertionSort (sortOrder rt)).map fun key =>
          (key, (t.cache.cache.get? key).getD [])).map fun hand => .hand hand.1 hand.2) := by
      rw [List.map_map]
      rfl
    refine .inl ⟨rfl, ⟨⟨rfl, new ++ mid, ?_, ?_, ?_⟩, components, values⟩, ?_, rfl⟩
    · rw [midTrace, trace, List.append_assoc]
    · rw [cacheLog_append, midLog, List.nil_append, hands]
      exact batched.flush flush
    · intro e member
      rcases List.mem_append.mp member with old | late
      · exact placed e old
      · exact midPlaced e late
    · rw [sameCache]
      exact holding.spillSize

theorem Holding.spillIfFull {invoke : Invoke ω} (nested : Nested invoke)
    (combiner : k.combiner = true) (hasCombiner : factory.cclass.isSome = true)
    {rest : List (PyObj × PyObj)} :
    Triple (fun t => (∀ pair ∈ rest, Plain pair.1) ∧ Holding rt S T k rest t)
      (Task.spillIfFull rt factory invoke) fun _ => MapPhase rt S T k Plain := by
  refine Triple.read_bind run_getCache fun cache => ?_
  rintro t ⟨⟨plainRest, holding⟩, rfl⟩
  have full : t.cache.full = .ok (decide (S ≤ t.cache.cacheSize)) := by
    simp [CombinerCache.full, holding.spillSize]
  rw [full, run_bind_ok (run_ofExcept_ok _ t)]
  split
  · exact (Holding.spillAll factory nested combiner hasCombiner t holding).elim
      (fun ⟨_, emptied⟩ => .inl ⟨[], fun _ member => absurd member List.not_mem_nil, emptied⟩)
      fun stuck => .inr (.inl stuck)
  · exact .inl ⟨rest, plainRest, holding⟩

theorem Holding.put (plain : ∀ a b, Plain a → Plain b → rt.eq a b = true → a = b)
    {rest : List (PyObj × PyObj)} (plainRest : ∀ pair ∈ rest, Plain pair.1)
    {t : Task ω} (holding : Holding rt S T k rest t) {caller : Method} (mapper : caller.ofMapper = true)
    {key : PyObj} (plainKey : Plain key) (value : PyObj) :
    Holding rt S T k (rest ++ [(key, value)]) (caching rt t caller key value) := by
  obtain ⟨new, trace, batched, placed⟩ := holding.settled.accounted.record
  have held : ∀ k0 ∈ t.cache.cache.keys, Plain k0 := by
    intro k0 member
    rw [holding.settled.accounted.cache] at member
    obtain ⟨pair, inRest, rfl⟩ := List.mem_map.mp (PyDict.mem_keys_grouped member)
    exact plainRest pair inRest
  refine ⟨⟨⟨?_, new ++ [.emit caller true key value], ?_, ?_, ?_⟩, holding.settled.components,
    holding.settled.values⟩, holding.spillSize, holding.spilling⟩
  · simp [caching, CombinerCache.add, CombinerCache.slot_of_plain rt plain held plainKey,
      holding.settled.accounted.cache, PyDict.grouped_concat]
  · simp [caching, trace]
  · rw [cacheLog_append]
    simpa [cacheLog, Event.cacheSteps] using batched.put key value
  · intro e member
    rcases List.mem_append.mp member with old | added
    · exact placed e old
    · rw [List.mem_singleton.mp added]
      simp [Event.placed, mapper]

/-- An emit of the mapper keeps the map phase: into the cache, then a spill if it is full. A key
outside `Plain` makes the run stray. Once a `combiner.reduce` call has raised, the cache stays
spilling, and the emit goes upstream. -/
theorem MapPhase.emit (plain : ∀ a b, Plain a → Plain b → rt.eq a b = true → a = b)
    {lower : Level ω} (nested : Nested lower.invoke) (combiner : k.combiner = true)
    (hasCombiner : factory.cclass.isSome = true)
    {caller : Method} (mapper : caller.ofMapper = true) (key value : PyObj) :
    Keeps (MapPhase rt S T k Plain) (Task.emit rt factory lower caller key value) := by
  rintro t (⟨rest, plainRest, holding⟩ | escaped)
  · rw [run_emit_caching rt factory holding.spilling caller key value]
    by_cases plainKey : Plain key
    · have grown : ∀ pair ∈ rest ++ [(key, value)], Plain pair.1 := by
        intro pair member
        rcases List.mem_append.mp member with old | added
        · exact plainRest pair old
        · rw [List.mem_singleton.mp added]
          exact plainKey
      exact (Triple.bind (Holding.spillIfFull factory nested combiner hasCombiner)
        (fun _ => MapPhase.steady.progress rt) fun _ _ => id) _
        ⟨grown, holding.put plain plainRest mapper plainKey value⟩
    · have strayed : Strayed k Plain (caching rt t caller key value) :=
        ⟨⟨.emit caller true key value, by simp [caching], (key, value),
          by simp [Event.mapperEmit, mapper], plainKey⟩,
          holding.settled.components, holding.settled.values⟩
      exact .inr (Escaped.keeps (fun _ => (Calm.recording.spillIfFull
        fun m p _ => nested.calm m p).bind fun _ => Calm.steady.progress rt) _ (.inr strayed))
  · exact .inr (Escaped.keeps (fun _ => Calm.emit nested.calm caller key value) t escaped)

theorem MapPhase.invoke (plain : ∀ a b, Plain a → Plain b → rt.eq a b = true → a = b)
    (combiner : k.combiner = true) (hasCombiner : factory.cclass.isSome = true) (n : Nat) {m : Method}
    (mapper : m.ofMapper = true) {R : Type} (p : UserMethod ω R) :
    Keeps (MapPhase rt S T k Plain) ((levels rt factory (n + 1)).invoke m p) :=
  keeps_invokeWith p (fun _ _ => MapPhase.log rfl rfl) (fun _ => MapPhase.log rfl rfl)
    (MapPhase.steady.handle fun key value =>
      MapPhase.emit factory plain (levels_nested rt factory n) combiner hasCombiner mapper key
        value)

theorem Settled.frozenCall {invoke : Invoke ω} (nested : Nested invoke)
    {rest : List (PyObj × PyObj)} {m : Method} (notMapper : m.ofMapper = false) {R : Type}
    (p : UserMethod ω R) :
    Triple (fun t => Settled rt T k rest t ∧ t.cache.spilling = true) (invoke m p) fun _ =>
      Settled rt T k rest := by
  rintro t ⟨settled, spilling⟩
  have frozen := nested.frozen (c := t.cache) (T := t.trace) m p spilling notMapper t
    ⟨rfl, settled.values, [], by simp, by simp⟩
  have calm := nested.calm (T := t.trace) (k := k) m p t
    ⟨List.prefix_refl _, settled.components, settled.values⟩
  exact ⟨settled.accounted.frozen frozen, calm.components, calm.values⟩

/-- The combiner's part of `close` on a cache that holds `rest`: a cache holding something is
spilled, and `combiner.close` runs with its emits going upstream; an empty cache holds no
pairs. -/
theorem Holding.closeCombiner {invoke : Invoke ω} (nested : Nested invoke)
    (combiner : k.combiner = true) (hasCombiner : factory.cclass.isSome = true)
    {rest : List (PyObj × PyObj)} :
    Triple (Holding rt S T k rest) (Task.closeCombiner rt factory invoke) fun _ =>
      Drained rt T k Plain := by
  refine Triple.read_bind run_getCache fun cache => ?_
  rintro t ⟨holding, rfl⟩
  split
  · refine Triple.bind (R := fun _ => Drained rt T k Plain)
      (Holding.spillAll factory nested combiner hasCombiner) (fun _ => ?_) (fun e t spilled => ?_)
      t holding
    · rintro t (⟨-, emptied⟩ | stuck)
      · rw [run_bind_ok (run_onCache_modify _ t), run_bind_ok (run_getContext _)]
        refine .inl (triple_callOn (fun p => Settled.frozenCall nested rfl p) (fun _ pre => pre.1)
          _ _ _ ⟨?_, rfl⟩)
        exact ⟨emptied.settled.accounted.congr rfl rfl, emptied.settled.components,
          emptied.settled.values⟩
      · exact .inr (.inl (Stuck.keeps (fun _ => (Calm.onCache _).bind fun _ =>
          keeps_getContext.bind fun _ => keeps_callOn (nested.calm _) _ _) t stuck))
    · rcases spilled with ⟨⟨⟩, -⟩ | stuck
      exact .inr (.inl stuck)
  · rename_i holdsNothing
    have entries : t.cache.cache.entries = [] := by simpa using holdsNothing
    have keys : (PyDict.grouped rest).keys = [] := by
      rw [← holding.settled.accounted.cache, PyDict.keys, entries, List.map_nil]
    obtain rfl := eq_nil_of_keys_grouped keys
    exact .inl holding.settled

theorem MapPhase.closeCombiner {invoke : Invoke ω} (nested : Nested invoke)
    (combiner : k.combiner = true) (hasCombiner : factory.cclass.isSome = true) :
    Triple (MapPhase rt S T k Plain) (Task.closeCombiner rt factory invoke) fun _ =>
      Drained rt T k Plain := by
  rintro t (⟨rest, -, holding⟩ | escaped)
  · exact Holding.closeCombiner factory nested combiner hasCombiner t holding
  · exact .inr (Escaped.keeps (fun _ => Calm.closeCombiner nested.calm) t escaped)

/-- The `try` block of `close` in the map phase of a task without a record reader, a record
writer or a reducer of the user's: `mapper.close` emits into the cache, the cache is drained,
and nothing else is called. -/
theorem MapPhase.closeComponents (plain : ∀ a b, Plain a → Plain b → rt.eq a b = true → a = b) (n : Nat)
    (combiner : k.combiner = true)
    (hasCombiner : factory.cclass.isSome = true) (javaReader : k.recordReader = false)
    (noWriter : k.recordWriter = false) (noReducer : k.reducer = false) :
    Triple (MapPhase rt S T k Plain) (Task.closeComponents rt factory (levels rt factory (n + 1)).invoke)
      (Closed rt T k Plain) := by
  refine Triple.bind keeps_getContext (fun _ => ?_) fun e _ phase => phase.closed e
  refine Triple.bind (keeps_closeIf (fun p =>
    MapPhase.invoke factory plain combiner hasCombiner n rfl p)
    _ _) (fun _ => ?_) fun e _ phase => phase.closed e
  refine Triple.bind (MapPhase.closeCombiner factory (levels_nested rt factory (n + 1)) combiner
    hasCombiner) (fun _ => Triple.conseq (fun _ => id) ?_ fun o _ drained => Drained.closed drained o)
    fun e _ drained => Drained.closed drained _
  refine keeps_closeIf_absent (fun t drained => ?_) (keeps_closeIf_absent (fun t drained => ?_)
    (keeps_closeIf_absent (fun t drained => ?_)
      (Drained.steady.onContext TaskContext.keepsComponents_spillCounters)))
  · rw [← javaReader, ← drained.components]
    rfl
  · rw [← noWriter, ← drained.components]
    rfl
  · rw [← noReducer, ← drained.components]
    rfl

theorem MapPhase.close (plain : ∀ a b, Plain a → Plain b → rt.eq a b = true → a = b) (n : Nat)
    (combiner : k.combiner = true)
    (hasCombiner : factory.cclass.isSome = true) (javaReader : k.recordReader = false)
    (noWriter : k.recordWriter = false) (noReducer : k.reducer = false) :
    Triple (MapPhase rt S T k Plain) (Task.close rt factory (levels rt factory (n + 1)).invoke)
      (Closed rt T k Plain) := by
  refine Triple.bind (MapPhase.steady.onContext (TaskContext.KeepsComponents.onUplink _))
    (fun _ => ?_) fun e _ phase => phase.closed e
  refine Triple.tryFinally (MapPhase.closeComponents factory plain n combiner hasCombiner
    javaReader noWriter noReducer) (fun o => ?_) fun e _ _ closed => closed.error e
  exact ((Closed.steady o).onContext (TaskContext.KeepsComponents.onUplink _)).bind fun _ =>
    (Closed.steady o).onContext (TaskContext.KeepsComponents.onUplink _)

theorem MapPhase.mapSession (plain : ∀ a b, Plain a → Plain b → rt.eq a b = true → a = b) (depth : Nat)
    (combiner : k.combiner = true)
    (hasCombiner : factory.cclass.isSome = true) (javaReader : k.recordReader = false)
    (noWriter : k.recordWriter = false) (noReducer : k.reducer = false)
    (items : List (PyObj × PyObj)) :
    Triple (MapPhase rt S T k Plain) (Task.mapSession rt factory depth items)
      (Closed rt T k Plain) := by
  refine Triple.bind (Keeps.forM fun item _ => ?_) (fun _ => MapPhase.close factory plain depth
    combiner hasCombiner javaReader noWriter noReducer) fun e _ phase => phase.closed e
  obtain ⟨key, value⟩ := item
  exact (MapPhase.steady.onContext (TaskContext.KeepsComponents.modify fun _ => by rfl)).bind
    fun _ => keeps_getContext.bind fun _ =>
      keeps_callOn (MapPhase.invoke factory plain combiner hasCombiner depth rfl) _ _

end Cache

/-- The combiner's cache over the map phase of a task fed by a Java record reader, spilling at
`S`: the record of the run, after what came before, is a keyed buffer flushing in sorted order,
which takes in exactly the pairs the mapper emits; what the spills hand to `combiner.reduce`,
with what the cache still holds, is a permutation of what the mapper emitted; and once `close`
has returned the cache holds nothing. All this as long as no call of `combiner.reduce` raises,
and where the keys the mapper emits lie in a class `Plain` in which `==` holds only between a key
and itself: the cache files a key equal to one it holds under the one it holds. -/
theorem mapSession_combiner_conservation (Plain : PyObj → Prop)
    (plain : ∀ a b, Plain a → Plain b → rt.eq a b = true → a = b)
    (depth : Nat) (items : List (PyObj × PyObj)) {S : Int} (hasCombiner : factory.cclass.isSome = true) {t : Task ω}
    (combiner : t.context.combiner = true) (javaReader : t.context.recordReader = false)
    (noWriter : t.context.recordWriter = false) (noReducer : t.context.reducer = false)
    (empty : t.cache = ⟨.empty, 0, some S, false⟩) (values : t.input.values.isGenerator = false)
    (noRaise : ∀ e ∈ ((mapSession rt factory depth items).run t).2.trace, e.reduceRaised = false)
    (plainEmits : ∀ e ∈ ((mapSession rt factory depth items).run t).2.trace,
      ∀ pair ∈ e.mapperEmit, Plain pair.1) :
    ∃ new rest, ((mapSession rt factory depth items).run t).2.trace = t.trace ++ new ∧
      Batched (sortOrder rt) (cacheLog new) rest ∧ (∀ e ∈ new, e.placed = true) ∧
      (new.flatMap Event.spilled ++ rest).Perm (new.flatMap Event.mapperEmit) ∧
      (((mapSession rt factory depth items).run t).1 = .ok () → rest = []) := by
  have start : Holding rt S t.trace t.context.components [] t := Holding.start empty rfl values
  have closed := MapPhase.mapSession factory plain depth combiner hasCombiner javaReader
    noWriter noReducer items t (.inl ⟨[], fun _ member => absurd member List.not_mem_nil, start⟩)
  rcases closed with ⟨rest, done, settled⟩ | stuck | strayed
  · obtain ⟨new, trace, batched, placed⟩ := settled.accounted.record
    refine ⟨new, rest, trace, batched, placed, ?_, done⟩
    rw [← handed_cacheLog, ← taken_cacheLog placed]
    exact batched.perm
  · obtain ⟨e, member⟩ := stuck.raised
    have raised := noRaise _ member
    simp [Event.reduceRaised] at raised
  · obtain ⟨e, member, pair, emitted, stray⟩ := strayed.strayed
    exact absurd (plainEmits e member pair emitted) stray

/-- A runtime whose objects all take 2^26 bytes, so that one pair fills the default spill
threshold of 100 MiB. -/
def sampleRuntime : Runtime := { (default : Runtime) with sizeof := fun _ => 2 ^ 26 }

/-- `map(context)` emitting its key and value, and catching what `emit` raises. -/
def echoMap : UserMethod Nat Unit :=
  .call .key fun
    | .ok key => .call .value fun
      | .ok value => .call (.emit key value) fun _ => .ret (.ok ())
      | .error e => .ret (.error e)
    | .error e => .ret (.error e)

/-- A job whose mapper runs `echoMap` and whose combiner runs `reduce`, the user's objects being
a counter. -/
def echoFactory (reduce : UserMethod Nat Unit) : Factory Nat where
  mclass := ⟨.ret (.ok ()), echoMap, .ret (.ok ())⟩
  rclass := none
  cclass := some ⟨.ret (.ok ()), reduce, .ret (.ok ())⟩
  pclass := none
  rwclass := none
  rrclass := none

/-- A map task right after `RUN_MAP` has created the mapper and the combiner. -/
def echoMapTask : Task Nat :=
  let init := Task.init [] false false false false none 0
  { init with
    context := { init.context with combiner := true, mapper := true }
    cache := ⟨.empty, 0, some (1024 * 1024 * 100), false⟩ }

/-- `combiner.reduce` counting its calls in the heap, and raising on the first. -/
def failingOnceReduce : UserMethod Nat Unit :=
  .call (.heap fun n => (n + 1, .int n)) fun calls =>
    if calls = .ok (.int 0) then .ret (.error (.runtimeError "boom")) else .ret (.ok ())

/-- The commands of a map task over one record, as the Java side writes them. -/
def echoStream : Bytes :=
  [DownwardCall.authenticate "c" "c", .start, .setJobConf [], .runMap (.bytesWritable []) 1 true,
    .mapItem (.bytesWritable [1]) (.bytesWritable [2]), .endOfInput].flatMap
    (BinaryProtocol.send HadoopIO.hadoop)

/-- `map(context)` emitting its value under key `b'\x05'`, then under `context.key`. -/
def rekeyMap : UserMethod Nat Unit :=
  .call .value fun
    | .ok value => .call (.emit (.bytes [5]) value) fun _ => .call .key fun
      | .ok key => .call (.emit key value) fun _ => .ret (.ok ())
      | .error e => .ret (.error e)
    | .error e => .ret (.error e)

/-- The exact value of a finite IEEE 754 double; `none` for an infinity or a NaN. -/
def doubleValue (bits : UInt64) : Option ℚ :=
  let exponent : Nat := bits.toNat / 2 ^ 52 % 2 ^ 11
  let fraction : Nat := bits.toNat % 2 ^ 52
  let sign : ℚ := if bits.toNat / 2 ^ 63 = 1 then -1 else 1
  if exponent = 2 ^ 11 - 1 then Option.none
  else if exponent = 0 then some (sign * fraction / 2 ^ 1074)
  else some (sign * (2 ^ 52 + fraction) * 2 ^ exponent / 2 ^ 1075)

/-- The number an `int` or a `float` holds. -/
def numberValue : PyObj → Option ℚ
  | .int n => some n
  | .float bits => doubleValue bits
  | _ => Option.none

/-- Python's `==` between numbers, which compares an `int` and a `float` by value, and hashes
equal numbers alike. Other keys are equal only to themselves, which the cache tests first. -/
def numberEq (a b : PyObj) : Bool :=
  match numberValue a, numberValue b with
  | some x, some y => x == y
  | _, _ => false

/-- `pickle.dumps(x, HIGHEST_PROTOCOL)`, protocol 5, of an `int` in `[0, 256)` (`BININT1`) and of
a `float` (`BINFLOAT`, in a frame of ten bytes); the sample pickles nothing else. -/
def pickleNumber : PyObj → Bytes
  | .int n => if 0 ≤ n ∧ n < 256 then [0x80, 5, 0x4b, n.toNat.toUInt8, 0x2e] else []
  | .float bits =>
    [0x80, 5, 0x95, 10, 0, 0, 0, 0, 0, 0, 0, 0x47] ++ BigEndian.bytes 8 bits.toNat ++ [0x2e]
  | _ => []

/-- A runtime in which, as in Python, `1 == 1.0` while their pickles differ. -/
def numberRuntime : Runtime := { (default : Runtime) with dumps := pickleNumber, eq := numberEq }

/-- `reduce(context)` of an identity combiner, `for v in context.values:
context.emit(context.key, v)`, over at most `n` values: each pass takes the next value, then
reads `context.key`, and emits the two. -/
def identityReduce : Nat → UserMethod ω Unit
  | 0 => .ret (.ok ())
  | n + 1 => .call .nextValue fun
    | .ok v => .call .key fun
      | .ok key => .call (.emit key v) fun
        | .ok _ => identityReduce n
        | .error e => .ret (.error e)
      | .error e => .ret (.error e)
    | .error .stopIteration => .ret (.ok ())
    | .error e => .ret (.error e)

/-- The bits of the `float` `1.0`. -/
def oneBits : UInt64 := 0x3FF0000000000000

/-- `map(context)` emitting `(1, 5)` and then `(1.0, 6)`. -/
def numberMap : UserMethod Nat Unit :=
  .call (.emit (.int 1) (.int 5)) fun _ =>
    .call (.emit (.float oneBits) (.int 6)) fun _ => .ret (.ok ())

/-- A job whose mapper runs `numberMap`, with combiner class `cclass`. -/
def numberFactory (cclass : Option (ReducerClass Nat)) : Factory Nat where
  mclass := ⟨.ret (.ok ()), numberMap, .ret (.ok ())⟩
  rclass := none
  cclass := cclass
  pclass := none
  rwclass := none
  rrclass := none

/-- What the sample runs do, evaluated in one pass: the session of two items from `echoMapTask`
never sees `combiner.reduce` raise; over `echoStream`, with `failingOnceReduce` the task
succeeds after handing its only pair twice, with the plain combiner `combiner.close` is not
called, with `rekeyMap` the second emit goes out under the spilled key, and with `numberMap`
an identity combiner sends both values under `1` where no combiner sends the second under
`1.0`. -/
theorem echoStream_runs :
    (∀ e ∈ ((mapSession sampleRuntime (echoFactory (.ret (.ok ()))) 1
        [(.bytes [1], .bytes [2]), (.bytes [1], .bytes [3])]).run echoMapTask).2.trace,
        e.reduceRaised = false) ∧
    (((Task.run sampleRuntime (echoFactory failingOnceReduce) 8).run
        (Task.init echoStream false false false false none 0)).1 = .ok () ∧
      ((Task.run sampleRuntime (echoFactory failingOnceReduce) 8).run
        (Task.init echoStream false false false false none 0)).2.trace.flatMap Event.mapperEmit =
        [(.bytes [1], .bytes [2])] ∧
      ((Task.run sampleRuntime (echoFactory failingOnceReduce) 8).run
        (Task.init echoStream false false false false none 0)).2.trace.flatMap Event.spilled =
        [(.bytes [1], .bytes [2]), (.bytes [1], .bytes [2])]) ∧
    (((Task.run sampleRuntime (echoFactory (.ret (.ok ()))) 8).run
        (Task.init echoStream false false false false none 0)).1 = .ok () ∧
      ((Task.run sampleRuntime (echoFactory (.ret (.ok ()))) 8).run
        (Task.init echoStream false false false false none 0)).2.trace.flatMap Event.called =
        [.combinerInit, .mapperInit, .mapperMap, .combinerReduce, .mapperClose]) ∧
    (((Task.run sampleRuntime { echoFactory (.ret (.ok ())) with
          mclass := ⟨.ret (.ok ()), rekeyMap, .ret (.ok ())⟩ } 8).run
        (Task.init echoStream false false false false none 0)).2.trace.take 3 =
        [.call .combinerInit .none .none, .call .mapperInit .none .none,
          .call .mapperMap (.bytes [1]) (.bytes [2])] ∧
      ((Task.run sampleRuntime { echoFactory (.ret (.ok ())) with
          mclass := ⟨.ret (.ok ()), rekeyMap, .ret (.ok ())⟩ } 8).run
        (Task.init echoStream false false false false none 0)).2.trace.flatMap Event.mapperEmit =
        [(.bytes [5], .bytes [2]), (.bytes [5], .bytes [2])]) ∧
    (((Task.run numberRuntime (numberFactory (some ⟨.ret (.ok ()), identityReduce 2, .ret (.ok ())⟩))
          8).run (Task.init echoStream false false true true none 0)).1 = .ok () ∧
      ((Task.run numberRuntime (numberFactory (some ⟨.ret (.ok ()), identityReduce 2, .ret (.ok ())⟩))
          8).run (Task.init echoStream false false true true none 0)).2.context.uplink.written =
        [.output (pickleNumber (.int 1)) (pickleNumber (.int 5)),
          .output (pickleNumber (.int 1)) (pickleNumber (.int 6)), .done].flatMap UpMessage.encode ∧
      ((Task.run numberRuntime (numberFactory none) 8).run
          (Task.init echoStream false false true true none 0)).1 = .ok () ∧
      ((Task.run numberRuntime (numberFactory none) 8).run
          (Task.init echoStream false false true true none 0)).2.context.uplink.written =
        [.output (pickleNumber (.int 1)) (pickleNumber (.int 5)),
          .output (pickleNumber (.float oneBits)) (pickleNumber (.int 6)), .done].flatMap
          UpMessage.encode) := by
  decide +kernel

theorem mapSession_combiner_conservation_two_items :
    ∃ new rest, ((mapSession sampleRuntime (echoFactory (.ret (.ok ()))) 1
        [(.bytes [1], .bytes [2]), (.bytes [1], .bytes [3])]).run echoMapTask).2.trace =
        echoMapTask.trace ++ new ∧
      Batched (sortOrder sampleRuntime) (cacheLog new) rest ∧ (∀ e ∈ new, e.placed = true) ∧
      (new.flatMap Event.spilled ++ rest).Perm (new.flatMap Event.mapperEmit) ∧
      (((mapSession sampleRuntime (echoFactory (.ret (.ok ()))) 1
        [(.bytes [1], .bytes [2]), (.bytes [1], .bytes [3])]).run echoMapTask).1 = .ok () →
        rest = []) :=
  mapSession_combiner_conservation sampleRuntime (echoFactory (.ret (.ok ()))) (fun _ => True)
    (fun _ _ _ _ related => nomatch related) 1
    [(.bytes [1], .bytes [2]), (.bytes [1], .bytes [3])] rfl rfl rfl rfl rfl rfl rfl
    echoStream_runs.1 fun _ _ _ _ => trivial

/-- A Python record reader whose `next` emits `(b'\x09', b'\x08')` and then ends the input. -/
def emittingReader : RecordReaderClass Nat :=
  ⟨.ret (.ok ()), .call (.emit (.bytes [9]) (.bytes [8])) fun _ => .ret (.error .stopIteration),
    .ret (.ok (.float 0)), .ret (.ok ())⟩

/-- The commands of a map task with a Python record reader, as the Java side writes them. -/
def readerStream : Bytes :=
  [DownwardCall.authenticate "c" "c", .start, .setJobConf [], .runMap (.bytesWritable []) 1 false].flatMap
    (BinaryProtocol.send HadoopIO.hadoop)

theorem readerStream_runs :
    ((Task.run sampleRuntime { echoFactory (.ret (.ok ())) with rrclass := some emittingReader } 8).run
        (Task.init readerStream false false false false none 0)).1 = .ok () ∧
      ((Task.run sampleRuntime { echoFactory (.ret (.ok ())) with rrclass := some emittingReader } 8).run
        (Task.init readerStream false false false false none 0)).2.trace.flatMap Event.mapperEmit = [] ∧
      ((Task.run sampleRuntime { echoFactory (.ret (.ok ())) with rrclass := some emittingReader } 8).run
        (Task.init readerStream false false false false none 0)).2.trace.flatMap Event.spilled =
        [(.bytes [9], .bytes [8])] := by
  decide +kernel

/-- Conservation breaks in two ways. The first spill's `combiner.reduce` raises, and the mapper
catches it: the cache is left spilling and full, the task succeeds, and `close` hands the mapper's
only pair to `combiner.reduce` a second time. And `emit` caches whatever calls it while the cache
is not spilling: a Python record reader that emits has its pair handed to `combiner.reduce`,
though the mapper emitted nothing. -/
theorem combiner_conservation_breaks :
    (((Task.run sampleRuntime (echoFactory failingOnceReduce) 8).run
        (Task.init echoStream false false false false none 0)).1 = .ok () ∧
      ((Task.run sampleRuntime (echoFactory failingOnceReduce) 8).run
        (Task.init echoStream false false false false none 0)).2.trace.flatMap Event.mapperEmit =
        [(.bytes [1], .bytes [2])] ∧
      ((Task.run sampleRuntime (echoFactory failingOnceReduce) 8).run
        (Task.init echoStream false false false false none 0)).2.trace.flatMap Event.spilled =
        [(.bytes [1], .bytes [2]), (.bytes [1], .bytes [2])]) ∧
    (((Task.run sampleRuntime { echoFactory (.ret (.ok ())) with rrclass := some emittingReader } 8).run
        (Task.init readerStream false false false false none 0)).1 = .ok () ∧
      ((Task.run sampleRuntime { echoFactory (.ret (.ok ())) with rrclass := some emittingReader } 8).run
        (Task.init readerStream false false false false none 0)).2.trace.flatMap Event.mapperEmit = [] ∧
      ((Task.run sampleRuntime { echoFactory (.ret (.ok ())) with rrclass := some emittingReader } 8).run
        (Task.init readerStream false false false false none 0)).2.trace.flatMap Event.spilled =
        [(.bytes [9], .bytes [8])]) :=
  ⟨echoStream_runs.2.1, readerStream_runs⟩

/-- The mapper's only emit fills the cache and spills it, so the cache is empty at `close`:
`combiner.close` is never called, although the task has a combiner. -/
theorem combiner_close_skipped_after_spill :
    ((Task.run sampleRuntime (echoFactory (.ret (.ok ()))) 8).run
        (Task.init echoStream false false false false none 0)).1 = .ok () ∧
      ((Task.run sampleRuntime (echoFactory (.ret (.ok ()))) 8).run
        (Task.init echoStream false false false false none 0)).2.trace.flatMap Event.called =
        [.combinerInit, .mapperInit, .mapperMap, .combinerReduce, .mapperClose] := echoStream_runs.2.2.1

/-- The mapper is called with key `b'\x01'`; its first emit spills the cache, which sets
`context.key` to the spilled key `b'\x05'`, and that is the key the mapper reads next. -/
theorem emit_spill_overwrites_key :
    ((Task.run sampleRuntime { echoFactory (.ret (.ok ())) with
          mclass := ⟨.ret (.ok ()), rekeyMap, .ret (.ok ())⟩ } 8).run
        (Task.init echoStream false false false false none 0)).2.trace.take 3 =
        [.call .combinerInit .none .none, .call .mapperInit .none .none,
          .call .mapperMap (.bytes [1]) (.bytes [2])] ∧
      ((Task.run sampleRuntime { echoFactory (.ret (.ok ())) with
          mclass := ⟨.ret (.ok ()), rekeyMap, .ret (.ok ())⟩ } 8).run
        (Task.init echoStream false false false false none 0)).2.trace.flatMap Event.mapperEmit =
        [(.bytes [5], .bytes [2]), (.bytes [5], .bytes [2])] := echoStream_runs.2.2.2.1


/-- The mapper emits `(1, 5)` and `(1.0, 6)`. Without a combiner both pairs go upstream as
emitted. With an identity combiner the cache files `1.0` under the equal key `1` it already
holds, and the combiner sends both values upstream under the pickle of `1`. -/
theorem identity_combiner_merges_equal_keys :
    ((Task.run numberRuntime (numberFactory (some ⟨.ret (.ok ()), identityReduce 2, .ret (.ok ())⟩))
        8).run (Task.init echoStream false false true true none 0)).1 = .ok () ∧
      ((Task.run numberRuntime (numberFactory (some ⟨.ret (.ok ()), identityReduce 2, .ret (.ok ())⟩))
          8).run (Task.init echoStream false false true true none 0)).2.context.uplink.written =
        [.output (pickleNumber (.int 1)) (pickleNumber (.int 5)),
          .output (pickleNumber (.int 1)) (pickleNumber (.int 6)), .done].flatMap UpMessage.encode ∧
      ((Task.run numberRuntime (numberFactory none) 8).run
          (Task.init echoStream false false true true none 0)).1 = .ok () ∧
      ((Task.run numberRuntime (numberFactory none) 8).run
          (Task.init echoStream false false true true none 0)).2.context.uplink.written =
        [.output (pickleNumber (.int 1)) (pickleNumber (.int 5)),
          .output (pickleNumber (.float oneBits)) (pickleNumber (.int 6)), .done].flatMap
          UpMessage.encode := echoStream_runs.2.2.2.2

end Task

end Pydoop.Mapreduce
