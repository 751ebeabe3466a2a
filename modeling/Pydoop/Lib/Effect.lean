import Mathlib.Data.List.Forall2

/-! Python-style effects over an explicit state: a computation may raise, and every state change
made before the raise is kept. Streams are states that embed a list of tokens; a reader that
takes exactly its own tokens off the front, and a writer that appends exactly its own tokens,
compose by concatenation. -/

/-- A computation that reads and writes a state `σ` and may raise `ε`, keeping the state reached
at the raise. -/
abbrev Effect (ε σ α : Type) := ExceptT ε (StateM σ) α

namespace Effect

variable {ε σ α β : Type}

/-- Run from a state: the outcome and the final state. -/
def run (x : Effect ε σ α) (s : σ) : Except ε α × σ := StateT.run (ExceptT.run x) s

@[simp] theorem run_pure (a : α) (s : σ) : (pure a : Effect ε σ α).run s = (.ok a, s) := rfl

@[simp] theorem run_throw (e : ε) (s : σ) :
    (throw e : Effect ε σ α).run s = (.error e, s) := rfl

@[simp] theorem run_get (s : σ) : (get : Effect ε σ σ).run s = (.ok s, s) := rfl

@[simp] theorem run_set (s s' : σ) : (set s' : Effect ε σ PUnit).run s = (.ok ⟨⟩, s') := rfl

@[simp] theorem run_modify (f : σ → σ) (s : σ) :
    (modify f : Effect ε σ PUnit).run s = (.ok ⟨⟩, f s) := rfl

@[simp] theorem run_modifyGet (f : σ → α × σ) (s : σ) :
    (modifyGet f : Effect ε σ α).run s = (.ok (f s).1, (f s).2) := rfl

@[simp] theorem run_ofExcept_ok (a : α) (s : σ) :
    (MonadExcept.ofExcept (.ok a : Except ε α) : Effect ε σ α).run s = (.ok a, s) := rfl

@[simp] theorem run_ofExcept (x : Except ε α) (s : σ) :
    (MonadExcept.ofExcept x : Effect ε σ α).run s = (x, s) := by
  cases x <;> rfl

theorem run_bind (x : Effect ε σ α) (f : α → Effect ε σ β) (s : σ) :
    (x >>= f).run s =
      match x.run s with
      | (.ok a, s') => (f a).run s'
      | (.error e, s') => (.error e, s') := by
  unfold run
  rw [ExceptT.run_bind, StateT.run_bind]
  rcases StateT.run (ExceptT.run x) s with ⟨outcome, s'⟩
  cases outcome <;> rfl

theorem run_bind_ok {x : Effect ε σ α} {f : α → Effect ε σ β} {s s' : σ} {a : α}
    (first : x.run s = (.ok a, s')) : (x >>= f).run s = (f a).run s' := by
  rw [run_bind, first]

theorem run_bind_error {x : Effect ε σ α} {f : α → Effect ε σ β} {s s' : σ} {e : ε}
    (first : x.run s = (.error e, s')) : (x >>= f).run s = (.error e, s') := by
  rw [run_bind, first]

theorem run_bind_cases {x : Effect ε σ α} {f : α → Effect ε σ β} {s s' : σ} {o : Except ε β}
    (ran : (x >>= f).run s = (o, s')) :
    (∃ e, x.run s = (.error e, s') ∧ o = .error e) ∨
      ∃ a s₁, x.run s = (.ok a, s₁) ∧ (f a).run s₁ = (o, s') := by
  rw [run_bind] at ran
  rcases first : x.run s with ⟨outcome, s₁⟩
  rw [first] at ran
  cases outcome with
  | error e =>
    simp only [Prod.mk.injEq] at ran
    exact .inl ⟨e, by rw [ran.2], ran.1.symm⟩
  | ok a => exact .inr ⟨a, s₁, rfl, ran⟩

theorem run_bind_eq_ok {x : Effect ε σ α} {f : α → Effect ε σ β} {s s' : σ} {b : β}
    (ran : (x >>= f).run s = (.ok b, s')) :
    ∃ a s₁, x.run s = (.ok a, s₁) ∧ (f a).run s₁ = (.ok b, s') := by
  rcases run_bind_cases ran with ⟨e, -, raised⟩ | returned
  · cases raised
  · exact returned

@[simp] theorem run_map (f : α → β) (x : Effect ε σ α) (s : σ) :
    (f <$> x).run s = ((x.run s).1.map f, (x.run s).2) := by
  rw [map_eq_pure_bind, run_bind]
  rcases x.run s with ⟨outcome, s'⟩
  cases outcome <;> rfl

theorem run_mapM_forall₂ {f : α → Effect ε σ β} {R : α → β → Prop} {s : σ} :
    ∀ {l : List α}, (∀ a ∈ l, ∃ b, (f a).run s = (.ok b, s) ∧ R a b) →
      ∃ bs, (l.mapM f).run s = (.ok bs, s) ∧ List.Forall₂ R l bs
  | [], _ => ⟨[], rfl, .nil⟩
  | a :: l, each => by
    obtain ⟨b, first, related⟩ := each a List.mem_cons_self
    obtain ⟨bs, rest, others⟩ :=
      run_mapM_forall₂ fun a' member => each a' (List.mem_cons_of_mem a member)
    refine ⟨b :: bs, ?_, .cons related others⟩
    rw [List.mapM_cons, run_bind_ok first, run_bind_ok rest]
    rfl

/-- Python `try: body finally: final`. The final block always runs; an exception it raises
replaces the body's outcome, otherwise the body's outcome stands. -/
def tryFinally (body : Effect ε σ α) (final : Effect ε σ Unit) : Effect ε σ α :=
  ExceptT.mk fun s =>
    let (outcome, s') := body.run s
    let (last, s'') := final.run s'
    (match last with
      | .error e => .error e
      | .ok () => outcome, s'')

theorem run_tryFinally (body : Effect ε σ α) (final : Effect ε σ Unit) (s : σ) :
    (tryFinally body final).run s =
      ((match (final.run (body.run s).2).1 with
        | .error e => .error e
        | .ok () => (body.run s).1), (final.run (body.run s).2).2) := rfl

theorem run_tryFinally_throw (body : Effect ε σ α) (e : ε) (s : σ) :
    ((tryFinally body (throw e)).run s).1 = .error e := rfl

/-- Run a computation on one component of the state, the rest of the state unchanged. -/
def zoom {τ : Type} (view : σ → τ) (update : σ → τ → σ) (x : Effect ε τ α) : Effect ε σ α :=
  ExceptT.mk fun s =>
    let (outcome, t) := x.run (view s)
    (outcome, update s t)

theorem run_zoom {τ : Type} (view : σ → τ) (update : σ → τ → σ) (x : Effect ε τ α) (s : σ) :
    (zoom view update x).run s = ((x.run (view s)).1, update s (x.run (view s)).2) := rfl

/-- Python `try: x except BaseException as e: ...` seen from the caller: the outcome of `x` as a
value, the state changes `x` made before a raise kept. -/
def reify (x : Effect ε σ α) : Effect ε σ (Except ε α) :=
  ExceptT.mk fun s => let (outcome, s') := x.run s; (.ok outcome, s')

@[simp] theorem run_reify (x : Effect ε σ α) (s : σ) :
    (reify x).run s = (.ok (x.run s).1, (x.run s).2) := rfl

section Simulation

variable {τ : Type} (R : σ → τ → Prop)

/-- `x` and `y` behave alike up to `R`: from related states they reach the same outcome and
related states. -/
def Sim (x : Effect ε σ α) (y : Effect ε τ α) : Prop :=
  ∀ s t, R s t → (x.run s).1 = (y.run t).1 ∧ R (x.run s).2 (y.run t).2

variable {R}

theorem Sim.pure (a : α) : Sim R (Pure.pure a : Effect ε σ α) (Pure.pure a) :=
  fun _ _ related => ⟨rfl, related⟩

theorem Sim.throw (e : ε) : Sim R (throw e : Effect ε σ α) (throw e) :=
  fun _ _ related => ⟨rfl, related⟩

theorem Sim.bind {x : Effect ε σ α} {y : Effect ε τ α} {f : α → Effect ε σ β}
    {g : α → Effect ε τ β} (first : Sim R x y) (next : ∀ a, Sim R (f a) (g a)) :
    Sim R (x >>= f) (y >>= g) := by
  intro s t related
  obtain ⟨same, related'⟩ := first s t related
  rw [run_bind, run_bind]
  rcases hx : x.run s with ⟨outcome, s'⟩
  rcases hy : y.run t with ⟨outcome', t'⟩
  rw [hx, hy] at same related'
  simp only at same related'
  subst same
  cases outcome with
  | ok a => exact next a s' t' related'
  | error e => exact ⟨rfl, related'⟩

theorem Sim.reify {x : Effect ε σ α} {y : Effect ε τ α} (inner : Sim R x y) :
    Sim R (Effect.reify x) (Effect.reify y) := by
  intro s t related
  obtain ⟨same, related'⟩ := inner s t related
  exact ⟨by rw [run_reify, run_reify, same], related'⟩

theorem Sim.tryFinally {x : Effect ε σ α} {y : Effect ε τ α} {final : Effect ε σ Unit}
    {final' : Effect ε τ Unit} (body : Sim R x y) (last : Sim R final final') :
    Sim R (Effect.tryFinally x final) (Effect.tryFinally y final') := by
  intro s t related
  obtain ⟨same, related'⟩ := body s t related
  obtain ⟨lastSame, related''⟩ := last _ _ related'
  rw [run_tryFinally, run_tryFinally, lastSame, same]
  exact ⟨rfl, related''⟩

theorem Sim.read_bind {read : Effect ε σ β} {read' : Effect ε τ β} {view : σ → β} {view' : τ → β}
    {f : β → Effect ε σ α} {g : β → Effect ε τ α} (reads : ∀ s, read.run s = (.ok (view s), s))
    (reads' : ∀ t, read'.run t = (.ok (view' t), t)) (agree : ∀ s t, R s t → view s = view' t)
    (next : ∀ s t, R s t → Sim R (f (view' t)) (g (view' t))) : Sim R (read >>= f) (read' >>= g) := by
  intro s t related
  rw [run_bind_ok (reads s), run_bind_ok (reads' t), agree s t related]
  exact next s t related s t related

theorem Sim.forM {κ : Type} {f : κ → Effect ε σ Unit} {g : κ → Effect ε τ Unit} :
    ∀ {ks : List κ}, (∀ k ∈ ks, Sim R (f k) (g k)) → Sim R (ks.forM f) (ks.forM g)
  | [], _ => Sim.pure ()
  | k :: ks, each => by
    rw [List.forM, List.forM]
    exact (each k (List.mem_cons_self ..)).bind fun _ =>
      Sim.forM fun k' member => each k' (List.mem_cons_of_mem _ member)

end Simulation

section Triples

variable {P P' : σ → Prop}

/-- A run of `x` from a state satisfying `P` ends with an outcome and a state satisfying `Q`. -/
def Triple (P : σ → Prop) (x : Effect ε σ α) (Q : Except ε α → σ → Prop) : Prop :=
  ∀ s, P s → Q (x.run s).1 (x.run s).2

theorem Triple.pure {Q : Except ε α → σ → Prop} (a : α) (post : ∀ s, P s → Q (.ok a) s) :
    Triple P (Pure.pure a : Effect ε σ α) Q :=
  fun s pre => post s pre

theorem Triple.throw {Q : Except ε α → σ → Prop} (e : ε) (post : ∀ s, P s → Q (.error e) s) :
    Triple P (throw e : Effect ε σ α) Q :=
  fun s pre => post s pre

theorem Triple.bind {x : Effect ε σ α} {f : α → Effect ε σ β} {Q : Except ε α → σ → Prop}
    {R : Except ε β → σ → Prop} (first : Triple P x Q) (next : ∀ a, Triple (Q (.ok a)) (f a) R)
    (failed : ∀ e s, Q (.error e) s → R (.error e) s) : Triple P (x >>= f) R := by
  intro s pre
  have mid := first s pre
  rw [run_bind]
  rcases ran : x.run s with ⟨outcome, s'⟩
  rw [ran] at mid
  cases outcome with
  | ok a => exact next a s' mid
  | error e => exact failed e s' mid

theorem Triple.conseq {x : Effect ε σ α} {Q Q' : Except ε α → σ → Prop}
    (stronger : ∀ s, P' s → P s) (triple : Triple P x Q) (weaker : ∀ o s, Q o s → Q' o s) :
    Triple P' x Q' :=
  fun s pre => weaker _ _ (triple s (stronger s pre))

theorem Triple.reify {x : Effect ε σ α} {Q : Except ε α → σ → Prop} (inner : Triple P x Q) :
    Triple P (Effect.reify x) fun o s => ∃ a, o = .ok a ∧ Q a s := by
  intro s pre
  rw [run_reify]
  exact ⟨_, rfl, inner s pre⟩

theorem Triple.read_bind {read : Effect ε σ β} {view : σ → β} {f : β → Effect ε σ α}
    {Q : Except ε α → σ → Prop} (reads : ∀ s, read.run s = (.ok (view s), s))
    (next : ∀ b, Triple (fun s => P s ∧ view s = b) (f b) Q) : Triple P (read >>= f) Q := by
  intro s pre
  rw [run_bind_ok (reads s)]
  exact next (view s) s ⟨pre, rfl⟩

theorem Triple.and {x : Effect ε σ α} {Q Q' : Except ε α → σ → Prop} (left : Triple P x Q)
    (right : Triple P' x Q') : Triple (fun s => P s ∧ P' s) x fun o s => Q o s ∧ Q' o s :=
  fun s pre => ⟨left s pre.1, right s pre.2⟩

/-- A loop whose body takes an invariant over the elements done so far to the invariant with one
more element, or to a failure, ends with the invariant over all of them, or with the failure. The
body is only run on the elements of the list, each after those before it. -/
theorem Triple.forM {κ : Type} {f : κ → Effect ε σ Unit} {I : List κ → σ → Prop}
    {Fail : ε → σ → Prop} :
    ∀ {done ks : List κ},
      (∀ pre k post, pre ++ k :: post = ks → Triple (I (done ++ pre)) (f k) fun o s =>
        (o = .ok () → I (done ++ pre ++ [k]) s) ∧ ∀ e, o = .error e → Fail e s) →
      Triple (I done) (ks.forM f) fun o s =>
        (o = .ok () → I (done ++ ks) s) ∧ ∀ e, o = .error e → Fail e s
  | done, [], _ => Triple.pure () fun s pre => ⟨fun _ => by rwa [List.append_nil], nofun⟩
  | done, k :: ks, each => by
    rw [List.forM]
    have first := each [] k ks rfl
    rw [List.append_nil] at first
    have rest : ∀ pre k' post, pre ++ k' :: post = ks →
        Triple (I (done ++ [k] ++ pre)) (f k') fun o s =>
          (o = .ok () → I (done ++ [k] ++ pre ++ [k']) s) ∧ ∀ e, o = .error e → Fail e s := by
      intro pre k' post split
      have step := each (k :: pre) k' post (by rw [← split, List.cons_append])
      simpa using step
    refine Triple.bind first (fun _ => ?_) ?_
    · refine Triple.conseq (fun s mid => mid.1 rfl) (Triple.forM rest) ?_
      intro o s post
      simpa using post
    · intro e s post
      exact ⟨nofun, fun e' same => by cases same; exact post.2 e rfl⟩

theorem Triple.tryFinally {x : Effect ε σ α} {final : Effect ε σ Unit}
    {Q : Except ε α → σ → Prop} (body : Triple P x Q)
    (last : ∀ o, Triple (Q o) final fun _ => Q o) (raised : ∀ e o s, Q o s → Q (.error e) s) :
    Triple P (Effect.tryFinally x final) Q := by
  intro s pre
  have kept := last _ _ (body s pre)
  rw [run_tryFinally]
  split
  · exact raised _ _ _ kept
  · exact kept

/-- `I` holds after every run of `x` from a state where it holds, whatever the outcome. -/
def Keeps (I : σ → Prop) (x : Effect ε σ α) : Prop := Triple I x fun _ => I

variable {I : σ → Prop}

theorem Keeps.pure (a : α) : Keeps I (Pure.pure a : Effect ε σ α) := Triple.pure a fun _ => id

theorem Keeps.throw (e : ε) : Keeps I (throw e : Effect ε σ α) := Triple.throw e fun _ => id

theorem Keeps.throw_bind (e : ε) (f : α → Effect ε σ β) :
    Keeps I (MonadExcept.throw e >>= f) := by
  intro s pre
  rw [run_bind, run_throw]
  exact pre

theorem Keeps.bind {x : Effect ε σ α} {f : α → Effect ε σ β} (first : Keeps I x)
    (next : ∀ a, Keeps I (f a)) : Keeps I (x >>= f) :=
  Triple.bind first next fun _ _ => id

theorem Keeps.reify {x : Effect ε σ α} (inner : Keeps I x) : Keeps I (Effect.reify x) := by
  intro s pre
  rw [run_reify]
  exact inner s pre

theorem Keeps.tryFinally {x : Effect ε σ α} {final : Effect ε σ Unit} (body : Keeps I x)
    (last : Keeps I final) : Keeps I (Effect.tryFinally x final) := by
  intro s pre
  rw [run_tryFinally]
  exact last _ (body s pre)

theorem Keeps.forM {κ : Type} {f : κ → Effect ε σ Unit} :
    ∀ {ks : List κ}, (∀ k ∈ ks, Keeps I (f k)) → Keeps I (ks.forM f)
  | [], _ => Keeps.pure ()
  | k :: ks, each => by
    rw [List.forM]
    exact (each k (List.mem_cons_self ..)).bind fun _ =>
      Keeps.forM fun k' member => each k' (List.mem_cons_of_mem _ member)

theorem Keeps.modify {f : σ → σ} (stable : ∀ s, I s → I (f s)) :
    Keeps I (modify f : Effect ε σ PUnit) :=
  fun s pre => stable s pre

theorem Keeps.modifyGet {f : σ → α × σ} (stable : ∀ s, I s → I (f s).2) :
    Keeps I (modifyGet f : Effect ε σ α) :=
  fun s pre => stable s pre

theorem Keeps.ofExcept (outcome : Except ε α) :
    Keeps I (MonadExcept.ofExcept outcome : Effect ε σ α) := by
  cases outcome with
  | ok a => exact Keeps.pure a
  | error e => exact Keeps.throw e

theorem Keeps.and {J : σ → Prop} {x : Effect ε σ α} (left : Keeps I x) (right : Keeps J x) :
    Keeps (fun s => I s ∧ J s) x :=
  Triple.and left right

theorem Keeps.zoom {τ : Type} {view : σ → τ} {update : σ → τ → σ} {x : Effect ε τ α}
    (stable : ∀ s t, I s → I (update s t)) : Keeps I (Effect.zoom view update x) :=
  fun s pre => stable s _ pre

end Triples

section Reading

variable {x : Effect ε σ α} {f : α → Effect ε σ β}

/-- `x` only reads the state: every run of it, returning or raising, leaves the state as it
was. -/
def Stays (x : Effect ε σ α) : Prop := ∀ s, (x.run s).2 = s

theorem Stays.pure (a : α) : Stays (Pure.pure a : Effect ε σ α) := fun _ => rfl

theorem Stays.throw (e : ε) : Stays (throw e : Effect ε σ α) := fun _ => rfl

theorem Stays.ofExcept (outcome : Except ε α) :
    Stays (MonadExcept.ofExcept outcome : Effect ε σ α) := by
  intro s
  rw [run_ofExcept]

theorem Stays.bind (first : Stays x) (next : ∀ a, Stays (f a)) : Stays (x >>= f) := by
  intro s
  rw [run_bind]
  rcases ran : x.run s with ⟨outcome, s'⟩
  have same : s' = s := by rw [← first s, ran]
  subst same
  cases outcome with
  | ok a => exact next a s'
  | error e => rfl

theorem Stays.get_bind {g : σ → Effect ε σ β} (next : ∀ s, Stays (g s)) :
    Stays ((get : Effect ε σ σ) >>= g) :=
  fun s => by rw [run_bind_ok (run_get s)]; exact next s s

theorem Stays.reify (inner : Stays x) : Stays (Effect.reify x) := by
  intro s
  rw [run_reify]
  exact inner s

theorem Stays.mapM {κ : Type} {g : κ → Effect ε σ β} :
    ∀ {ks : List κ}, (∀ k ∈ ks, Stays (g k)) → Stays (ks.mapM g)
  | [], _ => Stays.pure []
  | k :: ks, each => by
    rw [List.mapM_cons]
    exact (each k (List.mem_cons_self ..)).bind fun _ =>
      (Stays.mapM fun k' member => each k' (List.mem_cons_of_mem _ member)).bind fun _ =>
        Stays.pure _

theorem Stays.keeps {I : σ → Prop} (stays : Stays x) : Keeps I x := by
  intro s pre
  rw [stays]
  exact pre

end Reading

section Components

variable {ι : Type} {put : σ → ι → σ}

/-- `x` neither reads nor writes the component of the state that `put` replaces. -/
def Ignores (put : σ → ι → σ) (x : Effect ε σ α) : Prop :=
  ∀ s i, x.run (put s i) = ((x.run s).1, put (x.run s).2 i)

theorem Ignores.pure (a : α) : Ignores put (Pure.pure a : Effect ε σ α) := fun _ _ => rfl

theorem Ignores.throw (e : ε) : Ignores put (throw e : Effect ε σ α) := fun _ _ => rfl

theorem Ignores.bind {x : Effect ε σ α} {f : α → Effect ε σ β} (first : Ignores put x)
    (next : ∀ a, Ignores put (f a)) : Ignores put (x >>= f) := by
  intro s i
  rw [run_bind, first, run_bind]
  rcases x.run s with ⟨outcome, s'⟩
  cases outcome with
  | ok a => exact next a s' i
  | error e => rfl

theorem Ignores.reify {x : Effect ε σ α} (inner : Ignores put x) :
    Ignores put (Effect.reify x) := by
  intro s i
  rw [run_reify, run_reify, inner]

theorem Ignores.tryFinally {x : Effect ε σ α} {final : Effect ε σ Unit} (body : Ignores put x)
    (last : Ignores put final) : Ignores put (Effect.tryFinally x final) := by
  intro s i
  rw [run_tryFinally, run_tryFinally, body, last]

theorem Ignores.forM {κ : Type} {f : κ → Effect ε σ Unit} :
    ∀ {ks : List κ}, (∀ k ∈ ks, Ignores put (f k)) → Ignores put (ks.forM f)
  | [], _ => Ignores.pure ()
  | k :: ks, each => by
    rw [List.forM]
    exact (each k (List.mem_cons_self ..)).bind fun _ =>
      Ignores.forM fun k' member => each k' (List.mem_cons_of_mem _ member)

theorem Ignores.modify {f : σ → σ} (commutes : ∀ s i, f (put s i) = put (f s) i) :
    Ignores put (modify f : Effect ε σ PUnit) :=
  fun s i => by rw [run_modify, run_modify, commutes]

theorem Ignores.modifyGet {f : σ → α × σ} (commutes : ∀ s i, f (put s i) = ((f s).1, put (f s).2 i)) :
    Ignores put (modifyGet f : Effect ε σ α) :=
  fun s i => by rw [run_modifyGet, run_modifyGet, commutes]

theorem Ignores.zoom {κ : Type} {view : σ → κ} {update : σ → κ → σ} (x : Effect ε κ α)
    (view_put : ∀ s i, view (put s i) = view s)
    (update_put : ∀ s i c, update (put s i) c = put (update s c) i) :
    Ignores put (Effect.zoom view update x) :=
  fun s i => by rw [run_zoom, run_zoom, view_put, update_put]

/-- What ignores a component runs alike on two states that differ only in that component, and
leaves the two components as they were; an invariant of the rest of the state that it keeps
rides along. -/
theorem Ignores.sim {view : σ → ι} (put_view : ∀ s, put s (view s) = s)
    (view_put : ∀ s i, view (put s i) = i) {Q : ι → ι → Prop} {I : σ → Prop} {x : Effect ε σ α}
    (ignores : Ignores put x) (keeps : Keeps I x) :
    Sim (fun s t => s = put t (view s) ∧ Q (view s) (view t) ∧ I t) x x := by
  rintro s t ⟨same, related, invariant⟩
  have unchanged : (x.run t).2 = put (x.run t).2 (view t) := by
    have again := ignores t (view t)
    rw [put_view] at again
    exact congrArg Prod.snd again
  have fromS : x.run s = ((x.run t).1, put (x.run t).2 (view s)) := by
    rw [same, ignores, view_put]
  rw [fromS]
  refine ⟨rfl, by rw [view_put], ?_, keeps t invariant⟩
  rw [view_put, unchanged, view_put]
  exact related

theorem Ignores.sim_put {I : σ → Prop} {x : Effect ε σ α} (ignores : Ignores put x)
    (keeps : Keeps I x) (i : ι) : Sim (fun s t => s = put t i ∧ I t) x x := by
  rintro s t ⟨rfl, invariant⟩
  rw [ignores]
  exact ⟨rfl, rfl, keeps t invariant⟩

end Components

section Framing

variable {τ κ : Type} (embed : List τ → σ)

/-- `dec` yields `a` and takes exactly the tokens `bs` off the front of any stream. -/
def Reads (dec : Effect ε σ α) (bs : List τ) (a : α) : Prop :=
  ∀ rest, dec.run (embed (bs ++ rest)) = (.ok a, embed rest)

/-- `enc` appends exactly the tokens `bs` to any stream. -/
def Writes (enc : Effect ε σ Unit) (bs : List τ) : Prop :=
  ∀ out, enc.run (embed out) = (.ok (), embed (out ++ bs))

variable {embed}

theorem Reads.pure (a : α) : Reads embed (Pure.pure a : Effect ε σ α) [] a := by
  intro rest
  rfl

theorem Reads.bind {x : Effect ε σ α} {f : α → Effect ε σ β} {bs bs' : List τ} {a : α} {b : β}
    (first : Reads embed x bs a) (next : Reads embed (f a) bs' b) :
    Reads embed (x >>= f) (bs ++ bs') b := by
  intro rest
  rw [List.append_assoc, run_bind_ok (first (bs' ++ rest)), next rest]

theorem Reads.map {x : Effect ε σ α} {bs : List τ} {a : α} (f : α → β)
    (reads : Reads embed x bs a) : Reads embed (f <$> x) bs (f a) := by
  intro rest
  simp [reads rest, Except.map]

theorem Reads.congr {dec : Effect ε σ α} {bs bs' : List τ} {a : α}
    (reads : Reads embed dec bs a) (same : bs = bs') : Reads embed dec bs' a :=
  same ▸ reads

theorem Reads.bind_pure {x : Effect ε σ α} {f : α → Effect ε σ β} {bs : List τ} {a : α} {b : β}
    (first : Reads embed x bs a) (returns : f a = Pure.pure b) : Reads embed (x >>= f) bs b := by
  refine (first.bind ?_).congr (List.append_nil bs)
  rw [returns]
  exact Reads.pure b

theorem Reads.mapM {dec : κ → Effect ε σ α} :
    ∀ {ks : List κ} {frames : List (List τ × α)},
      List.Forall₂ (fun k frame => Reads embed (dec k) frame.1 frame.2) ks frames →
      Reads embed (ks.mapM dec) (frames.flatMap Prod.fst) (frames.map Prod.snd)
  | [], [], .nil => Reads.pure []
  | k :: ks, frame :: frames, .cons head tail => by
    simp only [List.mapM_cons, List.flatMap_cons, List.map_cons]
    refine (head.bind ((Reads.mapM tail).bind (Reads.pure (frame.2 :: _)))).congr ?_
    rw [List.append_nil]

theorem Reads.mapM_const {dec : Effect ε σ α} :
    ∀ {ks : List κ} {frames : List (List τ × α)}, ks.length = frames.length →
      (∀ frame ∈ frames, Reads embed dec frame.1 frame.2) →
      Reads embed (ks.mapM fun _ => dec) (frames.flatMap Prod.fst) (frames.map Prod.snd)
  | [], [], _, _ => Reads.pure []
  | _ :: ks, frame :: frames, sized, each => by
    simp only [List.mapM_cons, List.flatMap_cons, List.map_cons]
    have rest : Reads embed (ks.mapM fun _ => dec) (frames.flatMap Prod.fst)
        (frames.map Prod.snd) :=
      Reads.mapM_const (by simpa using sized) fun f member => each f (List.mem_cons_of_mem frame member)
    refine ((each frame List.mem_cons_self).bind (rest.bind (Reads.pure (frame.2 :: _)))).congr ?_
    rw [List.append_nil]

theorem Reads.get_bind {f : σ → Effect ε σ α} {g : Effect ε σ α} {bs : List τ} {a : α}
    (independent : ∀ rest, f (embed rest) = g) (reads : Reads embed g bs a) :
    Reads embed (get >>= f) bs a := by
  intro rest
  rw [run_bind_ok (run_get _), independent, reads rest]

theorem Reads.zoom {τ' : Type} {view : σ → τ'} {update : σ → τ' → σ} {inner : List τ → τ'}
    {dec : Effect ε τ' α} {bs : List τ} {a : α} (reads : Reads inner dec bs a) (s : σ)
    (view_update : ∀ t, view (update s t) = t)
    (update_update : ∀ t t', update (update s t) t' = update s t') :
    Reads (fun rest => update s (inner rest)) (zoom view update dec) bs a := by
  intro rest
  rw [run_zoom, view_update, reads rest, update_update]

theorem Writes.pure : Writes embed (Pure.pure () : Effect ε σ Unit) ([] : List τ) := by
  intro out
  simp

theorem Writes.bind {x y : Effect ε σ Unit} {bs bs' : List τ}
    (first : Writes embed x bs) (next : Writes embed y bs') :
    Writes embed (x >>= fun () => y) (bs ++ bs') := by
  intro out
  rw [run_bind_ok (first out), next, List.append_assoc]

theorem Writes.congr {enc : Effect ε σ Unit} {bs bs' : List τ}
    (writes : Writes embed enc bs) (same : bs = bs') : Writes embed enc bs' :=
  same ▸ writes

theorem Writes.forM {enc : κ → Effect ε σ Unit} {bytes : κ → List τ} :
    ∀ {ks : List κ}, (∀ k ∈ ks, Writes embed (enc k) (bytes k)) →
      Writes embed (ks.forM enc) (ks.flatMap bytes)
  | [], _ => Writes.pure
  | k :: ks, each => by
    rw [List.forM, List.flatMap_cons]
    exact (each k (List.mem_cons_self ..)).bind
      (Writes.forM fun k' member => each k' (List.mem_cons_of_mem _ member))

end Framing

section Moving

variable {τ : Type} {before middle after : List τ → σ}

/-- `x` yields `a`, takes exactly the tokens `bs` off the front of any stream, and takes the rest
of the state from `before` to `after`: a reader that also changes the state around the stream. -/
def Moves (before after : List τ → σ) (x : Effect ε σ α) (bs : List τ) (a : α) : Prop :=
  ∀ rest, x.run (before (bs ++ rest)) = (.ok a, after rest)

theorem Reads.moves {x : Effect ε σ α} {bs : List τ} {a : α} (reads : Reads before x bs a) :
    Moves before before x bs a :=
  reads

theorem Moves.bind {x : Effect ε σ α} {f : α → Effect ε σ β} {bs bs' : List τ} {a : α} {b : β}
    (first : Moves before middle x bs a) (next : Moves middle after (f a) bs' b) :
    Moves before after (x >>= f) (bs ++ bs') b := by
  intro rest
  rw [List.append_assoc, run_bind_ok (first (bs' ++ rest)), next rest]

theorem Moves.congr {x : Effect ε σ α} {bs bs' : List τ} {a : α}
    (moves : Moves before after x bs a) (same : bs = bs') : Moves before after x bs' a :=
  same ▸ moves

theorem Moves.modify (f : σ → σ) :
    Moves before (fun rest => f (before rest)) (modify f : Effect ε σ PUnit) [] ⟨⟩ := by
  intro rest
  rfl

theorem Moves.get_bind {f : σ → Effect ε σ α} {g : Effect ε σ α} {bs : List τ} {a : α}
    (independent : ∀ rest, f (before rest) = g) (moves : Moves before after g bs a) :
    Moves before after (get >>= f) bs a := by
  intro rest
  rw [run_bind_ok (run_get _), independent, moves rest]

end Moving

end Effect
