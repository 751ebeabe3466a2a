import Pydoop.Lib.Effect

/-! Programs that talk to a host: a program either ends with a result or asks the host one
question and continues with the answer. A host runs a program by answering each question with a
computation of its own, so the same program can be run by several hosts and the runs compared. -/

/-- A program over questions `Op`, each answered with an `Ans`, ending with an `α`. -/
inductive Program (Op Ans α : Type) where
  | ret (a : α)
  | call (o : Op) (next : Ans → Program Op Ans α)

namespace Program

variable {Op Ans α β : Type}

/-- Sequencing: run `p`, then the program its result selects. -/
def bind : Program Op Ans α → (α → Program Op Ans β) → Program Op Ans β
  | ret a, f => f a
  | call o next, f => call o fun ans => (next ans).bind f

instance : Monad (Program Op Ans) where
  pure := ret
  bind := bind

/-- Run a program on a host, answering each question with `handle`. -/
def interpret {m : Type → Type} [Monad m] (handle : Op → m Ans) : Program Op Ans α → m α
  | ret a => pure a
  | call o next => handle o >>= fun ans => (next ans).interpret handle

@[simp] theorem interpret_ret {m : Type → Type} [Monad m] (handle : Op → m Ans) (a : α) :
    (ret a : Program Op Ans α).interpret handle = pure a := rfl

@[simp] theorem interpret_call {m : Type → Type} [Monad m] (handle : Op → m Ans) (o : Op)
    (next : Ans → Program Op Ans α) :
    (call o next).interpret handle = handle o >>= fun ans => (next ans).interpret handle := rfl

theorem interpret_sim {ε σ τ : Type} {R : σ → τ → Prop} {handle : Op → Effect ε σ Ans}
    {handle' : Op → Effect ε τ Ans} (answers : ∀ o, Effect.Sim R (handle o) (handle' o)) :
    ∀ p : Program Op Ans α, Effect.Sim R (p.interpret handle) (p.interpret handle')
  | ret a => Effect.Sim.pure a
  | call o next => (answers o).bind fun ans => interpret_sim answers (next ans)

/-- `p` never asks a question that `bad` holds of, whatever the answers. -/
def Avoids (bad : Op → Prop) : Program Op Ans α → Prop
  | ret _ => True
  | call o next => ¬bad o ∧ ∀ ans, (next ans).Avoids bad

theorem interpret_sim_avoids {ε σ τ : Type} {R : σ → τ → Prop} {bad : Op → Prop}
    {handle : Op → Effect ε σ Ans} {handle' : Op → Effect ε τ Ans}
    (answers : ∀ o, ¬bad o → Effect.Sim R (handle o) (handle' o)) :
    ∀ p : Program Op Ans α, p.Avoids bad → Effect.Sim R (p.interpret handle) (p.interpret handle')
  | ret a, _ => Effect.Sim.pure a
  | call o next, ⟨allowed, rest⟩ =>
    (answers o allowed).bind fun ans => interpret_sim_avoids answers (next ans) (rest ans)

theorem interpret_keeps {ε σ : Type} {I : σ → Prop} {handle : Op → Effect ε σ Ans}
    (answers : ∀ o, Effect.Keeps I (handle o)) :
    ∀ p : Program Op Ans α, Effect.Keeps I (p.interpret handle)
  | ret a => Effect.Keeps.pure a
  | call o next => (answers o).bind fun ans => interpret_keeps answers (next ans)

theorem interpret_ok {ε σ : Type} {handle : Op → Effect ε σ Ans}
    (answers : ∀ o s, ∃ a, ((handle o).run s).1 = .ok a) :
    ∀ (p : Program Op Ans α) (s : σ), ∃ a, ((p.interpret handle).run s).1 = .ok a
  | ret a, _ => ⟨a, rfl⟩
  | call o next, s => by
    obtain ⟨ans, answered⟩ := answers o s
    rw [interpret_call, Effect.run_bind]
    rcases ran : (handle o).run s with ⟨outcome, s'⟩
    rw [ran] at answered
    simp only at answered
    rw [answered]
    exact interpret_ok answers (next ans) s'

end Program
