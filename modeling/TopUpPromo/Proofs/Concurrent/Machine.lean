import TopUpPromo.Concurrent.World

/-!
# Programs that follow a machine

A service's program is a tree of calls whose continuations are functions, so an invariant
cannot name the points of the program directly. A machine names them: a type of stages, where
each stage either stops with a result or makes a call whose answer leads to the next stage. A
program *follows* a machine from a stage when it makes the stage's call and each answer leads
to a program that follows the machine from the stage that answer leads to; at the end both
stop with the same result.

Whatever a thread has run so far, its remaining program follows the machine from some stage,
so what a thread knows at each point of its program is said about the stage. The stages carry
what the program has read so far, and may carry more than the program keeps.

## Main definitions

- `Move`, `Program.Runs`, `Program.Follows`.
- `Program.runs_bind`: a program followed by a continuation follows the machine when each part
  does; `Program.runs_withTx` and `Program.runs_tryStore_liftResult` do the same for a
  transaction and for a store call whose failure is kept as a value.
-/

namespace TopUpPromo
namespace Concurrent

/-- What a stage of a machine does: stop with a result, or make a call and go on to the stage
the answer leads to. -/
inductive Move (σ α : Type) where
  | stop (result : α)
  | call (c : Call) (next : c.Answer → σ)

theorem Except.mapError_ok {ε ε' α : Type} (f : ε → ε') (a : α) :
    (Except.ok a : Except ε α).mapError f = .ok a := rfl

theorem Except.mapError_error {ε ε' α : Type} (f : ε → ε') (e : ε) :
    (Except.error e : Except ε α).mapError f = .error (f e) := rfl

namespace Program

variable {σ α β : Type}

/-- `p` runs as machine `M` from stage `s`, until it is done with a result `r` at a stage `s'`
with `post r s'`. -/
def Runs (M : σ → Move σ β) (post : α → σ → Prop) : Program α → σ → Prop
  | .done r, s => post r s
  | .call c next, s => ∃ after, M s = .call c after ∧ ∀ a, (next a).Runs M post (after a)

/-- `p` follows machine `M` from stage `s`: it runs as `M` and stops where `M` stops, with the
same result. -/
def Follows (M : σ → Move σ α) (p : Program α) (s : σ) : Prop :=
  p.Runs M (fun r s => M s = .stop r) s

variable {M : σ → Move σ β} {post : α → σ → Prop}

theorem runs_done {r : α} {s : σ} (h : post r s) : (Program.done r).Runs M post s := h

theorem runs_call {s : σ} {c : Call} {next : c.Answer → Program α} (after : c.Answer → σ)
    (hM : M s = .call c after) (hnext : ∀ a, (next a).Runs M post (after a)) :
    (Program.call c next).Runs M post s :=
  ⟨after, hM, hnext⟩

theorem runs_bind {γ : Type} {post' : γ → σ → Prop} {p : Program α} {f : α → Program γ}
    {s : σ} (hp : p.Runs M post s) (hf : ∀ r s', post r s' → (f r).Runs M post' s') :
    (p.bind f).Runs M post' s := by
  induction p generalizing s with
  | done r => exact hf r s hp
  | call c next ih =>
    obtain ⟨after, hM, hnext⟩ := hp
    exact ⟨after, hM, fun a => ih a (hnext a)⟩

/-- A transaction runs as the machine when the machine opens it at stage `s`, its body runs as
the machine from the stage that follows, and wherever the body ends the machine ends the
transaction with the body's outcome. -/
theorem runs_withTx {γ : Type} {ctx : Ctx} {body : Program (Except Failure γ)} {s s₁ : σ}
    {inner post : Except Failure γ → σ → Prop} (hbegin : M s = .call .begin fun _ => s₁)
    (hbody : body.Runs M inner s₁)
    (hfinish : ∀ r s', inner r s' → ∃ after, M s' = .call (.finish ctx (r.map fun _ => ())) after ∧
      ∀ a, post (a.bind fun _ => r) (after a)) :
    (PromotionStore.withTx ctx body : Program (Except Failure γ)).Runs M post s := by
  refine runs_call (fun _ => s₁) hbegin fun _ => runs_bind hbody fun r s' hr => ?_
  obtain ⟨after, hM, hpost⟩ := hfinish r s' hr
  exact runs_call after hM fun a => runs_done (hpost a)

/-- A store call whose failure is kept as a value, followed by a result computed from that
value, runs as the machine when the call does: the result is computed where the call ends. -/
theorem runs_tryStore_liftResult {γ : Type} {x : Program (Except Failure α)}
    {f : Except Failure α → Except Failure γ} {q : Except Failure γ → σ → Prop} {s : σ}
    (hx : x.Runs M (fun r s => q (f r) s) s) :
    (tryStore x >>= fun r => liftResult (f r) : ExceptT Failure Program γ).run.Runs M q s := by
  show ((x.bind _).bind _).Runs M q s
  rw [Program.bind_assoc]
  exact runs_bind hx fun r s hr => runs_done hr

theorem runs_tryStore_bind {γ : Type} {x : Program (Except Failure α)}
    {f : Except Failure α → ExceptT Failure Program γ} {inner : Except Failure α → σ → Prop}
    {q : Except Failure γ → σ → Prop} {s : σ} (hx : x.Runs M inner s)
    (hf : ∀ r s', inner r s' → (f r).run.Runs M q s') :
    (tryStore x >>= f : ExceptT Failure Program γ).run.Runs M q s := by
  show ((x.bind _).bind _).Runs M q s
  rw [Program.bind_assoc]
  exact runs_bind hx fun r s hr => hf r s hr

theorem runs_liftStore_bind {γ : Type} {x : Program (Except Failure α)}
    {f : α → ExceptT Failure Program γ} {inner : Except Failure α → σ → Prop}
    {q : Except Failure γ → σ → Prop} {s : σ} (hx : x.Runs M inner s)
    (herror : ∀ e s', inner (.error e) s' → q (.error e) s')
    (hok : ∀ a s', inner (.ok a) s' → (f a).run.Runs M q s') :
    (liftStore x >>= f : ExceptT Failure Program γ).run.Runs M q s := by
  show (x.bind _).Runs M q s
  refine runs_bind hx fun r s' hr => ?_
  rcases r with e | a
  · exact runs_done (herror e s' hr)
  · exact hok a s' hr

theorem runs_pure_bind {γ : Type} {a : α} {f : α → ExceptT Failure Program γ}
    {q : Except Failure γ → σ → Prop} {s : σ} (h : (f a).run.Runs M q s) :
    ((pure a : ExceptT Failure Program α) >>= f).run.Runs M q s := h

theorem runs_throw_bind {γ : Type} {e : Failure} {f : α → ExceptT Failure Program γ}
    {q : Except Failure γ → σ → Prop} {s : σ} (h : q (.error e) s) :
    ((throw e : ExceptT Failure Program α) >>= f).run.Runs M q s := h

theorem Follows.next {p : Program β} {s : σ} {c : Call} {next : c.Answer → Program β}
    (h : p.Follows M s) (hp : p = .call c next) :
    ∃ after, M s = .call c after ∧ ∀ a, (next a).Follows M (after a) := by
  subst hp
  exact h

theorem Follows.done {p : Program β} {s : σ} {r : β} (h : p.Follows M s)
    (hp : p = .done r) : M s = .stop r := by
  subst hp
  exact h

theorem Follows.eq_done {p : Program β} {s : σ} {r : β} (h : p.Follows M s)
    (hM : M s = .stop r) : p = .done r := by
  cases p with
  | done r' =>
    have hstop : M s = .stop r' := h
    rw [hM] at hstop
    cases hstop
    rfl
  | call c next =>
    obtain ⟨after, hcall, -⟩ := h
    rw [hM] at hcall
    cases hcall

end Program

end Concurrent
end TopUpPromo
