import TopUpPromo.Proofs.Isolated.Frame
import TopUpPromo.Proofs.Concurrent.Machine
import TopUpPromo.Proofs.Concurrent.Threads

/-!
# A request run alone

A world of one thread is a request run with no other request moving: the events only choose
the outside world's answers. When an invariant of a machine's stages is kept by every call the
machine makes, whatever the answer (`Keeps`), it holds wherever the thread has got to
(`run_alone`), and where the thread is done the machine stops with the thread's reply
(`reply_alone`).

What the payment gateway was asked and answered is part of what a run shows: `World.charges`
lists the payment calls of a run with the gateway's answers, and an invariant may speak of the
charges the thread has asked for so far.
-/

namespace TopUpPromo
namespace Concurrent

open Memory

def Call.charges (o : Oracle) : Call → List (PaymentRequest × Except Failure Bool)
  | .confirmPayment _ pr => [(pr, o.payment)]
  | _ => []

def Thread.charges (o : Oracle) (th : Thread) : List (PaymentRequest × Except Failure Bool) :=
  match th.program with
  | .done _ => []
  | .call c _ => c.charges o

/-- The payment calls a run makes, in order, each with the thread that makes it, the charge it
asks for and the gateway's answer. -/
def World.charges (w : World) : List Event → List (Nat × PaymentRequest × Except Failure Bool)
  | [] => []
  | e :: es => ((w.threads[e.thread]?.map (Thread.charges e.oracle)).getD []).map (e.thread, ·) ++
      (w.step e).charges es

section Alone

variable {σ : Type} {M : σ → Move σ Reply}
  {Inv : List (PaymentRequest × Except Failure Bool) → σ → Store → Option Tx → Prop}

variable (M Inv) in
/-- `Inv` is kept by every call the machine makes, whatever the outside world answers; it may
speak of the charges asked for so far. -/
def Keeps : Prop :=
  ∀ L st s tx c after o, Inv L st s tx → M st = .call c after →
    Inv (L ++ c.charges o) (after (c.perform o ⟨s, tx⟩).1) (c.perform o ⟨s, tx⟩).2.store
      (c.perform o ⟨s, tx⟩).2.current

theorem Thread.step_keeps (hkeeps : Keeps M Inv) {th : Thread} {s : Store} {st : σ}
    {L : List (PaymentRequest × Except Failure Bool)} (hf : th.program.Follows M st)
    (hi : Inv L st s th.tx) (o : Oracle) :
    ∃ st', (th.step o s).2.program.Follows M st' ∧
      Inv (L ++ th.charges o) st' (th.step o s).1 (th.step o s).2.tx := by
  cases hp : th.program with
  | done r =>
    have hcharges : th.charges o = [] := by simp [Thread.charges, hp]
    rw [Thread.step_of_done hp, hcharges, List.append_nil]
    exact ⟨st, hf, hi⟩
  | call c next =>
    obtain ⟨after, hM, hnext⟩ := hf.next hp
    have hcharges : th.charges o = c.charges o := by simp [Thread.charges, hp]
    rw [hcharges]
    refine ⟨after (c.perform o ⟨s, th.tx⟩).1, ?_, ?_⟩
    · simp only [Thread.step, hp]
      exact hnext _
    · simp only [Thread.step, hp]
      exact hkeeps L st s th.tx c after o hi hM

theorem World.step_single (s : Store) (th : Thread) (e : Event) :
    (World.step ⟨s, [th]⟩ e = ⟨s, [th]⟩ ∧
      ((([th] : List Thread)[e.thread]?.map (Thread.charges e.oracle)).getD []) = []) ∨
    (World.step ⟨s, [th]⟩ e = ⟨(th.step e.oracle s).1, [(th.step e.oracle s).2]⟩ ∧
      ((([th] : List Thread)[e.thread]?.map (Thread.charges e.oracle)).getD []) =
        th.charges e.oracle) := by
  cases hi : e.thread with
  | zero =>
    right
    simp [World.step, hi]
  | succ i =>
    left
    simp [World.step, hi]

/-- Along every run of a world of one thread that follows the machine, the invariant holds of
the charges asked for and of where the thread has got to. -/
theorem run_alone (hkeeps : Keeps M Inv) (es : List Event) {s : Store} {th : Thread} {st : σ}
    {L : List (PaymentRequest × Except Failure Bool)} (hf : th.program.Follows M st)
    (hi : Inv L st s th.tx) :
    ∃ th' st', (World.run ⟨s, [th]⟩ es).threads = [th'] ∧ th'.program.Follows M st' ∧
      Inv (L ++ ((⟨s, [th]⟩ : World).charges es).map (·.2)) st' (World.run ⟨s, [th]⟩ es).store
        th'.tx := by
  induction es generalizing s th st L with
  | nil => exact ⟨th, st, rfl, hf, by simpa [World.charges, World.run] using hi⟩
  | cons e es ih =>
    rcases World.step_single s th e with ⟨hstep, hcharges⟩ | ⟨hstep, hcharges⟩
    · -- the event names no thread of the world
      obtain ⟨th', st', hthreads, hf', hi'⟩ := ih hf hi
      refine ⟨th', st', ?_, hf', ?_⟩
      · simpa [World.run, hstep] using hthreads
      · simpa [World.run, World.charges, hstep, hcharges] using hi'
    · obtain ⟨st₁, hf₁, hi₁⟩ := Thread.step_keeps hkeeps hf hi e.oracle
      obtain ⟨th', st', hthreads, hf', hi'⟩ := ih hf₁ hi₁
      refine ⟨th', st', ?_, hf', ?_⟩
      · simpa [World.run, hstep] using hthreads
      · simpa [World.run, World.charges, hstep, hcharges, List.map_append, Function.comp_def]
          using hi'

/-- A request run alone from a store where the invariant holds at its first stage: where the
thread is done, the machine stops with its reply at a stage where the invariant holds of the
run's charges and of the store the run ends on. -/
theorem reply_alone (hkeeps : Keeps M Inv) {r : Request} {st : σ} {s0 : Store}
    (hf : r.program.Follows M st) (hi : Inv [] st s0 none) (es : List Event) :
    ∀ th ∈ ((World.start s0 [r]).run es).threads, ∀ reply, th.reply? = some reply →
      ∃ st', M st' = .stop reply ∧
        Inv (((World.start s0 [r]).charges es).map (·.2)) st' ((World.start s0 [r]).run es).store
          th.tx := by
  intro th hth reply hreply
  have hstart : (Thread.start r).program.Follows M st := hf
  obtain ⟨th', st', hthreads, hf', hi'⟩ := run_alone hkeeps es hstart hi
  have hthread : th = th' := by
    have hmem : th ∈ [th'] := by
      have hthreads' : ((World.start s0 [r]).run es).threads = [th'] := hthreads
      rw [← hthreads']
      exact hth
    simpa using hmem
  subst hthread
  have hdone : th.program = .done reply := by
    unfold Thread.reply? at hreply
    split at hreply
    · rename_i r' hr'
      cases hreply
      exact hr'
    · cases hreply
  exact ⟨st', hf'.done hdone, hi'⟩

end Alone

end Concurrent
end TopUpPromo
