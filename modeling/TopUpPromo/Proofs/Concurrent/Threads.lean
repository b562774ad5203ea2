import Mathlib.Data.List.Perm.Basic
import TopUpPromo.Concurrent.World

/-!
# Runs of a world

A world moves one thread at a time. The worlds a run reaches from a start are those of
`World.Reachable`, and `World.reachable_run` says that every run of events reaches one of them,
so a property kept by every step holds after every run.

A step leaves all threads but the moving one as they are. `World.step_cases` says so up to the
order of the threads: a world invariant that does not depend on that order (a statement about
every thread, or about the list of their transactions up to permutation) is kept by a step when
it is kept by the move of one thread in front of the others.
-/

namespace TopUpPromo
namespace Concurrent

open scoped List

theorem Thread.step_request (th : Thread) (o : Oracle) (s : Memory.Store) :
    (th.step o s).2.request = th.request := by
  unfold Thread.step
  split <;> rfl

theorem Thread.step_of_done {th : Thread} {r : Reply} (hp : th.program = .done r) (o : Oracle)
    (s : Memory.Store) : th.step o s = (s, th) := by
  simp only [Thread.step, hp]

theorem Thread.step_of_call {th : Thread} {c : Call} {next : c.Answer → Program Reply}
    (hp : th.program = .call c next) (o : Oracle) (s : Memory.Store) :
    th.step o s = ((c.perform o ⟨s, th.tx⟩).2.store,
      { th with tx := (c.perform o ⟨s, th.tx⟩).2.current,
                program := next (c.perform o ⟨s, th.tx⟩).1 }) := by
  simp only [Thread.step, hp]

def txsOf (threads : List Thread) : List Memory.Tx := threads.filterMap (·.tx)

theorem txsOf_cons (th : Thread) (threads : List Thread) :
    txsOf (th :: threads) = th.tx.toList ++ txsOf threads := by
  cases h : th.tx <;> simp [txsOf, h]

theorem txsOf_perm {threads threads' : List Thread} (hp : threads ~ threads') :
    txsOf threads ~ txsOf threads' :=
  hp.filterMap _

theorem txsOf_perm_eraseIdx {threads : List Thread} {i : Nat} {th : Thread}
    (h : threads[i]? = some th) : txsOf threads ~ th.tx.toList ++ txsOf (threads.eraseIdx i) := by
  obtain ⟨hlt, hget⟩ := List.getElem?_eq_some_iff.1 h
  have hperm := List.getElem_cons_eraseIdx_perm hlt
  rw [hget] at hperm
  rw [← txsOf_cons]
  exact txsOf_perm hperm.symm

theorem txsOf_set {threads : List Thread} {i : Nat} (hi : i < threads.length) (th : Thread) :
    txsOf (threads.set i th) ~ th.tx.toList ++ txsOf (threads.eraseIdx i) := by
  have hget : (threads.set i th)[i]? = some th := List.getElem?_set_self hi
  have hperm := txsOf_perm_eraseIdx hget
  rwa [List.eraseIdx_set_eq] at hperm

/-- A call made in a run: the call, and the store and the transaction it was made on. -/
structure Made where
  call : Call
  store : Memory.Store
  tx : Option Memory.Tx

def Made.payments (m : Made) : List Made :=
  match m.call with
  | .confirmPayment _ _ => [m]
  | _ => []

def Thread.made? (s : Memory.Store) (th : Thread) : Option Made :=
  match th.program with
  | .done _ => none
  | .call c _ => some ⟨c, s, th.tx⟩

namespace World

def made? (w : World) (e : Event) : Option (Nat × Made) :=
  match w.threads[e.thread]? with
  | none => none
  | some th => (th.made? w.store).map (e.thread, ·)

/-- The calls a run makes, in order, each with the thread that makes it. -/
def trace (w : World) : List Event → List (Nat × Made)
  | [] => []
  | e :: es => (w.made? e).toList ++ (w.step e).trace es

def paymentsOf (i : Nat) (calls : List (Nat × Made)) : List Made :=
  calls.flatMap fun c => if c.1 = i then c.2.payments else []

theorem step_of_getElem? {w : World} {e : Event} {th : Thread}
    (h : w.threads[e.thread]? = some th) :
    w.step e = ⟨(th.step e.oracle w.store).1, w.threads.set e.thread (th.step e.oracle w.store).2⟩ := by
  simp only [step, h]

theorem step_of_getElem?_none {w : World} {e : Event} (h : w.threads[e.thread]? = none) :
    w.step e = w := by
  simp only [step, h]

section Mover

variable {w : World} {e : Event} {th : Thread} (h : w.threads[e.thread]? = some th)
include h

theorem getElem?_step_self : (w.step e).threads[e.thread]? = some (th.step e.oracle w.store).2 := by
  rw [step_of_getElem? h, List.getElem?_set_self (List.getElem?_eq_some_iff.1 h).1]

theorem getElem?_step_ne {j : Nat} (hj : j ≠ e.thread) : (w.step e).threads[j]? = w.threads[j]? := by
  rw [step_of_getElem? h, List.getElem?_set_ne (Ne.symm hj)]

theorem paymentsOf_made (log : List (Nat × Made)) (j : Nat) :
    paymentsOf j (log ++ (w.made? e).toList) = paymentsOf j log ++
      if e.thread = j then ((th.made? w.store).map Made.payments).getD [] else [] := by
  have hmade : w.made? e = (th.made? w.store).map (e.thread, ·) := by simp [made?, h]
  rw [hmade]
  cases th.made? w.store with
  | none => simp [paymentsOf]
  | some m => simp [paymentsOf, List.flatMap_append]

end Mover

/-- The worlds that a run reaches from `w0`. -/
inductive Reachable (w0 : World) : World → Prop
  | start : Reachable w0 w0
  | step {w : World} (e : Event) : Reachable w0 w → Reachable w0 (w.step e)

theorem reachable_run (w0 : World) (es : List Event) : Reachable w0 (w0.run es) := by
  suffices h : ∀ w, Reachable w0 w → Reachable w0 (w.run es) from h w0 .start
  induction es with
  | nil =>
    intro w hw
    exact hw
  | cons e es ih =>
    intro w hw
    exact ih (w.step e) (.step e hw)

/-- A schedule of `rounds` rounds, each moving threads `0` to `n - 1` in turn: the `k`-th move
is answered with the code `CODE-k`, the gateway's approval and the suffix `k`. -/
def turns (n rounds : Nat) : List Event :=
  (List.range (n * rounds)).map fun k =>
    ⟨k % n, ⟨.ok ("CODE-" ++ toString k), .ok true, toString k⟩⟩

theorem length_step (w : World) (e : Event) : (w.step e).threads.length = w.threads.length := by
  unfold step
  split
  · rfl
  · simp

/-- A step changes nothing, or moves one thread, which may be put in front of the others. -/
theorem step_cases (w : World) (e : Event) :
    w.step e = w ∨ ∃ th others, w.threads ~ th :: others ∧
      (w.step e).threads ~ (th.step e.oracle w.store).2 :: others ∧
      (w.step e).store = (th.step e.oracle w.store).1 := by
  unfold step
  cases hth : w.threads[e.thread]? with
  | none => exact Or.inl rfl
  | some th =>
    right
    obtain ⟨hlt, hget⟩ := List.getElem?_eq_some_iff.1 hth
    refine ⟨th, w.threads.eraseIdx e.thread, ?_, ?_, rfl⟩
    · have := List.getElem_cons_eraseIdx_perm hlt
      rw [hget] at this
      exact this.symm
    · have hlt' : e.thread < (w.threads.set e.thread (th.step e.oracle w.store).2).length := by
        simpa using hlt
      have := List.getElem_cons_eraseIdx_perm hlt'
      rw [List.getElem_set_self, List.eraseIdx_set_eq] at this
      exact this.symm

theorem requests_reachable {s0 : Memory.Store} {requests : List Request} {w : World}
    (hw : (start s0 requests).Reachable w) : ∀ th ∈ w.threads, th.request ∈ requests := by
  induction hw with
  | start =>
    intro th hth
    obtain ⟨r, hr, rfl⟩ := List.mem_map.1 hth
    exact hr
  | @step w e _ ih =>
    intro th hth
    rcases step_cases w e with hsame | ⟨mover, others, hold, hnew, -⟩
    · rw [hsame] at hth
      exact ih th hth
    · rcases List.mem_cons.1 (hnew.mem_iff.1 hth) with rfl | hth
      · rw [Thread.step_request]
        exact ih mover (hold.symm.mem_iff.1 List.mem_cons_self)
      · exact ih th (hold.symm.mem_iff.1 (List.mem_cons_of_mem _ hth))

end World

end Concurrent
end TopUpPromo
