import TopUpPromo.Proofs.Enrollment.Steps

/-!
# Worlds of enrollments

A world whose threads all serve enrollments, started from a store with no transaction open
(one that agrees with no transaction, such as a `Fresh` one, with no participation, voucher,
reservation or lock), stays one where the store agrees with the threads' open transactions and
every thread knows what its stage says (`EnrollWorld`). The main results are
`enrollWorld_reachable`, that this holds after every run, and `EnrollWorld.step_cases`, which
says what one step of such a world does: nothing, or one thread moves as
`EnrollStage.thread_step` says while the others stay as they are. The run invariants of
enrollments, `counted_reachable`, `unpinned_reachable` and `vouchered_reachable`, are proved
from it.
-/

namespace TopUpPromo
namespace Concurrent

open Memory
open scoped List

/-- A store before any request: no participation, voucher, reservation or lock, campaigns of
distinct ids, each counter between zero and the capacity. -/
structure Fresh (s : Store) : Prop where
  participations : s.participations = []
  vouchers : s.vouchers = []
  reservedKeys : s.reservedKeys = []
  reservedCodes : s.reservedCodes = []
  locks : s.locks = []
  ids : (s.campaigns.map (·.id)).Nodup
  counters : ∀ c ∈ s.campaigns, 0 ≤ c.currentParticipants ∧
    c.currentParticipants ≤ c.maxParticipants

theorem Fresh.coherent {s : Store} (hs : Fresh s) : Coherent s [] := by
  refine ⟨⟨?_, ?_, ?_, ?_, ?_⟩, ⟨⟨?_, ?_, ?_, ?_⟩, ⟨?_, ?_, ?_, ?_⟩⟩⟩ <;>
    simp [hs.locks, hs.participations, hs.vouchers, hs.reservedKeys, hs.reservedCodes,
      Store.participationKeys, Store.voucherCodes]

/-- A store with no participation or voucher and no transaction open, its campaigns of distinct
ids, whatever their counters. -/
structure Unenrolled (s : Store) : Prop where
  coherent : Coherent s []
  participations : s.participations = []
  vouchers : s.vouchers = []
  ids : (s.campaigns.map (·.id)).Nodup

theorem Fresh.empty (lockTimeoutMs : Nat) : Fresh { lockTimeoutMs := lockTimeoutMs } :=
  ⟨rfl, rfl, rfl, rfl, rfl, List.nodup_nil, fun _ hc => absurd hc List.not_mem_nil⟩

theorem Fresh.unenrolled {s : Store} (hs : Fresh s) : Unenrolled s :=
  ⟨hs.coherent, hs.participations, hs.vouchers, hs.ids⟩

/-- The threads of a world, each serving an enrollment, against store `s`: the store agrees with
their open transactions, and each knows what its stage says. -/
structure EnrollWorld (s : Store) (threads : List Thread) : Prop where
  coherent : Coherent s (txsOf threads)
  threads : ∀ th ∈ threads, EnrollThread s th

/-- Enrollments about to run, one thread each. -/
def enrollments (requests : List (Enrollment × Ctx × EnrollRequest)) : List Request :=
  requests.map fun r => .enroll r.1 r.2.1 r.2.2

namespace EnrollWorld

variable {s : Store} {threads : List Thread}

theorem perm {threads' : List Thread} (h : EnrollWorld s threads) (hp : threads ~ threads') :
    EnrollWorld s threads' :=
  ⟨h.coherent.perm (txsOf_perm hp), fun th hth => h.threads th (hp.mem_iff.2 hth)⟩

theorem start (hs : Coherent s []) (requests : List (Enrollment × Ctx × EnrollRequest)) :
    EnrollWorld s ((enrollments requests).map Thread.start) := by
  have hnone : txsOf ((enrollments requests).map Thread.start) = [] := by
    simp [txsOf, enrollments, Thread.start]
  refine ⟨?_, ?_⟩
  · rw [hnone]
    exact hs
  · intro th hth
    simp only [enrollments, List.map_map, List.mem_map, Function.comp_apply] at hth
    obtain ⟨⟨cfg, ctx, req⟩, -, rfl⟩ := hth
    exact ⟨cfg, ctx, req, .start, rfl, EnrollStage.follows_start cfg ctx req, rfl⟩

theorem step_thread {th : Thread} {others : List Thread} (h : EnrollWorld s (th :: others))
    (o : Oracle) : EnrollWorld (th.step o s).1 ((th.step o s).2 :: others) := by
  have hcoherent := h.coherent
  rw [txsOf_cons] at hcoherent
  obtain ⟨hth', heffect, -⟩ :=
    EnrollStage.thread_step (h.threads th List.mem_cons_self) hcoherent.locks o
  refine ⟨?_, ?_⟩
  · rw [txsOf_cons]
    exact hcoherent.effect heffect
  · intro u hu
    rcases List.mem_cons.1 hu with rfl | hu
    · exact hth'
    · obtain ⟨cfg, ctx, req, st, hreq, hfollows, hh⟩ := h.threads u (List.mem_cons_of_mem _ hu)
      refine ⟨cfg, ctx, req, st, hreq, hfollows, hh.of_rows ?_⟩
      intro t ht id hid
      have hmem : t ∈ txsOf others := List.mem_filterMap.2 ⟨u, hu, ht⟩
      exact heffect.campaign_row_of_held hcoherent hmem hid

end EnrollWorld

/-- A step of a world of enrollments changes nothing, or moves one thread, put in front of the
others, as `EnrollStage.thread_step` says. -/
theorem EnrollWorld.step_cases {w : World} (h : EnrollWorld w.store w.threads) (e : Event) :
    w.step e = w ∨ ∃ th others, w.threads ~ th :: others ∧
      (w.step e).threads ~ (th.step e.oracle w.store).2 :: others ∧
      (w.step e).store = (th.step e.oracle w.store).1 ∧
      EnrollWorld w.store (th :: others) := by
  rcases World.step_cases w e with hsame | ⟨th, others, hold, hnew, hstore⟩
  · exact .inl hsame
  · exact .inr ⟨th, others, hold, hnew, hstore, h.perm hold⟩

theorem EnrollWorld.step {w : World} (h : EnrollWorld w.store w.threads) (e : Event) :
    EnrollWorld (w.step e).store (w.step e).threads := by
  rcases h.step_cases e with hsame | ⟨th, others, -, hnew, hstore, hfront⟩
  · rw [hsame]
    exact h
  · rw [hstore]
    exact (hfront.step_thread e.oracle).perm hnew.symm

/-- Every world a run of enrollments reaches from a store with no transaction open is a world
of enrollments. -/
theorem enrollWorld_reachable {s0 : Store} (hs0 : Coherent s0 [])
    {requests : List (Enrollment × Ctx × EnrollRequest)} {w : World}
    (hw : (World.start s0 (enrollments requests)).Reachable w) :
    EnrollWorld w.store w.threads := by
  induction hw with
  | start => exact EnrollWorld.start hs0 requests
  | step e _ ih => exact ih.step e

end Concurrent
end TopUpPromo
