import TopUpPromo.Proofs.Standing.World
import TopUpPromo.Proofs.Memory.Orders
import TopUpPromo.Proofs.Enrollment.Vouchers
import TopUpPromo.Proofs.Enrollment.Eligibility

/-!
# A user's participations as the service lists them

The service lists a user's participations by joining two listings of the store: the user's
participations, newest first, and the user's vouchers, each voucher going to the view of the
participation it names. It recomputes the voucher window from its own threshold, and reads each
participation's status over the vouchers of its view.

When every enrollment runs at the threshold the listing uses, the window it recomputes is what
the enrollments did: in every run, the participations that vouchers name are exactly those
within the threshold (`Store.Windowed`). An admission commits its voucher exactly within its
threshold, and a top-up or a check rewrites a voucher and its participation in place, keeping
the participation the voucher names and the participant's order, which no write changes
(`OrdersAgree`).

## Main results

- `windowed_reachable`: in every run whose enrollments share a threshold, the vouchers are those
  of the participations within it.
- `participation_views_follow_threshold`: the listing holds one view per participation of the
  user, newest first, each with the vouchers naming it, a window that is true exactly for the
  views with vouchers, and the status read over them.
-/

namespace TopUpPromo

namespace Memory

open scoped List

namespace Store

/-- The vouchers under threshold `T`: the participations they name are exactly those within the
threshold, each named once. -/
def Windowed (T : Int32) (s : Store) : Prop :=
  s.vouchers.map (·.participationId) ~ (s.participations.filter (·.withinThreshold T)).map (·.id)

theorem ids_within (T : Int32) (ps : List Participation) :
    (ps.filter (·.withinThreshold T)).map (·.id) =
      ((ps.map fun p => (p.id, p.order)).filter fun x => decide (x.2 ≤ T)).map Prod.fst := by
  simp [List.filter_map, Function.comp_def, Participation.withinThreshold]

namespace Windowed

variable {T : Int32} {s s' : Store}

theorem of_rows (h : s.Windowed T)
    (hp : s'.participations.map (fun p => (p.id, p.order)) =
      s.participations.map (fun p => (p.id, p.order)))
    (hv : s'.vouchers.map (·.participationId) = s.vouchers.map (·.participationId)) :
    s'.Windowed T := by
  unfold Windowed
  rw [hv, ids_within, hp, ← ids_within]
  exact h

theorem exists_voucher_iff (h : s.Windowed T) (hids : (s.participations.map (·.id)).Nodup)
    {p : Participation} (hp : p ∈ s.participations) :
    (∃ v ∈ s.vouchers, v.participationId = p.id) ↔ p.withinThreshold T = true := by
  rw [← List.mem_map, h.mem_iff, List.mem_map]
  constructor
  · rintro ⟨q, hq, hqid⟩
    obtain ⟨hq, hwithin⟩ := List.mem_filter.1 hq
    obtain rfl := List.inj_on_of_nodup_map hids hq hp hqid
    exact hwithin
  · intro hwithin
    exact ⟨p, List.mem_filter.2 ⟨hp, hwithin⟩, rfl⟩

end Windowed

theorem listed_vouchers_of {s : Store} (hs : s.Keyed) {u : Int} {p : Participation}
    (hp : p ∈ s.participations) (hu : p.userId = u) (now : Instant) :
    ((s.listVouchersByUser u).map fun v => { v with status := v.effectiveStatus now }).filter
        (·.participationId == p.id) =
      ((s.vouchers.filter (·.participationId == p.id)).reverse).map
        fun v => { v with userId := u, status := v.effectiveStatus now } := by
  -- a voucher naming the user's participation is the user's
  have howned : (s.vouchers.filter (s.ownedBy u)).filter (·.participationId == p.id) =
      s.vouchers.filter (·.participationId == p.id) := by
    rw [List.filter_filter]
    apply List.filter_congr
    intro v _
    by_cases hv : v.participationId = p.id
    · have hown : s.ownedBy u v = true :=
        List.any_eq_true.2 ⟨p, hp, by simp [hv, hu]⟩
      simp [hv, hown]
    · simp [hv]
  rw [listVouchersByUser_eq hs.participations.nodup, List.map_map, List.filter_map,
    List.filter_reverse]
  have hfilter : (s.vouchers.filter (s.ownedBy u)).filter
      ((·.participationId == p.id) ∘ ((fun v => { v with status := v.effectiveStatus now }) ∘
        fun v => { v with userId := u })) =
      (s.vouchers.filter (s.ownedBy u)).filter (·.participationId == p.id) := rfl
  rw [hfilter, howned]
  rfl

end Store

end Memory

namespace Concurrent

open Memory
open scoped List

/-! ## The window in every run -/

variable {T : Int32}

theorem Promo.step_windowed {s : Store} {th : Thread} {others : List Thread}
    (h : Promo s (th :: others)) (hord : OrdersAgree s (th.tx.toList ++ txsOf others))
    (hw : s.Windowed T) (hT : ∀ cfg ctx req, th.request = .enroll cfg ctx req → cfg.threshold = T)
    (o : Oracle) : (th.step o s).1.Windowed T := by
  have hcoherent := h.coherent_mover
  rcases h.threads th List.mem_cons_self with henroll | hsettle | hcampaign
  · obtain ⟨-, -, hwrites⟩ := EnrollStage.thread_step henroll hcoherent.locks o
    rcases hwrites with ⟨-, -, hp, hv⟩ |
      ⟨-, cfg, req, campaign, locked, pid, voucher, t, ⟨ctx, hreq⟩, htx, hcommitting, hcommit, -⟩
    · unfold Store.Windowed
      rw [hp, hv]
      exact hw
    · rw [htx] at hcommitting hcoherent
      obtain ⟨-, hparts, hvouchers⟩ := hcommitting.commit hcoherent
      obtain ⟨-, -, -, hwithin⟩ := hcommitting
      -- the admission's participation is within the threshold exactly when it has a voucher
      have hwithin' : (EnrollStage.seatAt cfg req locked pid voucher).withinThreshold T =
          (voucher.map fun v => EnrollStage.issued cfg req locked pid v.1 v.2).isSome := by
        rw [EnrollStage.seatAt_withinThreshold, ← hT cfg ctx req hreq, hwithin, Option.isSome_map]
      rw [hcommit]
      refine ((hvouchers.map _).trans ?_).trans ((hparts.filter _).map _).symm
      refine owners_append hw hwithin' fun v hv => ?_
      obtain ⟨x, -, rfl⟩ := Option.map_eq_some_iff.1 hv
      simp
  · have hids := hcoherent.reserved.voucherIds
    have hpids := hcoherent.reserved.participationIds
    obtain ⟨-, -, hwrites⟩ := hsettle.step hcoherent.locks hids hpids o
    rcases hwrites with hsame | ⟨t, v0, v, q, p, htx, hcommit, hset⟩
    · unfold Store.Windowed
      rw [hsame.participations, hsame.vouchers]
      exact hw
    have hpq : p.id = q.id := congrArg Prod.fst hset.identity
    -- the participation staged has the order of the committed row it rewrites
    have horder : p.order = q.order := by
      refine hord.orders p ?_ q (mem_participationRows.2 (.inl hset.participation)) hpq
      exact mem_participationRows.2 (.inr ⟨t, by simp [htx], by simp [hset.participations]⟩)
    rw [hcommit]
    refine hw.of_rows ?_ ?_
    · rw [Tx.commit_participations, hset.participations, List.foldl_cons, List.foldl_nil]
      refine map_upsertBy_of_mem _ (fun a b hab => congrArg Prod.fst hab) hpids ?_
      exact List.mem_map.2 ⟨q, hset.participation, by rw [hpq, horder]⟩
    · have hnames : (t.commit s).vouchers.map (fun v => (v.id, v.participationId)) =
          s.vouchers.map (fun v => (v.id, v.participationId)) := by
        rw [Tx.commit_vouchers, hset.vouchers, List.foldl_cons, List.foldl_nil]
        refine map_upsertBy_of_mem _ (fun a b hab => congrArg Prod.fst hab) hids ?_
        exact List.mem_map.2 ⟨v0, hset.row, by rw [hset.id_eq, hset.names]⟩
      simpa [List.map_map, Function.comp_def] using congrArg (List.map Prod.snd) hnames
  · obtain ⟨-, -, hstore⟩ := hcampaign.step o s
    rcases hstore with hsame | ⟨campaign, hcreate⟩
    · rw [hsame]
      exact hw
    · rw [hcreate]
      exact hw

theorem windowed_step {w : World} (hpromo : Promo w.store w.threads)
    (hord : OrdersAgree w.store (txsOf w.threads)) (hw : w.store.Windowed T)
    (hT : ∀ th ∈ w.threads, ∀ cfg ctx req, th.request = .enroll cfg ctx req → cfg.threshold = T)
    (e : Event) : (w.step e).store.Windowed T := by
  rcases World.step_cases w e with hsame | ⟨th, others, hold, -, hstore⟩
  · rw [hsame]
    exact hw
  have hmover : OrdersAgree w.store (th.tx.toList ++ txsOf others) := by
    rw [← txsOf_cons]
    exact hord.perm (txsOf_perm hold)
  rw [hstore]
  exact (hpromo.perm hold).step_windowed hmover hw
    (hT th (hold.mem_iff.2 List.mem_cons_self)) e.oracle

/-- However requests interleave from the empty store, when every enrollment runs at threshold
`T` the vouchers are those of the participations within `T`, one each. -/
theorem windowed_reachable (lockTimeoutMs : Nat) {requests : List Request}
    (hT : ∀ cfg ctx req, Request.enroll cfg ctx req ∈ requests → cfg.threshold = T) {w : World}
    (hw : (World.start { lockTimeoutMs := lockTimeoutMs } requests).Reachable w) :
    w.store.Windowed T := by
  induction hw with
  | start => exact List.Perm.refl _
  | @step w e hreach ih =>
    refine windowed_step (promo_reachable (Promo.empty lockTimeoutMs requests) hreach)
      (OrdersAgree.reachable (OrdersAgree.empty lockTimeoutMs) hreach) ih
      (fun th hth cfg ctx req hreq => hT cfg ctx req ?_) e
    rw [← hreq]
    exact World.requests_reachable hreach th hth

/-! ## The listing -/

theorem listParticipations_runOn (o : Oracle) (s : Store) (T : Int32) (now : Instant) (ctx : Ctx)
    (u : Int) :
    ((listParticipations T now ctx u : Program _).runOn o ⟨s, none⟩).1 =
      .ok ((s.listParticipationsByUser u).map fun p =>
        ⟨p, effectiveStatus p now (((s.listVouchersByUser u).map fun v =>
            { v with status := v.effectiveStatus now }).filter (·.participationId == p.row.id)),
          p.row.withinThreshold T,
          ((s.listVouchersByUser u).map fun v =>
            { v with status := v.effectiveStatus now }).filter (·.participationId == p.row.id)⟩) :=
  rfl

/-- However requests interleave from the empty store, when every enrollment runs at the
threshold `T` the listing uses, the listing of a user's participations holds one view for each
participation of the user and none of another user, newest first; each view carries exactly the
vouchers naming its participation, shown as the user's and with the status they read as; its
window is its participation's order within `T`, which is true exactly when it carries a voucher;
and its status is the participation's, read over those vouchers. -/
theorem participation_views_follow_threshold (lockTimeoutMs : Nat) {requests : List Request}
    (hT : ∀ cfg ctx req, Request.enroll cfg ctx req ∈ requests → cfg.threshold = T)
    (es : List Event) (o : Oracle) (now : Instant) (ctx : Ctx) (u : Int) :
    let s := ((World.start { lockTimeoutMs := lockTimeoutMs } requests).run es).store
    ∃ views, ((listParticipations T now ctx u : Program _).runOn o ⟨s, none⟩).1 = .ok views ∧
      views.map (·.joined.row) = (s.participations.filter (·.userId == u)).reverse ∧
      (views.map (·.joined.row.id)).SortedGT ∧
      ∀ view ∈ views,
        view.vouchers = ((s.vouchers.filter (·.participationId == view.joined.row.id)).reverse).map
          (fun v => { v with userId := u, status := v.effectiveStatus now }) ∧
        view.inVoucherWindow = view.joined.row.withinThreshold T ∧
        (view.inVoucherWindow = true ↔ view.vouchers ≠ []) ∧
        view.status = effectiveStatus view.joined now view.vouchers := by
  intro s
  have hreach := World.reachable_run (World.start { lockTimeoutMs := lockTimeoutMs } requests) es
  have hkeyed : s.Keyed := Store.Keyed.reachable (Store.Keyed.empty lockTimeoutMs) hreach
  have hwin : s.Windowed T := windowed_reachable lockTimeoutMs hT hreach
  have hrows : (s.listParticipationsByUser u).map (·.row) =
      (s.participations.filter (·.userId == u)).reverse :=
    Store.rows_listParticipationsByUser s u
  refine ⟨_, listParticipations_runOn o s T now ctx u, ?rows, ?sorted, ?views⟩
  case rows =>
    rw [List.map_map]
    exact hrows
  case sorted =>
    -- the ids of the views are those of the user's rows, newest first
    have hsorted := sortedGT_ids_reverse_filter _ hkeyed.participations (·.userId == u)
    rw [← hrows, List.map_map] at hsorted
    rw [List.map_map]
    exact hsorted
  case views =>
    intro view hview
    obtain ⟨p, hp, rfl⟩ := List.mem_map.1 hview
    -- the view's participation is one of the user's rows
    have hrow : p.row ∈ s.participations.filter (·.userId == u) := by
      rw [← List.mem_reverse, ← hrows]
      exact List.mem_map_of_mem hp
    obtain ⟨hmem, hu⟩ := List.mem_filter.1 hrow
    have hvouchers := Store.listed_vouchers_of hkeyed hmem (by simpa using hu) now
    refine ⟨hvouchers, rfl, ?_, rfl⟩
    dsimp only
    rw [hvouchers, ← hwin.exists_voucher_iff hkeyed.participations.nodup hmem]
    simp [List.filter_eq_nil_iff]

/-- A campaign created and an enrollment at threshold three racing it; the user's participations
listed at threshold three. -/
theorem participation_views_follow_threshold_oneEnrollment :
    let requests :=
      [Request.createCampaign .live default, Request.enroll ⟨3, 1, default⟩ .live ⟨7, none⟩]
    (∀ cfg ctx req, Request.enroll cfg ctx req ∈ requests → cfg.threshold = 3) ∧
    let s := ((World.start { lockTimeoutMs := 0 } requests).run (World.turns 2 12)).store
    ∃ views, ((listParticipations 3 default .live 7 : Program _).runOn ⟨.ok "", .ok true, ""⟩
        ⟨s, none⟩).1 = .ok views ∧
      views.map (·.joined.row) = (s.participations.filter (·.userId == 7)).reverse ∧
      (views.map (·.joined.row.id)).SortedGT ∧
      ∀ view ∈ views,
        view.vouchers = ((s.vouchers.filter (·.participationId == view.joined.row.id)).reverse).map
          (fun v => { v with userId := 7, status := v.effectiveStatus default }) ∧
        view.inVoucherWindow = view.joined.row.withinThreshold 3 ∧
        (view.inVoucherWindow = true ↔ view.vouchers ≠ []) ∧
        view.status = effectiveStatus view.joined default view.vouchers := by
  intro requests
  have hT : ∀ cfg ctx req, Request.enroll cfg ctx req ∈ requests → cfg.threshold = 3 := by
    intro cfg ctx req hmem
    simp only [requests, List.mem_cons, List.not_mem_nil, or_false, reduceCtorEq, false_or,
      Request.enroll.injEq] at hmem
    rw [hmem.1]
  exact ⟨hT, participation_views_follow_threshold 0 hT (World.turns 2 12) ⟨.ok "", .ok true, ""⟩
    default .live 7⟩

end Concurrent

end TopUpPromo
