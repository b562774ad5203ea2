import TopUpPromo.Proofs.Standing.Threads
import TopUpPromo.Proofs.Enrollment.Invariant
import TopUpPromo.Proofs.Isolated.Frame

/-!
# Worlds of promotions

Any requests run as threads against one store: enrollments, top-ups, redemptions, voucher checks
and creations of campaigns, their calls interleaved in any order. `Promo` is what holds of such a
world at every point of every run: the store agrees with the open transactions, its rows stand
(`Memory.Standing`), the campaign counter is above every campaign's id, and every thread knows
what its stage says (`PromoThread`).

One step moves one thread, and `Promo.step_enroll`, `Promo.step_settle` and
`Promo.step_campaign` carry the invariant through it, one for each kind of mover: the mover by
its own step lemma, the rows by the lemma of the kind of commit it makes, and the other threads
by the frame of what it wrote (`PromoThread.of_overwrites`, `PromoThread.of_extends`).

The main result, `rows_stand_in_every_run`: from an empty store, whatever the requests and
however their calls interleave, every participation is in exactly one of the four
configurations its status names, no voucher is cancelled, and no row names a missing campaign or
participation.
-/

namespace TopUpPromo

namespace Memory

theorem Effect.nextCampaignId {s s' : Store} {t t' : Option Tx} (he : Effect s t s' t') :
    s'.nextCampaignId = s.nextCampaignId := by
  cases he <;> rfl

theorem Touch.nextCampaignId {s s' : Store} {t t' : Option Tx} (ht : Touch s t s' t') :
    s'.nextCampaignId = s.nextCampaignId := by
  cases ht <;> rfl

theorem Store.SameRows.standing {s s' : Store} (h : s.SameRows s') (hs : Standing s) :
    Standing s' :=
  hs.of_rows h.participations h.vouchers (by rw [h.campaigns]; exact fun _ hid => hid)

end Memory

namespace Concurrent

open Memory
open scoped List

/-! ## Threads -/

/-- A thread of a world of promotions: an enrollment, a top-up, a redemption or a voucher check
at a stage whose facts hold of store `s`, or the creation of a campaign. -/
def PromoThread (s : Store) (th : Thread) : Prop :=
  EnrollThread s th ∨ SettleThread s th ∨ CampaignThread th

namespace PromoThread

variable {s s' : Store} {th : Thread}

theorem start (s : Store) (r : Request) : PromoThread s (Thread.start r) := by
  cases r with
  | enroll cfg ctx req =>
    exact .inl ⟨cfg, ctx, req, .start, rfl, EnrollStage.follows_start cfg ctx req, rfl⟩
  | topUp now ctx req => exact .inr (.inl (SettleThread.start (.topUp now ctx req false) s))
  | redeem now ctx req => exact .inr (.inl (SettleThread.start (.topUp now ctx req true) s))
  | validateVoucher now ctx code => exact .inr (.inl (SettleThread.start (.check now ctx code) s))
  | createCampaign ctx campaign => exact .inr (.inr ⟨ctx, campaign, rfl, rfl, .inl rfl⟩)

/-- What a thread knows stays true over a store that another transaction, holding none of its
locks, overwrote, keeping every campaign row and every participation's identity. -/
theorem of_overwrites {held : List LockKey} (h : PromoThread s th) (hov : s.Overwrites held s')
    (hfree : Phase.Apart held th.tx)
    (hcampaigns : ∀ id r, findBy (·.id) s.campaigns id = some r →
      findBy (·.id) s'.campaigns id = some r)
    (hid : ∀ x ∈ s.participations.map Participation.identity,
      x ∈ s'.participations.map Participation.identity) :
    PromoThread s' th := by
  rcases h with ⟨cfg, ctx, req, st, hreq, hfollows, hh⟩ | hsettle | hcampaign
  · exact .inl ⟨cfg, ctx, req, st, hreq, hfollows,
      hh.of_locked_rows fun _ _ id r _ hrow => hcampaigns id r hrow⟩
  · exact .inr (.inl (hsettle.of_overwrites hov hfree hid))
  · exact .inr (.inr hcampaign)

theorem of_campaigns (h : PromoThread s th) (hp : s'.participations = s.participations)
    (hv : s'.vouchers = s.vouchers)
    (hcampaigns : ∀ id r, findBy (·.id) s.campaigns id = some r →
      findBy (·.id) s'.campaigns id = some r) :
    PromoThread s' th :=
  h.of_overwrites (Store.overwrites_of_rows hp hv) (fun _ _ _ _ => List.not_mem_nil) hcampaigns
    (by rw [hp]; exact fun _ hx => hx)

/-- What a thread knows stays true over a commit of inserts that kept the rows of the campaigns
it has locked. -/
theorem of_extends (h : PromoThread s th) (hx : s.Extends s')
    (hrows : ∀ t, th.tx = some t → ∀ id, LockKey.campaign id ∈ t.held →
      findBy (·.id) s'.campaigns id = findBy (·.id) s.campaigns id) :
    PromoThread s' th := by
  rcases h with ⟨cfg, ctx, req, st, hreq, hfollows, hh⟩ | hsettle | hcampaign
  · exact .inl ⟨cfg, ctx, req, st, hreq, hfollows, hh.of_rows hrows⟩
  · exact .inr (.inl (hsettle.of_extends hx))
  · exact .inr (.inr hcampaign)

end PromoThread

theorem Phase.apart_of_locks {s : Store} {th u : Thread} {others : List Thread}
    (hlocks : LocksAgree s (th.tx.toList ++ txsOf others)) (hu : u ∈ others) :
    Phase.Apart ((th.tx.map Tx.held).getD []) u.tx := by
  intro t' ht' k hk hkt
  cases htx : th.tx with
  | none => simp [htx] at hkt
  | some t =>
    rw [htx] at hlocks hkt
    exact hlocks.not_held_of_held (List.mem_filterMap.2 ⟨u, hu, ht'⟩) hkt hk

/-! ## Worlds -/

/-- The store of a world of promotions and its threads: the store agrees with the open
transactions, its rows stand, no campaign's id is above the campaign counter, and every thread
knows what its stage says. -/
structure Promo (s : Store) (threads : List Thread) : Prop where
  coherent : Coherent s (txsOf threads)
  standing : Standing s
  campaignIds : ∀ id ∈ s.campaigns.map (·.id), id ≤ s.nextCampaignId
  threads : ∀ th ∈ threads, PromoThread s th

namespace Promo

variable {s : Store} {th : Thread} {others : List Thread}

theorem perm {threads threads' : List Thread} (h : Promo s threads) (hp : threads ~ threads') :
    Promo s threads' :=
  ⟨h.coherent.perm (txsOf_perm hp), h.standing, h.campaignIds,
    fun th hth => h.threads th (hp.mem_iff.2 hth)⟩

theorem coherent_mover (h : Promo s (th :: others)) :
    Coherent s (th.tx.toList ++ txsOf others) := by
  rw [← txsOf_cons]
  exact h.coherent

/-- A step of an enrollment: it writes no row, or commits an admission, which keeps the rows
standing and the rows of the campaigns the other threads have locked. -/
theorem step_enroll (h : Promo s (th :: others)) (hth : EnrollThread s th) (o : Oracle) :
    Promo (th.step o s).1 ((th.step o s).2 :: others) := by
  have hcoherent := h.coherent_mover
  obtain ⟨hth', heffect, hwrites⟩ := EnrollStage.thread_step hth hcoherent.locks o
  have hrows : s.SameRows (th.step o s).1 ∨
      (Standing (th.step o s).1 ∧ s.Extends (th.step o s).1 ∧
        (th.step o s).1.campaigns.map (·.id) = s.campaigns.map (·.id)) := by
    rcases hwrites with ⟨-, hc, hp, hv⟩ |
      ⟨-, cfg, req, campaign, locked, pid, voucher, t, -, htx, hcommitting, hcommit, -⟩
    · exact .inl ⟨hc, hp, hv⟩
    · rw [htx] at hcommitting hcoherent
      rw [hcommit]
      exact .inr (EnrollStage.commit_admission hcommitting hcoherent.reserved h.standing)
  have hids : (th.step o s).1.campaigns.map (·.id) = s.campaigns.map (·.id) := by
    rcases hrows with hsame | ⟨-, -, hids⟩
    · rw [hsame.campaigns]
    · exact hids
  refine ⟨by rw [txsOf_cons]; exact hcoherent.effect heffect, ?standing,
    by rw [hids, heffect.nextCampaignId]; exact h.campaignIds,
    List.forall_mem_cons.2 ⟨.inl hth', fun u hu => ?others⟩⟩
  case standing =>
    rcases hrows with hsame | ⟨hs', -, -⟩
    · exact hsame.standing h.standing
    · exact hs'
  case others =>
    have hu' := h.threads u (List.mem_cons_of_mem _ hu)
    rcases hrows with hsame | ⟨-, hx, -⟩
    · exact hu'.of_campaigns hsame.participations hsame.vouchers
        (by rw [hsame.campaigns]; exact fun _ _ hr => hr)
    · -- the admission commits only the row of the campaign it has locked itself
      exact hu'.of_extends hx fun t ht id hid =>
        heffect.campaign_row_of_held hcoherent (List.mem_filterMap.2 ⟨u, hu, ht⟩) hid

/-- A step of a top-up or a check: it writes no row, or commits a settlement, which keeps the
rows standing and overwrites only the rows of the code it has locked. -/
theorem step_settle (h : Promo s (th :: others)) (hth : SettleThread s th) (o : Oracle) :
    Promo (th.step o s).1 ((th.step o s).2 :: others) := by
  have hcoherent := h.coherent_mover
  have hids := hcoherent.reserved.voucherIds
  have hpids := hcoherent.reserved.participationIds
  obtain ⟨hth', htouch, hwrites⟩ := hth.step hcoherent.locks hids hpids o
  -- a settlement writes no campaign and keeps every participation's identity
  obtain ⟨hcampaigns, hidentities, hstanding⟩ : (th.step o s).1.campaigns = s.campaigns ∧
      (th.step o s).1.participations.map Participation.identity =
        s.participations.map Participation.identity ∧ Standing (th.step o s).1 := by
    rcases hwrites with hsame | ⟨t, v0, v, q, p, -, hcommit, hset⟩
    · exact ⟨hsame.campaigns, by rw [hsame.participations], hsame.standing h.standing⟩
    · rw [hcommit]
      exact ⟨by rw [Tx.commit_campaigns, hset.campaigns, List.foldl_nil], hset.identities hpids,
        hset.standing h.standing hids⟩
  refine ⟨by rw [txsOf_cons]; exact hcoherent.touch htouch hth.guard hth'.guard hidentities,
    hstanding, by rw [hcampaigns, htouch.nextCampaignId]; exact h.campaignIds,
    List.forall_mem_cons.2 ⟨.inr (.inl hth'), fun u hu => ?_⟩⟩
  exact (h.threads u (List.mem_cons_of_mem _ hu)).of_overwrites
    (htouch.overwrites hth.guard hids hpids) (Phase.apart_of_locks hcoherent.locks hu)
    (by rw [hcampaigns]; exact fun _ _ hr => hr) (by rw [hidentities]; exact fun _ hx => hx)

/-- A step of a creation of a campaign: it inserts the campaign under the next id, which no row
has, or does nothing. -/
theorem step_campaign (h : Promo s (th :: others)) (hth : CampaignThread th) (o : Oracle) :
    Promo (th.step o s).1 ((th.step o s).2 :: others) := by
  obtain ⟨hth', htx', hstore⟩ := hth.step o s
  obtain ⟨-, -, -, htx, -⟩ := hth
  have htxs : txsOf ((th.step o s).2 :: others) = txsOf (th :: others) := by
    rw [txsOf_cons, txsOf_cons, htx, htx']
  have hothers : ∀ u ∈ others, PromoThread s u := fun u hu =>
    h.threads u (List.mem_cons_of_mem _ hu)
  rcases hstore with hsame | ⟨campaign, hcreate⟩
  · rw [hsame]
    exact ⟨htxs ▸ h.coherent, h.standing, h.campaignIds,
      List.forall_mem_cons.2 ⟨.inr (.inr hth'), hothers⟩⟩
  rw [hcreate]
  -- the new id is above every id, so the rows of the other campaigns stay
  have hfresh : ∀ r ∈ s.campaigns, r.id ≠ (s.createCampaign campaign).1.id := by
    intro r hr hid
    have hle := h.campaignIds r.id (List.mem_map_of_mem hr)
    have hnew : (s.createCampaign campaign).1.id = s.nextCampaignId + 1 := rfl
    omega
  have hperm : (s.createCampaign campaign).2.campaigns ~
      s.campaigns ++ [(s.createCampaign campaign).1] :=
    upsertBy_perm_of_forall_ne _ hfresh
  have hkept : ∀ id r, findBy (·.id) s.campaigns id = some r →
      findBy (·.id) (s.createCampaign campaign).2.campaigns id = some r := by
    intro id r hr
    obtain ⟨hmem, rfl⟩ := findBy_eq_some _ hr
    rw [← hr]
    exact findBy_upsertBy_of_ne _ (hfresh r hmem)
  refine ⟨?coherent, ?standing, ?campaignIds, List.forall_mem_cons.2
    ⟨.inr (.inr hth'), fun u hu => (hothers u hu).of_campaigns rfl rfl hkept⟩⟩
  case coherent =>
    rw [htxs]
    exact ⟨h.coherent.locks.of_store rfl rfl, h.coherent.reserved.of_store rfl rfl rfl rfl rfl rfl⟩
  case standing =>
    refine h.standing.of_rows rfl rfl fun id hid => ?_
    obtain ⟨r, hr, rfl⟩ := List.mem_map.1 hid
    exact List.mem_map_of_mem (hperm.mem_iff.2 (List.mem_append_left _ hr))
  case campaignIds =>
    intro id hid
    obtain ⟨r, hr, rfl⟩ := List.mem_map.1 hid
    have hnext : (s.createCampaign campaign).2.nextCampaignId = s.nextCampaignId + 1 := rfl
    rw [hnext]
    rcases List.mem_append.1 (hperm.mem_iff.1 hr) with hr | hr
    · have hle := h.campaignIds r.id (List.mem_map_of_mem hr)
      omega
    · rw [List.mem_singleton.1 hr]
      exact le_of_eq rfl

theorem step_thread (h : Promo s (th :: others)) (o : Oracle) :
    Promo (th.step o s).1 ((th.step o s).2 :: others) := by
  rcases h.threads th List.mem_cons_self with henroll | hsettle | hcampaign
  · exact h.step_enroll henroll o
  · exact h.step_settle hsettle o
  · exact h.step_campaign hcampaign o

theorem step {w : World} (h : Promo w.store w.threads) (e : Event) :
    Promo (w.step e).store (w.step e).threads := by
  rcases World.step_cases w e with hsame | ⟨th, others, hold, hnew, hstore⟩
  · rw [hsame]
    exact h
  · rw [hstore]
    exact ((h.perm hold).step_thread e.oracle).perm hnew.symm

theorem start (hs : Coherent s []) (hstanding : Standing s)
    (hids : ∀ id ∈ s.campaigns.map (·.id), id ≤ s.nextCampaignId) (requests : List Request) :
    Promo s (requests.map Thread.start) := by
  have hnone : txsOf (requests.map Thread.start) = [] := by
    simp [txsOf, Thread.start]
  refine ⟨by rw [hnone]; exact hs, hstanding, hids, ?_⟩
  intro th hth
  obtain ⟨r, -, rfl⟩ := List.mem_map.1 hth
  exact PromoThread.start s r

theorem empty (lockTimeoutMs : Nat) (requests : List Request) :
    Promo { lockTimeoutMs := lockTimeoutMs } (requests.map Thread.start) :=
  start (Fresh.empty lockTimeoutMs).coherent (Standing.empty lockTimeoutMs) (by simp) requests

end Promo

theorem promo_reachable {s0 : Store} {requests : List Request} {w : World}
    (h0 : Promo s0 (requests.map Thread.start)) (hw : (World.start s0 requests).Reachable w) :
    Promo w.store w.threads := by
  induction hw with
  | start => exact h0
  | step e _ ih => exact ih.step e

/-- From an empty store, whatever requests run and however their calls interleave, every
participation is in the configuration its status names with the vouchers that name it: none
while eligible, its one active voucher once issued, its one used voucher once used, its one
expired voucher once expired. No voucher is cancelled, every participation's campaign is a row,
and so is the participation every voucher names. -/
theorem rows_stand_in_every_run (lockTimeoutMs : Nat) (requests : List Request)
    (es : List Event) :
    let s := ((World.start { lockTimeoutMs := lockTimeoutMs } requests).run es).store
    (∀ p ∈ s.participations, p.Configured (s.vouchersFor p.id)) ∧
      (∀ v ∈ s.vouchers, v.status ≠ .cancelled) ∧
      (∀ p ∈ s.participations, p.campaignId ∈ s.campaigns.map (·.id)) ∧
      (∀ v ∈ s.vouchers, v.participationId ∈ s.participations.map (·.id)) := by
  intro s
  have hs : Standing s :=
    (promo_reachable (Promo.empty lockTimeoutMs requests) (World.reachable_run _ es)).standing
  exact ⟨hs.configured, hs.not_cancelled, hs.campaign, hs.participation⟩

end Concurrent
end TopUpPromo
