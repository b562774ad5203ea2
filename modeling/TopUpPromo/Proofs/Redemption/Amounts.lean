import TopUpPromo.Proofs.Redemption.Lifecycle
import TopUpPromo.Proofs.Standing.World
import TopUpPromo.Proofs.Isolated.Outcomes
import TopUpPromo.Proofs.Discount.Bounds

/-!
# What a successful top-up charges

A top-up that answers with success has left the voucher of its code used, recording the amount,
the discount and the transaction id, and the voucher's percentage and cap give that discount and
the final amount (`TopUpStage.Recorded`). When those are the terms of options that pass the seed
checks, with a cap that is not negative, the amounts are within `Discount.Within` (`Discounted`).

This holds in every run of top-ups and voucher checks from a store with no lock held, whatever
its vouchers, and in every run of any requests from a store at rest whose rows stand, where the
voucher may be one that an enrollment of the same run issued, beside vouchers of any terms
(`topUp_amounts_within`). The seed checks accept caps that are no bound: one with more than two
decimals, and a negative one (`discount_escapes_accepted_caps`).
-/

namespace TopUpPromo
namespace Concurrent

open Memory

/-- What a successful top-up of `req` answering `res` leaves in store `s`: the voucher of its
code used, recording the amount, the discount and the transaction id, whose percentage and cap
give the discount and the final amount of the answer. When those terms are the ones of options
that pass the seed checks, with a cap that is not negative, both amounts are within the amount,
in whole cents below `10 ^ 8`, and a cap that is present and not zero bounds the discount once
rounded to cents. -/
def Discounted (req : TopUpRequest) (s : Store) (res : RedemptionResult) : Prop :=
  ∃ r ∈ s.vouchers, r.code = req.voucherCode ∧ r.status = .used ∧
    r.usedAmount = some req.amount ∧ r.discountAmount = some res.discountAmount ∧
    r.reference = some res.transactionId ∧
    Discount.compute req.amount r.discountPercentage r.maxDiscount =
      ⟨res.discountAmount, res.finalAmount⟩ ∧
    ((∃ o : SeedOptions, o.Grants r) →
      Discount.Within req.amount r.maxDiscount ⟨res.discountAmount, res.finalAmount⟩)

/-- Every top-up of world `w` that answered with success, naming a voucher, for an amount the
top-ups accept, is `Discounted` in the store of `w`. -/
def World.DiscountsWithin (w : World) : Prop :=
  ∀ th ∈ w.threads, ∀ now ctx req named res,
    th.request = (Redemption.topUp now ctx req named).request →
    th.reply? = some (.toppedUp (.ok res)) → req.voucherCode ≠ "" →
    validAmount req.amount = true → Discounted req w.store res

theorem TopUpStage.Recorded.discounted {req : TopUpRequest} {s : Store} {res : RedemptionResult}
    (h : TopUpStage.Recorded req s res) (hamount : validAmount req.amount = true) :
    Discounted req s res := by
  obtain ⟨r, hrow, hused, hamount', hdiscount, hreference, hterms⟩ := h
  refine ⟨r, (findBy_eq_some _ hrow.row).1, hrow.code, hused, hamount', hdiscount, hreference,
    hterms, ?_⟩
  rintro ⟨o, ho, hocap, hpct, hcap⟩
  obtain ⟨-, -, hpos, hle, -⟩ := SeedOptions.problem?_eq_none_iff.1 ho
  rw [← hterms, TopUpStage.discount, hpct, hcap]
  exact Discount.compute_within hamount hpos.le hle hocap

theorem SettleThread.recorded {s : Store} {th : Thread} {now : Instant} {ctx : Ctx}
    {req : TopUpRequest} {named : Bool} {res : RedemptionResult} (h : SettleThread s th)
    (hreq : th.request = (Redemption.topUp now ctx req named).request)
    (hreply : th.reply? = some (.toppedUp (.ok res))) (hcode : req.voucherCode.isEmpty = false) :
    TopUpStage.Recorded req s res := by
  rcases h with ⟨now', ctx', req', named', st, pays, hreq', hfollows, hh, -, -⟩ |
    ⟨now', ctx', code, st, hreq', -⟩
  · obtain ⟨rfl, rfl, rfl⟩ := Redemption.request_topUp_inj (hreq'.symm.trans hreq)
    -- a thread that answered with success is at its last stage
    have hst := TopUpStage.stop_success (hfollows.done (Thread.program_of_reply hreply))
    subst hst
    exact hh.2 res rfl hcode
  · exact absurd (hreq.symm.trans hreq') Redemption.request_topUp_ne_check

theorem PromoThread.recorded {s : Store} {th : Thread} {now : Instant} {ctx : Ctx}
    {req : TopUpRequest} {named : Bool} {res : RedemptionResult} (h : PromoThread s th)
    (hreq : th.request = (Redemption.topUp now ctx req named).request)
    (hreply : th.reply? = some (.toppedUp (.ok res))) (hcode : req.voucherCode.isEmpty = false) :
    TopUpStage.Recorded req s res := by
  rcases h with ⟨cfg, ctx', ereq, -, henroll, -⟩ | hsettle | ⟨ctx', campaign, hcampaign, -⟩
  · rw [henroll] at hreq
    cases named <;> cases hreq
  · exact hsettle.recorded hreq hreply hcode
  · rw [hcampaign] at hreq
    cases named <;> cases hreq

theorem discountsWithin_redemptions {s0 : Store} (hs0 : Quiet s0) (jobs : List Redemption)
    (es : List Event) :
    ((World.start s0 (jobs.map Redemption.request)).run es).DiscountsWithin := by
  intro th hth now ctx req named res hreq hreply hcode hamount
  obtain ⟨i, hi⟩ := List.mem_iff_getElem?.1 hth
  have hw := sound_run hs0 jobs es
  exact (((hw.threads i th hi).success hreq hreply).1
    (String.isEmpty_eq_false_iff.2 hcode)).discounted hamount

theorem discountsWithin_promo {s0 : Store} {requests : List Request}
    (h0 : Promo s0 (requests.map Thread.start)) (es : List Event) :
    ((World.start s0 requests).run es).DiscountsWithin := by
  intro th hth now ctx req named res hreq hreply hcode hamount
  have h := promo_reachable h0 (World.reachable_run _ es)
  exact ((h.threads th hth).recorded hreq hreply (String.isEmpty_eq_false_iff.2 hcode)).discounted
    hamount

/-- A successful top-up naming a voucher, of an amount the top-ups accept, leaves that voucher
used with the discount it answers, and its discount and final amount are those the voucher's
percentage and cap give: within the amount, in whole cents below `10 ^ 8`, and under a cap that
is present and not zero once rounded to cents, when those terms are the ones of options that
pass the seed checks with a cap that is not negative. This holds in every interleaving of
top-ups and voucher checks from a store with no lock held, whatever its vouchers, and in every
interleaving of any requests from a store with no transaction open whose rows stand, where the
voucher may be one that an enrollment of the same run issued. -/
theorem topUp_amounts_within :
    (∀ s0 : Store, Quiet s0 → ∀ (jobs : List Redemption) (es : List Event),
      ((World.start s0 (jobs.map Redemption.request)).run es).DiscountsWithin) ∧
    ∀ s0 : Store, Coherent s0 [] → Standing s0 →
      (∀ id ∈ s0.campaigns.map (·.id), id ≤ s0.nextCampaignId) →
      ∀ (requests : List Request) (es : List Event),
        ((World.start s0 requests).run es).DiscountsWithin :=
  ⟨fun _ hs0 jobs es => discountsWithin_redemptions hs0 jobs es,
    fun _ hs hstanding hids requests es =>
      discountsWithin_promo (Promo.start hs hstanding hids requests) es⟩

def voucherOn (pct : Decimal) (cap : Option Decimal) : Store :=
  { participations := [default],
    vouchers :=
      [{ (default : Voucher) with code := "SAVE10", discountPercentage := pct, maxDiscount := cap }] }

def liveTopUp (s : Store) : World :=
  World.start s [(Redemption.topUp default .live saveTopUp false).request]

theorem quiet_voucherOn (pct : Decimal) (cap : Option Decimal) : Quiet (voucherOn pct cap) :=
  ⟨rfl, List.nodup_singleton _, List.nodup_singleton _⟩

theorem grants_voucherOn {o : SeedOptions} (ho : o.problem? = none)
    (hcap : ∀ c, o.maxDiscount = some c → 0 ≤ c.value) :
    ∀ v ∈ (voucherOn o.discountPercentage o.maxDiscount).vouchers, o.Grants v := by
  intro v hv
  rw [voucherOn, List.mem_singleton] at hv
  subst hv
  exact ⟨ho, hcap, rfl, rfl⟩

def enrolledTopUp : List Request :=
  [Request.createCampaign .live default, Request.enroll ⟨1, 3, default⟩ .live ⟨1, none⟩,
    Request.topUp default .live ⟨1, 100, "0812345678", "", "CODE-4"⟩]

theorem topUp_amounts_within_defaults :
    Quiet (voucherOn 30 (some 50)) ∧
      ((liveTopUp (voucherOn 30 (some 50))).run approving).DiscountsWithin ∧
      Coherent ({} : Store) [] ∧ Standing ({} : Store) ∧
      ((World.start {} enrolledTopUp).run (World.turns 3 12)).DiscountsWithin := by
  exact ⟨quiet_voucherOn 30 (some 50),
    topUp_amounts_within.1 _ (quiet_voucherOn 30 (some 50))
      [.topUp default .live saveTopUp false] approving,
    (Fresh.empty _).coherent, Standing.empty _,
    topUp_amounts_within.2 _ (Fresh.empty _).coherent (Standing.empty _) (by simp) enrolledTopUp
      (World.turns 3 12)⟩

def discountedBy (d : Decimal) : Option Reply → Bool
  | some (.toppedUp (.ok res)) => res.discountAmount == d
  | _ => false

theorem replies_of_discountedBy {w : World} {d : Decimal}
    (h : w.threads.all (fun th => discountedBy d th.reply?) = true) :
    ∀ th ∈ w.threads, ∃ res, th.reply? = some (.toppedUp (.ok res)) ∧ res.discountAmount = d := by
  intro th hth
  have hth' := List.all_eq_true.1 h th hth
  unfold discountedBy at hth'
  split at hth'
  · next res hreply => exact ⟨res, hreply, by simpa using hth'⟩
  · cases hth'

/-- Two caps pass the seed checks and do not bound the discount of a top-up of a hundred at thirty
percent. Capped at half a cent, the discount is rounded up to a cent. A negative cap always
applies, so the discount is negative and the charge above the amount. -/
theorem discount_escapes_accepted_caps :
    validAmount saveTopUp.amount = true ∧
      (∀ v ∈ (voucherOn 30 (some ⟨5, -3⟩)).vouchers,
        { SeedOptions.defaults with maxDiscount := some ⟨5, -3⟩ }.Grants v) ∧
      (∀ th ∈ ((liveTopUp (voucherOn 30 (some ⟨5, -3⟩))).run approving).threads,
        ∃ res, th.reply? = some (.toppedUp (.ok res)) ∧
          (⟨5, -3⟩ : Decimal).value < res.discountAmount.value) ∧
      { SeedOptions.defaults with maxDiscount := some ⟨-5, 0⟩ }.problem? = none ∧
      ∀ th ∈ ((liveTopUp (voucherOn 30 (some ⟨-5, 0⟩))).run approving).threads,
        ∃ res, th.reply? = some (.toppedUp (.ok res)) ∧ res.discountAmount.value < 0 := by
  have hcent : ((liveTopUp (voucherOn 30 (some ⟨5, -3⟩))).run approving).threads.all
      (fun th => discountedBy ⟨1, -2⟩ th.reply?) = true := by
    decide +kernel
  have hnegative : ((liveTopUp (voucherOn 30 (some ⟨-5, 0⟩))).run approving).threads.all
      (fun th => discountedBy ⟨-500, -2⟩ th.reply?) = true := by
    decide +kernel
  refine ⟨by decide,
    grants_voucherOn (o := { SeedOptions.defaults with maxDiscount := some ⟨5, -3⟩ }) (by decide)
      (fun c hc => by cases hc; norm_num),
    fun th hth => ?_, by decide, fun th hth => ?_⟩
  · obtain ⟨res, hreply, hd⟩ := replies_of_discountedBy hcent th hth
    refine ⟨res, hreply, ?_⟩
    rw [hd]
    norm_num
  · obtain ⟨res, hreply, hd⟩ := replies_of_discountedBy hnegative th hth
    refine ⟨res, hreply, ?_⟩
    rw [hd]
    norm_num

end Concurrent

end TopUpPromo
