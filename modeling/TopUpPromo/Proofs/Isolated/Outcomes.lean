import TopUpPromo.Proofs.Isolated.Enrollment
import TopUpPromo.Proofs.Isolated.TopUp

/-!
# What a request run alone leaves behind

A request run with no other request moving, from any store `s0`, whatever the outside world
answers (the lock waits, the code generator, the payment gateway), is measured against `s0`
where it ends.

* An enrollment that admits nobody, for a failure or a rejection, leaves `s0` as it was but for
  the id counters and the locks let go; so does a top-up that fails, unless it fails on a voucher
  past its expiry, whose expiry it then commits with its participation's; and a voucher check,
  whatever it answers, commits at most that expiry (`failed_requests_leave_store`).
* A top-up naming a voucher, once the gateway has confirmed its charge, answers success under
  the charge's transaction id with the voucher used and its participation marked used when its
  context is live at the commit and the participation exists; otherwise it fails with every row
  as it was (`confirmed_charge_settles`). The charge then stands with nothing recording it: a
  cancelled context leaves the voucher active after a confirmed charge
  (`cancelled_charge_leaves_voucher_active`).
-/

namespace TopUpPromo
namespace Concurrent

open Memory

/-- A request run alone from any store `s0`, whatever the outside world answers: an enrollment
that admits nobody and a top-up that fails leave `s0` as it was but for the id counters and the
locks let go, but a top-up failing on a voucher invalid or expired, which may instead commit the
expiry of the voucher its code names, lapsed at its clock, with that of its participation; a
voucher check, whatever it answers, leaves `s0` as it was or commits that expiry alone. -/
theorem failed_requests_leave_store (s0 : Store) (es : List Event) :
    (∀ cfg ctx req, ∀ th ∈ ((World.start s0 [.enroll cfg ctx req]).run es).threads, ∀ r,
      th.reply? = some (.enrolled r) → (∀ res, r = .ok res → res.eligible = false) →
        Kept s0 ((World.start s0 [.enroll cfg ctx req]).run es).store) ∧
    (∀ now ctx req named,
      ∀ th ∈ ((World.start s0 [(Redemption.topUp now ctx req named).request]).run es).threads,
      ∀ e, th.reply? = some (.toppedUp (.error e)) →
        let s := ((World.start s0 [(Redemption.topUp now ctx req named).request]).run es).store
        Kept s0 s ∨
          (e = .cause .voucherInvalidOrExpired ∧ Leaves s0 s ∧
            Phase.Expired s0 now req.voucherCode s)) ∧
    (∀ now ctx code, ∀ th ∈ ((World.start s0 [.validateVoucher now ctx code]).run es).threads,
      ∀ r, th.reply? = some (.validated r) →
        let s := ((World.start s0 [.validateVoucher now ctx code]).run es).store
        Kept s0 s ∨ (Leaves s0 s ∧ Phase.Expired s0 now code s)) := by
  refine ⟨?enroll, ?topUp, ?check⟩
  case enroll =>
    intro cfg ctx req th hth r hreply hnone
    obtain ⟨st, hM, hi⟩ := reply_alone (EnrollStage.alone_keeps s0)
      (EnrollStage.follows_start cfg ctx req) ⟨rfl, Kept.refl s0⟩ es th hth _ hreply
    exact hi.stop hM hnone
  case topUp =>
    intro now ctx req named th hth e hreply
    obtain ⟨st, hM, hi⟩ := reply_alone (TopUpStage.alone_keeps s0)
      (TopUpStage.follows_request named) ⟨rfl, rfl, Kept.refl s0⟩ es th hth _ hreply
    exact (hi.stop hM).1 e rfl
  case check =>
    intro now ctx code th hth r hreply
    obtain ⟨st, hM, hi⟩ := reply_alone (CheckStage.alone_keeps s0)
      CheckStage.follows_validateVoucher ⟨rfl, Kept.refl s0⟩ es th hth _ hreply
    exact hi.stop hM

/-- A top-up naming a voucher, run alone from any store `s0`, whatever the outside world answers:
once the gateway has confirmed a charge `pr` of the run, the top-up answers success under `pr`'s
transaction id, commits the voucher the code names as used with that id as its reference and
marks its participation used, when its context is live at the commit and the participation
exists; when the context is cancelled or past its deadline, or the participation is missing, it
fails and every row is as in `s0`. -/
theorem confirmed_charge_settles (s0 : Store) (now : Instant) (ctx : Ctx) (req : TopUpRequest)
    (named : Bool) (es : List Event) (hcode : req.voucherCode.isEmpty = false) :
    let w0 := World.start s0 [(Redemption.topUp now ctx req named).request]
    ∀ th ∈ (w0.run es).threads, ∀ r, th.reply? = some (.toppedUp r) →
      ∀ i pr, (i, pr, .ok true) ∈ w0.charges es →
        TopUpStage.Settles s0 now ctx req pr r (w0.run es).store := by
  intro w0 th hth r hreply i pr hpr
  obtain ⟨st, hM, hi⟩ := reply_alone (TopUpStage.alone_keeps s0)
    (TopUpStage.follows_request named) ⟨rfl, rfl, Kept.refl s0⟩ es th hth _ hreply
  -- the run's charges, stripped of the thread that asked for them
  have hcharged : (pr, .ok true) ∈ (w0.charges es).map (·.2) := List.mem_map.2 ⟨_, hpr, rfl⟩
  exact (hi.stop hM).2 pr hcharged hcode

def redeemable : Store :=
  { participations := [default], vouchers := [{ (default : Voucher) with code := "SAVE10" }] }

def saveTopUp : TopUpRequest := ⟨0, 100, "0812345678", "", "SAVE10"⟩

def cancelledTopUp : World :=
  World.start redeemable [(Redemption.topUp default .cancelled saveTopUp false).request]

def approving : List Event := List.replicate 12 ⟨0, ⟨.ok "A", .ok true, "A"⟩⟩

theorem confirmed_charge_settles_cancelled :
    saveTopUp.voucherCode.isEmpty = false ∧
    ∀ th ∈ (cancelledTopUp.run approving).threads, ∀ r, th.reply? = some (.toppedUp r) →
      ∀ i pr, (i, pr, .ok true) ∈ cancelledTopUp.charges approving →
        TopUpStage.Settles redeemable default .cancelled saveTopUp pr r
          (cancelledTopUp.run approving).store :=
  ⟨by decide, confirmed_charge_settles redeemable default .cancelled saveTopUp false approving
    (by decide)⟩

def confirmedCharge : Nat × PaymentRequest × Except Failure Bool → Bool
  | (_, _, .ok true) => true
  | _ => false

def failedTopUp : Option Reply → Bool
  | some (.toppedUp (.error _)) => true
  | _ => false

/-- Under a cancelled context the gateway confirms the charge, the top-up fails, and the voucher
stays active with no reference: nothing records the charge. -/
theorem cancelled_charge_leaves_voucher_active :
    (∃ i pr, (i, pr, .ok true) ∈ cancelledTopUp.charges approving) ∧
    (∀ th ∈ (cancelledTopUp.run approving).threads,
      ∃ e, th.reply? = some (.toppedUp (.error e))) ∧
    ∀ v ∈ (cancelledTopUp.run approving).store.vouchers,
      v.status = .active ∧ v.reference = none := by
  have hcharged :
      (cancelledTopUp.charges approving).any confirmedCharge = true := by
    decide +kernel
  have hfailed :
      (cancelledTopUp.run approving).threads.all (fun th => failedTopUp th.reply?) = true := by
    decide +kernel
  have hactive : (cancelledTopUp.run approving).store.vouchers.all
      (fun v => v.status == .active && v.reference.isNone) = true := by
    decide +kernel
  refine ⟨?_, ?_, ?_⟩
  · obtain ⟨⟨i, pr, a⟩, hc, ha⟩ := List.any_eq_true.1 hcharged
    rcases a with e | _ | _
    · cases ha
    · cases ha
    · exact ⟨i, pr, hc⟩
  · intro th hth
    have hth' := List.all_eq_true.1 hfailed th hth
    unfold failedTopUp at hth'
    split at hth'
    · next e hreply => exact ⟨e, hreply⟩
    · cases hth'
  · intro v hv
    have hv' := List.all_eq_true.1 hactive v hv
    simpa using hv'

end Concurrent
end TopUpPromo
