import TopUpPromo.Proofs.Redemption.Invariant

/-!
# The life of a voucher under concurrent top-ups

Over every interleaving of top-ups, redemptions and voucher checks from a store with no lock
held, a voucher row leaves `active` once and for all: into `expired`, when a request found it
past its expiry, or into `used`, by the one top-up naming its code that answered with success.
That top-up charged the payment gateway exactly once, for the amount less the discount, after
reading the voucher under its lock as active, unexpired, the caller's and within its minimum,
and the row records the use it reported.
-/

namespace TopUpPromo
namespace Concurrent

open Memory

namespace Sound

variable {s0 : Store} {log : List (Nat × Made)} {w : World}

theorem settled_run (hs0 : Quiet s0) (hw : Sound s0 log w) {id : Int} {v : Voucher}
    (hv : findBy (·.id) w.store.vouchers id = some v) (hsettled : v.status ≠ .active)
    (es : List Event) : findBy (·.id) (w.run es).store.vouchers id = some v := by
  induction es generalizing log w with
  | nil => exact hv
  | cons e es ih =>
    -- a step overwrites only active rows, so this one stays as it is
    obtain ⟨held, hov⟩ := (hw.writes hs0 e).1
    have hstep : findBy (·.id) (w.step e).store.vouchers id = some v := by
      rcases hov.rows id with hsame | ⟨v0, hv0, hactive, -⟩
      · rw [hsame, hv]
      · rw [hv] at hv0
        cases hv0
        exact absurd hactive hsettled
    exact ih (hw.step hs0 e) hstep

theorem charged (hs0 : Quiet s0) (hw : Sound s0 log w) {i : Nat} {th : Thread} {now : Instant}
    {ctx : Ctx} {req : TopUpRequest} {named : Bool} {res : RedemptionResult}
    (hi : w.threads[i]? = some th) (hreq : th.request = (Redemption.topUp now ctx req named).request)
    (hreply : th.reply? = some (.toppedUp (.ok res))) :
    ∃ m, World.paymentsOf i log = [m] ∧
      m.call = .confirmPayment ctx
        ⟨req.phone, res.finalAmount, res.transactionId, TopUpStage.method req⟩ ∧
      res.finalAmount.equiv (req.amount - res.discountAmount) = true ∧
      (req.voucherCode ≠ "" →
        (∃ t v, m.tx = some t ∧ m.store.holderOf (.voucher req.voucherCode) = some ⟨t.owner, none⟩ ∧
          m.store.getVoucherByCode req.voucherCode = .ok v ∧ v.status = .active ∧
          v.isExpired now = false ∧ v.userId = req.userId ∧ ¬req.amount < v.minTopup ∧
          res.discountAmount = (TopUpStage.discount req v).discount) ∧
        ∃ r, w.store.vouchers.find? (·.code == req.voucherCode) = some r ∧ r.status = .used ∧
          r.usedAmount = some req.amount ∧ r.discountAmount = some res.discountAmount ∧
          r.reference = some res.transactionId) := by
  obtain ⟨hrecorded, m, hm, hcall, hfinal, hvoucher⟩ := (hw.threads i th hi).success hreq hreply
  refine ⟨m, hm, hcall, hfinal, fun hcode => ?_⟩
  have hempty : req.voucherCode.isEmpty = false := String.isEmpty_eq_false_iff.2 hcode
  -- the charge was made on the read that passed the checks
  obtain ⟨v, ⟨-, t, htx, hheld, hread, hvalid, howner, hmin⟩, hdiscount, -⟩ := hvoucher hempty
  obtain ⟨hactive, hfresh⟩ := Voucher.isValid_eq_true.1 hvalid
  -- and the committed row records the use
  obtain ⟨r, hrow, hused, hamount, hrdiscount, hreference, -⟩ := hrecorded hempty
  exact ⟨⟨t, v, htx, hheld, hread, hactive, hfresh, howner, hmin, hdiscount⟩,
    r, hrow.find?_eq (hw.ids hs0), hused, hamount, hrdiscount, hreference⟩

end Sound

/-- Top-ups, redemptions and voucher checks run in any interleaving from a store with no lock
held, whatever the payment gateway and the clock answer. The vouchers keep their ids and codes;
a step changes a voucher row only when it was active, into `expired` when the request that
wrote it found it past its expiry, or into `used` by a top-up naming its code that answered
with success; a row out of `active` is never written again; at most one top-up naming a code
answers with success; and a successful top-up made exactly one payment call, of its final
amount, the amount less the discount, under its transaction id, and for a voucher made it
under the voucher's lock after reading the voucher active, unexpired, the caller's and with a
minimum the amount reaches, and the row then records the amount, the discount and the
transaction id. -/
theorem vouchers_leave_active_once {s0 : Store} (hs0 : Quiet s0) (jobs : List Redemption)
    (es : List Event) :
    let w0 := World.start s0 (jobs.map Redemption.request)
    let w := w0.run es
    w.store.vouchers.map Voucher.key = s0.vouchers.map Voucher.key ∧
    (∀ e id v v', findBy (·.id) w.store.vouchers id = some v →
      findBy (·.id) (w.step e).store.vouchers id = some v' → v' ≠ v →
      v.status = .active ∧ ∃ th ∈ (w.step e).threads, ∃ job : Redemption,
        th.request = job.request ∧ job.code = v.code ∧
        ((v.isExpired job.now = true ∧ v' = { v with status := .expired }) ∨
          ∃ now ctx req named res, job = .topUp now ctx req named ∧
            th.reply? = some (.toppedUp (.ok res)) ∧
            v' = v.markUsed ⟨now, req.amount, res.discountAmount, res.transactionId⟩)) ∧
    (∀ es' id v, findBy (·.id) w.store.vouchers id = some v → v.status ≠ .active →
      findBy (·.id) (w.run es').store.vouchers id = some v) ∧
    (∀ c, c ≠ "" → ∀ (i j : Nat) (thi thj : Thread), w.threads[i]? = some thi →
      w.threads[j]? = some thj →
      thi.Redeemed c → thj.Redeemed c → i = j) ∧
    ∀ (i : Nat) (th : Thread) now ctx req named res, w.threads[i]? = some th →
      th.request = (Redemption.topUp now ctx req named).request →
      th.reply? = some (.toppedUp (.ok res)) →
      ∃ m, World.paymentsOf i (w0.trace es) = [m] ∧
        m.call = .confirmPayment ctx
          ⟨req.phone, res.finalAmount, res.transactionId, TopUpStage.method req⟩ ∧
        res.finalAmount.equiv (req.amount - res.discountAmount) = true ∧
        (req.voucherCode ≠ "" →
          (∃ t v, m.tx = some t ∧
            m.store.holderOf (.voucher req.voucherCode) = some ⟨t.owner, none⟩ ∧
            m.store.getVoucherByCode req.voucherCode = .ok v ∧ v.status = .active ∧
            v.isExpired now = false ∧ v.userId = req.userId ∧ ¬req.amount < v.minTopup ∧
            res.discountAmount = (TopUpStage.discount req v).discount) ∧
          ∃ r, w.store.vouchers.find? (·.code == req.voucherCode) = some r ∧
            r.status = .used ∧ r.usedAmount = some req.amount ∧
            r.discountAmount = some res.discountAmount ∧ r.reference = some res.transactionId) := by
  intro w0 w
  have hw : Sound s0 (w0.trace es) w := sound_run hs0 jobs es
  refine ⟨hw.keys, ?_, fun es' id v hv hsettled => hw.settled_run hs0 hv hsettled es', ?_,
    fun i th now ctx req named res hi hreq hreply => hw.charged hs0 hi hreq hreply⟩
  · intro e id v v' hv hv' hne
    obtain ⟨th, hth, hwrites⟩ := (hw.writes hs0 e).2 id v v' hv hv' hne
    exact ⟨(hwrites id v v' hv hv' hne).1, th, hth, (hwrites id v v' hv hv' hne).2⟩
  · intro c hc
    exact hw.unique c (String.isEmpty_eq_false_iff.2 hc)

def oneVoucher : Store := { vouchers := [{ (default : Voucher) with code := "SAVE10" }] }

def saveAndCheck : List Redemption :=
  [.topUp default .live ⟨0, 100, "0812345678", "", "SAVE10"⟩ false, .check default .live "SAVE10"]

theorem vouchers_leave_active_once_oneVoucher :
    let w := (World.start oneVoucher (saveAndCheck.map Redemption.request)).run (World.turns 2 12)
    Quiet oneVoucher ∧ w.store.vouchers.map Voucher.key = oneVoucher.vouchers.map Voucher.key ∧
      ∀ c, c ≠ "" → ∀ (i j : Nat) (thi thj : Thread), w.threads[i]? = some thi →
        w.threads[j]? = some thj → thi.Redeemed c → thj.Redeemed c → i = j := by
  intro w
  have hquiet : Quiet oneVoucher := ⟨rfl, by simp [oneVoucher], by simp [oneVoucher]⟩
  obtain ⟨hkeys, -, -, hunique, -⟩ :=
    vouchers_leave_active_once hquiet saveAndCheck (World.turns 2 12)
  exact ⟨hquiet, hkeys, hunique⟩

end Concurrent
end TopUpPromo
