import TopUpPromo.Service.Effects
import TopUpPromo.Discount
import TopUpPromo.Decimal.Text

/-!
# Redemption

A top-up charges a phone number, discounted when it names a voucher. With a voucher, the checks
run in this order, each failing the top-up with its own failure: the amount, the code, the
owner, the voucher's validity, its minimum, then the payment. The voucher stays locked while
the payment is confirmed, so it is used at most once; a failed payment changes nothing. A voucher
found past its expiry while still active is marked expired, and that change is kept even though
the top-up fails.

## Main definitions

- `validAmount`: the amounts a top-up accepts.
- `TopUpRequest`, `RedemptionResult`.
- `validateVoucher`, `topUp`, `redeem`.
-/

namespace TopUpPromo

def maxTopupAmount : Decimal := ⟨9999999999, -2⟩

/-- A chargeable amount: positive, at most `maxTopupAmount`, with at most two decimals. -/
def validAmount (amount : Decimal) : Bool :=
  decide (0 < amount.sign) && decide (amount ≤ maxTopupAmount) && amount.equiv (amount.truncate 2)

/-- A top-up, with a voucher when `voucherCode` is not empty. -/
structure TopUpRequest where
  userId : Int
  amount : Decimal
  phone : String
  method : String
  voucherCode : String
  deriving Repr

/-- A completed top-up. -/
structure RedemptionResult where
  transactionId : String
  originalAmount : Decimal
  discountAmount : Decimal
  finalAmount : Decimal
  phone : String
  voucherCode : String
  message : String
  deriving Repr

/-- The id of a transaction started at `now`: `TXN-<unix millis>-<suffix>`. -/
def transactionId (now : Instant) (suffix : String) : String :=
  "TXN-" ++ toString now.unixMillis ++ "-" ++ suffix

section Services

variable {m : Type → Type} [Monad m] [PromotionStore m]

/-- Moves an active voucher past its expiry, and its participation, to expired; any other
voucher is left as it is. -/
def expireVoucher (ctx : Ctx) (v : Voucher) (now : Instant) : ExceptT Failure m Voucher := do
  if v.status != .active || !v.isExpired now then return v
  liftWithin "failed to expire voucher" (PromotionStore.markVoucherExpired ctx v.id now)
  liftWithin "failed to expire participation"
    (PromotionStore.updateParticipationStatus ctx v.participationId .expired now)
  return { v with status := .expired }

/-- The voucher of a code, marked expired first when it is active and past its expiry. -/
def validateVoucher (now : Instant) (ctx : Ctx) (code : String) : m (Except Failure Voucher) :=
  ExceptT.run do
  match ← tryStore (PromotionStore.getVoucherByCode ctx code) with
  | .error e =>
    if e.hasCause .storeNotFound then throw (.cause .voucherNotFound)
    else throw (.within "failed to get voucher" e)
  | .ok voucher =>
  if voucher.status != .active || !voucher.isExpired now then return voucher
  let body : ExceptT Failure m Voucher := do
    let locked ← liftStore (PromotionStore.lockVoucher ctx code)
    expireVoucher ctx locked now
  match ← tryStore (PromotionStore.withTx ctx body.run) with
  | .error e => throw (lockWaitFailure e)
  | .ok v => return v

variable [PaymentGateway m] [TransactionSuffix m]

/-- Charges `amount` to the phone; a declined charge and a gateway failure both fail the
payment. -/
def charge (ctx : Ctx) (req : PaymentRequest) : ExceptT Failure m Unit := do
  match ← tryStore (PaymentGateway.confirmPayment ctx req) with
  | .error e => throw (.joined .paymentFailed e.text)
  | .ok false => throw (.cause .paymentFailed)
  | .ok true => pure ()

/-- The transaction of a top-up with a voucher. It yields the discount and the final amount,
or nothing when the voucher turned out invalid (after persisting its expiry). -/
def useVoucher (now : Instant) (ctx : Ctx) (req : TopUpRequest) (txId method : String) :
    ExceptT Failure m (Option Discount) := do
  let voucher ← match ← tryStore (PromotionStore.lockVoucher ctx req.voucherCode) with
    | .error e =>
      if e.hasCause .storeNotFound then throw (.cause .voucherNotFound)
      else throw (.within "failed to lock voucher" e)
    | .ok v => pure v
  if voucher.userId != req.userId then throw (.cause .voucherNotOwned)
  if !voucher.isValid now then
    let _ ← expireVoucher ctx voucher now
    return none
  if req.amount < voucher.minTopup then throw (.belowMinimum voucher.minTopup)
  let d := Discount.compute req.amount voucher.discountPercentage voucher.maxDiscount
  charge ctx ⟨req.phone, d.final, txId, method⟩
  match ← tryStore (PromotionStore.markVoucherUsed ctx voucher.id ⟨now, req.amount, d.discount, txId⟩) with
  | .error e =>
    if e.hasCause .storeStale then throw (.cause .voucherInvalidOrExpired)
    else throw (.within "failed to mark voucher used" e)
  | .ok () => pure ()
  liftWithin "failed to mark participation voucher used"
    (PromotionStore.updateParticipationStatus ctx voucher.participationId .voucherUsed now)
  return some d

/-- Charges the phone, discounting the amount when a voucher is given. -/
def topUp (now : Instant) (ctx : Ctx) (req : TopUpRequest) : m (Except Failure RedemptionResult) :=
  ExceptT.run do
  if !validAmount req.amount then throw (.cause .invalidAmount)
  let method := if req.method.isEmpty then defaultPaymentMethod else req.method
  let suffix ← (TransactionSuffix.nextSuffix : m String)
  let txId := transactionId now suffix
  let base : RedemptionResult := ⟨txId, req.amount, 0, req.amount, req.phone, req.voucherCode, ""⟩
  if req.voucherCode.isEmpty then
    charge ctx ⟨req.phone, req.amount, txId, method⟩
    return { base with message := "Top-up successful!" }
  match ← tryStore (PromotionStore.withTx ctx (useVoucher now ctx req txId method).run) with
  | .error e => throw (lockWaitFailure e)
  | .ok none => throw (.cause .voucherInvalidOrExpired)
  | .ok (some d) =>
    return { base with discountAmount := d.discount, finalAmount := d.final,
                       message := "Top-up successful! You saved " ++ d.discount.toFixed 2 ++
                         " with your voucher." }

/-- A top-up paid with a voucher; an empty code names no voucher. -/
def redeem (now : Instant) (ctx : Ctx) (req : TopUpRequest) : m (Except Failure RedemptionResult) :=
  if req.voucherCode.isEmpty then pure (.error (.cause .voucherNotFound)) else topUp now ctx req

end Services

end TopUpPromo
