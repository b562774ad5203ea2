import TopUpPromo.Proofs.Concurrent.Machine

/-!
# The stages of a top-up and of a voucher check

A top-up (or a redemption, which refuses an empty code first), run as a thread, passes through
the points named by `TopUpStage`: the transaction id, then either the payment of the full
amount or the transaction that finds the voucher, locks it, reads it, and either expires it or
charges the discounted amount and marks the voucher and its participation used, and the end of
that transaction. A voucher check passes through `CheckStage`: the read of the voucher outside
any transaction and, for an active voucher past its expiry, the transaction that locks it, reads
it again and expires it. Each stage carries what the program has read so far; `TopUpStage.move`
and `CheckStage.move` say which call each stage makes and where each answer leads.

The main results, `TopUpStage.follows_topUp`, `TopUpStage.follows_redeem` and
`CheckStage.follows_validateVoucher`, say that the programs follow these machines from their
first stages.
-/

namespace TopUpPromo
namespace Concurrent

/-- A request that uses or checks vouchers: a top-up, `named` when an empty code is refused as a
redemption refuses it, or a check of a code. -/
inductive Redemption where
  | topUp (now : Instant) (ctx : Ctx) (req : TopUpRequest) (named : Bool)
  | check (now : Instant) (ctx : Ctx) (code : String)

namespace Redemption

/-- The request a thread serves for it. -/
def request : Redemption → Request
  | .topUp now ctx req false => .topUp now ctx req
  | .topUp now ctx req true => .redeem now ctx req
  | .check now ctx code => .validateVoucher now ctx code

def code : Redemption → String
  | .topUp _ _ req _ => req.voucherCode
  | .check _ _ code => code

def now : Redemption → Instant
  | .topUp now _ _ _ => now
  | .check now _ _ => now

end Redemption

/-- The points of a top-up, with what the program has read at each. -/
inductive TopUpStage where
  | start
  | paying (txId : String)
  | opening (txId : String)
  | finding (txId : String)
  | locking (txId : String) (vid : Int)
  | reading (txId : String) (vid : Int)
  | expiring (txId : String) (v : Voucher)
  | closing (txId : String) (v : Voucher)
  | charging (txId : String) (v : Voucher)
  | marking (txId : String) (v : Voucher)
  | settling (txId : String) (v : Voucher)
  | committing (txId : String) (used : Option Voucher)
  | aborting (txId : String) (failure : Failure)
  | finished (result : Except Failure RedemptionResult)

namespace TopUpStage

variable (now : Instant) (ctx : Ctx) (req : TopUpRequest)

def method : String := if req.method.isEmpty then defaultPaymentMethod else req.method

def base (txId : String) : RedemptionResult :=
  ⟨txId, req.amount, 0, req.amount, req.phone, req.voucherCode, ""⟩

/-- The discount voucher `v` gives the top-up. -/
def discount (v : Voucher) : Discount :=
  Discount.compute req.amount v.discountPercentage v.maxDiscount

def usage (txId : String) (v : Voucher) : Usage :=
  ⟨now, req.amount, (discount req v).discount, txId⟩

def lockFailure (e : Failure) : Failure :=
  if e.hasCause .storeNotFound then .cause .voucherNotFound else .within "failed to lock voucher" e

def outcome (txId : String) : Except Failure (Option Discount) → Except Failure RedemptionResult
  | .error e => .error (lockWaitFailure e)
  | .ok none => .error (.cause .voucherInvalidOrExpired)
  | .ok (some d) => .ok { base req txId with
      discountAmount := d.discount, finalAmount := d.final,
      message := "Top-up successful! You saved " ++ d.discount.toFixed 2 ++ " with your voucher." }

def afterRead (txId : String) (v : Voucher) : TopUpStage :=
  if v.userId != req.userId then .aborting txId (.cause .voucherNotOwned)
  else if !v.isValid now then
    if v.status != .active || !v.isExpired now then .committing txId none else .expiring txId v
  else if req.amount < v.minTopup then .aborting txId (.belowMinimum v.minTopup)
  else .charging txId v

/-- The call each stage makes and the stage each answer leads to; `named` refuses an empty
code. -/
def move (named : Bool) : TopUpStage → Move TopUpStage Reply
  | .start =>
    if named && req.voucherCode.isEmpty then .stop (.toppedUp (.error (.cause .voucherNotFound)))
    else if !validAmount req.amount then .stop (.toppedUp (.error (.cause .invalidAmount)))
    else .call .nextSuffix fun suffix =>
      if req.voucherCode.isEmpty then .paying (transactionId now suffix)
      else .opening (transactionId now suffix)
  | .paying txId => .call (.confirmPayment ctx ⟨req.phone, req.amount, txId, method req⟩) fun
    | .error e => .finished (.error (.joined .paymentFailed e.text))
    | .ok false => .finished (.error (.cause .paymentFailed))
    | .ok true => .finished (.ok { base req txId with message := "Top-up successful!" })
  | .opening txId => .call .begin fun _ => .finding txId
  | .finding txId => .call (.findVoucher req.voucherCode) fun
    | .error e => .aborting txId (lockFailure e)
    | .ok vid => .locking txId vid
  | .locking txId vid => .call (.lock ctx (.voucher req.voucherCode)) fun
    | .error e => .aborting txId (lockFailure e)
    | .ok () => .reading txId vid
  | .reading txId vid => .call (.readVoucher vid) fun
    | .error e => .aborting txId (lockFailure e)
    | .ok v => afterRead now req txId v
  | .expiring txId v => .call (.markVoucherExpired v.id) fun
    | .error e => .aborting txId (.within "failed to expire voucher" e)
    | .ok () => .closing txId v
  | .closing txId v => .call (.updateParticipationStatus v.participationId .expired now) fun
    | .error e => .aborting txId (.within "failed to expire participation" e)
    | .ok () => .committing txId none
  | .charging txId v =>
    .call (.confirmPayment ctx ⟨req.phone, (discount req v).final, txId, method req⟩) fun
    | .error e => .aborting txId (.joined .paymentFailed e.text)
    | .ok false => .aborting txId (.cause .paymentFailed)
    | .ok true => .marking txId v
  | .marking txId v => .call (.markVoucherUsed v.id (usage now req txId v)) fun
    | .error e => .aborting txId
        (if e.hasCause .storeStale then .cause .voucherInvalidOrExpired
        else .within "failed to mark voucher used" e)
    | .ok () => .settling txId v
  | .settling txId v => .call (.updateParticipationStatus v.participationId .voucherUsed now) fun
    | .error e => .aborting txId (.within "failed to mark participation voucher used" e)
    | .ok () => .committing txId (some v)
  | .committing txId used => .call (.finish ctx (.ok ())) fun a =>
    .finished (outcome req txId (a.bind fun _ => .ok (used.map (discount req))))
  | .aborting txId f => .call (.finish ctx (.error f)) fun a =>
    .finished (outcome req txId (a.bind fun _ => .error f))
  | .finished r => .stop (.toppedUp r)

def afterLock (txId : String) : Except Failure Voucher → TopUpStage
  | .error e => .aborting txId (lockFailure e)
  | .ok v => afterRead now req txId v

def BodyEnds (txId : String) : Except Failure (Option Discount) → TopUpStage → Prop
  | .error f, s => s = .aborting txId f
  | .ok d, s => ∃ used, s = .committing txId used ∧ d = used.map (discount req)

open Program

variable {now ctx req} {named : Bool}

theorem runs_lockVoucher (txId : String) :
    (PromotionStore.lockVoucher ctx req.voucherCode : Program (Except Failure Voucher)).Runs
      (move now ctx req named) (fun r s => s = afterLock now req txId r) (.finding txId) := by
  refine runs_call _ rfl fun a => ?_
  rcases a with e | vid
  · exact runs_done rfl
  refine runs_call _ rfl fun a => ?_
  rcases a with e | _
  · exact runs_done rfl
  refine runs_call _ rfl fun a => ?_
  rcases a with e | v <;> exact runs_done rfl

theorem runs_useVoucher (txId : String) :
    (useVoucher now ctx req txId (method req) : ExceptT Failure Program (Option Discount)).run.Runs
      (move now ctx req named) (BodyEnds req txId) (.finding txId) := by
  refine runs_tryStore_bind (runs_lockVoucher txId) fun r s hs => ?_
  subst hs
  rcases r with e | v
  · by_cases h : e.hasCause .storeNotFound = true
    · simp only [h, if_true]
      exact runs_done (by simp [BodyEnds, afterLock, lockFailure, h])
    · simp only [h]
      exact runs_done (by simp [BodyEnds, afterLock, lockFailure, h])
  -- the checks of the voucher read, in the order the machine makes them
  refine runs_pure_bind ?_
  dsimp only
  simp only [afterLock, afterRead]
  by_cases howner : (v.userId != req.userId) = true
  · simp only [if_pos howner]
    exact runs_throw_bind rfl
  simp only [if_neg howner]
  by_cases hvalid : (!v.isValid now) = true
  · -- an unusable voucher is expired when it is active and past its expiry
    simp only [if_pos hvalid, expireVoucher]
    by_cases hkeep : (v.status != .active || !v.isExpired now) = true
    · simp only [if_pos hkeep]
      exact runs_pure_bind (runs_done ⟨none, rfl, rfl⟩)
    simp only [if_neg hkeep]
    refine runs_call _ rfl fun a => ?_
    rcases a with e | _
    · exact runs_done rfl
    refine runs_call _ rfl fun a => ?_
    rcases a with e | _
    · exact runs_done rfl
    exact runs_done ⟨none, rfl, rfl⟩
  simp only [if_neg hvalid]
  by_cases hmin : req.amount < v.minTopup
  · simp only [if_pos hmin]
    exact runs_throw_bind rfl
  simp only [if_neg hmin]
  -- the payment, then the voucher and its participation marked used
  refine runs_call _ rfl fun a => ?_
  rcases a with e | _ | _
  · exact runs_done rfl
  · exact runs_done rfl
  refine runs_call _ rfl fun a => ?_
  rcases a with e | _
  · by_cases hstale : e.hasCause .storeStale = true
    · simp only [done_bind, Function.comp_apply, ExceptT.bindCont, hstale, if_true]
      exact runs_done rfl
    · simp only [done_bind, Function.comp_apply, ExceptT.bindCont, hstale, Bool.false_eq_true,
        if_false]
      exact runs_done rfl
  refine runs_call _ rfl fun a => ?_
  rcases a with e | _
  · exact runs_done rfl
  exact runs_done ⟨some v, rfl, rfl⟩

theorem runs_topUp (hnamed : (named && req.voucherCode.isEmpty) = false) :
    (topUp now ctx req : Program (Except Failure RedemptionResult)).Runs (move now ctx req named)
      (fun r s => move now ctx req named s = .stop (.toppedUp r)) .start := by
  unfold topUp
  by_cases hamount : (!validAmount req.amount) = true
  · simp only [if_pos hamount]
    exact runs_throw_bind (by simp [move, hnamed, hamount])
  simp only [if_neg hamount]
  refine runs_pure_bind ?_
  have hstart : move now ctx req named .start = .call .nextSuffix fun suffix =>
      if req.voucherCode.isEmpty then .paying (transactionId now suffix)
      else .opening (transactionId now suffix) := by
    simp [move, hnamed, hamount]
  refine runs_call _ hstart fun suffix => ?_
  dsimp only
  by_cases hempty : req.voucherCode.isEmpty = true
  · -- no voucher: the full amount is charged
    simp only [if_pos hempty]
    refine runs_call _ rfl fun a => ?_
    rcases a with e | _ | _ <;> exact runs_done rfl
  -- the voucher transaction, then the answer from its outcome
  simp only [if_neg hempty]
  have htx : (PromotionStore.withTx ctx
      (useVoucher now ctx req (transactionId now suffix) (method req)).run :
        Program (Except Failure (Option Discount))).Runs (move now ctx req named)
      (fun r s => s = .finished (outcome req (transactionId now suffix) r))
      (.opening (transactionId now suffix)) := by
    refine runs_withTx rfl (runs_useVoucher _) fun r s hs => ?_
    rcases r with f | d
    · subst hs
      exact ⟨_, rfl, fun _ => rfl⟩
    · obtain ⟨used, rfl, rfl⟩ := hs
      exact ⟨_, rfl, fun _ => rfl⟩
  refine runs_tryStore_bind htx fun r s hs => ?_
  subst hs
  rcases r with e | _ | d <;> exact runs_done rfl

/-- A thread serving a top-up follows the machine from its first stage. -/
theorem follows_topUp :
    (Request.topUp now ctx req).program.Follows (move now ctx req false) .start := by
  show ((TopUpPromo.topUp now ctx req : Program _).bind fun r =>
    .done (Reply.toppedUp r)).Runs _ _ _
  exact runs_bind (runs_topUp rfl) fun r s hs => runs_done hs

/-- A thread serving a redemption follows the machine from its first stage, which refuses an
empty code. -/
theorem follows_redeem :
    (Request.redeem now ctx req).program.Follows (move now ctx req true) .start := by
  show ((TopUpPromo.redeem now ctx req : Program _).bind fun r =>
    .done (Reply.toppedUp r)).Runs _ _ _
  by_cases hempty : req.voucherCode.isEmpty = true
  · simp only [redeem, if_pos hempty]
    exact runs_done (by simp [move, hempty])
  · simp only [redeem, if_neg hempty]
    exact runs_bind (runs_topUp (by simp [hempty])) fun r s hs => runs_done hs

theorem follows_request (named : Bool) :
    (Redemption.topUp now ctx req named).request.program.Follows (move now ctx req named)
      .start := by
  cases named with
  | false => exact follows_topUp
  | true => exact follows_redeem

end TopUpStage

/-- The points of a voucher check, with what the program has read at each. -/
inductive CheckStage where
  | start
  | opening
  | finding
  | locking (vid : Int)
  | reading (vid : Int)
  | expiring (v : Voucher)
  | closing (v : Voucher)
  | committing (v : Voucher)
  | aborting (failure : Failure)
  | finished (result : Except Failure Voucher)

namespace CheckStage

variable (now : Instant) (ctx : Ctx) (code : String)

def outcome : Except Failure Voucher → Except Failure Voucher
  | .error e => .error (lockWaitFailure e)
  | .ok v => .ok v

/-- The call each stage makes and the stage each answer leads to. -/
def move : CheckStage → Move CheckStage Reply
  | .start => .call (.getVoucherByCode code) fun
    | .error e => .finished (.error
        (if e.hasCause .storeNotFound then .cause .voucherNotFound
        else .within "failed to get voucher" e))
    | .ok v => if v.status != .active || !v.isExpired now then .finished (.ok v) else .opening
  | .opening => .call .begin fun _ => .finding
  | .finding => .call (.findVoucher code) fun
    | .error e => .aborting e
    | .ok vid => .locking vid
  | .locking vid => .call (.lock ctx (.voucher code)) fun
    | .error e => .aborting e
    | .ok () => .reading vid
  | .reading vid => .call (.readVoucher vid) fun
    | .error e => .aborting e
    | .ok v => if v.status != .active || !v.isExpired now then .committing v else .expiring v
  | .expiring v => .call (.markVoucherExpired v.id) fun
    | .error e => .aborting (.within "failed to expire voucher" e)
    | .ok () => .closing v
  | .closing v => .call (.updateParticipationStatus v.participationId .expired now) fun
    | .error e => .aborting (.within "failed to expire participation" e)
    | .ok () => .committing { v with status := .expired }
  | .committing v => .call (.finish ctx (.ok ())) fun a =>
    .finished (outcome (a.bind fun _ => .ok v))
  | .aborting f => .call (.finish ctx (.error f)) fun a =>
    .finished (outcome (a.bind fun _ => .error f))
  | .finished r => .stop (.validated r)

def afterLock : Except Failure Voucher → CheckStage
  | .error e => .aborting e
  | .ok v => if v.status != .active || !v.isExpired now then .committing v else .expiring v

def BodyEnds : Except Failure Voucher → CheckStage → Prop
  | .error f, s => s = .aborting f
  | .ok v, s => s = .committing v

open Program

variable {now ctx code}

theorem runs_lockVoucher :
    (PromotionStore.lockVoucher ctx code : Program (Except Failure Voucher)).Runs
      (move now ctx code) (fun r s => s = afterLock now r) .finding := by
  refine runs_call _ rfl fun a => ?_
  rcases a with e | vid
  · exact runs_done rfl
  refine runs_call _ rfl fun a => ?_
  rcases a with e | _
  · exact runs_done rfl
  refine runs_call _ rfl fun a => ?_
  rcases a with e | v <;> exact runs_done rfl

theorem runs_body :
    ((do
        let locked ← liftStore (PromotionStore.lockVoucher ctx code)
        expireVoucher ctx locked now : ExceptT Failure Program Voucher)).run.Runs
      (move now ctx code) BodyEnds .finding := by
  refine runs_liftStore_bind runs_lockVoucher (fun e s hs => hs) fun v s hs => ?_
  subst hs
  simp only [afterLock, expireVoucher]
  by_cases hkeep : (v.status != .active || !v.isExpired now) = true
  · simp only [if_pos hkeep]
    exact runs_done rfl
  simp only [if_neg hkeep]
  refine runs_call _ rfl fun a => ?_
  rcases a with e | _
  · exact runs_done rfl
  refine runs_call _ rfl fun a => ?_
  rcases a with e | _
  · exact runs_done rfl
  exact runs_done rfl

theorem runs_validateVoucher :
    (validateVoucher now ctx code : Program (Except Failure Voucher)).Runs (move now ctx code)
      (fun r s => s = .finished r) .start := by
  unfold validateVoucher
  refine runs_tryStore_bind (runs_call _ rfl fun a => runs_done rfl) fun r s hs => ?_
  subst hs
  rcases r with e | v
  · by_cases h : e.hasCause .storeNotFound = true
    · simp only [h, if_true]
      exact runs_done rfl
    · simp only [h, Bool.false_eq_true, if_false]
      exact runs_done rfl
  dsimp only
  by_cases hkeep : (v.status != .active || !v.isExpired now) = true
  · simp only [if_pos hkeep]
    exact runs_done rfl
  simp only [if_neg hkeep]
  have htx : (PromotionStore.withTx ctx
      (do
        let locked ← liftStore (PromotionStore.lockVoucher ctx code)
        expireVoucher ctx locked now : ExceptT Failure Program Voucher).run :
        Program (Except Failure Voucher)).Runs (move now ctx code)
      (fun r s => s = .finished (outcome r)) .opening := by
    refine runs_withTx rfl runs_body fun r s hs => ?_
    rcases r with f | v <;>
    · subst hs
      exact ⟨_, rfl, fun _ => rfl⟩
  refine runs_tryStore_bind htx fun r s hs => ?_
  subst hs
  rcases r with e | v <;> exact runs_done rfl

/-- A thread serving a voucher check follows the machine from its first stage. -/
theorem follows_validateVoucher :
    (Request.validateVoucher now ctx code).program.Follows (move now ctx code) .start := by
  show ((TopUpPromo.validateVoucher now ctx code : Program _).bind fun r =>
    .done (Reply.validated r)).Runs _ _ _
  refine runs_bind runs_validateVoucher fun r s hs => ?_
  subst hs
  exact runs_done rfl

end CheckStage

end Concurrent
end TopUpPromo
