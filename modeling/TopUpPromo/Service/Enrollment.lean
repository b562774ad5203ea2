import TopUpPromo.Service.Effects

/-!
# Enrollment

A first login enrolls the user into a first-login campaign: the campaign named by the request,
or else the newest active one. A user is admitted at most once over all first-login campaigns.
The campaign must accept participants both when it is first read and again once it is locked;
the participant's order is the locked counter plus one, and the first `threshold` participants
also receive a voucher, issued in the same transaction.

Business rejections are answers (`EnrollResult` with a `Reason`), not failures; failures are
what the store or the code source reports, with a lock wait that ran out reported as the
service's lock timeout.

## Main definitions

- `Reason`, `EnrollRequest`, `EnrollResult`, `EnrollResult.rejected`, `EnrollResult.failure?`.
- `Enrollment.seat`, `Voucher.issue`: the rows an admission writes.
- `issueVoucher`: a voucher for a new participation, retrying on code collisions.
- `takeSlot`, `Enrollment.settle`, `enroll`.
-/

namespace TopUpPromo

/-- Why an enrollment was rejected. -/
inductive Reason where
  | alreadyParticipated
  | noActiveCampaign
  | campaignFull
  deriving DecidableEq, Repr

namespace Reason

def text : Reason → String
  | .alreadyParticipated => "already_participated"
  | .noActiveCampaign => "no_active_campaign"
  | .campaignFull => "campaign_full"

/-- The failure a rejection stands for. -/
def cause : Reason → Cause
  | .alreadyParticipated => .alreadyParticipated
  | .noActiveCampaign => .noActiveCampaign
  | .campaignFull => .campaignFull

end Reason

/-- A first login to admit; `campaignId` pins the campaign. -/
structure EnrollRequest where
  userId : Int
  campaignId : Option Int
  deriving Repr

/-- The answer to an enrollment, with a message for the user in every case. -/
structure EnrollResult where
  eligible : Bool
  reason : Option Reason
  campaignId : Int
  campaignName : String
  order : Int32
  remainingSlots : Int32
  voucherCode : String
  message : String
  deriving Repr

namespace EnrollResult

/-- The answer for a rejection. -/
def rejected (r : Reason) : EnrollResult :=
  let message := match r with
    | .alreadyParticipated => "User has already participated in a promotion campaign"
    | .noActiveCampaign => "No active promotion campaigns available or campaign is full"
    | .campaignFull => "Campaign is full"
  ⟨false, some r, 0, "", 0, 0, "", message⟩

/-- The failure a rejected answer stands for; none for an admission. -/
def failure? (r : EnrollResult) : Option Failure := r.reason.map (Failure.cause ∘ Reason.cause)

end EnrollResult

/-- How enrollment is set up: the number of leading participants who get a voucher, the code
attempts per voucher, and the clock. -/
structure Enrollment where
  threshold : Int32
  attempts : Nat
  now : Instant

def defaultThreshold : Int32 := 100

/-- The participation a request takes in a locked campaign: the next order, eligible for now. -/
def Enrollment.seat (cfg : Enrollment) (req : EnrollRequest) (locked : Campaign) :
    Participation :=
  { id := 0, userId := req.userId, campaignId := locked.id, status := .eligible,
    firstLoginAt := cfg.now, voucherIssuedAt := none, voucherUsedAt := none,
    order := locked.currentParticipants + 1 }

/-- An active voucher with a code for participation `p` of campaign `c`, issued at `now`: it
copies the campaign's discount policy and expires after the campaign's validity days. -/
def Voucher.issue (now : Instant) (p : Participation) (c : Campaign) (code : String) : Voucher :=
  { id := 0, code := code, participationId := p.id, kind := mobileTopupDiscount,
    status := .active, discountPercentage := c.discountPercentage,
    minTopup := c.minTopup, maxDiscount := c.maxDiscount, issuedAt := now,
    expiresAt := now.addDays c.voucherValidityDays, usedAt := none, usedAmount := none,
    discountAmount := none, reference := none, userId := p.userId }

section Services

variable {m : Type → Type} [Monad m] [PromotionStore m] [CodeSource m]

/-- Creates an active voucher for participation `p` of campaign `c`, copying the campaign's
discount policy, and marks the participation as issued. A code that is taken is skipped; after
`attempts` taken codes the issue fails. -/
def issueVoucher (attempts : Nat) (now : Instant) (ctx : Ctx) (p : Participation)
    (c : Campaign) : ExceptT Failure m Voucher :=
  go attempts
where
  go : Nat → ExceptT Failure m Voucher
    | 0 => throw (.followedBy (.cause .voucherCodeExhausted)
        (" after " ++ toString attempts ++ " attempts"))
    | k + 1 => do
      let code ← liftWithin "failed to generate voucher code" (CodeSource.nextCode (m := m))
      let v := Voucher.issue now p c code
      match ← tryStore (PromotionStore.createVoucher ctx v) with
      | .error e =>
        if e.hasCause .storeConflict then go k
        else throw (.within "failed to create voucher" e)
      | .ok id =>
        liftWithin "failed to mark voucher issued"
          (PromotionStore.updateParticipationStatus ctx p.id .voucherIssued now)
        pure { v with id := id }

/-- What an admission inside the transaction yields: the order, the slots left and the code
of the voucher, if one was issued. -/
structure Admission where
  order : Int32
  remaining : Int32
  voucherCode : Option String

/-- The answer to an admission into `campaign`, from the outcome of its transaction: a
rejection the transaction ran into is an answer, any other failure is the enrollment's own,
with a lock wait that ran out reported as the service's lock timeout. -/
def Enrollment.settle (cfg : Enrollment) (campaign : Campaign) :
    Except Failure Admission → Except Failure EnrollResult
  | .error e =>
    if e.hasCause .campaignFull then .ok (.rejected .campaignFull)
    else if e.hasCause .noActiveCampaign then .ok (.rejected .noActiveCampaign)
    else if e.hasCause .alreadyParticipated then .ok (.rejected .alreadyParticipated)
    else .error (lockWaitFailure e)
  | .ok a =>
    let message := match a.voucherCode with
      | some _ =>
        "Congratulations! You're participant #" ++ toString a.order.toInt ++
          ". Your discount voucher has been issued."
      | none =>
        "You're participant #" ++ toString a.order.toInt ++
          ". Unfortunately, vouchers are only available for the first " ++
          toString cfg.threshold.toInt ++ " participants."
    .ok ⟨true, none, campaign.id, campaign.name, a.order, a.remaining, a.voucherCode.getD "",
      message⟩

/-- The transaction of an admission: lock the campaign, check it again, create the
participation, move the counter and issue the voucher. -/
def takeSlot (cfg : Enrollment) (ctx : Ctx) (req : EnrollRequest) (campaign : Campaign) :
    ExceptT Failure m Admission := do
  let locked ← liftWithin "failed to lock campaign" (PromotionStore.lockCampaign ctx campaign.id)
  if locked.remainingSlots == 0 || locked.status == .full then throw (.cause .campaignFull)
  if !locked.acceptsParticipants cfg.now then throw (.cause .noActiveCampaign)
  let order := locked.currentParticipants + 1
  let p0 := cfg.seat req locked
  let id ← match ← tryStore (PromotionStore.createParticipation ctx p0) with
    | .error e =>
      if e.hasCause .storeConflict then throw (.cause .alreadyParticipated)
      else throw (.within "failed to create participation" e)
    | .ok id => pure id
  let p := { p0 with id := id }
  let status : CampaignStatus := if order ≥ locked.maxParticipants then .full else .active
  liftWithin "failed to update campaign participants"
    (PromotionStore.updateCampaignParticipants ctx locked.id order status)
  let remaining := locked.maxParticipants - order
  if p.withinThreshold cfg.threshold then
    let v ← issueVoucher cfg.attempts cfg.now ctx p locked
    pure ⟨order, remaining, some v.code⟩
  else pure ⟨order, remaining, none⟩

/-- Admits the user into the target campaign, or says why not. -/
def enroll (cfg : Enrollment) (ctx : Ctx) (req : EnrollRequest) : m (Except Failure EnrollResult) :=
  ExceptT.run do
  let participated ← liftWithin "failed to check participation"
    (PromotionStore.hasParticipation ctx req.userId firstLoginDiscount)
  if participated then return .rejected .alreadyParticipated
  let target ← tryStore (match req.campaignId with
    | some id => PromotionStore.getCampaign ctx id
    | none => PromotionStore.findLatestActiveCampaign ctx firstLoginDiscount)
  match target with
  | .error e =>
    if e.hasCause .storeNotFound then return .rejected .noActiveCampaign
    else throw (.within "failed to find active campaign" e)
  | .ok campaign =>
  if campaign.kind != firstLoginDiscount || !campaign.acceptsParticipants cfg.now then
    return .rejected .noActiveCampaign
  let outcome ← tryStore (PromotionStore.withTx ctx (takeSlot cfg ctx req campaign).run)
  liftResult (cfg.settle campaign outcome)

end Services

end TopUpPromo
