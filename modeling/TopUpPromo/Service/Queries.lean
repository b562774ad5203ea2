import TopUpPromo.Service.Enrollment
import TopUpPromo.Text.Quote

/-!
# Read projections

The read side answers without changing anything. Expiry is evaluated lazily here: an active
voucher past its expiry reads as expired, an eligible participation whose campaign has ended
reads as expired, and an issued one whose vouchers have all lapsed does too. The rows themselves
change only through a validation or a top-up.

Eligibility looks at every active first-login campaign, newest first, while an unpinned
enrollment targets the newest one only.

## Main definitions

- `EligibilityResult`, `checkEligibility`.
- `listVouchers`, `ParticipationView`, `listParticipations`, `effectiveStatus`.
- `listActiveCampaigns`, `getCampaign`.
-/

namespace TopUpPromo

/-- Whether a user may still enroll, and where. -/
structure EligibilityResult where
  eligible : Bool
  reason : Option Reason
  campaignId : Int
  campaignName : String
  remainingSlots : Int32
  message : String
  deriving Repr

/-- The status a participation reads as at `now`, given its vouchers as read at `now`. -/
def effectiveStatus (p : JoinedParticipation) (now : Instant) (vouchers : List Voucher) :
    ParticipationStatus :=
  match p.row.status with
  | .eligible =>
    match p.campaignEnd with
    | some e => if !e.isZero && !now.before e then .expired else .eligible
    | none => .eligible
  | .voucherIssued =>
    if vouchers.isEmpty then .voucherIssued
    else if vouchers.all (fun v => v.status == .expired || (v.status == .active && v.isExpired now))
    then .expired
    else .voucherIssued
  | s => s

/-- A participation with its vouchers, its effective status and whether its order is within
the voucher threshold. -/
structure ParticipationView where
  joined : JoinedParticipation
  status : ParticipationStatus
  inVoucherWindow : Bool
  vouchers : List Voucher

section Services

variable {m : Type → Type} [Monad m] [PromotionStore m]

/-- Whether the user has not participated yet and some active first-login campaign is open with
a slot left. -/
def checkEligibility (now : Instant) (ctx : Ctx) (userId : Int) :
    m (Except Failure EligibilityResult) := ExceptT.run do
  let participated ← liftWithin "failed to check participation"
    (PromotionStore.hasParticipation ctx userId firstLoginDiscount)
  if participated then
    return ⟨false, some .alreadyParticipated, 0, "", 0,
      "User has already participated in a promotion campaign"⟩
  let campaigns ← liftWithin "failed to list active campaigns"
    (PromotionStore.listActiveCampaigns ctx)
  match campaigns.find? (fun c => c.kind == firstLoginDiscount && c.acceptsParticipants now) with
  | some c =>
    return ⟨true, none, c.id, c.name, c.remainingSlots,
      "You are eligible for the " ++ Text.quote c.name ++ " promotion. " ++
        toString c.remainingSlots.toInt ++ " slots remaining."⟩
  | none =>
    return ⟨false, some .noActiveCampaign, 0, "", 0,
      "No active promotion campaigns available or all campaigns are full"⟩

/-- The user's vouchers, newest first, with lapsed active ones reading as expired. -/
def listVouchers (now : Instant) (ctx : Ctx) (userId : Int) : m (Except Failure (List Voucher)) :=
  ExceptT.run do
  let vouchers ← liftWithin "failed to list vouchers" (PromotionStore.listVouchersByUser ctx userId)
  return vouchers.map fun v => { v with status := v.effectiveStatus now }

/-- The user's participations, newest first, each with its vouchers. -/
def listParticipations (threshold : Int32) (now : Instant) (ctx : Ctx) (userId : Int) :
    m (Except Failure (List ParticipationView)) := ExceptT.run do
  let participations ← liftWithin "failed to list participations"
    (PromotionStore.listParticipationsByUser ctx userId)
  let vouchers ← liftStore (listVouchers now ctx userId)
  return participations.map fun p =>
    let own := vouchers.filter (·.participationId == p.row.id)
    ⟨p, effectiveStatus p now own, p.row.withinThreshold threshold, own⟩

/-- The active campaigns, newest first. -/
def listActiveCampaigns (ctx : Ctx) : m (Except Failure (List Campaign)) :=
  ExceptT.run (liftWithin "failed to list active campaigns" (PromotionStore.listActiveCampaigns ctx))

/-- A campaign by id. -/
def getCampaign (ctx : Ctx) (id : Int) : m (Except Failure Campaign) := ExceptT.run do
  match ← tryStore (PromotionStore.getCampaign ctx id) with
  | .error e =>
    if e.hasCause .storeNotFound then throw (.cause .campaignNotFound)
    else throw (.within "failed to get campaign" e)
  | .ok c => return c

end Services

end TopUpPromo
