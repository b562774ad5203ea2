import TopUpPromo.Store.Basic
import TopUpPromo.Decimal.Text
import TopUpPromo.Time.Text

/-!
# Seeding campaigns

A seeded campaign is an active first-login campaign that starts now and runs for a given span.
Its options are checked before anything is stored, in this order, the first failure winning:
a name, a positive capacity, a discount percentage in `(0, 100]`, a minimum top-up that is not
negative, a voucher validity of at least one day and a positive span.

Ensuring a campaign creates one only when no active first-login campaign exists.

## Main definitions

- `SeedOptions`, `SeedOptions.defaults`, `SeedOptions.problem?`, `seededCampaign`.
- `CampaignWriter`: a store that can insert campaigns.
- `createSeededCampaign`, `ensureSeededCampaign`.
-/

namespace TopUpPromo

/-- The options of a seeded campaign. -/
structure SeedOptions where
  name : String
  maxParticipants : Int32
  discountPercentage : Decimal
  minTopup : Decimal
  maxDiscount : Option Decimal
  voucherValidityDays : Int
  /-- How long the campaign runs, in nanoseconds. -/
  duration : Int
  deriving Repr

namespace SeedOptions

/-- A 30% discount for the first thousand users, at least 10 and at most 50 off, for 30 days. -/
def defaults : SeedOptions :=
  ⟨"First Login Mobile Top-up Discount", 1000, 30, 10, some 50, 30,
    30 * 24 * 3600 * 1000000000⟩

/-- The first problem with the options, if any. -/
def problem? (o : SeedOptions) : Option String :=
  if o.name.isEmpty then some "campaign name is required"
  else if o.maxParticipants < 1 then
    some ("max participants must be positive, got " ++ toString o.maxParticipants.toInt)
  else if !(decide (0 < o.discountPercentage.sign)) || o.discountPercentage > 100 then
    some ("discount percentage must be within (0, 100], got " ++ o.discountPercentage.toText)
  else if o.minTopup.sign < 0 then
    some ("min top-up must not be negative, got " ++ o.minTopup.toText)
  else if o.voucherValidityDays < 1 then
    some ("voucher validity must be at least one day, got " ++ toString o.voucherValidityDays)
  else if o.duration ≤ 0 then
    some ("campaign duration must be positive, got " ++ durationText o.duration)
  else none

end SeedOptions

/-- The campaign the options describe, starting at `now`, not yet stored. -/
def seededCampaign (now : Instant) (o : SeedOptions) : Campaign :=
  { id := 0, name := o.name,
    description := o.discountPercentage.toText ++ "% off mobile top-up for the first " ++
      toString o.maxParticipants.toInt ++ " users to log in",
    kind := firstLoginDiscount, status := .active, startDate := now,
    endDate := now.addDuration o.duration, maxParticipants := o.maxParticipants,
    currentParticipants := 0, discountPercentage := o.discountPercentage,
    minTopup := o.minTopup, maxDiscount := o.maxDiscount,
    voucherValidityDays := o.voucherValidityDays, createdAt := .clock Instant.zero }

/-- A store that can insert campaigns; it answers the campaign as stored. -/
class CampaignWriter (m : Type → Type) where
  createCampaign : Ctx → Campaign → m (Except Failure Campaign)

section Seeding

variable {m : Type → Type} [Monad m] [PromotionStore m] [CampaignWriter m]

/-- Checks the options and inserts the campaign they describe. -/
def createSeededCampaign (ctx : Ctx) (now : Instant) (o : SeedOptions) :
    m (Except Failure Campaign) := do
  match o.problem? with
  | some p => return .error (.plain p)
  | none =>
    let r ← CampaignWriter.createCampaign ctx (seededCampaign now o)
    return r.mapError (.within "failed to create campaign")

/-- The newest active first-login campaign, or else a newly seeded one; the flag tells whether
it was created. -/
def ensureSeededCampaign (ctx : Ctx) (now : Instant) (o : SeedOptions) :
    m (Except Failure (Campaign × Bool)) := do
  match ← PromotionStore.findLatestActiveCampaign ctx firstLoginDiscount with
  | .ok c => return .ok (c, false)
  | .error e =>
    if !e.hasCause .storeNotFound then
      return .error (.within "failed to look up active campaign" e)
    let r ← createSeededCampaign ctx now o
    return r.map (·, true)

end Seeding

end TopUpPromo
