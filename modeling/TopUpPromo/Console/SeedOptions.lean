import TopUpPromo.Console.Input
import TopUpPromo.Seed
import TopUpPromo.Sandbox.View

/-!
# Seed options on the console

Seed options are read from an object whose members override the defaults: `name`,
`max_participants`, `discount_percentage`, `min_topup_amount`, `max_discount_amount` (`null`
for no cap; an absent member keeps the default cap), `voucher_validity_days` and
`duration_seconds` (at most `durationSecondsBound` either way). Options that are no object are
refused. The `seed_options` request answers whether the options are valid and the
campaign they describe.
-/

namespace TopUpPromo
namespace Console

/-- The largest number of seconds a duration may be given as, either way. -/
def durationSecondsBound : Int := 9000000000

def seedOptionsOf (j : Json) : Decode SeedOptions := do
  let d := SeedOptions.defaults
  match j with
  | .obj _ | .null => pure ()
  | _ => .error "field options has the wrong type"
  let name ← fieldOr j "name" stringOf d.name
  let maxP ← fieldOr j "max_participants" (fun k => intOf k 32) d.maxParticipants.toInt
  let pct ← fieldOr j "discount_percentage" decimalOf d.discountPercentage
  let minT ← fieldOr j "min_topup_amount" decimalOf d.minTopup
  let cap ← if j.has "max_discount_amount" then optField j "max_discount_amount" decimalOf
    else pure d.maxDiscount
  let days ← fieldOr j "voucher_validity_days" (fun k => intOf k 64) d.voucherValidityDays
  let duration ← match j.field? "duration_seconds" with
    | none => pure d.duration
    | some .null => pure d.duration
    | some v => do
      let secs ← intOf "duration_seconds" 64 v
      if secs.natAbs > durationSecondsBound.natAbs then .error "duration_seconds out of range"
      pure (wrapInt64 (secs * 1000000000))
  pure ⟨name, maxP.toInt32, pct, minT, cap, days, duration⟩

def seedOptionsAnswer (j : Json) : Decode Json := do
  let now ← fieldOr j "now" timeOf defaultNow
  let o ← seedOptionsOf ((j.field? "options").getD (.obj []))
  pure (.obj [("valid", .bool o.problem?.isNone),
    ("validation_error", .optional .str o.problem?),
    ("campaign", Sandbox.campaignRow (seededCampaign now o))])

end Console
end TopUpPromo
