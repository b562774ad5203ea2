import TopUpPromo.Command.Basic
import TopUpPromo.Sandbox.Steps

/-!
# The seeder

The seeder makes sure a first-login campaign is running. Its flags set the campaign's options
(`-name`, `-max-participants`, `-discount`, `-min-topup`, `-max-discount`, `-validity-days`,
`-duration`), all defaulting to the standard campaign; a discount cap that is not positive
means no cap. Decimal flags that do not read end the seeder with a fatal entry naming the flag.

It connects to the database under a 30-second context and then, unless `-force` is given,
creates the campaign only when no active first-login campaign exists; with `-force` it always
creates one. The campaign starts at the machine's clock.

## Main definitions

- `seederFlags`, `seeder`.
-/

namespace TopUpPromo
namespace Command

open Deployment Sandbox

/-- The seeder's flags. -/
def seederFlags : List FlagSpec :=
  [⟨"name", .text⟩, ⟨"max-participants", .int⟩, ⟨"discount", .text⟩, ⟨"min-topup", .text⟩,
   ⟨"max-discount", .text⟩, ⟨"validity-days", .int⟩, ⟨"duration", .span⟩, ⟨"force", .bool⟩]

def seederDeadline : Deadline := some 30000

def decimalFlag (log : Logger) (flags : Assignment) (flag default : String) :
    SiteM (Option Decimal) := do
  let value := flags.text flag default
  match Decimal.read? value with
  | .ok d => return some d
  | .error e =>
    Site.log log .fatal "invalid decimal flag"
      [("flag", .str flag), ("value", .str value), ("error", .str e.message)]
    return none

def seederOptions (log : Logger) (flags : Assignment) : SiteM (Option SeedOptions) := do
  let d := SeedOptions.defaults
  let some pct ← decimalFlag log flags "discount" d.discountPercentage.toText | return none
  let some minTopup ← decimalFlag log flags "min-topup" d.minTopup.toText | return none
  let some cap ← decimalFlag log flags "max-discount" ((d.maxDiscount.getD 0).toText) | return none
  let capacity := (flags.int "max-participants" d.maxParticipants.toInt).toInt32
  return some ⟨flags.text "name" d.name, capacity, pct, minTopup,
    if 0 < cap.sign then some cap else none, flags.int "validity-days" d.voucherValidityDays,
    flags.span "duration" d.duration⟩

def logCreated (log : Logger) (c : Campaign) : SiteM Unit :=
  Site.log log .info "campaign created"
    [("campaign_id", .ofInt c.id), ("name", .str c.name),
     ("max_participants", .ofInt c.maxParticipants.toInt)]

def seedCampaign (cfg : Config) (log : Logger) (force : Bool) (o : SeedOptions) :
    SiteM (Except Failure Unit) := do
  let ctx ← ctxAt seederDeadline
  let w := servicesWorld cfg (.database {} (storeLockTimeoutMs cfg.database))
  if force then
    let (r, _) ← Site.runServices w (createSeededCampaign ctx machineClock o)
    match r with
    | .error f => return .error f
    | .ok c =>
      logCreated log c
      return .ok ()
  else
    let (r, _) ← Site.runServices w (ensureSeededCampaign ctx machineClock o)
    match r with
    | .error f => return .error f
    | .ok (c, true) =>
      logCreated log c
      return .ok ()
    | .ok (c, false) =>
      Site.log log .info "active campaign already present" [("campaign_id", .ofInt c.id)]
      return .ok ()

/-- The seeder on a command line and an environment. -/
def seeder (env : Env) (args : List String) : SiteM Ending :=
  withFlags "seeder" seederFlags args fun flags =>
  withConfig env fun cfg => do
    let log := (Logger.ofConfig (some cfg)).named "seeder"
    let some o ← seederOptions log flags | return .exit 1
    match ← newPostgres seederDeadline cfg log with
    | .error f => fatal log "failed to connect to database" [errorField f]
    | .ok () =>
      match ← seedCampaign cfg log (flags.bool "force" false) o with
      | .error f => fatal log "failed to seed campaign" [errorField f]
      | .ok () => return .exit 0

end Command
end TopUpPromo
