import TopUpPromo.Deployment.Connections
import TopUpPromo.Sandbox.World

/-!
# The promotion services of a deployment

A deployment builds the promotion services on the configured storage: in memory, or on the
site's database with the configured lock timeout. The services read the machine's clock, draw
voucher codes by number with the configured prefix, and charge a gateway that approves.

While the services run, the database they use is the site's: `Site.runServices` hands it to
them and takes it back afterwards, so the statements they send land in the site's log.

## Main definitions

- `storeLockTimeoutMs`, `servicesWorld`, `Site.runServices`.
-/

namespace TopUpPromo
namespace Deployment

open Sandbox

/-- The lock timeout a store gets from the configuration, in whole milliseconds; a timeout
that is not positive means none. -/
def storeLockTimeoutMs (c : DatabaseConfig) : Nat :=
  if c.lockTimeoutNanos > 0 then (c.lockTimeoutNanos.tdiv 1000000).toNat else 0

/-- The world the services of a configuration start in, on a storage. -/
def servicesWorld (cfg : Config) (storage : Storage) : World :=
  { storage := storage, now := machineClock, wallClock := machineClock,
    codePrefix := cfg.promotion.codePrefix, gateway := ⟨.approve, 0⟩, publisher := .absent }

/-- Runs the services on the site: a world on the database gets the site's database first and
gives it back after. -/
def Site.runServices {α : Type} (w : World) (act : SandboxM α) : SiteM (α × World) :=
  modifyGet fun s =>
    let w := match w.storage with
      | .database _ t => { w with storage := .database s.db t }
      | .memory _ => w
    let (a, w) := act.run w
    let db := match w.storage with
      | .database db _ => db
      | .memory _ => s.db
    ((a, w), { s with db := db })

end Deployment
end TopUpPromo
