import TopUpPromo.Command.Seeder

/-!
# The API server

The server builds the promotion services on the configured storage: in memory (with a warning
that the state is lost on restart), or on the database and Redis. With `APP_SEED_CAMPAIGN` set
it makes sure a first-login campaign is running. Without Redis the first-login queue is off,
which it warns about. It then listens on its address and waits for a termination signal, on
which it shuts down; when the address is taken it stops with a fatal entry.

## Main definitions

- `server`.
-/

namespace TopUpPromo
namespace Command

open Deployment Sandbox

def addressInUse (addr : String) : String := "listen tcp " ++ addr ++ ": bind: address already in use"

/-- The server on an environment; `portBusy` tells whether its address is taken. -/
def server (env : Env) (portBusy : Bool) : SiteM Ending :=
  withConfig env fun cfg => do
    let log := Logger.ofConfig (some cfg)
    Site.log log .info "starting promotion service"
      [("environment", .str cfg.app.environment), ("storage", .str cfg.app.storage)]
    let built : Except Failure (World × Option Connections) ←
      if cfg.app.storage == "memory" then do
        Site.log log .warn "using in-memory storage, state is lost on restart" []
        let lock := storeLockTimeoutMs cfg.database
        pure (.ok (servicesWorld cfg (.memory ⟨{ lockTimeoutMs := lock }, none⟩), none))
      else do
        match ← newConnections none cfg log with
        | .error f => pure (.error f)
        | .ok c =>
          pure (.ok (servicesWorld cfg (.database {} (storeLockTimeoutMs cfg.database)), some c))
    match built with
    | .error f =>
      fatal log "failed to initialize promotion core" [errorField (.within "failed to connect to database" f)]
    | .ok (w, conns) =>
      let seeded : Except Failure Unit ←
        if cfg.app.seedCampaign then do
          let (r, _) ← Site.runServices w (ensureSeededCampaign .live machineClock SeedOptions.defaults)
          match r with
          | .error f => pure (.error f)
          | .ok (c, true) =>
            logCreated log c
            pure (.ok ())
          | .ok (c, false) =>
            Site.log log .info "active campaign already present" [("campaign_id", .ofInt c.id)]
            pure (.ok ())
        else pure (.ok ())
      match seeded with
      | .error f => fatal log "failed to seed campaign" [errorField f]
      | .ok () =>
        if conns.isNone then
          Site.log log .warn "event queue disabled, ReportFirstLogin will be unavailable" []
        Site.log log .info "listening" [("addr", .str cfg.server.addr)]
        if portBusy then
          return ← fatal log "failed to start server" [("error", .str (addressInUse cfg.server.addr))]
        return .awaitSignal do
          Site.log log .info "shutting down server" []
          Site.log log .info "server exited gracefully" []
          let closed : Option (Except Failure Unit) := conns.map (·.close.1)
          match closed with
          | some (.error f) => Site.log log .error "error closing database connections" [errorField f]
          | _ => pure ()
          return 0

end Command
end TopUpPromo
