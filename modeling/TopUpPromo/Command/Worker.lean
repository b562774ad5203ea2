import TopUpPromo.Command.Basic
import TopUpPromo.Sandbox.Steps

/-!
# The worker

The worker consumes the first-login queue. It needs the database storage: with any other it
stops at once. It builds the promotion services on the database and Redis (failing when either
cannot be reached), starts the queue server with the `-concurrency` of its command line and
logs that it runs; then it takes the queued tasks one after another and waits for a termination
signal, on which it shuts down. The queue hands out its tasks once that announcement is written,
so a log level above info leaves them queued.

A task goes to the first-login handler when its type starts with `user:first_login`; any other
type has no handler. The handler runs under the task's deadline and logs what the enrollment
did: enrolled, not enrolled, or failed (a failure a retry may help is returned to the queue).
Every task that fails is logged by the queue's error handler with its type, retry count and
retry limit.

## Main definitions

- `QueueTask`, `workerFlags`, `runTask`, `worker`.
-/

namespace TopUpPromo
namespace Command

open Deployment Sandbox Events

/-- A task the queue hands to the worker. -/
structure QueueTask where
  kind : String
  payload : String
  id : String
  /-- How many retries the task allows. -/
  retry : Int
  /-- How many times it was retried already. -/
  retried : Int
  /-- Its deadline, in seconds from when it is taken. -/
  timeoutS : Nat
  deriving Repr

/-- The worker's flags. -/
def workerFlags : List FlagSpec := [⟨"concurrency", .int⟩]

def logHandled (log : Logger) (payload : String) (h : Handled) : SiteM Unit := do
  let log := match readPayload payload with
    | .ok p => log.withFields [("user_id", .ofInt p.userId), ("event_id", .str p.eventId)]
    | .error _ => log
  match h.enrollment with
  | none => pure ()
  | some (.error f) =>
    if h.fault.isSome then
      Site.log log .warn "first-login enrollment failed, will retry" [("error", .str f.text)]
    else Site.log log .error "first-login enrollment failed" [("error", .str f.text)]
  | some (.ok r) =>
    if r.eligible then
      Site.log log .info "first-login enrolled"
        [("campaign_id", .ofInt r.campaignId), ("participation_order", .ofInt r.order.toInt),
         ("voucher_issued", .bool (!r.voucherCode.isEmpty))]
    else
      Site.log log .info "first-login not enrolled"
        [("reason", .str ((r.reason.map Reason.text).getD "")), ("message", .str r.message)]

/-- Handles one task and logs its failure, if it fails. -/
def runTask (cfg : Config) (log : Logger) (w : World) (t : QueueTask) : SiteM World := do
  let settings : Settings := ⟨cfg.promotion.voucherThreshold, cfg.promotion.codeAttempts.toNat, 0⟩
  let timeoutMs := if cfg.server.requestTimeout > 0 then (cfg.server.requestTimeout * 1000).toNat else 0
  let ctx : Ctx := .deadlineIn (t.timeoutS * 1000)
  let handle : SandboxM Handled := do
    if t.kind.startsWith firstLoginType then
      handleFirstLogin (settings.enrollment (← get)) timeoutMs ctx t.payload
    else pure ⟨none, some (.unknownType t.kind)⟩
  let (h, w) ← Site.runServices w handle
  logHandled log t.payload h
  match h.fault with
  | none => pure ()
  | some f =>
    Site.log log .error "asynq task failed"
      [("task_type", .str t.kind), ("retried", .ofInt t.retried), ("max_retry", .ofInt t.retry),
       ("error", .str f.message)]
  return w

def runTasks (cfg : Config) (log : Logger) : World → List QueueTask → SiteM World
  | w, [] => pure w
  | w, t :: rest => do
    let w ← runTask cfg log w t
    runTasks cfg log w rest

/-- The worker on a command line, an environment and the tasks its queue holds. -/
def worker (env : Env) (args : List String) (tasks : List QueueTask) : SiteM Ending :=
  withFlags "worker" workerFlags args fun flags =>
  withConfig env fun cfg => do
    let log := (Logger.ofConfig (some cfg)).named "worker"
    if cfg.app.storage != "postgres" then
      return ← fatal log "the worker requires postgres storage" [("storage", .str cfg.app.storage)]
    match ← newConnections none cfg log with
    | .error f =>
      fatal log "failed to initialize promotion core" [errorField (.within "failed to connect to database" f)]
    | .ok conns =>
      Site.log log .info "worker running"
        [("queue", .str userEventsQueue), ("concurrency", .ofInt (flags.int "concurrency" 20))]
      let w := servicesWorld cfg (.database {} (storeLockTimeoutMs cfg.database))
      -- the queue hands out its tasks only once the worker's announcement is written
      if log.enabled .info then
        let _ ← runTasks cfg log w tasks
      return .awaitSignal do
        Site.log log .info "shutting down worker" []
        Site.log log .info "worker exited gracefully" []
        match conns.close.1 with
        | .ok () => pure ()
        | .error f => Site.log log .error "error closing database connections" [errorField f]
        return 0

end Command
end TopUpPromo
