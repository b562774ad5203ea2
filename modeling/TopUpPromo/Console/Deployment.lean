import TopUpPromo.Console.Session
import TopUpPromo.Console.Configuration
import TopUpPromo.Console.Masking
import TopUpPromo.Deployment.Services

/-!
# Deployments on the console

The `database` and `app` requests run the connection code of a deployment against a scripted
database on its socket and a Redis server in a chosen mode, within a time limit for the whole
request (`timeout_ms`, from 1 to 2000 milliseconds, 300 when absent).

The configuration comes from the request's variables, with the database on its socket (and port
`5432`) unless they name a host, and Redis at its address unless they name one. Every answer
lists the statements the database received, in the `sql` member.

- `database` runs one `action`: `new_postgres`, `migrate`, `new_redis`, `new_db` or
  `close_twice`, and answers what each call returned.
- `app` builds the promotion services on the configured storage, checks them, lists the active
  campaigns and enrolls a user when asked, and closes the connections. The services run on the
  machine's clock; instants within two days of it are written `<wall-clock>`, and the voucher
  codes drawn `<code>`.

## Main definitions

- `SiteRequest`, `siteRequestOf`, `SiteRequest.env`.
- `databaseAnswer`, `appAnswer`.
-/

namespace TopUpPromo
namespace Console

open Deployment Sandbox

/-- What a request about a deployment sets up: its time limit, the Redis server, the
database's script and the request's variables. -/
structure SiteRequest where
  timeoutMs : Nat
  redis : RedisServer
  entries : List Database.Entry
  vars : List (String × String)

def redisModeOf : String → Decode RedisMode
  | "up" => .ok .up
  | "down" => .ok .down
  | "error" => .ok .refusing
  | "ping_once" => .ok .pingOnce
  | other => .error ("unknown redis " ++ other)

def transportOf : String → Decode Transport
  | "tcp" => .ok .network
  | "unix" => .ok .socket
  | other => .error ("unknown redis_socket " ++ other)

/-- The common fields of a request about a deployment. -/
def siteRequestOf (j : Json) : Decode SiteRequest := do
  let timeout ← boundedInt j "timeout_ms" 1 2000 300
  let mode ← redisModeOf (← fieldOr j "redis" stringOf "up")
  let transport ← transportOf (← fieldOr j "redis_socket" stringOf "tcp")
  let entries ← fieldOr j "db" entriesOf []
  let vars ← envOf j
  return ⟨timeout.toNat, { mode := mode, transport := transport }, entries, vars⟩

namespace SiteRequest

/-- The environment a deployment runs with: the request's variables over Redis's address, and
the database's socket and port unless the variables name a host. -/
def env (r : SiteRequest) : Env :=
  let has (k : String) : Bool := r.vars.any (·.1 == k)
  let redis := if has "REDIS_ADDR" then [] else [("REDIS_ADDR", r.redis.address)]
  let db := if has "DB_HOST" then [] else [("DB_HOST", socketDir), ("DB_PORT", "5432")]
  envLookup (redis ++ r.vars ++ db)

def site (r : SiteRequest) : Site := { db := { queue := r.entries }, redis := r.redis }

end SiteRequest

def failureMembers (f : Failure) : List (String × Json) :=
  [("error", .str f.kind), ("message", .str f.text)]

def errorText (r : Except Failure Unit) : Json :=
  match r with
  | .ok () => .null
  | .error f => .str f.text

def redisErrorText (r : Except String Unit) : Json :=
  match r with
  | .ok () => .null
  | .error e => .str e

def databaseActions : List String := ["new_postgres", "migrate", "new_redis", "new_db", "close_twice"]

def runAction (deadline : Deadline) (cfg : Config) (log : Logger) :
    String → SiteM (List (String × Json))
  | "new_postgres" => do
    match ← newPostgres deadline cfg log with
    | .error f => return failureMembers f
    | .ok () =>
      let ping ← Site.onDatabase (Relational.ping (← ctxAt deadline))
      return [("ping", errorText ping), ("close", .null)]
  | "migrate" => do
    let plain := { cfg with database := { cfg.database with autoMigrate := false } }
    match ← newPostgres deadline plain log with
    | .error f => return failureMembers f
    | .ok () =>
      let r ← Site.onDatabase (Relational.migrate (← ctxAt deadline))
      return [("migrate", errorText r)]
  | "new_redis" => do
    match ← newRedis deadline cfg log with
    | .error f => return failureMembers f
    | .ok client => return [("ping", redisErrorText (← client.ping)), ("close", .null)]
  | "new_db" => do
    match ← newConnections deadline cfg log with
    | .error f => return failureMembers f
    | .ok c =>
      let ping ← c.ping deadline
      let (closed, c) := c.close
      let after ← c.ping deadline
      return [("ping", errorText ping), ("close", errorText closed),
        ("ping_after_close", errorText after)]
  | _ => do
    match ← newConnections deadline cfg log with
    | .error f => return failureMembers f
    | .ok c =>
      let (first, c) := c.close
      let (again, c) := c.close
      let (postgresOnly, _) := ({ c with redis := none } : Connections).close
      return [("close", errorText first), ("close_again", errorText again),
        ("close_postgres_only", errorText postgresOnly)]

/-- `database`: one call of the deployment's connection code. -/
def databaseAnswer (j : Json) : Decode Json := do
  let r ← siteRequestOf j
  let action ← reqField j "action" stringOf
  if !databaseActions.contains action then throw ("unknown action " ++ action)
  match Config.load r.env with
  | .error e => return .obj [("error", .str "config"), ("message", .str e)]
  | .ok cfg =>
    let (members, site) := (runAction (some r.timeoutMs) cfg (Logger.ofConfig (some cfg)) action).run r.site
    return maskRunValues (.obj (members ++ [("sql", logJson (some machineClock) site.db)]))

/-- What the `app` request does once the services are built. -/
structure AppCalls where
  listActive : Bool
  enrollUser : Option Int
  closeTwice : Bool

def appCalls (calls : AppCalls) (cfg : Settings) (ctx : Ctx) : SandboxM (List (String × Json)) := do
  let listed ← if calls.listActive then do
      let r ← listActiveCampaigns ctx
      pure [("list_active", resultJson r fun cs => .arr (cs.map campaignRow))]
    else pure []
  let enrolled ← match calls.enrollUser with
    | some u => do
      let r ← TopUpPromo.enroll (cfg.enrollment (← get)) ctx ⟨u, none⟩
      pure [("enroll", resultJson r enrollJson)]
    | none => pure []
  return listed ++ enrolled

def drawnCodes (w : World) : List String :=
  (List.range w.codeCounter).map fun i => Voucher.numberedCode w.codePrefix (i + 1)

/-- `app`: builds the promotion services on the configured storage and uses them. -/
def appAnswer (j : Json) : Decode Json := do
  let r ← siteRequestOf j
  let calls : AppCalls := ⟨← fieldOr j "list_active" boolOf false,
    ← optField j "enroll_user" (fun k => intOf k 64), ← fieldOr j "close_twice" boolOf false⟩
  match Config.load r.env with
  | .error e => return .obj [("error", .str "config"), ("message", .str e)]
  | .ok cfg =>
    let settings : Settings :=
      ⟨cfg.promotion.voucherThreshold, cfg.promotion.codeAttempts.toNat, 0⟩
    let world (storage : Storage) : World :=
      { storage := storage, now := machineClock, wallClock := machineClock,
        codePrefix := cfg.promotion.codePrefix, gateway := ⟨.approve, 0⟩, publisher := .absent }
    let lockMs := storeLockTimeoutMs cfg.database
    let finish (members : List (String × Json)) (w : World) (db : Database.Server) : Json :=
      maskRunValues (maskCodes (drawnCodes w)
        (.obj (members ++ [("sql", logJson (some machineClock) db)])))
    if cfg.app.storage == "memory" then
      let (members, w) := (appCalls calls settings (.deadlineIn r.timeoutMs)).run
        (world (.memory ⟨{ lockTimeoutMs := lockMs }, none⟩))
      let closes := [("close", Json.null)] ++ (if calls.closeTwice then [("close_again", .null)] else [])
      return finish ([("has_db", .bool false), ("redis_client", .bool false), ("ping", .null)] ++
        members ++ closes) w {}
    let deadline : Deadline := some r.timeoutMs
    let log := Logger.ofConfig (some cfg)
    let (connected, site) := (newConnections deadline cfg log).run r.site
    match connected with
    | .error f =>
      return finish (failureMembers (.within "failed to connect to database" f)) (world (.database {} 0))
        site.db
    | .ok c =>
      let (ping, site) := (c.ping deadline).run site
      let (ctx, site) := (ctxAt deadline).run site
      let (members, w) := (appCalls calls settings ctx).run (world (.database site.db lockMs))
      let db := match w.storage with
        | .database db _ => db
        | .memory _ => site.db
      let (closed, c) := c.close
      let again := if calls.closeTwice then [("close_again", errorText c.close.1)] else []
      return finish ([("has_db", .bool true), ("redis_client", .bool true),
        ("ping", errorText ping)] ++ members ++ [("close", errorText closed)] ++ again) w db

end Console
end TopUpPromo
