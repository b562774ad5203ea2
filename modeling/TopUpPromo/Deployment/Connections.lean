import TopUpPromo.Deployment.Site
import TopUpPromo.Store.Schema
import TopUpPromo.Database.Options
import TopUpPromo.Config

/-!
# Connecting to the database and to Redis

A deployment opens a pool of database connections from its connection string: the string must
read, the pool's first connection must reach the database and answer a check, and a second
check must pass; with automatic migration on it then applies the schema. It connects to Redis by
sending `PING` up to five times, waiting a second after each failure, and gives up when its
context ends during a wait or when the fifth attempt has failed. Each step is logged.

The database connections and the Redis client are checked together and closed together; a
closed Redis client refuses everything, and a closed pool refuses checks.

## Main definitions

- `Deadline`, `ctxAt`.
- `newPostgres`, `newRedis`, `RedisClient`, `Connections`, `newConnections`.
- `Connections.ping`, `Connections.close`.
-/

namespace TopUpPromo
namespace Deployment

/-- The moment a context ends, on the site's clock, if it has a deadline. -/
abbrev Deadline := Option Nat

/-- The context of a call made now under a deadline. -/
def ctxAt (deadline : Deadline) : SiteM Ctx := do
  let clock := (← get).clock
  return match deadline with
    | some d => if d ≤ clock then .deadlinePassed else .deadlineIn (d - clock)
    | none => .live

def databaseDial? : Database.Endpoint → Option String
  | .socket p => if p == databaseSocket then none else some (dialFailure p)
  | .network a =>
    some (dialFailure (if a.startsWith "localhost:" then "127.0.0.1" ++ (a.drop 9).toString else a))

/-- Opens the database pool of a configuration, checks it twice and, with automatic migration
on, applies the schema. -/
def newPostgres (deadline : Deadline) (cfg : Config) (log : Logger) : SiteM (Except Failure Unit) := do
  let connectFailure (f : Failure) : Failure := .within "failed to connect to PostgreSQL" f
  match Database.Options.ofString cfg.database.url with
  | .error e => return .error (connectFailure (.plain e))
  | .ok o =>
    if let some e := databaseDial? o.endpoint then return .error (connectFailure (.plain e))
    match ← Site.onDatabase (Relational.ping (← ctxAt deadline)) with
    | .error f => return .error (connectFailure f)
    | .ok () =>
      match ← Site.onDatabase (Relational.ping (← ctxAt deadline)) with
      | .error f => return .error (.within "failed to ping PostgreSQL" f)
      | .ok () =>
        Site.log log .info "connected to PostgreSQL"
          [("host", .str cfg.database.host), ("database", .str cfg.database.name),
           ("max_conns", .ofInt cfg.database.maxConns)]
        if !cfg.database.autoMigrate then return .ok ()
        match ← Site.onDatabase (Relational.migrate (← ctxAt deadline)) with
        | .error f => return .error f
        | .ok () =>
          Site.log log .info "database schema migrated" []
          return .ok ()

/-- A Redis client: the address it talks to, and whether it is closed. -/
structure RedisClient where
  address : String
  closed : Bool := false

def clientClosed : String := "redis: client is closed"

def RedisClient.ping (c : RedisClient) : SiteM (Except String Unit) :=
  if c.closed then return .error clientClosed else Site.pingRedis c.address

def pingUntilUp (deadline : Deadline) (cfg : Config) (log : Logger) (address : String) :
    Nat → Nat → String → SiteM (Except Failure RedisClient)
  | 0, _, last => return .error (.within "failed to ping Redis" (.plain last))
  | left + 1, attempt, _ => do
    match ← Site.pingRedis address with
    | .ok () =>
      Site.log log .info "connected to Redis" [("addr", .str address), ("db", .ofInt cfg.redis.db)]
      return .ok ⟨address, false⟩
    | .error e =>
      Site.log log .warn "redis not ready, retrying" [("retry", .ofNat (attempt + 1)), ("error", .str e)]
      if ← Site.wait 1000 deadline then pingUntilUp deadline cfg log address left (attempt + 1) e
      else return .error (.cause .deadlineExceeded)

/-- Connects to the Redis of a configuration, with five attempts a second apart. -/
def newRedis (deadline : Deadline) (cfg : Config) (log : Logger) : SiteM (Except Failure RedisClient) :=
  pingUntilUp deadline cfg log cfg.redis.addr 5 0 ""

/-- The connections of a deployment: the database pool, and the Redis client when there is
one. -/
structure Connections where
  poolClosed : Bool := false
  redis : Option RedisClient

/-- Opens the database pool and then connects to Redis; when Redis cannot be reached the pool
is closed again. -/
def newConnections (deadline : Deadline) (cfg : Config) (log : Logger) :
    SiteM (Except Failure Connections) := do
  match ← newPostgres deadline cfg log with
  | .error f => return .error f
  | .ok () =>
    match ← newRedis deadline cfg log with
    | .error f => return .error f
    | .ok client => return .ok ⟨false, some client⟩

namespace Connections

/-- Checks the database, then Redis. -/
def ping (deadline : Deadline) (c : Connections) : SiteM (Except Failure Unit) := do
  if c.poolClosed then return .error (.within "postgres unavailable" (.plain "sql: database is closed"))
  match ← Site.onDatabase (Relational.ping (← ctxAt deadline)) with
  | .error f => return .error (.within "postgres unavailable" f)
  | .ok () =>
    match c.redis with
    | none => return .ok ()
    | some r =>
      match ← r.ping with
      | .error e => return .error (.within "redis unavailable" (.plain e))
      | .ok () => return .ok ()

/-- Closes Redis, then the pool; closing a closed Redis client fails, closing the pool again
does not. -/
def close (c : Connections) : Except Failure Unit × Connections :=
  match c.redis with
  | some r =>
    if r.closed then (.error (.within "failed to close Redis" (.plain clientClosed)), c)
    else (.ok (), { c with redis := some { r with closed := true }, poolClosed := true })
  | none => (.ok (), { c with poolClosed := true })

end Connections

end Deployment
end TopUpPromo
