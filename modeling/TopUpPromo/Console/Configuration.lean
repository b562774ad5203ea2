import TopUpPromo.Console.Input
import TopUpPromo.Config

/-!
# Configuration on the console

The `config` request reads the configuration from the variables it lists (every other variable
is unset) and answers the configuration with its derived values, or the reason it fails.
-/

namespace TopUpPromo
namespace Console

def envOf (j : Json) : Decode (List (String × String)) :=
  match j.field? "env" with
  | none => .ok []
  | some .null => .ok []
  | some (.obj ms) => ms.mapM fun (k, v) =>
    match v with
    | .str s _ => .ok (k, s)
    | _ => .error "field env has the wrong type"
  | some _ => .error "field env has the wrong type"

def settable (v : String × String) : Bool :=
  !v.1.isEmpty && !v.1.contains '=' && !v.1.contains '\x00' && !v.2.contains '\x00'

def envLookup (vars : List (String × String)) : Env := fun k =>
  ((vars.filter settable).reverse.find? (·.1 == k)).map (·.2)

def floatJson (x : Text.Binary64) : Json :=
  match x with
  | .finite .. => .num x.jsonText
  | _ => .str x.general

def configJson (c : Config) : Json :=
  .obj [
    ("server", .obj [("addr", .str c.server.addr), ("host", .str c.server.host),
      ("port", .str c.server.port), ("read_timeout", .ofInt c.server.readTimeout),
      ("request_timeout", .ofInt c.server.requestTimeout),
      ("write_timeout", .ofInt c.server.writeTimeout)]),
    ("database", .obj [("auto_migrate", .bool c.database.autoMigrate),
      ("host", .str c.database.host), ("lock_timeout_ms", .ofInt c.database.lockTimeoutMs),
      ("lock_timeout_ns", .ofInt c.database.lockTimeoutNanos),
      ("max_conns", .ofInt c.database.maxConns), ("min_conns", .ofInt c.database.minConns),
      ("name", .str c.database.name), ("password", .str c.database.password),
      ("port", .str c.database.port), ("ssl_mode", .str c.database.sslMode),
      ("url", .str c.database.url), ("user", .str c.database.user)]),
    ("redis", .obj [("addr", .str c.redis.addr), ("db", .ofInt c.redis.db),
      ("password", .str c.redis.password), ("pool_size", .ofInt c.redis.poolSize)]),
    ("app", .obj [("debug", .bool c.app.debug), ("environment", .str c.app.environment),
      ("is_development", .bool c.app.isDevelopment), ("is_production", .bool c.app.isProduction),
      ("log_level", .str c.app.logLevel), ("name", .str c.app.name),
      ("seed_campaign", .bool c.app.seedCampaign), ("storage", .str c.app.storage)]),
    ("promotion", .obj [("code_attempts", .ofInt c.promotion.codeAttempts),
      ("code_prefix", .str c.promotion.codePrefix),
      ("voucher_threshold", .ofInt c.promotion.voucherThreshold.toInt)]),
    ("payment", .obj [("latency_ms", .ofInt c.payment.latencyMs),
      ("success_rate", floatJson c.payment.successRate)])]

def configAnswer (j : Json) : Decode Json := do
  let vars ← envOf j
  match Config.load (envLookup vars) with
  | .ok c => pure (configJson c)
  | .error e => pure (.obj [("error", .str "config"), ("message", .str e)])

end Console
end TopUpPromo
