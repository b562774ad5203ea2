import TopUpPromo.Text.Float
import TopUpPromo.Text.Quote

/-!
# Configuration

The service is configured from environment variables, grouped by prefix: `SERVER_`, `DB_`,
`REDIS_`, `APP_`, `PROMO_` and `PAYMENT_`. A variable that is not set takes its default; one
that is set to the empty text gives the empty text, zero or false; any other value is read as it
is. Integers are read with an optional base
prefix (`0x`, `0o`, `0b`, a leading `0` for octal) and `_` between digits; booleans take the
spellings of `readBool`; floats those of `readFloat`. The variables are read group by group in
a fixed order, and the first that does not read fails the whole configuration.

A configuration that reads is then checked: the storage is `postgres` or `memory`, the voucher
threshold, the code attempts and the request timeout are positive, and the payment success
rate is within `[0, 1]` (`NaN` passes).

## Main definitions

- `Config` and its groups, `Config.load`, `Config.problem?`.
- The derived values `ServerConfig.addr`, `DatabaseConfig.url`, `DatabaseConfig.lockTimeoutNanos`.
-/

namespace TopUpPromo

open Text

structure ServerConfig where
  port : String
  host : String
  readTimeout : Int
  writeTimeout : Int
  requestTimeout : Int
  deriving Repr

structure DatabaseConfig where
  host : String
  port : String
  user : String
  password : String
  name : String
  sslMode : String
  maxConns : Int
  minConns : Int
  lockTimeoutMs : Int
  autoMigrate : Bool
  deriving Repr

structure RedisConfig where
  addr : String
  password : String
  db : Int
  poolSize : Int
  deriving Repr

structure AppConfig where
  environment : String
  logLevel : String
  debug : Bool
  name : String
  storage : String
  seedCampaign : Bool
  deriving Repr

structure PromotionConfig where
  voucherThreshold : Int32
  codePrefix : String
  codeAttempts : Int
  deriving Repr

structure PaymentConfig where
  successRate : Binary64
  latencyMs : Int
  deriving Repr

/-- The whole configuration. -/
structure Config where
  server : ServerConfig
  database : DatabaseConfig
  redis : RedisConfig
  app : AppConfig
  promotion : PromotionConfig
  payment : PaymentConfig
  deriving Repr

abbrev Env := String → Option String

/-- Reading one group of variables: the group's name and prefix, and the environment. -/
structure EnvGroup where
  label : String
  pref : String
  env : Env

namespace EnvGroup

def fail {α : Type} (g : EnvGroup) (field func value : String) (fault : NumberFault) :
    Except String α :=
  .error (g.label ++ ": " ++ field ++ ": strconv." ++ func ++ ": parsing " ++ quote value ++ ": " ++
    fault.text)

def text (g : EnvGroup) (var default : String) : Except String String :=
  .ok ((g.env (g.pref ++ var)).getD default)

def int (g : EnvGroup) (field var : String) (bits : Nat) (default : Int) : Except String Int :=
  match g.env (g.pref ++ var) with
  | none => .ok default
  | some "" => .ok 0
  | some v =>
    match readInt v true bits with
    | .ok n => .ok n
    | .error f => g.fail field "ParseInt" v f

def bool (g : EnvGroup) (field var : String) (default : Bool) : Except String Bool :=
  match g.env (g.pref ++ var) with
  | none => .ok default
  | some "" => .ok false
  | some v =>
    match readBool v with
    | .ok b => .ok b
    | .error f => g.fail field "ParseBool" v f

def float (g : EnvGroup) (field var : String) (default : Binary64) : Except String Binary64 :=
  match g.env (g.pref ++ var) with
  | none => .ok default
  | some "" => .ok (.finite false 0 0)
  | some v =>
    match readFloat v with
    | .ok x => .ok x
    | .error f => g.fail field "ParseFloat" v f

end EnvGroup

namespace Config

def read (env : Env) : Except String Config := do
  let g := EnvGroup.mk "Server" "SERVER_" env
  let server : ServerConfig := ⟨← g.text "PORT" "8080", ← g.text "HOST" "0.0.0.0",
    ← g.int "ReadTimeout" "READ_TIMEOUT" 64 30, ← g.int "WriteTimeout" "WRITE_TIMEOUT" 64 30,
    ← g.int "RequestTimeout" "REQUEST_TIMEOUT" 64 10⟩
  let g := EnvGroup.mk "Database" "DB_" env
  let database : DatabaseConfig := ⟨← g.text "HOST" "localhost", ← g.text "PORT" "5432",
    ← g.text "USER" "postgres", ← g.text "PASSWORD" "postgres", ← g.text "NAME" "promotion",
    ← g.text "SSL_MODE" "disable", ← g.int "MaxConns" "MAX_CONNS" 64 25,
    ← g.int "MinConns" "MIN_CONNS" 64 5, ← g.int "LockTimeoutMS" "LOCK_TIMEOUT_MS" 64 5000,
    ← g.bool "AutoMigrate" "AUTO_MIGRATE" true⟩
  let g := EnvGroup.mk "Redis" "REDIS_" env
  let redis : RedisConfig := ⟨← g.text "ADDR" "localhost:6379", ← g.text "PASSWORD" "",
    ← g.int "DB" "DB" 64 0, ← g.int "PoolSize" "POOL_SIZE" 64 10⟩
  let g := EnvGroup.mk "App" "APP_" env
  let app : AppConfig := ⟨← g.text "ENVIRONMENT" "development", ← g.text "LOG_LEVEL" "info",
    ← g.bool "Debug" "DEBUG" false, ← g.text "NAME" "promotion", ← g.text "STORAGE" "postgres",
    ← g.bool "SeedCampaign" "SEED_CAMPAIGN" false⟩
  let g := EnvGroup.mk "Promotion" "PROMO_" env
  let promotion : PromotionConfig :=
    ⟨(← g.int "VoucherThreshold" "VOUCHER_THRESHOLD" 32 100).toInt32,
      ← g.text "CODE_PREFIX" "CAKE-", ← g.int "CodeAttempts" "CODE_ATTEMPTS" 64 5⟩
  let g := EnvGroup.mk "Payment" "PAYMENT_" env
  let defaultRate := (readFloat "0.95").toOption.getD .nan
  let payment : PaymentConfig := ⟨← g.float "SuccessRate" "SUCCESS_RATE" defaultRate,
    ← g.int "LatencyMS" "LATENCY_MS" 64 100⟩
  return ⟨server, database, redis, app, promotion, payment⟩

def envNames : List String :=
  ["SERVER_PORT", "SERVER_HOST", "SERVER_READ_TIMEOUT", "SERVER_WRITE_TIMEOUT",
   "SERVER_REQUEST_TIMEOUT", "DB_HOST", "DB_PORT", "DB_USER", "DB_PASSWORD", "DB_NAME",
   "DB_SSL_MODE", "DB_MAX_CONNS", "DB_MIN_CONNS", "DB_LOCK_TIMEOUT_MS", "DB_AUTO_MIGRATE",
   "REDIS_ADDR", "REDIS_PASSWORD", "REDIS_DB", "REDIS_POOL_SIZE", "APP_ENVIRONMENT",
   "APP_LOG_LEVEL", "APP_DEBUG", "APP_NAME", "APP_STORAGE", "APP_SEED_CAMPAIGN",
   "PROMO_VOUCHER_THRESHOLD", "PROMO_CODE_PREFIX", "PROMO_CODE_ATTEMPTS",
   "PAYMENT_SUCCESS_RATE", "PAYMENT_LATENCY_MS"]

/-- The first setting the service cannot run with, if any. -/
def problem? (c : Config) : Option String :=
  if c.app.storage != "postgres" && c.app.storage != "memory" then
    some ("invalid APP_STORAGE " ++ quote c.app.storage ++ ": want postgres or memory")
  else if c.promotion.voucherThreshold < 1 then
    some ("PROMO_VOUCHER_THRESHOLD must be positive, got " ++ toString c.promotion.voucherThreshold.toInt)
  else if c.promotion.codeAttempts < 1 then
    some ("PROMO_CODE_ATTEMPTS must be positive, got " ++ toString c.promotion.codeAttempts)
  else if c.server.requestTimeout < 1 then
    some ("SERVER_REQUEST_TIMEOUT must be positive, got " ++ toString c.server.requestTimeout)
  else if c.payment.successRate.isNegative || c.payment.successRate.exceedsOne then
    some ("PAYMENT_SUCCESS_RATE must be within [0, 1], got " ++ c.payment.successRate.general)
  else none

/-- Reads and checks the configuration. -/
def load (env : Env) : Except String Config :=
  match read env with
  | .error e => .error ("failed to process environment config: " ++ e)
  | .ok c =>
    match c.problem? with
    | some p => .error p
    | none => .ok c

end Config

/-- The address the server listens on. -/
def ServerConfig.addr (c : ServerConfig) : String := c.host ++ ":" ++ c.port

/-- The connection string of the database. -/
def DatabaseConfig.url (c : DatabaseConfig) : String :=
  "host=" ++ c.host ++ " port=" ++ c.port ++ " user=" ++ c.user ++ " password=" ++ c.password ++
    " dbname=" ++ c.name ++ " sslmode=" ++ c.sslMode

/-- The lock timeout in nanoseconds, as a signed 64-bit word. -/
def DatabaseConfig.lockTimeoutNanos (c : DatabaseConfig) : Int :=
  let n := (c.lockTimeoutMs * 1000000) % 18446744073709551616
  if n ≥ 9223372036854775808 then n - 18446744073709551616 else n

def AppConfig.isDevelopment (c : AppConfig) : Bool := c.environment == "development"

def AppConfig.isProduction (c : AppConfig) : Bool := c.environment == "production"

end TopUpPromo
