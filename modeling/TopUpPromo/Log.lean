import TopUpPromo.Config
import TopUpPromo.Json.Basic

/-!
# Structured logging

A logger writes entries at a level, with a message and fields. It drops entries below its
minimum level. In production it writes JSON objects to standard output, naming the level
`severity` in upper case; elsewhere it writes console lines to standard error. A logger built
from a configuration carries the fields `env` and `service_name` on every entry, and its level
is the configured one (read without regard to case; an unknown level keeps `info`), or `debug`
when debugging is on.

## Main definitions

- `Level`, `Level.read?`, `LogEntry`, `Logger`.
- `Logger.ofConfig`, `Logger.named`, `Logger.log`, `Logger.enabled`.
-/

namespace TopUpPromo

/-- The severity of an entry. -/
inductive Level where
  | debug
  | info
  | warn
  | error
  | dpanic
  | panic
  | fatal
  deriving DecidableEq, Repr

namespace Level

def rank : Level → Nat
  | .debug => 0
  | .info => 1
  | .warn => 2
  | .error => 3
  | .dpanic => 4
  | .panic => 5
  | .fatal => 6

def name : Level → String
  | .debug => "DEBUG"
  | .info => "INFO"
  | .warn => "WARN"
  | .error => "ERROR"
  | .dpanic => "DPANIC"
  | .panic => "PANIC"
  | .fatal => "FATAL"

def spelled? (s : String) : Option Level :=
  match s with
  | "debug" | "DEBUG" => some .debug
  | "info" | "INFO" | "" => some .info
  | "warn" | "WARN" => some .warn
  | "error" | "ERROR" => some .error
  | "dpanic" | "DPANIC" => some .dpanic
  | "panic" | "PANIC" => some .panic
  | "fatal" | "FATAL" => some .fatal
  | _ => none

/-- The level a text names, also in any mix of case. -/
def read? (s : String) : Option Level := (spelled? s).orElse fun _ => spelled? s.toLower

end Level

/-- A written entry. -/
structure LogEntry where
  level : Level
  /-- The logger's name, empty for the root logger. -/
  logger : String
  message : String
  fields : List (String × Json)
  /-- Written as a JSON object to standard output, else as a console line to standard
  error. -/
  production : Bool

/-- A logger. -/
structure Logger where
  production : Bool
  minLevel : Level
  name : String := ""
  fields : List (String × Json) := []

namespace Logger

/-- The logger of a configuration, or the development logger at `info` without one. -/
def ofConfig : Option Config → Logger
  | none => ⟨false, .info, "", []⟩
  | some c =>
    let level := (Level.read? c.app.logLevel).getD .info
    let level := if c.app.debug then .debug else level
    ⟨c.app.isProduction, level, "", [("env", .str c.app.environment),
      ("service_name", .str c.app.name)]⟩

/-- The logger under a name, joined to the parent's name with a dot. -/
def named (l : Logger) (n : String) : Logger :=
  { l with name := if l.name.isEmpty then n else l.name ++ "." ++ n }

def withFields (l : Logger) (fs : List (String × Json)) : Logger :=
  { l with fields := l.fields ++ fs }

/-- Whether entries at a level are written. -/
def enabled (l : Logger) (level : Level) : Bool := l.minLevel.rank ≤ level.rank

/-- The entry written for a message, if its level is enabled. -/
def log (l : Logger) (level : Level) (message : String) (fs : List (String × Json)) :
    List LogEntry :=
  if l.enabled level then [⟨level, l.name, message, l.fields ++ fs, l.production⟩] else []

end Logger

end TopUpPromo
