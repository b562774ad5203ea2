import TopUpPromo.Command.Flags
import TopUpPromo.Command.Process
import TopUpPromo.Deployment.Services
import TopUpPromo.Json.Writer

/-!
# What every command does first

A command reads its flags, then its configuration from the environment. A command line that
does not read ends the command (see `readFlags`); a configuration that does not load is reported
by a bare JSON logger on standard output, `{"level":"fatal","msg":"failed to load config",
"error":…}`, and ends it with code 1. Past that, the command logs with the logger of its
configuration, and a fatal entry ends it with code 1.

## Main definitions

- `withFlags`, `withConfig`, `fatal`.
-/

namespace TopUpPromo
namespace Command

open Deployment

def printUsage (command : String) (specs : List FlagSpec) : SiteM Unit := do
  Site.print .stderr ("Usage of " ++ command ++ ":")
  for s in specs do
    Site.print .stderr ("  -" ++ s.name)

/-- Runs a command on the flags of its command line. -/
def withFlags (command : String) (specs : List FlagSpec) (args : List String)
    (body : Assignment → SiteM Ending) : SiteM Ending :=
  match readFlags specs args with
  | .parsed set _ => body set
  | .help => do
    printUsage command specs
    return .exit 0
  | .failed line => do
    Site.print .stderr line
    printUsage command specs
    return .exit 2

/-- Runs a command on the configuration the environment gives. -/
def withConfig (env : Env) (body : Config → SiteM Ending) : SiteM Ending :=
  match Config.load env with
  | .ok cfg => body cfg
  | .error e => do
    Site.print .stdout (Json.render (.obj [("level", .str "fatal"),
      ("msg", .str "failed to load config"), ("error", .str e)]))
    return .exit 1

/-- Logs a fatal entry and ends the command. -/
def fatal (log : Logger) (message : String) (fs : List (String × Json)) : SiteM Ending := do
  Site.log log .fatal message fs
  return .exit 1

def errorField (f : Failure) : String × Json := ("error", .str f.text)

end Command
end TopUpPromo
