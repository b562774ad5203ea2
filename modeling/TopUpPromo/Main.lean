import TopUpPromo.Command.Seeder
import TopUpPromo.Command.Worker
import TopUpPromo.Command.Server
import TopUpPromo.Command.LoadTest

/-!
# The command line

`<command> [flags]` runs one of the service's commands, `seeder`, `worker`, `server` or
`perf-client`, with the configuration the process environment gives, on a site whose database
answers from an empty script and whose Redis cannot be reached. The lines the command writes are
printed on their streams; a command that waits for a termination signal is given one at once.
The exit status is the command's code, or 128 plus the signal that ended it.
-/

namespace TopUpPromo
namespace Command

open Deployment

def programOf (env : Env) : List String → Option (SiteM Ending)
  | "seeder" :: rest => some (seeder env rest)
  | "worker" :: rest => some (worker env rest [])
  | "server" :: _ => some (server env false)
  | "perf-client" :: rest => some (loadTest rest)
  | _ => none

def emptySite : Site := { db := {}, redis := ⟨.down, .network, 0⟩ }

def runToEnd (program : SiteM Ending) : Int × Site :=
  match program.run emptySite with
  | (.exit code, s) => (code, s)
  | (.awaitSignal onSignal, s) => onSignal.run s
  | (.running, s) => (-9, s)

def exitStatus (code : Int) : UInt32 :=
  (if code < 0 then 128 + code.natAbs else code.toNat).toUInt32

def runCommandLine (args : List String) : IO UInt32 := do
  let vars ← Config.envNames.filterMapM fun k => do return (← IO.getEnv k).map (k, ·)
  let env : Env := fun k => (vars.find? (·.1 == k)).map (·.2)
  match programOf env args with
  | none =>
    IO.eprintln "usage: <seeder|worker|server|perf-client> [flags]"
    return 2
  | some program =>
    let (code, site) := runToEnd program
    for w in site.written do
      match w.line.stream with
      | .stdout => IO.println w.line.rendered
      | .stderr => IO.eprintln w.line.rendered
    return exitStatus code

end Command
end TopUpPromo

def main (args : List String) : IO UInt32 := TopUpPromo.Command.runCommandLine args
