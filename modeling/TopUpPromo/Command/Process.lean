import TopUpPromo.Deployment.Site
import TopUpPromo.Json.Writer

/-!
# Running a command as a process

A command runs as a program on a site: it writes lines as it goes, and its run ends in one of
three ways. It exits with a code; or it waits for a termination signal it has asked to be told
of, and on that signal runs its shutdown and exits; or it keeps running without handling any
signal.

From outside, a run can be left alone until it exits, or be sent a termination signal at some
moment. A program that waits for the signal by then shuts down; one that is still starting, or
never asked for the signal, dies of it and ends with code `-15`. A run that has not ended by the
time limit is killed and ends with code `-9`. Only the lines written before a run ends count.

## Main definitions

- `Line.stream`, `Line.rendered`.
- `Ending`, `Outcome`.
- `untilExit`, `terminate`.
-/

namespace TopUpPromo
namespace Deployment

/-- The stream a line is written on: production log entries go to standard output, the others
to standard error. -/
def Line.stream : Line → OutStream
  | .entry e => if e.production then .stdout else .stderr
  | .text stream _ => stream

/-- The text of a line as the process writes it, without the time and caller of a log entry: a
production entry as a JSON object, any other entry as its level, logger name, message and
fields separated by tabs. -/
def Line.rendered : Line → String
  | .entry e =>
    let named := if e.logger.isEmpty then [] else [e.logger]
    if e.production then
      Json.render (.obj ([("severity", .str e.level.name)] ++ named.map (("logger", Json.str ·)) ++
        [("msg", .str e.message)] ++ e.fields))
    else
      let fields := if e.fields.isEmpty then [] else [Json.render (.obj e.fields)]
      "\t".intercalate ([e.level.name] ++ named ++ [e.message] ++ fields)
  | .text _ s => s

end Deployment

namespace Command

open Deployment

/-- How a program's run ends on its own. -/
inductive Ending where
  /-- It exits with a code. -/
  | exit (code : Int)
  /-- It waits for a termination signal; on the signal it runs its shutdown, which gives the
  exit code. -/
  | awaitSignal (onSignal : SiteM Int)
  /-- It keeps running and handles no signal. -/
  | running

abbrev Trace := Ending × Site

/-- A run as seen from outside. -/
structure Outcome where
  /-- The lines written before the run ended. -/
  lines : List Written
  /-- The exit code; a negative code is the signal that ended the run. -/
  code : Int
  /-- Killed at the time limit. -/
  killed : Bool
  /-- Exited on its own before any signal was sent. -/
  exitedFirst : Bool
  /-- The site when the run ended. -/
  site : Site

def linesBefore (s : Site) (t : Nat) : List Written := s.written.toList.filter (·.atMs < t)

def killedAt (s : Site) (limit : Nat) : Outcome := ⟨linesBefore s limit, -9, true, false, s⟩

def exitsBefore : Trace → Nat → Bool
  | (.exit _, s), t => s.clock < t
  | _, _ => false

/-- The run left alone until it exits, killed at `limit` if it has not. -/
def untilExit (trace : Trace) (limit : Nat) : Outcome :=
  match trace with
  | (.exit code, s) => if s.clock < limit then ⟨s.written.toList, code, false, true, s⟩ else killedAt s limit
  | (_, s) => killedAt s limit

/-- The run (still running at `t`) sent a termination signal at `t`, killed at `limit` if it
has not ended by then. -/
def terminate (trace : Trace) (t limit : Nat) : Outcome :=
  let diesOf (s : Site) : Outcome := ⟨linesBefore s t, -15, false, false, s⟩
  match trace with
  | (.awaitSignal onSignal, s) =>
    if s.clock ≤ t then
      let (code, s) := onSignal.run { s with clock := t }
      if s.clock < limit then ⟨s.written.toList, code, false, false, s⟩ else killedAt s limit
    else diesOf s
  | (_, s) => diesOf s

end Command
end TopUpPromo
