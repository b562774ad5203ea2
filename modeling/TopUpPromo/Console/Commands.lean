import TopUpPromo.Console.Deployment
import TopUpPromo.Console.Logs
import TopUpPromo.Command.Seeder
import TopUpPromo.Command.Worker
import TopUpPromo.Command.Server
import TopUpPromo.Command.LoadTest

/-!
# Commands on the console

The `seeder`, `worker` and `server` requests run a command as a process, with `args`, `env`,
the Redis server (`redis`, `redis_socket`) and the database's script (`db`), killed after
`timeout_ms` (100 to 8000 milliseconds, 3000 when absent). The process's environment has the
database on its socket (and port `5432`) unless `env` names a host, and Redis at its address
unless `env` names one; `env` comes on top.

What the process wrote is answered as log entries, standard output first: a log entry as the
`logger` request shows it, a JSON line as its object (without time, caller and stack trace), a
line of the flag reader as its text; any other line is dropped. The statements the database
received are listed with each instant written as its offset in whole seconds from the first
instant among the statement's parameters, `<time+Ns>` or `<time-Ns>`.

## Main definitions

- `CommandRequest`, `commandRequestOf`, `commandEnv`.
- `linesJson`, `relativeLogJson`.
- `seederAnswer`, `workerAnswer`, `serverAnswer`, `perfAnswer`.

The worker is stopped with a termination signal 50 milliseconds after its output holds the
awaited message (`wait_for`, by default `worker running` once), or left to run to the time
limit when it never does; only the lines of its own messages are answered.

The server listens on the loopback address, which the site's network cannot reach: it never
answers a health check, so no request is sent to it, and it is killed at the time limit unless
it stops by itself first. Entries of named loggers are not answered.

The `perf` request runs the load-test client alone. Its standard output is answered as its
lines, with the values of the lines that depend on the run (target, duration, rates,
latencies) written `<masked>`; its standard error as log entries.
-/

namespace TopUpPromo
namespace Console

open Deployment Command

/-- What a request to run a command sets up. -/
structure CommandRequest where
  args : List String
  vars : List (String × String)
  redis : RedisServer
  entries : List Database.Entry
  timeoutMs : Nat

/-- The common fields of a request to run a command. -/
def commandRequestOf (j : Json) : Decode CommandRequest := do
  let timeout ← boundedInt j "timeout_ms" 100 8000 3000
  let mode ← redisModeOf (← fieldOr j "redis" stringOf "up")
  let transport ← transportOf (← fieldOr j "redis_socket" stringOf "tcp")
  let entries ← fieldOr j "db" entriesOf []
  let vars ← envOf j
  let args ← fieldOr j "args" (fun n => listOf (stringOf n) n) []
  return ⟨args, vars, { mode := mode, transport := transport }, entries, timeout.toNat⟩

namespace CommandRequest

def sets (r : CommandRequest) (k : String) : Bool := r.vars.any (·.1 == k)

/-- The variables of the process: the database's socket and Redis's address unless the
request names them, `extra`, the request's variables on top, and `forced` over them. -/
def env (r : CommandRequest) (extra forced : List (String × String)) : Env :=
  let db := if r.sets "DB_HOST" then [] else [("DB_HOST", socketDir), ("DB_PORT", "5432")]
  let redis := if r.sets "REDIS_ADDR" then [] else [("REDIS_ADDR", r.redis.address)]
  envLookup (db ++ redis ++ extra ++ r.vars ++ forced)

def site (r : CommandRequest) : Site := { db := { queue := r.entries }, redis := r.redis }

end CommandRequest

def streamName : OutStream → String
  | .stdout => "stdout"
  | .stderr => "stderr"

def throughFloat : Json → Json
  | .num n =>
    match Text.readFloat n with
    | .ok f => .num f.jsonText
    | .error _ => .num n
  | .arr items => .arr (floatItems items)
  | .obj ms => .obj (floatMembers ms)
  | j => j
where
  floatItems : List Json → List Json
    | [] => []
    | j :: rest => throughFloat j :: floatItems rest
  floatMembers : List (String × Json) → List (String × Json)
    | [] => []
    | (k, v) :: rest => (k, throughFloat v) :: floatMembers rest

def keptMember (m : String × Json) : Bool :=
  !(["timestamp", "ts", "caller", "stacktrace"].contains m.1)

def lineJson : Line → Option Json
  | .entry e => some (throughFloat (entryJson e))
  | .text stream s =>
    match Json.parse s with
    | .ok (.obj ms) =>
      some (.obj [("stream", .str (streamName stream)), ("json", throughFloat (.obj (ms.filter keptMember)))])
    | _ =>
      if s.startsWith "flag " || s.startsWith "invalid " then
        some (.obj [("stream", .str (streamName stream)), ("text", .str s)])
      else none

/-- The lines as the answer lists them: standard output first, only those kept, masked. -/
def linesJson (lines : List Written) : List Json :=
  let ordered := lines.filter (·.line.stream == .stdout) ++ lines.filter (·.line.stream == .stderr)
  (ordered.filterMap (lineJson ·.line)).map maskRunValues

def paramInstant? : Database.Param → Option Instant
  | .time t => some t
  | .wallClock => some machineClock
  | _ => none

def offsetText (first t : Instant) : String :=
  let secs := (t.totalNanos - first.totalNanos).tdiv 1000000000
  if secs < 0 then "<time-" ++ toString (-secs) ++ "s>" else "<time+" ++ toString secs ++ "s>"

def relativeStatementJson (st : Database.Statement) : Json :=
  match st.params with
  | none => .obj [("sql", .str st.text)]
  | some ps =>
    let first := (ps.findSome? paramInstant?).getD machineClock
    let param (p : Database.Param) : Json :=
      match paramInstant? p with
      | some t => .str (offsetText first t)
      | none => paramJson none p
    .obj [("params", .arr (ps.map param)), ("sql", .str st.text)]

/-- The statements a database received, instants relative. -/
def relativeLogJson (db : Database.Server) : Json :=
  .arr (db.log.toList.map relativeStatementJson)

/-- `seeder`: runs the seeder to its end. -/
def seederAnswer (j : Json) : Decode Json := do
  let r ← commandRequestOf j
  if j.has "tasks" then throw "tasks are only for the worker"
  let o := untilExit ((seeder (r.env [] []) r.args).run r.site) r.timeoutMs
  return .obj [("exit_code", .ofInt o.code), ("timed_out", .bool o.killed),
    ("logs", .arr (linesJson o.lines)), ("sql", relativeLogJson o.site.db),
    ("unused_script", .ofNat o.site.db.queue.length)]

def occurrencesIn (needle : List Char) : Nat → List Char → Nat
  | 0, _ => 0
  | _ + 1, [] => 0
  | fuel + 1, c :: cs =>
    if !needle.isEmpty && needle.isPrefixOf (c :: cs) then
      1 + occurrencesIn needle fuel ((c :: cs).drop needle.length)
    else occurrencesIn needle fuel cs

def occurrences (needle hay : String) : Nat :=
  occurrencesIn needle.toList (hay.length + 1) hay.toList

def momentOfCount (lines : List Written) (needle : String) (count limit : Nat) : Option Nat :=
  let rec go : List Written → Nat → Option Nat
    | [], _ => none
    | w :: rest, seen =>
      if w.atMs ≥ limit then none
      else
        let seen := seen + occurrences needle w.line.rendered
        if seen ≥ count then some w.atMs else go rest seen
  go lines 0

def workerMessages : List String :=
  ["connected to PostgreSQL", "database schema migrated", "connected to Redis",
   "redis not ready, retrying", "worker running", "shutting down worker",
   "worker exited gracefully", "the worker requires postgres storage",
   "failed to initialize promotion core", "failed to start worker", "failed to load config",
   "first-login enrolled", "first-login not enrolled", "first-login enrollment failed, will retry",
   "first-login enrollment failed", "asynq task failed"]

def entryMessage? (j : Json) : Option String :=
  match j.field? "msg" with
  | some (.str m _) => some m
  | _ =>
    match j.field? "json" with
    | some inner =>
      match inner.field? "msg" with
      | some (.str m _) => some m
      | _ => none
    | none => none

def queueTaskOf (index : Nat) (j : Json) : Decode QueueTask := do
  let timeout ← fieldOr j "timeout_s" (fun n => intOf n 64) 10
  return ⟨← fieldOr j "type" stringOf Events.firstLoginType, ← fieldOr j "payload" stringOf "",
    ← fieldOr j "id" stringOf ("oracle-task-" ++ toString (index + 1)),
    ← fieldOr j "retry" (fun n => intOf n 64) 0, ← fieldOr j "retried" (fun n => intOf n 64) 0,
    if timeout ≤ 0 then 10 else timeout.toNat⟩

def queueTasksOf (j : Json) : Decode (List QueueTask) :=
  match j.field? "tasks" with
  | none => .ok []
  | some .null => .ok []
  | some (.arr items) => (items.zipIdx.mapM fun (t, i) => queueTaskOf i t)
  | some _ => .error "field tasks has the wrong type"

/-- `worker`: runs the worker until the awaited message, then stops it. -/
def workerAnswer (j : Json) : Decode Json := do
  let r ← commandRequestOf j
  let tasks ← queueTasksOf j
  let waitFor := (j.field? "wait_for").getD (.obj [])
  let msg ← fieldOr waitFor "msg" stringOf "worker running"
  let count ← fieldOr waitFor "count" (fun n => intOf n 64) 1
  if msg.isEmpty || count < 1 then throw "wait_for needs a message and a count of at least 1"
  let limit := r.timeoutMs
  let trace := (worker (r.env [] []) r.args tasks).run r.site
  let awaited := momentOfCount trace.2.written.toList msg count.toNat limit
  let stopAt := match awaited with
    | some t => t + 50
    | none => limit
  let o : Outcome :=
    if exitsBefore trace (min stopAt limit) then untilExit trace limit
    else match awaited with
      | some t => if t + 50 < limit then terminate trace (t + 50) limit else killedAt trace.2 limit
      | none => killedAt trace.2 limit
  let logs := (linesJson o.lines).filter fun e =>
    match entryMessage? e with
    | some m => workerMessages.contains m
    | none => true
  let ending : List (String × Json) :=
    if o.killed then [("exit_code", .ofInt o.code), ("killed", .bool true)]
    else [("exit_code", .ofInt o.code), ("exited_before_signal", .bool o.exitedFirst)]
  return .obj (ending ++ [("logs", .arr logs), ("sql", maskStandardCodes (relativeLogJson o.site.db))])

def serverPort : String := "18080"

def fromNamedLogger (j : Json) : Bool :=
  match j.field? "logger" with
  | some _ => true
  | none =>
    match j.field? "json" with
    | some inner => (inner.field? "logger").isSome
    | none => false

/-- `server`: runs the server until it stops or the time limit. -/
def serverAnswer (j : Json) : Decode Json := do
  let r ← commandRequestOf j
  if j.has "tasks" then throw "tasks are only for the worker"
  let portBusy ← fieldOr j "port_busy" boolOf false
  let storage := if r.sets "APP_STORAGE" then [] else [("APP_STORAGE", "memory")]
  let env := r.env storage [("SERVER_HOST", "127.0.0.1"), ("SERVER_PORT", serverPort)]
  let o := untilExit ((server env portBusy).run r.site) r.timeoutMs
  let logs := (linesJson o.lines).filter (!fromNamedLogger ·)
  let ending : List (String × Json) :=
    if o.killed then [("exit_code", .ofInt o.code), ("killed", .bool true)]
    else [("exit_code", .ofInt o.code)]
  return .obj ([("started", .bool false)] ++ ending ++
    [("logs", .arr logs), ("sql", maskStandardCodes (relativeLogJson o.site.db))])

def runLabels : List String := ["Target", "Duration", "Actual RPS", "Avg latency", "P95 latency"]

def maskReportLine (l : String) : String :=
  if runLabels.any (fun p => l.startsWith p) then
    match l.splitOn ":" with
    | label :: _ :: _ => label ++ ": <masked>"
    | _ => l
  else l

def stdoutLines (lines : List Written) : List String :=
  let texts := lines.filterMap fun w =>
    match w.line with
    | .text .stdout s => some s
    | _ => none
  let out := String.ofList (("\n".intercalate texts).toList.reverse.dropWhile (· = '\n')).reverse
  out.splitOn "\n"

/-- `perf`: runs the load-test client alone. -/
def perfAnswer (j : Json) : Decode Json := do
  let timeout ← boundedInt j "timeout_ms" 100 8000 3000
  let args ← fieldOr j "args" (fun n => listOf (stringOf n) n) []
  let o := untilExit ((loadTest args).run { db := {}, redis := ⟨.down, .network, 0⟩ }) timeout.toNat
  let errors := o.lines.filter (·.line.stream == .stderr)
  return .obj [("exit_code", .ofInt o.code),
    ("stdout", .arr ((stdoutLines o.lines).map (.str ∘ maskReportLine))),
    ("stderr", .arr (linesJson errors))]

end Console
end TopUpPromo
