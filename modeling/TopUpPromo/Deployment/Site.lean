import TopUpPromo.Database.Client
import TopUpPromo.Log

/-!
# The site a deployment runs on

A deployment of the promotion service reaches two servers: the database, which answers from a
script, and a Redis server. The site holds both, a clock of milliseconds since the deployment
started, and the lines written so far (log entries and plain text), each with the moment it was
written.

The database listens on a socket in its own directory, and Redis either on a socket in the same
directory or on the loopback network. The site has no network: every connection over it fails
as unreachable, so only the sockets answer. Redis answers its handshake and everything but
`PING` with `OK`; how it answers `PING` depends on its mode.

## Main definitions

- `RedisMode`, `Transport`, `RedisServer`, `RedisServer.ping`.
- `OutStream`, `Line`, `Written`.
- `Site`, `SiteM`, `Site.write`, `Site.print`, `Site.wait`.
-/

namespace TopUpPromo
namespace Deployment

def socketDir : String := "/tmp/scripted-db"

def machineClock : Instant := Instant.ofCivil ⟨2026, 3, 1, 12, 0, 0⟩ 0 0

def databaseSocket : String := socketDir ++ "/.s.PGSQL.5432"

/-- How Redis answers `PING`. -/
inductive RedisMode where
  /-- With `PONG`. -/
  | up
  /-- Nothing listens. -/
  | down
  /-- With an error. -/
  | refusing
  /-- With `PONG` the first time, with an error after. -/
  | pingOnce
  deriving DecidableEq, Repr

/-- How Redis is reached. -/
inductive Transport where
  | network
  | socket
  deriving DecidableEq, Repr

def dialFailure (address : String) : String :=
  if address.startsWith "/" then "dial unix " ++ address ++ ": connect: no such file or directory"
  else "dial tcp " ++ address ++ ": connect: network is unreachable"

/-- The Redis server of a site, with the number of `PING`s it has answered. -/
structure RedisServer where
  mode : RedisMode
  transport : Transport
  pings : Nat := 0
  deriving Repr

namespace RedisServer

def address (r : RedisServer) : String :=
  match r.transport with
  | .network => "127.0.0.1:6379"
  | .socket => socketDir ++ (if r.mode == .down then "/redis-down.sock" else "/redis.sock")

def refusal : String := "ERR oracle redis refuses PING"

/-- Sends `PING` to an address: only the socket of a running Redis answers. -/
def ping (r : RedisServer) (address : String) : Except String Unit × RedisServer :=
  if r.transport == .socket && r.mode != .down && address == r.address then
    let answer : Except String Unit := match r.mode with
      | .up => .ok ()
      | .pingOnce => if r.pings = 0 then .ok () else .error refusal
      | _ => .error refusal
    (answer, { r with pings := r.pings + 1 })
  else (.error (dialFailure address), r)

end RedisServer

/-- The two output streams of a process. -/
inductive OutStream where
  | stdout
  | stderr
  deriving DecidableEq, Repr

/-- A line a process writes: a log entry, or plain text on a stream. -/
inductive Line where
  | entry (e : LogEntry)
  | text (stream : OutStream) (s : String)

/-- A line with the millisecond it was written at. -/
structure Written where
  atMs : Nat
  line : Line

/-- The servers of a site, its clock, and the entries written so far. -/
structure Site where
  db : Database.Server
  redis : RedisServer
  /-- Milliseconds since the deployment started. -/
  clock : Nat := 0
  written : Array Written := #[]

/-- A step of a deployment. -/
abbrev SiteM := StateM Site

namespace Site

/-- Writes the entries of a log call. -/
def write (es : List LogEntry) : SiteM Unit :=
  modify fun s => { s with written := s.written ++ (es.map fun e => ⟨s.clock, .entry e⟩).toArray }

/-- Writes a line of text on a stream. -/
def print (stream : OutStream) (text : String) : SiteM Unit :=
  modify fun s => { s with written := s.written.push ⟨s.clock, .text stream text⟩ }

def log (l : Logger) (level : Level) (message : String) (fs : List (String × Json)) : SiteM Unit :=
  write (l.log level message fs)

def onDatabase {α : Type} (call : Database.Connection α) : SiteM α :=
  modifyGet fun s => let (a, db) := call.run s.db; (a, { s with db := db })

def pingRedis (address : String) : SiteM (Except String Unit) :=
  modifyGet fun s => let (r, redis) := s.redis.ping address; (r, { s with redis := redis })

/-- Waits `ms` milliseconds, unless the deadline (a moment of the site's clock) comes first:
whether the wait ran to its end. -/
def wait (ms : Nat) (deadline : Option Nat) : SiteM Bool :=
  modifyGet fun s =>
    match deadline with
    | some d => if d ≤ s.clock + ms then (false, { s with clock := max s.clock d })
      else (true, { s with clock := s.clock + ms })
    | none => (true, { s with clock := s.clock + ms })

end Site

end Deployment
end TopUpPromo
