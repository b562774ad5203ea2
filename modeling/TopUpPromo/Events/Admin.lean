import TopUpPromo.Events.Task
import TopUpPromo.Api.Http

/-!
# Queue administration over HTTP

Two endpoints look after the `user-events` queue: `GET /queue-stats` reports its counters and
`POST /retry-failed` moves every archived task back to pending. Both ask a queue inspector.

A queue the inspector does not know is an empty queue: its statistics are all zero, and retrying
it moves the tasks the inspector reports (none, for a real one) without failing. Any other
failure of the inspector is answered with status 500 and a plain-text line.

Requests are routed as the router of the service routes them: a method it does not know, or a
known path asked with another method, is answered 405 with an empty body and no content type;
an unknown path is answered 404 with `404 page not found`.

## Main definitions

- `QueueInfo`, `InspectorError`, `QueueInspector`.
- `AdminResponse`, `AdminRoute`, `adminRoute`, `serveAdmin`.
-/

namespace TopUpPromo
namespace Events

/-- The counters of a queue, as the inspector reports them. -/
structure QueueInfo where
  queue : String
  size : Int
  pending : Int
  active : Int
  scheduled : Int
  retry : Int
  archived : Int
  completed : Int
  processed : Int
  failed : Int
  paused : Bool
  deriving Repr

def QueueInfo.empty (queue : String) : QueueInfo := ⟨queue, 0, 0, 0, 0, 0, 0, 0, 0, 0, false⟩

def QueueInfo.statsJson (i : QueueInfo) : Json :=
  .obj [("queue", .str i.queue), ("size", .ofInt i.size), ("pending", .ofInt i.pending),
    ("active", .ofInt i.active), ("scheduled", .ofInt i.scheduled), ("retry", .ofInt i.retry),
    ("archived", .ofInt i.archived), ("completed", .ofInt i.completed),
    ("processed_today", .ofInt i.processed), ("failed_today", .ofInt i.failed),
    ("paused", .bool i.paused)]

/-- A failure of the queue inspector. -/
inductive InspectorError where
  /-- The queue does not exist. -/
  | queueNotFound
  /-- Any other failure, with its text. -/
  | other (text : String)
  deriving DecidableEq, Repr

def InspectorError.text : InspectorError → String
  | .queueNotFound => "queue not found"
  | .other t => t

/-- The part of a queue inspector the endpoints use. -/
class QueueInspector (m : Type → Type) where
  /-- The counters of a queue. -/
  queueInfo : String → m (Except InspectorError QueueInfo)
  /-- Moves the archived tasks of a queue back to pending: how many it moved, and the failure
  that stopped it, if one did. -/
  runAllArchived : String → m (Int × Option InspectorError)

/-- A response of the endpoints, with its content type. -/
structure AdminResponse where
  status : Nat
  contentType : String
  body : Api.HttpBody

def jsonResponse (status : Nat) (j : Json) : AdminResponse := ⟨status, "application/json", .json j⟩

def errorLine (status : Nat) (text : String) : AdminResponse :=
  ⟨status, "text/plain; charset=utf-8", .text (text ++ "\n")⟩

def queueStats : Except InspectorError QueueInfo → AdminResponse
  | .ok i => jsonResponse 200 i.statsJson
  | .error .queueNotFound => jsonResponse 200 (QueueInfo.empty userEventsQueue).statsJson
  | .error e => errorLine 500 ("failed to read queue info: " ++ e.text)

def retryFailed (moved : Int) : Option InspectorError → AdminResponse
  | some (.other t) => errorLine 500 ("failed to retry archived tasks: " ++ t)
  | _ => jsonResponse 200 (.obj [("queue", .str userEventsQueue), ("retried", .ofInt moved)])

def routerMethods : List String :=
  ["CONNECT", "DELETE", "GET", "HEAD", "OPTIONS", "PATCH", "POST", "PUT", "TRACE"]

/-- Where a request goes. -/
inductive AdminRoute where
  | queueStats
  | retryFailed
  | notFound
  | methodNotAllowed
  deriving DecidableEq, Repr

/-- The route of a request: its path is matched without the query. -/
def adminRoute (verb target : String) : AdminRoute :=
  let path := (target.splitOn "?").headD ""
  if !routerMethods.contains verb then .methodNotAllowed
  else if path == "/queue-stats" then (if verb == "GET" then .queueStats else .methodNotAllowed)
  else if path == "/retry-failed" then (if verb == "POST" then .retryFailed else .methodNotAllowed)
  else .notFound

def notFoundResponse : AdminResponse := ⟨404, "text/plain; charset=utf-8", .text "404 page not found\n"⟩

def methodNotAllowedResponse : AdminResponse := ⟨405, "", .text ""⟩

/-- Serves a request to the endpoints. -/
def serveAdmin {m : Type → Type} [Monad m] [QueueInspector m] (verb target : String) :
    m AdminResponse :=
  match adminRoute verb target with
  | .queueStats => do return queueStats (← QueueInspector.queueInfo userEventsQueue)
  | .retryFailed => do
    let (moved, e) ← QueueInspector.runAllArchived userEventsQueue
    return retryFailed moved e
  | .notFound => pure notFoundResponse
  | .methodNotAllowed => pure methodNotAllowedResponse

end Events
end TopUpPromo
