import TopUpPromo.Console.Input
import TopUpPromo.Events.Admin
import TopUpPromo.Json.Reader

/-!
# Queue administration on the console

The `admin` request sends one HTTP request to the queue administration endpoints, whose
inspector answers from the request's `inspector` object: `info` (the counters), `info_error`,
`retry_error` (`queue_not_found` for a queue that does not exist, any other text for a failure)
and `retried`. The answer gives the status, the content type, the inspector calls in order, and
the body under `json` when it is one JSON value, else under `text`.

## Main definitions

- `ScriptedInspector`, `InspectorM`, `adminAnswer`.
-/

namespace TopUpPromo
namespace Console

open Events

/-- What the inspector of an `admin` request answers. -/
structure ScriptedInspector where
  info : QueueInfo
  infoError : Option InspectorError
  retried : Int
  retryError : Option InspectorError

/-- Serving with a scripted inspector, recording its calls. -/
abbrev InspectorM := ReaderT ScriptedInspector (StateM (Array String))

instance : QueueInspector InspectorM where
  queueInfo q := do
    modify (·.push ("GetQueueInfo:" ++ q))
    let s ← read
    return match s.infoError with
      | some e => .error e
      | none => .ok s.info
  runAllArchived q := do
    modify (·.push ("RunAllArchivedTasks:" ++ q))
    let s ← read
    return (s.retried, s.retryError)

def inspectorErrorOf (name : String) (j : Json) : Decode InspectorError := do
  let s ← stringOf name j
  return if s == "queue_not_found" then .queueNotFound else .other s

def queueInfoOf (j : Json) : Decode QueueInfo := do
  let count (k : String) : Decode Int := fieldOr j k (fun n => intOf n 64) 0
  return ⟨← fieldOr j "queue" stringOf "", ← count "size", ← count "pending", ← count "active",
    ← count "scheduled", ← count "retry", ← count "archived", ← count "completed",
    ← count "processed", ← count "failed", ← fieldOr j "paused" boolOf false⟩

def scriptedInspectorOf (j : Json) : Decode ScriptedInspector := do
  return ⟨← fieldOr j "info" (fun _ => queueInfoOf) (QueueInfo.empty ""),
    ← optField j "info_error" inspectorErrorOf, ← fieldOr j "retried" (fun n => intOf n 64) 0,
    ← optField j "retry_error" inspectorErrorOf⟩

def bodyMember : Api.HttpBody → String × Json
  | .json j => ("json", j)
  | .text s =>
    match Json.parse s with
    | .ok j => ("json", j)
    | .error _ => ("text", .str s)

/-- `admin`: one request to the queue administration endpoints. -/
def adminAnswer (j : Json) : Decode Json := do
  let verb ← fieldOr j "method" stringOf "GET"
  let path ← fieldOr j "path" stringOf "/"
  let inspector ← fieldOr j "inspector" (fun _ => scriptedInspectorOf) ⟨QueueInfo.empty "", none, 0, none⟩
  let (resp, calls) := ((serveAdmin verb path : InspectorM AdminResponse).run inspector).run #[]
  return .obj [("status", .ofNat resp.status), ("content_type", .str resp.contentType),
    ("calls", .arr (calls.toList.map .str)), bodyMember resp.body]

end Console
end TopUpPromo
