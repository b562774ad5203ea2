import TopUpPromo.Json.Writer
import TopUpPromo.Time.Text

/-!
# First-login tasks

A first login travels through the event queue as a task of type `user:first_login` whose
payload is the JSON object `{"event_id":…,"user_id":…,"occurred_at":…}`, members in that order.
The time is written as RFC 3339 with nanoseconds; a time whose year is outside 0–9999 or whose
offset reaches 24 hours has no such text, and then no task can be built.

A failed task is retried after two seconds doubled once per earlier retry, at most ten times
doubled.

## Main definitions

- `FirstLogin`, `FirstLogin.payload`: the event and its payload text.
- `retryDelay`: the wait before retry `n`, in nanoseconds.
-/

namespace TopUpPromo
namespace Events

def firstLoginType : String := "user:first_login"

def userEventsQueue : String := "user-events"

def firstLoginMaxRetry : Nat := 3

/-- A user's first login. -/
structure FirstLogin where
  eventId : String
  userId : Int
  occurredAt : Instant
  deriving Repr

def instantJson (t : Instant) : Except String String :=
  match t.jsonFault? with
  | some reason => .error reason
  | none => .ok ("\"" ++ t.rfc3339 ++ "\"")

/-- The payload text of a first login, or why the time cannot be written. -/
def FirstLogin.payload (e : FirstLogin) : Except String String :=
  (instantJson e.occurredAt).map fun stamp =>
    "\x7b\"event_id\":" ++ Json.escape e.eventId ++ ",\"user_id\":" ++ toString e.userId ++
      ",\"occurred_at\":" ++ stamp ++ "\x7d"

def payloadFailureText (reason : String) : String := timeEncodingFailure reason

/-- Nanoseconds to wait before retry `n` of a task: two seconds doubled `n` times, with `n`
kept within 0–10. -/
def retryDelay (n : Int) : Nat :=
  let k := if n < 0 then 0 else if n > 10 then 10 else n.toNat
  2000000000 * Nat.pow 2 k

end Events
end TopUpPromo
