import TopUpPromo.Events.Task
import TopUpPromo.Json.Reader
import TopUpPromo.Json.Bind
import TopUpPromo.Service.Enrollment
import TopUpPromo.Text.Quote

/-!
# Handling first-login tasks

The worker enrolls the user of each first-login task. A payload that is no first-login object,
and a user id that is not positive, are dropped for good: the task fails without retries.
Otherwise the enrollment runs, bounded by the handler's timeout when one is set. A rejection or
a failure that cannot be helped by a retry is acknowledged; only a retryable failure fails the
task, so that the queue retries it.

## Main definitions

- `readPayload`: the first login a payload holds.
- `TaskFault`: why a task failed, with its message and whether the queue may retry it.
- `Handled`, `handleFirstLogin`, `handleTask`.
-/

namespace TopUpPromo
namespace Events

def kindName : Json → String
  | .null => "null"
  | .bool _ => "bool"
  | .num _ => "number"
  | .str _ _ => "string"
  | .arr _ => "array"
  | .obj _ => "object"

def payloadFields : List String := ["event_id", "user_id", "occurred_at"]

def fieldMismatch (value field type : String) : String :=
  "json: cannot unmarshal " ++ value ++ " into Go struct field FirstLoginPayload." ++ field ++
    " of type " ++ type

def readMembers : List (String × Json) → FirstLogin → Option String →
    Except String (FirstLogin × Option String)
  | [], p, first => .ok (p, first)
  | (k, v) :: rest, p, first =>
    match Json.bindingOf payloadFields k, v with
    | none, _ => readMembers rest p first
    | some _, .null => readMembers rest p first
    | some "event_id", .str s _ => readMembers rest { p with eventId := s } first
    | some "event_id", v => readMembers rest p (first.orElse fun _ =>
        some (fieldMismatch (kindName v) "event_id" "string"))
    | some "user_id", .num n =>
      match Text.readInt n false 64 with
      | .ok u => readMembers rest { p with userId := u } first
      | .error _ => readMembers rest p (first.orElse fun _ =>
          some (fieldMismatch ("number " ++ n) "user_id" "int64"))
    | some "user_id", v => readMembers rest p (first.orElse fun _ =>
        some (fieldMismatch (kindName v) "user_id" "int64"))
    | some _, .str s raw =>
      match Instant.readRFC3339 (raw.getD s) with
      | .ok t => readMembers rest { p with occurredAt := t } first
      | .error e => .error e.message
    | some _, _ => .error "Time.UnmarshalJSON: input is not a JSON string"

/-- Reads a first-login payload: a JSON object (or `null`) with a text `event_id`, an integer
`user_id` and an RFC 3339 `occurred_at`. The error says why it is no such object, in the words
of the JSON decoder: a syntax error, a time that does not parse, or else the first member of
the wrong kind. -/
def readPayload (payload : String) : Except String FirstLogin :=
  let empty : FirstLogin := ⟨"", 0, Instant.zero⟩
  match Json.parse payload with
  | .error e => .error e.message
  | .ok .null => .ok empty
  | .ok (.obj ms) =>
    match readMembers ms empty none with
    | .error e => .error e
    | .ok (_, some e) => .error e
    | .ok (p, none) => .ok p
  | .ok v =>
    .error ("json: cannot unmarshal " ++ kindName v ++ " into Go value of type events.FirstLoginPayload")

/-- The failure a task ends with. -/
inductive TaskFault where
  /-- The payload is no first-login object. -/
  | malformed (detail : String)
  /-- The user id is not positive. -/
  | invalidUser (id : Int)
  /-- The enrollment failed in a way a retry may help. -/
  | enrollment (f : Failure)
  /-- No handler takes tasks of this type. -/
  | unknownType (kind : String)
  deriving Repr

namespace TaskFault

def skipRetryText : String := "skip retry for the task"

def message : TaskFault → String
  | .malformed d => "invalid first-login payload: " ++ d ++ ": " ++ skipRetryText
  | .invalidUser id => "invalid user id " ++ toString id ++ ": " ++ skipRetryText
  | .enrollment f => f.text
  | .unknownType k => "handler not found for task " ++ Text.quote k

def skipRetry : TaskFault → Bool
  | .malformed _ => true
  | .invalidUser _ => true
  | _ => false

def retryable : TaskFault → Bool
  | .enrollment f => f.retryable
  | _ => true

end TaskFault

/-- What handling a task did: the enrollment's outcome, when one ran, and the failure the
task ended with, if any. -/
structure Handled where
  enrollment : Option (Except Failure EnrollResult)
  fault : Option TaskFault

def boundedCtx (ctx : Ctx) (timeoutMs : Nat) : Ctx :=
  if timeoutMs = 0 then ctx
  else match ctx with
    | .live => .deadlineIn timeoutMs
    | .deadlineIn d => .deadlineIn (min d timeoutMs)
    | c => c

section Handling

variable {m : Type → Type} [Monad m] [PromotionStore m] [CodeSource m]

/-- Handles a first-login payload. -/
def handleFirstLogin (cfg : Enrollment) (timeoutMs : Nat) (ctx : Ctx) (payload : String) :
    m Handled := do
  match readPayload payload with
  | .error d => return ⟨none, some (.malformed d)⟩
  | .ok p =>
    if p.userId ≤ 0 then return ⟨none, some (.invalidUser p.userId)⟩
    let r ← enroll cfg (boundedCtx ctx timeoutMs) ⟨p.userId, none⟩
    match r with
    | .error f => return ⟨some r, if f.retryable then some (.enrollment f) else none⟩
    | .ok _ => return ⟨some r, none⟩

/-- Handles a task of any type: first logins as above, every other type fails. -/
def handleTask (cfg : Enrollment) (timeoutMs : Nat) (ctx : Ctx) (kind payload : String) :
    m Handled :=
  if kind == firstLoginType then handleFirstLogin cfg timeoutMs ctx payload
  else pure ⟨none, some (.unknownType kind)⟩

end Handling

end Events
end TopUpPromo
