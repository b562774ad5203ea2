import TopUpPromo.Api.Request
import TopUpPromo.Api.Response
import TopUpPromo.Events.Task

/-!
# The promotion API server

Each method checks its request, calls the service and writes the response message. A failure
of a service is answered with an API error whose code follows the failure's cause: a missing
voucher or campaign is `not_found`, a foreign voucher `permission_denied`, an unusable voucher
or an amount below its minimum `failed_precondition`, a bad amount `invalid_argument`, a failed
payment `aborted`, a lock wait that ran out `unavailable`, a finished context `canceled` or
`deadline_exceeded`, and anything else `internal`.

A first login is reported by queueing a task for the worker; without a queue the method is
`unavailable`.

## Main definitions

- `Code`, `ApiError`, `apiError`.
- `FirstLoginQueue`: the queue that reported first logins go to.
- `publishFirstLogin`, `ServerSettings`, `serve`.
-/

namespace TopUpPromo
namespace Api

/-- The error codes of the API. -/
inductive Code where
  | canceled
  | unknown
  | invalidArgument
  | deadlineExceeded
  | notFound
  | alreadyExists
  | permissionDenied
  | resourceExhausted
  | failedPrecondition
  | aborted
  | outOfRange
  | unimplemented
  | internal
  | unavailable
  | dataLoss
  | unauthenticated
  deriving DecidableEq, Repr

namespace Code

def text : Code → String
  | .canceled => "canceled"
  | .unknown => "unknown"
  | .invalidArgument => "invalid_argument"
  | .deadlineExceeded => "deadline_exceeded"
  | .notFound => "not_found"
  | .alreadyExists => "already_exists"
  | .permissionDenied => "permission_denied"
  | .resourceExhausted => "resource_exhausted"
  | .failedPrecondition => "failed_precondition"
  | .aborted => "aborted"
  | .outOfRange => "out_of_range"
  | .unimplemented => "unimplemented"
  | .internal => "internal"
  | .unavailable => "unavailable"
  | .dataLoss => "data_loss"
  | .unauthenticated => "unauthenticated"

def httpStatus : Code → Nat
  | .canceled => 499
  | .unknown => 500
  | .invalidArgument => 400
  | .deadlineExceeded => 504
  | .notFound => 404
  | .alreadyExists => 409
  | .permissionDenied => 403
  | .resourceExhausted => 429
  | .failedPrecondition => 400
  | .aborted => 409
  | .outOfRange => 400
  | .unimplemented => 404
  | .internal => 500
  | .unavailable => 503
  | .dataLoss => 500
  | .unauthenticated => 401

end Code

/-- An error answer: its code and message. -/
structure ApiError where
  code : Code
  message : String
  deriving Repr

/-- The error answer for a failure of a service. -/
def apiError (f : Failure) : ApiError :=
  let code : Code :=
    if f.hasCause .voucherNotFound || f.hasCause .campaignNotFound then .notFound
    else if f.hasCause .voucherNotOwned then .permissionDenied
    else if f.hasCause .voucherInvalidOrExpired || f.hasCause .belowMinimumTopup ||
      f.belowMinimum?.isSome then .failedPrecondition
    else if f.hasCause .invalidAmount then .invalidArgument
    else if f.hasCause .paymentFailed then .aborted
    else if f.hasCause .lockTimeout then .unavailable
    else if f.hasCause .canceled then .canceled
    else if f.hasCause .deadlineExceeded then .deadlineExceeded
    else .internal
  ⟨code, f.text⟩

def contextError : Ctx → Option ApiError
  | .cancelled => some ⟨.canceled, Cause.canceled.text⟩
  | .deadlinePassed => some ⟨.deadlineExceeded, Cause.deadlineExceeded.text⟩
  | _ => none

/-- The queue that reported first logins are published to: it takes a task's payload and
answers the task's id, if it tells one. Event ids and the wall clock come from here too. -/
class FirstLoginQueue (m : Type → Type) where
  enqueue : Ctx → String → m (Except Failure (Option String))
  nextEventId : m String
  wallClock : m Instant

section Publishing

variable {m : Type → Type} [Monad m] [FirstLoginQueue m]

/-- Queues a first-login task and answers its id: the id the queue tells, or else the event
id. A login without a time is stamped with the wall clock. -/
def publishFirstLogin (ctx : Ctx) (userId : Int) (occurredAt : Instant) :
    m (Except Failure String) := do
  let occurred ← if occurredAt.isZero then FirstLoginQueue.wallClock else pure occurredAt
  let eventId ← (FirstLoginQueue.nextEventId : m String)
  match (Events.FirstLogin.mk eventId userId occurred).payload with
  | .error reason =>
    pure (.error (.plain ("failed to build first-login task: " ++ Events.payloadFailureText reason)))
  | .ok payload =>
    match ← FirstLoginQueue.enqueue ctx payload with
    | .error e => pure (.error (.within "failed to enqueue first-login task" e))
    | .ok (some id) => pure (.ok id)
    | .ok none => pure (.ok eventId)

end Publishing

/-- How the server is set up: its enrollment, and whether it has a queue to publish to. -/
structure ServerSettings where
  enrollment : Enrollment
  canPublish : Bool

def userIdError : ApiError := ⟨.invalidArgument, "user_id must be positive"⟩

section Serving

variable {m : Type → Type} [Monad m] [PromotionStore m] [CodeSource m] [PaymentGateway m]
  [TransactionSuffix m] [FirstLoginQueue m]

def answered {α : Type} (r : Except Failure α) (view : α → Encoded) :
    Except ApiError Encoded :=
  match r with
  | .ok a => .ok (view a)
  | .error f => .error (apiError f)

/-- Serves one request: an API error, or the response message as the encoder writes it. -/
def serve (cfg : ServerSettings) (ctx : Ctx) (req : Request) : m (Except ApiError Encoded) := do
  let now := cfg.enrollment.now
  match req with
  | .trackFirstLogin userId campaignId =>
    if userId ≤ 0 then return .error userIdError
    let r ← enroll cfg.enrollment ctx ⟨userId, campaignId⟩
    return answered r (pure ∘ trackResponse)
  | .reportFirstLogin userId occurredAt =>
    if !cfg.canPublish then return .error ⟨.unavailable, "event queue is not configured"⟩
    if userId ≤ 0 then return .error userIdError
    match ← publishFirstLogin ctx userId occurredAt with
    | .ok id => return .ok (.ok (.obj [("task_id", .str id)]))
    | .error f => return .error ⟨.unavailable, f.text⟩
  | .checkEligibility userId =>
    if userId ≤ 0 then return .error userIdError
    let r ← checkEligibility now ctx userId
    return answered r (pure ∘ eligibilityResponse)
  | .listVouchers userId =>
    let r ← listVouchers now ctx userId
    return answered r fun vs => do
      return .obj [("vouchers", .arr (← vs.mapM (voucherJson · now)))]
  | .listParticipations userId =>
    let r ← listParticipations cfg.enrollment.threshold now ctx userId
    return answered r fun ps => do
      return .obj [("participations", .arr (← ps.mapM (participationJson · now)))]
  | .validateVoucher code =>
    let r ← validateVoucher now ctx code
    return answered r fun v => do return .obj [("voucher", ← voucherJson v now)]
  | .redeemVoucher code userId amount phone method =>
    let r ← redeem now ctx ⟨userId, amount, phone, method, code⟩
    return answered r (pure ∘ topUpResponse)
  | .topUp userId amount phone method code =>
    let r ← topUp now ctx ⟨userId, amount, phone, method, code⟩
    return answered r (pure ∘ topUpResponse)
  | .listActiveCampaigns =>
    let r ← listActiveCampaigns ctx
    return answered r fun cs => do return .obj [("campaigns", .arr (← cs.mapM campaignJson))]
  | .getCampaign id =>
    let r ← getCampaign ctx id
    return answered r fun c => do return .obj [("campaign", ← campaignJson c)]

end Serving

end Api
end TopUpPromo
