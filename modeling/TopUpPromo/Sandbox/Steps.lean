import TopUpPromo.Sandbox.View
import TopUpPromo.Api.Http
import TopUpPromo.Events.Handler
import TopUpPromo.Seed

/-!
# Steps of a sandbox session

A session drives a sandbox through steps: it creates campaigns, moves the clock, sets up the
gateway and the queue, calls the services directly, through the API, over HTTP or through a
client, handles queued tasks, holds row locks from a second transaction, calls the store and
its transactions directly, and shows the state. Each step answers one JSON value.

A call through the API answers the response message as the JSON encoder writes it; a message
with a time that has no JSON text is a failure of the encoder instead. A client writes its
request before sending it, so a request with such a time fails in the client. A transaction
step calls its methods in order; an op that cannot be made (an unknown method, a decimal that
does not read) ends the transaction, which is rolled back, and the step answers `bad_input`.

## Main definitions

- `Settings`: what a session fixes for all its steps.
- `TxOp`, `StoreQuery`, `CodedBody`, `Step`.
- `runTxOps`, `runStep`.
-/

namespace TopUpPromo
namespace Sandbox

open Api

/-- What a session fixes for all its steps. -/
structure Settings where
  threshold : Int32
  attempts : Nat
  handlerTimeoutMs : Nat

namespace Settings

def enrollment (cfg : Settings) (w : World) : Enrollment := ⟨cfg.threshold, cfg.attempts, w.now⟩

def server (cfg : Settings) (w : World) : ServerSettings :=
  ⟨cfg.enrollment w, w.publisher != .absent⟩

end Settings

/-- A call of a transaction method. -/
inductive TxOp where
  | lockCampaign (id : Int)
  | updateCampaignParticipants (id : Int) (current : Int32) (status : CampaignStatus)
  | createParticipation (userId campaignId : Int) (status : ParticipationStatus) (order : Int32)
  | updateParticipationStatus (id : Int) (status : ParticipationStatus)
  | createVoucher (code : String) (participationId userId : Int) (discount minTopup : Decimal)
      (maxDiscount : Option Decimal) (validityDays : Int)
  | lockVoucher (code : String)
  | markVoucherUsed (id : Int) (amount discount : Decimal) (reference : String)
  | markVoucherExpired (id : Int)

/-- A call of a read method of the store. -/
inductive StoreQuery where
  | getCampaign (id : Int)
  | findLatestActiveCampaign (kind : String)
  | listActiveCampaigns
  | hasParticipation (userId : Int) (kind : String)
  | listParticipationsByUser (userId : Int)
  | getVoucherByCode (code : String)
  | listVouchersByUser (userId : Int)
  | ping

/-- Where a step finds a voucher code: given, or the newest code of a user. -/
inductive CodeRef where
  | given (code : String)
  | newestOf (userId : Int)

/-- A request body whose voucher code is set from a user's newest voucher when the step runs:
the user, the member that holds the code, and the body's members as untyped JSON. -/
structure CodedBody where
  userId : Int
  field : String
  members : List (String × Json)

/-- A step of a session. -/
inductive Step where
  | createCampaign (c : Campaign) (raw : Bool)
  | publish (userId : Int)
  | seedCampaign (o : SeedOptions) (ensure : Bool)
  | advance (seconds days : Int)
  | setNow (t : Instant)
  | setGateway (g : Gateway) (name : String)
  | setPublisher (mode : PublisherMode) (name : String)
  | queueCodes (codes : List (Option String))
  | enroll (req : EnrollRequest)
  | rpc (req : Request) (codeOf : Option Int)
  | handleQueue
  | handleTask (payload : String)
  | queue
  | muxTask (kind payload : String)
  | lockCampaign (id : Int) (releaseAfterMs : Option Nat)
  | lockVoucher (code : CodeRef) (releaseAfterMs : Option Nat)
  | unlockAll
  | state
  | http (req : HttpRequest) (coded : Option CodedBody)
  | store (q : StoreQuery)
  | client (req : Request) (codeOf : Option Int)
  /-- A transaction of method calls; an op that cannot be made holds the reason. -/
  | tx (ops : List (Except String TxOp)) (rollback : Bool)

def Step.needsMemory? : Step → Option String
  | .lockCampaign _ _ => some "row locks can only be held with memory storage"
  | .lockVoucher _ _ => some "row locks can only be held with memory storage"
  | .rpc _ (some _) => some "code_of needs memory storage"
  | .client _ (some _) => some "code_of needs memory storage"
  | .http _ (some _) => some "code_of needs memory storage"
  | _ => none

def failureJson (f : Failure) : Json :=
  .obj [("error", .str f.kind), ("message", .str f.text)]

def apiErrorJson (e : ApiError) : Json :=
  .obj [("error", .str e.code.text), ("message", .str e.message)]

def resultJson {α : Type} (r : Except Failure α) (view : α → Json) : Json :=
  match r with
  | .ok a => view a
  | .error f => failureJson f

def enrollJson (r : EnrollResult) : Json :=
  .obj [("eligible", .bool r.eligible), ("reason", .str ((r.reason.map Reason.text).getD "")),
    ("campaign_id", .ofInt r.campaignId), ("campaign_name", .str r.campaignName),
    ("participation_order", .ofInt r.order.toInt),
    ("remaining_slots", .ofInt r.remainingSlots.toInt), ("voucher_code", .str r.voucherCode),
    ("message", .str r.message), ("err", .optional (fun f => .str (Failure.text f)) r.failure?)]

def faultMessage : Events.TaskFault → String
  | .malformed _ => "invalid first-login payload"
  | f => f.message

def handledJson (h : Events.Handled) : Json :=
  let enrollment := match h.enrollment with
    | some (.ok r) => enrollJson r
    | some (.error f) => failureJson f
    | none => .null
  match h.fault with
  | none => .obj [("enroll", enrollment), ("returned_error", .bool false)]
  | some f =>
    .obj [("enroll", enrollment), ("returned_error", .bool true),
      ("skip_retry", .bool f.skipRetry), ("retryable", .bool f.retryable),
      ("message", .str (faultMessage f))]

def newestCode (userId : Int) : SandboxM String := do
  return match (← get).storage with
    | .memory b =>
      match (b.store.listVouchersByUser userId).head? with
      | some v => v.code
      | none => "CAKE-NONE"
    | .database _ _ => "CAKE-NONE"

def resolveCode : CodeRef → SandboxM String
  | .given c => pure c
  | .newestOf u => newestCode u

def storeCampaign (ctx : Ctx) (c : Campaign) : SandboxM (Except Failure Campaign) :=
  World.call (fun b => let (c', s) := b.store.createCampaign c; (.ok c', { b with store := s }))
    fun _ => Relational.createCampaign ctx c

instance : CampaignWriter SandboxM where
  createCampaign ctx c := do
    let now := (← get).now
    storeCampaign ctx (if c.createdAt.isUnset then { c with createdAt := .clock now } else c)

def holdLock (lockStep : Memory.TxStep Unit) (releaseAfterMs : Option Nat) :
    SandboxM (Except Failure Unit) := modifyGet fun w =>
  match w.storage with
  | .database _ _ => (.error (.plain "row locks can only be held with memory storage"), w)
  | .memory b =>
    let (t, s) := b.store.begin
    let (r, s, t) := lockStep s t
    match r with
    | .error e => (.error e, { w with storage := .memory { b with store := t.rollback s } })
    | .ok () =>
      match releaseAfterMs with
      | some ms => (.ok (), { w with storage := .memory { b with store := s.setRelease t.owner ms } })
      | none =>
        (.ok (), { w with storage := .memory { b with store := s }, holders := w.holders ++ [t.owner] })

def runTxOp (ctx : Ctx) (now : Instant) : TxOp → SandboxM Json
  | .lockCampaign id => do
    return resultJson (← PromotionStore.lockCampaign ctx id) campaignRow
  | .updateCampaignParticipants id current status => do
    return resultJson (← PromotionStore.updateCampaignParticipants ctx id current status)
      fun _ => .obj [("ok", .bool true)]
  | .createParticipation userId campaignId status order => do
    let p : Participation := ⟨0, userId, campaignId, status, now, none, none, order⟩
    return resultJson (← PromotionStore.createParticipation ctx p) fun id => .obj [("id", .ofInt id)]
  | .updateParticipationStatus id status => do
    return resultJson (← PromotionStore.updateParticipationStatus ctx id status now)
      fun _ => .obj [("ok", .bool true)]
  | .createVoucher code participationId userId discount minTopup maxDiscount days => do
    let v : Voucher :=
      { id := 0, code := code, participationId := participationId, kind := mobileTopupDiscount,
        status := .active, discountPercentage := discount, minTopup := minTopup,
        maxDiscount := maxDiscount, issuedAt := now, expiresAt := now.addDays days,
        usedAt := none, usedAmount := none, discountAmount := none, reference := none,
        userId := userId }
    return resultJson (← PromotionStore.createVoucher ctx v) fun id => .obj [("id", .ofInt id)]
  | .lockVoucher code => do
    return resultJson (← PromotionStore.lockVoucher ctx code) voucherRow
  | .markVoucherUsed id amount discount reference => do
    return resultJson (← PromotionStore.markVoucherUsed ctx id ⟨now, amount, discount, reference⟩)
      fun _ => .obj [("ok", .bool true)]
  | .markVoucherExpired id => do
    return resultJson (← PromotionStore.markVoucherExpired ctx id now) fun _ => .obj [("ok", .bool true)]

/-- Calls the methods of a transaction in order and answers their results, up to the first op
that cannot be made, whose reason ends the transaction. -/
def runTxOps (ctx : Ctx) (now : Instant) :
    List (Except String TxOp) → SandboxM (Except String (List Json))
  | [] => return .ok []
  | .error reason :: _ => return .error reason
  | .ok op :: rest => do
    let r ← runTxOp ctx now op
    return (← runTxOps ctx now rest).map (r :: ·)

def runQuery (ctx : Ctx) : StoreQuery → SandboxM Json
  | .getCampaign id => do return resultJson (← PromotionStore.getCampaign ctx id) campaignRow
  | .findLatestActiveCampaign kind => do
    return resultJson (← PromotionStore.findLatestActiveCampaign ctx kind) campaignRow
  | .listActiveCampaigns => do
    return resultJson (← PromotionStore.listActiveCampaigns ctx)
      fun cs => .obj [("campaigns", .arr (cs.map campaignRow))]
  | .hasParticipation userId kind => do
    return resultJson (← PromotionStore.hasParticipation ctx userId kind)
      fun b => .obj [("exists", .bool b)]
  | .listParticipationsByUser userId => do
    return resultJson (← PromotionStore.listParticipationsByUser ctx userId) fun ps =>
      .obj [("participations", .arr (ps.map fun p =>
        (participationRow p).insert "campaign_end_date"
          (shownTime (p.campaignEnd.getD Instant.zero))))]
  | .getVoucherByCode code => do
    return resultJson (← PromotionStore.getVoucherByCode ctx code) voucherRow
  | .listVouchersByUser userId => do
    return resultJson (← PromotionStore.listVouchersByUser ctx userId)
      fun vs => .obj [("vouchers", .arr (vs.map voucherRow))]
  | .ping => do
    return resultJson (← World.read (fun _ => .ok ()) (Relational.ping ctx))
      fun _ => .obj [("ok", .bool true)]

def defaultCampaign (now : Instant) : Campaign :=
  { id := 0, name := "Cake first login", description := "", kind := firstLoginDiscount,
    status := .active, startDate := now.addDuration (-86400 * nanosPerSecond),
    endDate := now.addDays 30,
    maxParticipants := 10, currentParticipants := 0, discountPercentage := 30, minTopup := 0,
    maxDiscount := none, voucherValidityDays := 30, createdAt := .clock now }

def taskJson (t : QueuedTask) : Json :=
  let user := match Events.readPayload t.payload with
    | .ok p => Json.ofInt p.userId
    | .error _ => .null
  .obj [("type", .str t.kind), ("user_id", user)]

/-- Runs one step and answers it. -/
def runStep (cfg : Settings) (ctx : Ctx) : Step → SandboxM Json
  | .createCampaign c raw => do
    let now := (← get).now
    let c := if !raw && c.createdAt.isUnset then { c with createdAt := .clock now } else c
    return resultJson (← storeCampaign ctx c) fun c' => .obj [("campaign_id", .ofInt c'.id)]
  | .publish userId => do
    let r ← publishFirstLogin ctx userId (← get).now
    return resultJson r fun id => .obj [("task_id", .str id)]
  | .seedCampaign o ensure => do
    let now := (← get).now
    if ensure then
      let r ← ensureSeededCampaign ctx now o
      return resultJson r fun (c, created) => .obj [("campaign_id", .ofInt c.id), ("created", .bool created)]
    else
      let r ← createSeededCampaign ctx now o
      return resultJson r fun c => .obj [("campaign_id", .ofInt c.id), ("created", .bool true)]
  | .advance seconds days => modifyGet fun w =>
    let t := (w.now.addDuration (wrapInt64 (seconds * nanosPerSecond))).addDays days
    (.obj [("now", shownTime t)], { w with now := t })
  | .setNow t => modifyGet fun w => (.obj [("now", shownTime t)], { w with now := t })
  | .setGateway g name => modifyGet fun w => (.obj [("gateway", .str name)], { w with gateway := g })
  | .setPublisher mode name => modifyGet fun w =>
    (.obj [("publisher", .str name)], { w with publisher := mode })
  | .queueCodes cs => modifyGet fun w =>
    let codes := w.codes ++ cs
    (.obj [("queued_codes", .ofNat codes.length)], { w with codes := codes })
  | .enroll req => do
    let r ← TopUpPromo.enroll (cfg.enrollment (← get)) ctx req
    return resultJson r enrollJson
  | .rpc req codeOf => do
    let req ← match codeOf with
      | some u => do pure (req.withCode (← newestCode u))
      | none => pure req
    let r ← serve (cfg.server (← get)) ctx req
    return match r with
      | .ok (.ok j) => .obj [("response", j)]
      | .ok (.error e) => .obj [("error", .str "error"), ("message", .str ("marshal: " ++ e))]
      | .error e => apiErrorJson e
  | .client req codeOf => do
    let req ← match codeOf with
      | some u => do pure (req.withCode (← newestCode u))
      | none => pure req
    match req.encodingFailure?, contextError ctx with
    | some e, _ => return apiErrorJson ⟨.internal, "marshal message: " ++ e⟩
    | none, some e => return apiErrorJson e
    | none, none =>
      let r ← serve (cfg.server (← get)) ctx req
      return match r with
        | .ok (.ok j) => .obj [("response", j)]
        | .ok (.error e) => apiErrorJson ⟨.internal, "marshal message: " ++ e⟩
        | .error e => apiErrorJson e
  | .http req coded => do
    let req ← match coded with
      | some b => do
        let code ← newestCode b.userId
        let body := Json.obj (Json.byName (b.members ++ [(b.field, .str code)]))
        pure { req with body := body.render }
      | none => pure req
    let r ← serveHttp (cfg.server (← get)) ctx req
    return match r.body with
      | .json j => .obj [("status", .ofNat r.status), ("json", j)]
      | .text s => .obj [("status", .ofNat r.status), ("text", .str s)]
  | .handleQueue => do
    let tasks ← modifyGet fun w => (w.tasks, { w with tasks := [] })
    let enrollment := cfg.enrollment (← get)
    let handled ← tasks.mapM fun t =>
      Events.handleFirstLogin enrollment cfg.handlerTimeoutMs ctx t.payload
    return .obj [("handled", .arr (handled.map handledJson))]
  | .handleTask payload => do
    let h ← Events.handleFirstLogin (cfg.enrollment (← get)) cfg.handlerTimeoutMs ctx payload
    return handledJson h
  | .muxTask kind payload => do
    let h ← Events.handleTask (cfg.enrollment (← get)) cfg.handlerTimeoutMs ctx kind payload
    return handledJson h
  | .queue => do
    return .obj [("tasks", .arr ((← get).tasks.map taskJson))]
  | .lockCampaign id releaseAfterMs => do
    let r ← holdLock (fun s t => match Memory.Tx.lockCampaign ctx id s t with
      | (r, s, t) => (r.map fun _ => (), s, t)) releaseAfterMs
    return resultJson r fun _ => .obj [("locked", .bool true)]
  | .lockVoucher code releaseAfterMs => do
    let code ← resolveCode code
    let r ← holdLock (fun s t => match Memory.Tx.lockVoucher ctx code s t with
      | (r, s, t) => (r.map fun _ => (), s, t)) releaseAfterMs
    return resultJson r fun _ => .obj [("locked", .bool true)]
  | .unlockAll => modifyGet fun w =>
    match w.storage with
    | .memory b =>
      let s := w.holders.foldl (fun s o => s.releaseOwner o) b.store
      (.obj [("released", .ofNat w.holders.length)],
        { w with storage := .memory { b with store := s }, holders := [] })
    | .database _ _ => (.obj [("released", .ofNat 0)], w)
  | .state => do return stateView (← get)
  | .store q => runQuery ctx q
  | .tx ops rollback => do
    let now := (← get).now
    match ← World.openTx ctx with
    | .error f => return .obj [("results", .arr []), ("with_tx", .str f.text)]
    | .ok () =>
      match ← runTxOps ctx now ops with
      | .error reason =>
        let _ ← World.closeTx ctx (.error (.plain reason) : Except Failure Unit)
        return .obj [("error", .str "bad_input"), ("message", .str reason)]
      | .ok results =>
        let outcome : Except Failure Unit :=
          if rollback then .error (.plain "oracle rollback") else .ok ()
        let r ← World.closeTx ctx outcome
        let withTx : Json := match r with
          | .ok _ => .null
          | .error f => .str f.text
        return .obj [("results", .arr results), ("with_tx", withTx)]

end Sandbox
end TopUpPromo
