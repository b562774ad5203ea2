import TopUpPromo.Console.SeedOptions
import TopUpPromo.Console.Script
import TopUpPromo.Sandbox.Steps
import TopUpPromo.Store.Schema
import TopUpPromo.Json.Writer

/-!
# Sessions on the console

A `session` request runs a list of steps in a fresh sandbox and answers each step, then the
final state. The session's own options come first: the clock (`now`), the voucher threshold,
the code prefix, the code attempts, the lock timeout, the handler timeout, the gateway and the
queue. A step that cannot be read is answered `bad_input` and the session goes on.

Whatever the sandbox draws at random is masked in the answers: the random part of a
transaction id reads `XXXXXX`, and a random task or event id reads `<uuid>`. A request body the
API cannot read is reported as `unmarshal`, without the reader's detail. A step during
which the gateway was asked to charge also lists those charges.
-/

namespace TopUpPromo
namespace Console

open Sandbox

def ctxOf (name : String) : Json → Decode Ctx
  | .str "" _ => .ok .live
  | .str "cancelled" _ => .ok .cancelled
  | .str "deadline" _ => .ok .deadlinePassed
  | .str s _ => .error ("unknown ctx " ++ s)
  | _ => .error ("field " ++ name ++ " has the wrong type")

def campaignFields : List String :=
  ["id", "name", "description", "type", "status", "start_date", "end_date", "max_participants",
   "current_participants", "discount_percentage", "min_topup_amount", "max_discount_amount",
   "voucher_validity_days", "created_at", "updated_at"]

def campaignOver (base : Campaign) (j : Json) : Option Campaign := do
  if !j.isRecord then none
  let fs := campaignFields
  let _ ← j.bindField fs "id" 0 (intLiteral? 64)
  let name ← j.bindField fs "name" base.name textValue?
  let description ← j.bindField fs "description" base.description textValue?
  let kind ← j.bindField fs "type" base.kind textValue?
  let status ← j.bindField fs "status" base.status.text textValue?
  let start ← j.bindField fs "start_date" base.startDate timeText?
  let finish ← j.bindField fs "end_date" base.endDate timeText?
  let maxP ← j.bindField fs "max_participants" base.maxParticipants.toInt (intLiteral? 32)
  let current ← j.bindField fs "current_participants" base.currentParticipants.toInt
    (intLiteral? 32)
  let pct ← j.bindField fs "discount_percentage" base.discountPercentage decimalText?
  let minT ← j.bindField fs "min_topup_amount" base.minTopup decimalText?
  let cap ← (j.boundTo fs "max_discount_amount").foldlM
    (fun (_ : Option Decimal) v => match v with
      | .null => some none
      | _ => (decimalText? v).map some) base.maxDiscount
  let days ← j.bindField fs "voucher_validity_days" base.voucherValidityDays (intLiteral? 64)
  let baseStamp := match base.createdAt with
    | .clock t => t
    | .wallClock => Instant.zero
  let created ← j.bindField fs "created_at" baseStamp timeText?
  let _ ← j.bindField fs "updated_at" Instant.zero timeText?
  return { base with
    name := name
    description := description
    kind := kind
    status := CampaignStatus.ofText status
    startDate := start
    endDate := finish
    maxParticipants := maxP.toInt32
    currentParticipants := current.toInt32
    discountPercentage := pct
    minTopup := minT
    maxDiscount := cap
    voucherValidityDays := days
    createdAt := .clock created }

def txOpFields : List String :=
  ["op", "id", "current", "status", "user_id", "campaign_id", "order", "code", "participation_id",
   "discount", "min_topup", "max_discount", "validity_days", "amount", "discount_amount",
   "reference"]

/-- The members of a transaction op as written, before its method and decimals are read. -/
structure TxOpFields where
  op : String
  id : Int
  current : Int
  status : String
  userId : Int
  campaignId : Int
  order : Int
  code : String
  participationId : Int
  discount : String
  minTopup : String
  maxDiscount : Option String
  validityDays : Int
  amount : String
  discountAmount : String
  reference : String

def txOpFieldsOf (j : Json) : Option TxOpFields := do
  if !j.isRecord then none
  let fs := txOpFields
  let int (k : String) := j.bindField fs k 0 (intLiteral? 64)
  let int32 (k : String) := j.bindField fs k 0 (intLiteral? 32)
  let text (k : String) := j.bindField fs k "" textValue?
  let op ← text "op"
  let id ← int "id"
  let current ← int32 "current"
  let status ← text "status"
  let userId ← int "user_id"
  let campaignId ← int "campaign_id"
  let order ← int32 "order"
  let code ← text "code"
  let participationId ← int "participation_id"
  let discount ← text "discount"
  let minTopup ← text "min_topup"
  let maxDiscount ← j.bindOptional fs "max_discount" textValue?
  let validityDays ← int "validity_days"
  let amount ← text "amount"
  let discountAmount ← text "discount_amount"
  let reference ← text "reference"
  return ⟨op, id, current, status, userId, campaignId, order, code, participationId, discount,
    minTopup, maxDiscount, validityDays, amount, discountAmount, reference⟩

def opDecimal (s : String) : Except String Decimal :=
  if s.isEmpty then .ok 0
  else match Decimal.read? s with
    | .ok d => .ok d
    | .error _ => .error (Text.quote s ++ " is not a decimal")

def TxOpFields.call (o : TxOpFields) : Except String TxOp :=
  match o.op with
  | "LockCampaign" => .ok (.lockCampaign o.id)
  | "UpdateCampaignParticipants" =>
    .ok (.updateCampaignParticipants o.id o.current.toInt32 (CampaignStatus.ofText o.status))
  | "CreateParticipation" =>
    .ok (.createParticipation o.userId o.campaignId (ParticipationStatus.ofText o.status)
      o.order.toInt32)
  | "UpdateParticipationStatus" =>
    .ok (.updateParticipationStatus o.id (ParticipationStatus.ofText o.status))
  | "CreateVoucher" => do
    let discount ← opDecimal o.discount
    let minTopup ← opDecimal o.minTopup
    let cap ← o.maxDiscount.mapM opDecimal
    return .createVoucher o.code o.participationId o.userId discount minTopup cap o.validityDays
  | "LockVoucher" => .ok (.lockVoucher o.code)
  | "MarkVoucherUsed" => do
    return .markVoucherUsed o.id (← opDecimal o.amount) (← opDecimal o.discountAmount)
      o.reference
  | "MarkVoucherExpired" => .ok (.markVoucherExpired o.id)
  | other => .error ("unknown tx op " ++ other)

def txOpsOf (j : Json) : Decode (List (Except String TxOp)) :=
  match j.field? "ops" with
  | none | some .null => .ok []
  | some (.arr items) =>
    match items.mapM txOpFieldsOf with
    | some ops => .ok (ops.map TxOpFields.call)
    | none => .error "field ops has the wrong type"
  | some _ => .error "field ops has the wrong type"

def storeQueryOf (j : Json) : Decode StoreQuery := do
  let name ← fieldOr j "method" stringOf ""
  let int (k : String) : Decode Int := fieldOr j k (fun n => intOf n 64) 0
  let kind ← fieldOr j "type" stringOf firstLoginDiscount
  match name with
  | "GetCampaign" => return .getCampaign (← int "id")
  | "FindLatestActiveCampaign" => return .findLatestActiveCampaign kind
  | "ListActiveCampaigns" => return .listActiveCampaigns
  | "HasParticipation" => return .hasParticipation (← int "user_id") kind
  | "ListParticipationsByUser" => return .listParticipationsByUser (← int "user_id")
  | "GetVoucherByCode" => return .getVoucherByCode (← fieldOr j "code" stringOf "")
  | "ListVouchersByUser" => return .listVouchersByUser (← int "user_id")
  | "Ping" => return .ping
  | other => .error ("unknown store method " ++ other)

def rateOf (name : String) : Json → Decode Text.Binary64
  | .num n =>
    match Text.readFloat n with
    | .ok (.finite neg m e) => .ok (.finite neg m e)
    | _ => .error ("field " ++ name ++ " has the wrong type")
  | _ => .error ("field " ++ name ++ " has the wrong type")

def gatewayOf (j : Json) : Decode Gateway := do
  let mode ← fieldOr j "mode" stringOf ""
  let rate ← optField j "rate" rateOf
  let latency ← boundedInt j "latency_ms" 0 20 0
  let mode : GatewayMode ← match mode with
    | "approve" => pure .approve
    | "decline" => pure .decline
    | "error" => pure .unreachable
    | "rate" =>
      match rate with
      | some r =>
        if r.atMostZero then pure .decline
        else if r.atLeastOne then pure .approve
        else .error "rate must be <= 0 or >= 1"
      | none => .error "rate must be <= 0 or >= 1"
    | other => .error ("unknown gateway mode " ++ other)
  pure ⟨mode, latency.toNat⟩

def publisherModeOf (name : String) : Decode PublisherMode :=
  match name with
  | "ok" => .ok .ok
  | "nil_info" => .ok .noInfo
  | "error" => .ok .failing
  | "none" => .ok .absent
  | other => .error ("unknown publisher mode " ++ other)

def codeListOf (name : String) : Json → Decode (List (Option String))
  | .arr items => items.mapM fun
    | .str s _ => .ok (some s)
    | .null => .ok none
    | _ => .error ("field " ++ name ++ " has the wrong type")
  | _ => .error ("field " ++ name ++ " has the wrong type")

def codeMember (method : String) : String :=
  if method = "TopUp" then "voucher_code" else "code"

def codedMembers (request : Json) : Decode (List (String × Json)) :=
  let refused := "request must be an object when code_of is given"
  match request with
  | .obj _ | .null =>
    match request.throughUntyped with
    | some (.obj ms) => .ok ms
    | some .null => .ok []
    | _ => .error refused
  | _ => .error refused

def apiRequestOf (j : Json) (codeOf : Option Int) : Decode Api.Request := do
  let name ← fieldOr j "method" stringOf ""
  let request := (j.field? "request").getD .null
  let request ← match codeOf with
    | none => pure request
    | some _ => do
      let ms ← codedMembers request
      pure (Json.obj (Json.byName (ms ++ [(codeMember name, .str "")])))
  match Api.Method.ofName? name with
  | none => .error ("unknown method " ++ name)
  | some m =>
    match Api.Request.read? m request with
    | some r => pure r
    | none => .error "request does not decode"

def enrollRequestOf (j : Json) : Option EnrollRequest := do
  if !j.isRecord then none
  let fs := ["user_id", "campaign_id"]
  return ⟨← j.bindField fs "user_id" 0 (intLiteral? 64),
    ← j.bindOptional fs "campaign_id" (intLiteral? 64)⟩

def stepOf (now : Instant) (j : Json) : Decode Step := do
  let name ← fieldOr j "do" stringOf ""
  let codeOf ← optField j "code_of" (fun k => intOf k 64)
  let releaseAfter : Decode (Option Nat) := do
    let ms ← boundedInt j "release_after_ms" 0 50 0
    return if ms = 0 then none else some ms.toNat
  match name with
  | "create_campaign" =>
    match campaignOver (defaultCampaign now) ((j.field? "campaign").getD (.obj [])) with
    | some c => return .createCampaign c (← fieldOr j "raw" boolOf false)
    | none => .error "bad campaign"
  | "publish" => return .publish (← fieldOr j "user_id" (fun k => intOf k 64) 0)
  | "seed_campaign" =>
    return .seedCampaign (← seedOptionsOf ((j.field? "options").getD (.obj [])))
      (← fieldOr j "ensure" boolOf false)
  | "advance" =>
    return .advance (← fieldOr j "seconds" (fun k => intOf k 64) 0)
      (← fieldOr j "days" (fun k => intOf k 64) 0)
  | "set_now" => return .setNow (← fieldOr j "now" timeOf now)
  | "gateway" => return .setGateway (← gatewayOf j) (← fieldOr j "mode" stringOf "")
  | "publisher" =>
    let mode ← fieldOr j "mode" stringOf ""
    return .setPublisher (← publisherModeOf mode) mode
  | "codes" => return .queueCodes (← fieldOr j "codes" codeListOf [])
  | "enroll" =>
    match enrollRequestOf ((j.field? "request").getD .null) with
    | some r => return .enroll r
    | none => .error "bad enroll request"
  | "rpc" => return .rpc (← apiRequestOf j codeOf) codeOf
  | "client" => return .client (← apiRequestOf j codeOf) codeOf
  | "http" =>
    let method ← fieldOr j "method" stringOf ""
    let body ← fieldOr j "body" stringOf ""
    let coded ← match codeOf with
      | none => pure none
      | some u =>
        match Json.parse body with
        | .ok request => do
          let ms ← codedMembers request
          pure (some { userId := u, field := codeMember method, members := ms : CodedBody })
        | .error _ => .error "request must be an object when code_of is given"
    return .http ⟨← fieldOr j "http_method" stringOf "POST", Api.servicePrefix ++ method,
      ← fieldOr j "content_type" stringOf "application/json", body⟩ coded
  | "handle_queue" => return .handleQueue
  | "handle_task" => return .handleTask (← fieldOr j "payload" stringOf "")
  | "mux_task" =>
    return .muxTask (← fieldOr j "type" stringOf Events.firstLoginType)
      (← fieldOr j "payload" stringOf "")
  | "queue" => return .queue
  | "lock_campaign" =>
    return .lockCampaign (← fieldOr j "id" (fun k => intOf k 64) 0) (← releaseAfter)
  | "lock_voucher" =>
    let code : CodeRef ← match codeOf with
      | some u => pure (.newestOf u)
      | none => return .lockVoucher (.given (← fieldOr j "code" stringOf "")) (← releaseAfter)
    return .lockVoucher code (← releaseAfter)
  | "unlock_all" => return .unlockAll
  | "state" => return .state
  | "store" => return .store (← storeQueryOf j)
  | "tx" => return .tx (← txOpsOf j) (← fieldOr j "rollback" boolOf false)
  | other => .error ("unknown step " ++ other)

def isTransactionId (s : String) : Bool :=
  match (s.splitOn "-") with
  | ["TXN", ms, suffix] => !ms.isEmpty && ms.all Char.isDigit && isSuffix suffix
  | ["TXN", "", ms, suffix] => !ms.isEmpty && ms.all Char.isDigit && isSuffix suffix
  | _ => false
where
  isSuffix (x : String) : Bool :=
    x.length == 6 && x.all fun c => c.isDigit || ('A' ≤ c && c ≤ 'F') || ('a' ≤ c && c ≤ 'f')

def maskTransactionId (s : String) : String :=
  if isTransactionId s then (s.dropEnd 6).toString ++ "XXXXXX" else s

def isUuid (s : String) : Bool :=
  let hex (c : Char) : Bool := c.isDigit || ('a' ≤ c && c ≤ 'f')
  match s.splitOn "-" with
  | [a, b, c, d, e] =>
    a.length == 8 && b.length == 4 && c.length == 4 && d.length == 4 && e.length == 12 &&
      (a ++ b ++ c ++ d ++ e).all hex && c.startsWith "4" &&
      (d.startsWith "8" || d.startsWith "9" || d.startsWith "a" || d.startsWith "b")
  | _ => false

def mask : Json → Json
  | .obj ms => .obj (maskMembers ms)
  | .arr items => .arr (maskItems items)
  | j => j
where
  maskMembers : List (String × Json) → List (String × Json)
    | [] => []
    | (k, v) :: rest =>
      let v' := match k, v with
        | "transaction_id", .str s _ => .str (maskTransactionId s)
        | "transaction_reference", .str s _ => .str (maskTransactionId s)
        | "task_id", .str s _ => .str (if isUuid s then "<uuid>" else s)
        | "event_id", .str s _ => .str (if isUuid s then "<uuid>" else s)
        | "message", .str s _ => .str (if s.startsWith "unmarshal " then "unmarshal" else s)
        | _, _ => mask v
      (k, v') :: maskMembers rest
  maskItems : List Json → List Json
    | [] => []
    | j :: rest => mask j :: maskItems rest

def callJson (r : PaymentRequest) : Json :=
  .obj [("phone_number", .str r.phone), ("amount", .str r.amount.toText),
    ("transaction_id", .str r.transactionId), ("method", .str r.method)]

def nearWallClock (wall : Option Instant) (t : Instant) : Bool :=
  match wall with
  | some w => (t.totalNanos - w.totalNanos).natAbs ≤ 2 * 86400 * nanosPerSecond
  | none => false

def paramJson (wall : Option Instant) : Database.Param → Json
  | .null => .null
  | .text s => .str (maskTransactionId s)
  | .time t => .str (if nearWallClock wall t then "<wall-clock>" else t.databaseText)
  | .wallClock => .str "<wall-clock>"

def statementJson (wall : Option Instant) (st : Database.Statement) : Json :=
  match st.params with
  | none => .obj [("sql", .str st.text)]
  | some ps => .obj [("params", .arr (ps.map (paramJson wall))), ("sql", .str st.text)]

def logJson (wall : Option Instant) (db : Database.Server) : Json :=
  .arr (db.log.toList.map (statementJson wall))

def runStepJson (cfg : Settings) (j : Json) : SandboxM Json := do
  modify fun w => { w with calls := [] }
  let now := (← get).now
  match fieldOr j "ctx" ctxOf .live, stepOf now j with
  | .error e, _ => return badInput e
  | _, .error e => return badInput e
  | .ok ctx, .ok step =>
    match (← get).storage, step.needsMemory? with
    | .database _ _, some why => return badInput why
    | _, _ =>
      let answer ← runStep cfg ctx step
      let calls := (← get).calls
      if calls.isEmpty then return answer
      return answer.insert "gateway_calls" (.arr (calls.map callJson))

def sessionStep (cfg : Settings) (j : Json) : SandboxM Json := do
  match (← get).storage with
  | .memory _ =>
    if j.has "db" then return badInput "db scripts need postgres storage"
    runStepJson cfg j
  | .database db t =>
    match fieldOr j "db" (entriesOf) [] with
    | .error e => return ((badInput e).insert "sql" (.arr [])).insert "unused_script" (.ofNat 0)
    | .ok entries =>
      modify fun w => { w with storage := .database { db with queue := entries, log := #[] } t }
      let answer ← runStepJson cfg j
      let (left, log) ← modifyGet fun w =>
        match w.storage with
        | .database db t =>
          ((db.queue.length, logJson none db),
            { w with storage := .database { db with queue := [], log := #[] } t })
        | s => ((0, .arr []), { w with storage := s })
      return (answer.insert "sql" log).insert "unused_script" (.ofNat left)

/-- Where a session keeps its rows. -/
inductive StorageKind where
  | memory
  | postgres

def storageKindOf (name : String) : Decode StorageKind :=
  match name with
  | "" | "memory" => .ok .memory
  | "postgres" => .ok .postgres
  | other => .error ("unknown storage " ++ other)

def stepsOf (j : Json) : Decode (List Json) :=
  let refused := "field steps has the wrong type"
  match j.field? "steps" with
  | none | some .null => .ok []
  | some (.arr items) =>
    if items.all (fun i => match i with | .obj _ | .null => true | _ => false) then .ok items
    else .error refused
  | some _ => .error refused

def sessionAnswer (j : Json) : Decode Json := do
  let now ← fieldOr j "now" timeOf defaultNow
  let threshold ← fieldOr j "threshold" (fun k => intOf k 32) 100
  let pref ← fieldOr j "prefix" stringOf "CAKE-"
  let attempts ← fieldOr j "attempts" (fun k => intOf k 64) 5
  let lockTimeout ← boundedInt j "lock_timeout_ms" 0 50 5
  let handlerTimeout ← boundedInt j "handler_timeout_ms" 0 10000 0
  let storage ← storageKindOf (← fieldOr j "storage" stringOf "")
  let gatewayName ← fieldOr j "gateway" stringOf "approve"
  let gateway ← gatewayOf (.obj [("mode", .str gatewayName)])
  let publisher ← publisherModeOf (← fieldOr j "publisher" stringOf "ok")
  let steps ← stepsOf j
  let cfg : Settings :=
    ⟨if threshold < 1 then 100 else threshold.toInt32, if attempts < 1 then 1 else attempts.toNat,
      handlerTimeout.toNat⟩
  let world (storage : Storage) : World :=
    { storage := storage, now := now, wallClock := storeWallClock, codePrefix := pref,
      gateway := gateway, publisher := publisher }
  match storage with
  | .memory =>
    if j.has "db" then throw "db scripts need postgres storage"
    let (answers, w) := (steps.mapM (sessionStep cfg)).run
      (world (.memory ⟨{ lockTimeoutMs := lockTimeout.toNat }, none⟩))
    pure (mask (.obj [("steps", .arr answers), ("final_state", stateView w)]))
  | .postgres =>
    let autoMigrate ← fieldOr j "auto_migrate" boolOf false
    let entries ← fieldOr j "db" entriesOf []
    let (r, db) := (Relational.connect .live autoMigrate).run { queue := entries }
    let setup := [("setup_sql", logJson none db), ("setup_unused_script", Json.ofNat db.queue.length)]
    match r with
    | .error f =>
      pure (mask (.obj ([("error", .str f.kind), ("message", .str f.text)] ++ setup)))
    | .ok () =>
      let (answers, w) := (steps.mapM (sessionStep cfg)).run
        (world (.database {} lockTimeout.toNat))
      pure (mask (.obj ([("steps", .arr answers), ("final_state", stateView w)] ++ setup)))

end Console
end TopUpPromo
