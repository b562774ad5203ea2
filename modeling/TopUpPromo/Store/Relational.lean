import TopUpPromo.Database.Client
import TopUpPromo.Store.Rows

/-!
# The promotion store in a relational database

The store's reads and transaction steps as statements on the campaign, participation and
voucher tables, with the rows read back into records. Each failure says which call failed
(`failed to get campaign: …`), except three that callers test for: a lookup that finds no row
is `storeNotFound`; an insert that the unique keys turn into no row is `storeConflict`; an
update that touches no row is `storeStale`. Inside a transaction, and for the transaction
itself, a database error whose code says that a lock wait ran out (`55P03`) or that a unique
key is taken (`23505`) becomes the store's lock timeout or conflict, with the error's text.

Rows are stamped with the machine's clock when they are created or updated, except for the
instants the core passes in. A call whose request context has ended fails with the context's
failure before anything is sent.

A transaction opens with `BEGIN READ WRITE`, then bounds its lock waits with
`SET LOCAL lock_timeout` when the store has a lock timeout. It commits when its body succeeds;
when the body fails, or the lock timeout cannot be set, it rolls back.

## Main definitions

- `translate`: the store's failures among the database's.
- The reads: `getCampaign`, `findLatestActiveCampaign`, `listActiveCampaigns`,
  `hasParticipation`, `listParticipationsByUser`, `getVoucherByCode`, `listVouchersByUser`.
- The transaction steps: `lockCampaign`, `updateCampaignParticipants`, `createParticipation`,
  `updateParticipationStatus`, `createVoucher`, `lockVoucher`, `markVoucherUsed`,
  `markVoucherExpired`; `openTx` and `closeTx`.
- `createCampaign`, `ping`.
-/

namespace TopUpPromo
namespace Relational

open Database

/-- A database error whose code says that a lock wait ran out or that a unique key is taken
becomes the store's own failure, with the error's text; other failures stay as they are. -/
def translate (f : Failure) : Failure :=
  match f.databaseCode? with
  | some "55P03" => .joined .storeLockTimeout f.text
  | some "23505" => .joined .storeConflict f.text
  | _ => f

def guarded {α : Type} (ctx : Ctx) (call : Connection (Except Failure α)) :
    Connection (Except Failure α) :=
  match ctx.failure? with
  | some f => pure (.error f)
  | none => call

def intParam (n : Int) : Param := .text (toString n)

def decimalParam (d : Decimal) : Param := .text d.toText

def optionalDecimal : Option Decimal → Param
  | some d => decimalParam d
  | none => .null

def campaignColumns : String :=
  "id, name, COALESCE(description, '') AS description, type, status, start_date, end_date, " ++
  "max_participants, current_participants, discount_percentage, min_topup_amount, " ++
  "max_discount_amount, voucher_validity_days, created_at, updated_at"

def campaignById : String := "SELECT " ++ campaignColumns ++ " FROM campaigns WHERE id = $1"

def latestCampaign : String :=
  "SELECT " ++ campaignColumns ++
  " FROM campaigns WHERE status = $1 AND type = $2 ORDER BY created_at DESC, id DESC LIMIT 1"

def campaignsByStatus : String :=
  "SELECT " ++ campaignColumns ++
  " FROM campaigns WHERE status = $1 ORDER BY created_at DESC, id DESC"

def insertCampaign : String :=
  "INSERT INTO campaigns ( name, description, type, status, start_date, end_date, " ++
  "max_participants, current_participants, discount_percentage, min_topup_amount, " ++
  "max_discount_amount, voucher_validity_days, created_at, updated_at ) VALUES ($1, $2, $3, " ++
  "$4, $5, $6, $7, $8, $9, $10, $11, $12, $13, $14) RETURNING id"

def updateParticipants : String :=
  "UPDATE campaigns SET current_participants = $1, status = $2, updated_at = $3 " ++
  "WHERE id = $4 AND $1 <= max_participants"

def insertParticipation : String :=
  "INSERT INTO participations ( user_id, campaign_id, status, first_login_at, " ++
  "participation_order, created_at, updated_at ) VALUES ($1, $2, $3, $4, $5, $6, $7) " ++
  "ON CONFLICT (user_id, campaign_id) DO NOTHING RETURNING id"

def updateParticipation : ParticipationStatus → String
  | .voucherIssued =>
    "UPDATE participations SET status = $1, voucher_issued_at = $2, updated_at = $2 WHERE id = $3"
  | .voucherUsed =>
    "UPDATE participations SET status = $1, voucher_used_at = $2, updated_at = $2 WHERE id = $3"
  | _ => "UPDATE participations SET status = $1, updated_at = $2 WHERE id = $3"

def participationExists : String :=
  "SELECT EXISTS ( SELECT 1 FROM participations p JOIN campaigns c ON c.id = p.campaign_id " ++
  "WHERE p.user_id = $1 AND c.type = $2 )"

def participationsOfUser : String :=
  "SELECT p.id, p.user_id, p.campaign_id, p.status, p.first_login_at, p.voucher_issued_at, " ++
  "p.voucher_used_at, p.participation_order, p.created_at, p.updated_at, " ++
  "c.name AS campaign_name, c.end_date AS campaign_end_date FROM participations p " ++
  "JOIN campaigns c ON c.id = p.campaign_id WHERE p.user_id = $1 " ++
  "ORDER BY p.created_at DESC, p.id DESC"

def voucherColumns : String :=
  "v.id, v.code, v.participation_id, v.type, v.status, v.discount_percentage, " ++
  "v.min_topup_amount, v.max_discount_amount, v.issued_at, v.expires_at, v.used_at, " ++
  "v.used_amount, v.discount_amount, v.transaction_reference, v.created_at, v.updated_at, " ++
  "p.user_id"

def insertVoucher : String :=
  "INSERT INTO vouchers ( code, participation_id, type, status, discount_percentage, " ++
  "min_topup_amount, max_discount_amount, issued_at, expires_at, created_at, updated_at ) " ++
  "VALUES ($1, $2, $3, $4, $5, $6, $7, $8, $9, $10, $11) ON CONFLICT (code) DO NOTHING " ++
  "RETURNING id"

def voucherByCode : String :=
  "SELECT " ++ voucherColumns ++
  " FROM vouchers v JOIN participations p ON p.id = v.participation_id WHERE v.code = $1"

def vouchersOfUser : String :=
  "SELECT " ++ voucherColumns ++
  " FROM vouchers v JOIN participations p ON p.id = v.participation_id WHERE p.user_id = $1 " ++
  "ORDER BY v.created_at DESC, v.id DESC"

def useVoucher : String :=
  "UPDATE vouchers SET status = $1, used_at = $2, used_amount = $3, discount_amount = $4, " ++
  "transaction_reference = $5, updated_at = $2 WHERE id = $6 AND status = $7"

def expireVoucher : String :=
  "UPDATE vouchers SET status = $1, updated_at = $2 WHERE id = $3 AND status = $4"

def unlessNoRow (missing : Failure) (context : String) (f : Failure) : Failure :=
  if f.hasCause .noRows then missing else .within context f

def oneCampaign (ctx : Ctx) (sql : String) (params : List Param) :
    Connection (Except Failure Campaign) := do
  let r ← guarded ctx (query sql params)
  return (r.bind (Rows.one campaignShape)).mapError
    (unlessNoRow (.cause .storeNotFound) "failed to get campaign")

def oneVoucher (ctx : Ctx) (sql : String) (params : List Param) :
    Connection (Except Failure Voucher) := do
  let r ← guarded ctx (query sql params)
  return (r.bind (Rows.one voucherShape)).mapError
    (unlessNoRow (.cause .storeNotFound) "failed to get voucher")

def insertedId (ctx : Ctx) (sql : String) (params : List Param) (context : String) :
    Connection (Except Failure Int) := do
  let r ← guarded ctx (query sql params)
  return (r.bind (Rows.scalar "int64" int64)).mapError
    (unlessNoRow (.cause .storeConflict) context)

def requireOneRow : Option Int → Except Failure Unit
  | none =>
    .error (.within "failed to get rows affected"
      (.plain "no RowsAffected available after the empty statement"))
  | some 0 => .error (.cause .storeStale)
  | some _ => .ok ()

def updateOne (ctx : Ctx) (sql : String) (params : List Param) (context : String) :
    Connection (Except Failure Unit) := do
  let r ← guarded ctx (exec sql (some params))
  return match r with
    | .error f => .error (.within context f)
    | .ok n => requireOneRow n

/-! ## Reads -/

def getCampaign (ctx : Ctx) (id : Int) : Connection (Except Failure Campaign) :=
  oneCampaign ctx campaignById [intParam id]

def findLatestActiveCampaign (ctx : Ctx) (kind : String) : Connection (Except Failure Campaign) :=
  oneCampaign ctx latestCampaign [.text CampaignStatus.active.text, .text kind]

def listActiveCampaigns (ctx : Ctx) : Connection (Except Failure (List Campaign)) := do
  let r ← guarded ctx (query campaignsByStatus [.text CampaignStatus.active.text])
  return (r.bind (Rows.all campaignShape)).mapError (.within "failed to list active campaigns")

def hasParticipation (ctx : Ctx) (userId : Int) (kind : String) :
    Connection (Except Failure Bool) := do
  let r ← guarded ctx (query participationExists [intParam userId, .text kind])
  return (r.bind (Rows.scalar "bool" Cell.toBool)).mapError
    (.within "failed to check participation")

def listParticipationsByUser (ctx : Ctx) (userId : Int) :
    Connection (Except Failure (List JoinedParticipation)) := do
  let r ← guarded ctx (query participationsOfUser [intParam userId])
  return (r.bind (Rows.all participationShape)).mapError (.within "failed to list participations")

def getVoucherByCode (ctx : Ctx) (code : String) : Connection (Except Failure Voucher) :=
  oneVoucher ctx voucherByCode [.text code]

def listVouchersByUser (ctx : Ctx) (userId : Int) : Connection (Except Failure (List Voucher)) := do
  let r ← guarded ctx (query vouchersOfUser [intParam userId])
  return (r.bind (Rows.all voucherShape)).mapError (.within "failed to list vouchers")

/-! ## Transaction steps -/

def lockCampaign (ctx : Ctx) (id : Int) : Connection (Except Failure Campaign) := do
  return (← oneCampaign ctx (campaignById ++ " FOR UPDATE") [intParam id]).mapError translate

def updateCampaignParticipants (ctx : Ctx) (id : Int) (current : Int32) (status : CampaignStatus) :
    Connection (Except Failure Unit) := do
  let r ← updateOne ctx updateParticipants
    [intParam current.toInt, .text status.text, .wallClock, intParam id]
    "failed to update campaign participants"
  return r.mapError translate

def createParticipation (ctx : Ctx) (p : Participation) : Connection (Except Failure Int) := do
  let r ← insertedId ctx insertParticipation
    [intParam p.userId, intParam p.campaignId, .text p.status.text, .time p.firstLoginAt,
     intParam p.order.toInt, .wallClock, .wallClock]
    "failed to create participation"
  return r.mapError translate

def updateParticipationStatus (ctx : Ctx) (id : Int) (status : ParticipationStatus) (t : Instant) :
    Connection (Except Failure Unit) := do
  let r ← updateOne ctx (updateParticipation status) [.text status.text, .time t, intParam id]
    "failed to update participation status"
  return r.mapError translate

def createVoucher (ctx : Ctx) (v : Voucher) : Connection (Except Failure Int) := do
  let r ← insertedId ctx insertVoucher
    [.text v.code, intParam v.participationId, .text v.kind, .text v.status.text,
     decimalParam v.discountPercentage, decimalParam v.minTopup, optionalDecimal v.maxDiscount,
     .time v.issuedAt, .time v.expiresAt, .wallClock, .wallClock]
    "failed to create voucher"
  return r.mapError translate

def lockVoucher (ctx : Ctx) (code : String) : Connection (Except Failure Voucher) := do
  return (← oneVoucher ctx (voucherByCode ++ " FOR UPDATE OF v") [.text code]).mapError translate

def markVoucherUsed (ctx : Ctx) (id : Int) (u : Usage) : Connection (Except Failure Unit) := do
  let r ← updateOne ctx useVoucher
    [.text VoucherStatus.used.text, .time u.usedAt, decimalParam u.amount,
     decimalParam u.discount, .text u.reference, intParam id, .text VoucherStatus.active.text]
    "failed to mark voucher as used"
  return r.mapError translate

def markVoucherExpired (ctx : Ctx) (id : Int) (t : Instant) :
    Connection (Except Failure Unit) := do
  let r ← updateOne ctx expireVoucher
    [.text VoucherStatus.expired.text, .time t, intParam id, .text VoucherStatus.active.text]
    "failed to mark voucher as expired"
  return r.mapError translate

/-! ## Transactions -/

/-- Opens a transaction and bounds its lock waits when `lockTimeoutMs` is positive. -/
def openTx (ctx : Ctx) (lockTimeoutMs : Nat) : Connection (Except Failure Unit) := do
  match ← guarded ctx beginTx with
  | .error f => return .error (.within "failed to begin transaction" (translate f))
  | .ok () =>
    if lockTimeoutMs = 0 then return .ok ()
    else
      match ← guarded ctx (exec ("SET LOCAL lock_timeout = " ++ toString lockTimeoutMs) none) with
      | .error f =>
        let _ ← rollbackTx
        return .error (.within "failed to set lock timeout" (translate f))
      | .ok _ => return .ok ()

/-- Ends the open transaction after its body: commits a success, rolls a failure back. -/
def closeTx {α : Type} (ctx : Ctx) (r : Except Failure α) : Connection (Except Failure α) := do
  match r with
  | .error f =>
    let _ ← rollbackTx
    return .error (translate f)
  | .ok a =>
    match ctx.failure? with
    | some f =>
      let _ ← rollbackTx
      return .error (.within "failed to commit transaction" f)
    | none =>
      match ← commitTx with
      | .error f => return .error (.within "failed to commit transaction" (translate f))
      | .ok () => return .ok a

/-! ## Outside the core -/

/-- Inserts a campaign; one without a creation stamp is stamped with the machine's clock. -/
def createCampaign (ctx : Ctx) (c : Campaign) : Connection (Except Failure Campaign) := do
  let stamp := if c.createdAt.isUnset then Stamp.wallClock else c.createdAt
  let stampParam : Param := match stamp with
    | .clock t => .time t
    | .wallClock => .wallClock
  let r ← guarded ctx (query insertCampaign
    [.text c.name, .text c.description, .text c.kind, .text c.status.text, .time c.startDate,
     .time c.endDate, intParam c.maxParticipants.toInt, intParam c.currentParticipants.toInt,
     decimalParam c.discountPercentage, decimalParam c.minTopup, optionalDecimal c.maxDiscount,
     intParam c.voucherValidityDays, stampParam, .wallClock])
  return match r.bind (Rows.scalar "int64" int64) with
    | .ok id => .ok { c with id := id, createdAt := stamp }
    | .error f => .error (.within "failed to create campaign" f)

/-- Checks that the database is reachable. -/
def ping (ctx : Ctx) : Connection (Except Failure Unit) := guarded ctx checkAlive

end Relational
end TopUpPromo
