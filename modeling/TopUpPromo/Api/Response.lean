import TopUpPromo.Service.Queries
import TopUpPromo.Service.Redemption
import TopUpPromo.Json.Basic
import TopUpPromo.Decimal.Text
import TopUpPromo.Time.Text

/-!
# Responses of the promotion API

The JSON messages the API answers with. Decimals are written as strings of their plain text and
times as RFC 3339 with nanoseconds. Optional members are left out when they are empty: a
reason, a campaign id of zero, a campaign name, a description, a voucher code, a transaction
reference, an order of zero, and absent decimals and times.

Writing a message fails at its first time, in the order of its members, that has no JSON text
(`Instant.jsonFault?`): the message is then an `Encoded` failure with the encoder's text.

## Main definitions

- `Encoded`: a written message, or the encoder's failure.
- `campaignJson`, `voucherJson`, `participationJson`.
- `trackResponse`, `eligibilityResponse`, `topUpResponse`.
-/

namespace TopUpPromo
namespace Api

def decimalJson (d : Decimal) : Json := .str d.toText

/-- A message as the JSON encoder writes it, or the encoder's failure. -/
abbrev Encoded := Except String Json

def timeJson (t : Instant) : Encoded :=
  match t.jsonFault? with
  | some reason => .error (timeEncodingFailure reason)
  | none => .ok (.str t.rfc3339)

def keep (ms : List (String × Json × Bool)) : Json :=
  .obj ((ms.filter (·.2.2)).map fun (k, v, _) => (k, v))

def always (k : String) (v : Json) : String × Json × Bool := (k, v, true)

def present {α : Type} (k : String) (f : α → Json) : Option α → String × Json × Bool
  | some a => (k, f a, true)
  | none => (k, .null, false)

def shownTime (t : Instant) : Json := .str t.rfc3339

def stampJson : Stamp → Json
  | .clock t => shownTime t
  | .wallClock => .str "<wall-clock>"

def stampEncoded : Stamp → Encoded
  | .clock t => timeJson t
  | .wallClock => .ok (.str "<wall-clock>")

def campaignJson (c : Campaign) : Encoded := do
  let start ← timeJson c.startDate
  let finish ← timeJson c.endDate
  let created ← stampEncoded c.createdAt
  return keep [always "id" (.ofInt c.id), always "name" (.str c.name),
    ("description", .str c.description, !c.description.isEmpty),
    always "type" (.str c.kind), always "status" (.str c.status.text),
    always "start_date" start, always "end_date" finish,
    always "max_participants" (.ofInt c.maxParticipants.toInt),
    always "current_participants" (.ofInt c.currentParticipants.toInt),
    always "remaining_slots" (.ofInt c.remainingSlots.toInt),
    always "discount_percentage" (decimalJson c.discountPercentage),
    always "min_topup_amount" (decimalJson c.minTopup),
    present "max_discount_amount" decimalJson c.maxDiscount,
    always "voucher_validity_days" (.ofInt c.voucherValidityDays),
    always "created_at" created]

def voucherJson (v : Voucher) (now : Instant) : Encoded := do
  let issued ← timeJson v.issuedAt
  let expires ← timeJson v.expiresAt
  let used ← v.usedAt.mapM timeJson
  return keep [always "id" (.ofInt v.id), always "code" (.str v.code),
    always "type" (.str v.kind), always "status" (.str v.status.text),
    always "discount_percentage" (decimalJson v.discountPercentage),
    always "min_topup_amount" (decimalJson v.minTopup),
    present "max_discount_amount" decimalJson v.maxDiscount,
    always "issued_at" issued, always "expires_at" expires,
    present "used_at" id used, present "used_amount" decimalJson v.usedAmount,
    present "discount_amount" decimalJson v.discountAmount,
    ("transaction_reference", .str (v.reference.getD ""), !(v.reference.getD "").isEmpty),
    always "is_valid" (.bool (v.isValid now))]

def participationJson (p : ParticipationView) (now : Instant) : Encoded := do
  let firstLogin ← timeJson p.joined.row.firstLoginAt
  let issued ← p.joined.row.voucherIssuedAt.mapM timeJson
  let used ← p.joined.row.voucherUsedAt.mapM timeJson
  let vouchers ← p.vouchers.mapM (voucherJson · now)
  return keep [always "id" (.ofInt p.joined.row.id),
    always "campaign_id" (.ofInt p.joined.row.campaignId),
    always "campaign_name" (.str p.joined.campaignName), always "status" (.str p.status.text),
    always "first_login_at" firstLogin, present "voucher_issued_at" id issued,
    present "voucher_used_at" id used,
    always "participation_order" (.ofInt p.joined.row.order.toInt),
    always "in_voucher_window" (.bool p.inVoucherWindow),
    always "vouchers" (.arr vouchers)]

def trackResponse (r : EnrollResult) : Json :=
  keep [always "eligible" (.bool r.eligible),
    present "reason" (fun x => .str (Reason.text x)) r.reason,
    ("campaign_id", .ofInt r.campaignId, r.campaignId != 0),
    ("campaign_name", .str r.campaignName, !r.campaignName.isEmpty),
    ("participation_order", .ofInt r.order.toInt, r.order != 0),
    always "remaining_slots" (.ofInt r.remainingSlots.toInt),
    ("voucher_code", .str r.voucherCode, !r.voucherCode.isEmpty),
    always "message" (.str r.message)]

def eligibilityResponse (r : EligibilityResult) : Json :=
  keep [always "eligible" (.bool r.eligible),
    present "reason" (fun x => .str (Reason.text x)) r.reason,
    ("campaign_id", .ofInt r.campaignId, r.campaignId != 0),
    ("campaign_name", .str r.campaignName, !r.campaignName.isEmpty),
    always "remaining_slots" (.ofInt r.remainingSlots.toInt),
    always "message" (.str r.message)]

def topUpResponse (r : RedemptionResult) : Json :=
  keep [always "success" (.bool true), always "transaction_id" (.str r.transactionId),
    always "original_amount" (decimalJson r.originalAmount),
    always "discount_amount" (decimalJson r.discountAmount),
    always "final_amount" (decimalJson r.finalAmount), always "phone_number" (.str r.phone),
    ("voucher_code", .str r.voucherCode, !r.voucherCode.isEmpty),
    always "message" (.str r.message)]

end Api
end TopUpPromo
