import TopUpPromo.Json.Bind

/-!
# Requests of the promotion API

The ten methods of the promotion API and the requests they take. A request is read from a JSON
object by `Json.bindField` (names up to case, later members winning, unknown members ignored);
a member of the wrong kind makes the request unreadable. Fields that are absent keep their zero
values: `0`, the empty text, the decimal zero, Go's zero time, and no campaign.

## Main definitions

- `Method`, `Method.name`, `Method.ofName?`.
- `Request`, `Request.read?`, `Request.withCode`.
-/

namespace TopUpPromo
namespace Api

/-- A method of the promotion API. -/
inductive Method where
  | trackFirstLogin
  | reportFirstLogin
  | checkEligibility
  | listVouchers
  | listParticipations
  | validateVoucher
  | redeemVoucher
  | topUp
  | listActiveCampaigns
  | getCampaign
  deriving DecidableEq, Repr

namespace Method

def all : List Method :=
  [.trackFirstLogin, .reportFirstLogin, .checkEligibility, .listVouchers, .listParticipations,
   .validateVoucher, .redeemVoucher, .topUp, .listActiveCampaigns, .getCampaign]

def name : Method → String
  | .trackFirstLogin => "TrackFirstLogin"
  | .reportFirstLogin => "ReportFirstLogin"
  | .checkEligibility => "CheckEligibility"
  | .listVouchers => "ListVouchers"
  | .listParticipations => "ListParticipations"
  | .validateVoucher => "ValidateVoucher"
  | .redeemVoucher => "RedeemVoucher"
  | .topUp => "TopUp"
  | .listActiveCampaigns => "ListActiveCampaigns"
  | .getCampaign => "GetCampaign"

def ofName? (s : String) : Option Method := all.find? (·.name == s)

def requestType : Method → String
  | .redeemVoucher => "RedeemVoucherRequest"
  | m => m.name ++ "Request"

end Method

/-- A request to one of the methods. -/
inductive Request where
  | trackFirstLogin (userId : Int) (campaignId : Option Int)
  | reportFirstLogin (userId : Int) (occurredAt : Instant)
  | checkEligibility (userId : Int)
  | listVouchers (userId : Int)
  | listParticipations (userId : Int)
  | validateVoucher (code : String)
  | redeemVoucher (code : String) (userId : Int) (amount : Decimal) (phone method : String)
  | topUp (userId : Int) (amount : Decimal) (phone method voucherCode : String)
  | listActiveCampaigns
  | getCampaign (campaignId : Int)
  deriving Repr

namespace Request

def method : Request → Method
  | .trackFirstLogin .. => .trackFirstLogin
  | .reportFirstLogin .. => .reportFirstLogin
  | .checkEligibility .. => .checkEligibility
  | .listVouchers .. => .listVouchers
  | .listParticipations .. => .listParticipations
  | .validateVoucher .. => .validateVoucher
  | .redeemVoucher .. => .redeemVoucher
  | .topUp .. => .topUp
  | .listActiveCampaigns => .listActiveCampaigns
  | .getCampaign .. => .getCampaign

def fieldsOf : Method → List String
  | .trackFirstLogin => ["user_id", "campaign_id"]
  | .reportFirstLogin => ["user_id", "occurred_at"]
  | .checkEligibility => ["user_id"]
  | .listVouchers => ["user_id"]
  | .listParticipations => ["user_id"]
  | .validateVoucher => ["code"]
  | .redeemVoucher => ["code", "user_id", "amount", "phone_number", "payment_method"]
  | .topUp => ["user_id", "amount", "phone_number", "payment_method", "voucher_code"]
  | .listActiveCampaigns => []
  | .getCampaign => ["campaign_id"]

/-- Reads the request of a method from a JSON value; `none` when it does not fit. -/
def read? (m : Method) (j : Json) : Option Request :=
  if !j.isRecord then none
  else
    let fs := fieldsOf m
    let int (name : String) := j.bindField fs name 0 (intLiteral? 64)
    let text (name : String) := j.bindField fs name "" textValue?
    let dec (name : String) := j.bindField fs name 0 decimalText?
    match m with
    | .trackFirstLogin => do
      let u ← int "user_id"
      let c ← j.bindOptional fs "campaign_id" (intLiteral? 64)
      pure (.trackFirstLogin u c)
    | .reportFirstLogin => do
      let u ← int "user_id"
      let t ← j.bindField fs "occurred_at" Instant.zero timeText?
      pure (.reportFirstLogin u t)
    | .checkEligibility => (int "user_id").map .checkEligibility
    | .listVouchers => (int "user_id").map .listVouchers
    | .listParticipations => (int "user_id").map .listParticipations
    | .validateVoucher => (text "code").map .validateVoucher
    | .redeemVoucher => do
      pure (.redeemVoucher (← text "code") (← int "user_id") (← dec "amount")
        (← text "phone_number") (← text "payment_method"))
    | .topUp => do
      pure (.topUp (← int "user_id") (← dec "amount") (← text "phone_number")
        (← text "payment_method") (← text "voucher_code"))
    | .listActiveCampaigns => some .listActiveCampaigns
    | .getCampaign => (int "campaign_id").map .getCampaign

/-- The request with its voucher code replaced, for the methods that take one. -/
def withCode (r : Request) (code : String) : Request :=
  match r with
  | .validateVoucher _ => .validateVoucher code
  | .redeemVoucher _ u a p m => .redeemVoucher code u a p m
  | .topUp u a p m _ => .topUp u a p m code
  | r => r

def encodingFailure? : Request → Option String
  | .reportFirstLogin _ t => t.jsonFault?.map timeEncodingFailure
  | _ => none

end Request

end Api
end TopUpPromo
