import TopUpPromo.Time.Instant

/-!
# Participations

A participation records that a user enrolled in a campaign, with the order in which the user
came. It moves from `eligible` to `voucher_issued` when a voucher is issued, then to
`voucher_used` or `expired`. Its effective status applies expiry lazily: an eligible
participation reads as expired once its campaign has ended, and a participation with vouchers
reads as expired when every voucher has lapsed.

## Main definitions

- `ParticipationStatus`, `Participation`.
- `Participation.withinThreshold`: the order earns a voucher.
-/

namespace TopUpPromo

/-- Where a participant stands; any other word is kept as written. -/
inductive ParticipationStatus where
  | eligible
  | voucherIssued
  | voucherUsed
  | expired
  | other (word : String)
  deriving DecidableEq, Repr, Inhabited

namespace ParticipationStatus

def text : ParticipationStatus → String
  | .eligible => "eligible"
  | .voucherIssued => "voucher_issued"
  | .voucherUsed => "voucher_used"
  | .expired => "expired"
  | .other w => w

def ofText (s : String) : ParticipationStatus :=
  match s with
  | "eligible" => .eligible
  | "voucher_issued" => .voucherIssued
  | "voucher_used" => .voucherUsed
  | "expired" => .expired
  | w => .other w

end ParticipationStatus

/-- A user's enrollment in a campaign. -/
structure Participation where
  id : Int
  userId : Int
  campaignId : Int
  status : ParticipationStatus
  firstLoginAt : Instant
  voucherIssuedAt : Option Instant
  voucherUsedAt : Option Instant
  order : Int32
  deriving Repr, Inhabited

namespace Participation

/-- The participant's order is within the first `threshold`, who receive vouchers. -/
def withinThreshold (p : Participation) (threshold : Int32) : Bool :=
  decide (p.order ≤ threshold)

/-- The status after a change to `status` at `t`: issuing and using a voucher stamp their
instants. -/
def withStatus (p : Participation) (status : ParticipationStatus) (t : Instant) :
    Participation :=
  match status with
  | .voucherIssued => { p with status := status, voucherIssuedAt := some t }
  | .voucherUsed => { p with status := status, voucherUsedAt := some t }
  | _ => { p with status := status }

end Participation

end TopUpPromo
