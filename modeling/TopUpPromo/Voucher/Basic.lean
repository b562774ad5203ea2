import TopUpPromo.Decimal.Basic
import TopUpPromo.Time.Instant

/-!
# Vouchers

A voucher belongs to a participation and copies its campaign's discount policy when issued. It
is valid while it is active and its expiry has not passed (`now ≤ expires_at`). It leaves
`active` once: to `used` by a top-up, which records the amount, the discount and the
transaction, or to `expired` once its expiry has passed.

## Main definitions

- `VoucherStatus`, `Voucher`, `Voucher.isExpired`, `Voucher.isValid`.
- `Usage`: what a top-up records on the voucher it uses.
-/

namespace TopUpPromo

/-- The redemption state of a voucher; any other word is kept as written. -/
inductive VoucherStatus where
  | active
  | used
  | expired
  | cancelled
  | other (word : String)
  deriving DecidableEq, Repr, Inhabited

namespace VoucherStatus

def text : VoucherStatus → String
  | .active => "active"
  | .used => "used"
  | .expired => "expired"
  | .cancelled => "cancelled"
  | .other w => w

def ofText (s : String) : VoucherStatus :=
  match s with
  | "active" => .active
  | "used" => .used
  | "expired" => .expired
  | "cancelled" => .cancelled
  | w => .other w

end VoucherStatus

def mobileTopupDiscount : String := "mobile_topup_discount"

/-- An issued discount voucher. `userId` is the owner of its participation. -/
structure Voucher where
  id : Int
  code : String
  participationId : Int
  kind : String
  status : VoucherStatus
  discountPercentage : Decimal
  minTopup : Decimal
  maxDiscount : Option Decimal
  issuedAt : Instant
  expiresAt : Instant
  usedAt : Option Instant
  usedAmount : Option Decimal
  discountAmount : Option Decimal
  reference : Option String
  userId : Int
  deriving Repr, Inhabited

/-- What a top-up records on the voucher it uses. -/
structure Usage where
  usedAt : Instant
  amount : Decimal
  discount : Decimal
  reference : String
  deriving Repr

namespace Voucher

/-- `now` is past the expiry instant. -/
def isExpired (v : Voucher) (now : Instant) : Bool := now.after v.expiresAt

/-- The voucher can still be redeemed at `now`. -/
def isValid (v : Voucher) (now : Instant) : Bool := v.status == .active && !v.isExpired now

def markUsed (v : Voucher) (u : Usage) : Voucher :=
  { v with status := .used, usedAt := some u.usedAt, usedAmount := some u.amount,
           discountAmount := some u.discount, reference := some u.reference }

/-- The status that readers see at `now`: an active voucher past its expiry reads as
expired. -/
def effectiveStatus (v : Voucher) (now : Instant) : VoucherStatus :=
  if v.status == .active && v.isExpired now then .expired else v.status

end Voucher

end TopUpPromo
