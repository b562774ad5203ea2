import TopUpPromo.Decimal.Basic
import TopUpPromo.Time.Instant

/-!
# Campaigns

A campaign admits users on their first login while it is active, inside its window
`[start, end)` and below its capacity. Its participant counter and capacity are 32-bit words:
the slots left are `max - current` computed as such a word, and none once the counter has
reached the capacity. Each campaign carries the discount policy that its vouchers copy.

## Main definitions

- `CampaignStatus`, `CampaignKind`, `Stamp`.
- `Campaign`, `Campaign.inWindow`, `Campaign.remainingSlots`, `Campaign.acceptsParticipants`.
- `Campaign.newerThan`: the order of campaigns by creation, newest first.
-/

namespace TopUpPromo

/-- The lifecycle state of a campaign; any other word is kept as written. -/
inductive CampaignStatus where
  | active
  | inactive
  | expired
  | full
  | other (word : String)
  deriving DecidableEq, Repr, Inhabited

namespace CampaignStatus

def text : CampaignStatus → String
  | .active => "active"
  | .inactive => "inactive"
  | .expired => "expired"
  | .full => "full"
  | .other w => w

def ofText (s : String) : CampaignStatus :=
  match s with
  | "active" => .active
  | "inactive" => .inactive
  | "expired" => .expired
  | "full" => .full
  | w => .other w

end CampaignStatus

/-- The campaign type that first logins enroll into. -/
def firstLoginDiscount : String := "first_login_discount"

/-- The instant the store's own wall clock shows when it stamps a row. It is the machine's
clock, which the sessions do not set: some time after their default clock and before 2030. -/
def storeWallClock : Instant := Instant.ofCivil ⟨2026, 11, 13, 0, 0, 0⟩ 0 0

/-- When a row was created: at an instant of the service's clock, or by the store's own wall
clock (`storeWallClock`). -/
inductive Stamp where
  | clock (t : Instant)
  | wallClock
  deriving DecidableEq, Repr, Inhabited

namespace Stamp

def instant : Stamp → Instant
  | .clock t => t
  | .wallClock => storeWallClock

def later (a b : Stamp) : Bool := a.instant.after b.instant

def isUnset : Stamp → Bool
  | .clock t => t.isZero
  | .wallClock => false

def same (a b : Stamp) : Bool := a.instant.sameMoment b.instant

end Stamp

/-- A promotion campaign. -/
structure Campaign where
  id : Int
  name : String
  description : String
  kind : String
  status : CampaignStatus
  startDate : Instant
  endDate : Instant
  maxParticipants : Int32
  currentParticipants : Int32
  discountPercentage : Decimal
  minTopup : Decimal
  maxDiscount : Option Decimal
  voucherValidityDays : Int
  createdAt : Stamp
  deriving Repr, Inhabited

namespace Campaign

/-- `t` lies in `[startDate, endDate)`. -/
def inWindow (c : Campaign) (t : Instant) : Bool :=
  !t.before c.startDate && t.before c.endDate

/-- The slots left: `max - current` as a 32-bit word, or zero once the counter has reached the
capacity. -/
def remainingSlots (c : Campaign) : Int32 :=
  if c.currentParticipants ≥ c.maxParticipants then 0
  else c.maxParticipants - c.currentParticipants

/-- The campaign is active, `t` is in its window and a slot is left. -/
def acceptsParticipants (c : Campaign) (t : Instant) : Bool :=
  c.status == .active && c.inWindow t && decide (c.remainingSlots > 0)

/-- Creation order, newest first: the later creation, and for equal creations the higher id. -/
def newerThan (a b : Campaign) : Bool :=
  if a.createdAt.same b.createdAt then a.id > b.id else a.createdAt.later b.createdAt

end Campaign

end TopUpPromo
