import TopUpPromo.Campaign
import TopUpPromo.Participation
import TopUpPromo.Voucher.Basic
import TopUpPromo.Failure

/-!
# The promotion store

What the promotion core asks of a store: reads of committed rows, and transactions whose row
locks are held until the transaction ends. Inside a transaction the core locks a campaign or a
voucher, updates counters and statuses and creates participations and vouchers; a store
refuses a second participation of a user in a campaign and a second voucher with a code.

Every call carries the request's context: live (perhaps until a deadline), cancelled, or past
its deadline. A store consults it when it must wait for a lock and when it commits.

## Main definitions

- `Ctx`, `LockKey`, `JoinedParticipation`.
- `PromotionStore`: the store operations in a monad.
-/

namespace TopUpPromo

/-- The state of a request's context: live, live until a deadline some milliseconds ahead,
cancelled, or past its deadline. -/
inductive Ctx where
  | live
  | deadlineIn (ms : Nat)
  | cancelled
  | deadlinePassed
  deriving DecidableEq, Repr, Inhabited

namespace Ctx

/-- The failure a finished context reports, if it is finished. -/
def failure? : Ctx → Option Failure
  | .live => none
  | .deadlineIn _ => none
  | .cancelled => some (.cause .canceled)
  | .deadlinePassed => some (.cause .deadlineExceeded)

def remainingMs? : Ctx → Option Nat
  | .deadlineIn ms => some ms
  | _ => none

end Ctx

/-- The key of a row lock. -/
inductive LockKey where
  | campaign (id : Int)
  | voucher (code : String)
  deriving DecidableEq, Repr

def LockKey.text : LockKey → String
  | .campaign id => "campaign:" ++ toString id
  | .voucher code => "voucher:" ++ code

/-- A participation read together with its campaign's name and end, when the campaign
exists. -/
structure JoinedParticipation where
  row : Participation
  campaignName : String
  campaignEnd : Option Instant
  deriving Repr

/-- The operations of a promotion store in a monad `m`. The transaction operations act on the
transaction that `withTx` opened. -/
class PromotionStore (m : Type → Type) where
  /-- Runs the body in a new transaction: it commits when the body succeeds and the context
  is live, and rolls back otherwise. -/
  withTx {α : Type} : Ctx → m (Except Failure α) → m (Except Failure α)
  getCampaign : Ctx → Int → m (Except Failure Campaign)
  findLatestActiveCampaign : Ctx → String → m (Except Failure Campaign)
  listActiveCampaigns : Ctx → m (Except Failure (List Campaign))
  hasParticipation : Ctx → Int → String → m (Except Failure Bool)
  listParticipationsByUser : Ctx → Int → m (Except Failure (List JoinedParticipation))
  getVoucherByCode : Ctx → String → m (Except Failure Voucher)
  listVouchersByUser : Ctx → Int → m (Except Failure (List Voucher))
  lockCampaign : Ctx → Int → m (Except Failure Campaign)
  updateCampaignParticipants : Ctx → Int → Int32 → CampaignStatus → m (Except Failure Unit)
  /-- Creates the participation and returns its id. -/
  createParticipation : Ctx → Participation → m (Except Failure Int)
  updateParticipationStatus : Ctx → Int → ParticipationStatus → Instant → m (Except Failure Unit)
  /-- Creates the voucher and returns its id. -/
  createVoucher : Ctx → Voucher → m (Except Failure Int)
  lockVoucher : Ctx → String → m (Except Failure Voucher)
  markVoucherUsed : Ctx → Int → Usage → m (Except Failure Unit)
  markVoucherExpired : Ctx → Int → Instant → m (Except Failure Unit)

end TopUpPromo
