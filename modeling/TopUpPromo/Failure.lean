import TopUpPromo.Decimal.Text

/-!
# Failures and their causes

A failure has a text and is known by the causes in its chain. Wrapping a failure in a context
(`failed to lock voucher: …`) keeps its causes; quoting only its text (`outer: …` written from
the text) drops them. A cause joined with the text of another failure keeps the first cause
only.

The callers of the promotion core sort failures by cause: business rejections (already
participated, no campaign, voucher problems, below minimum, payment declined, invalid amount)
and a cancelled request are final, every other failure may be retried.

## Main definitions

- `Cause`: the failures that callers test for.
- `Failure`: a chain of contexts over a cause or a plain text, with `Failure.text` and
  `Failure.hasCause`.
- `Failure.retryable`: whether a caller may retry.
-/

namespace TopUpPromo

/-- Failures that callers recognise by identity. -/
inductive Cause where
  | alreadyParticipated
  | noActiveCampaign
  | campaignFull
  | campaignNotFound
  | voucherNotFound
  | voucherNotOwned
  | voucherInvalidOrExpired
  | belowMinimumTopup
  | paymentFailed
  | lockTimeout
  | voucherCodeExhausted
  | invalidAmount
  | storeNotFound
  | storeConflict
  | storeLockTimeout
  | storeStale
  | canceled
  | deadlineExceeded
  /-- A query that should return a row returned none. -/
  | noRows
  deriving DecidableEq, Repr

namespace Cause

def text : Cause → String
  | .alreadyParticipated => "user has already participated in a promotion campaign"
  | .noActiveCampaign => "no active promotion campaigns available or campaign is full"
  | .campaignFull => "campaign is full"
  | .campaignNotFound => "campaign not found"
  | .voucherNotFound => "voucher not found"
  | .voucherNotOwned => "voucher does not belong to this user"
  | .voucherInvalidOrExpired => "voucher is expired or already used"
  | .belowMinimumTopup => "top-up amount is below the voucher minimum"
  | .paymentFailed => "payment processing failed"
  | .lockTimeout => "timed out waiting for a row lock"
  | .voucherCodeExhausted => "could not generate a unique voucher code"
  | .invalidAmount =>
    "top-up amount must be positive, at most 99999999.99 with two decimal places"
  | .storeNotFound => "store: not found"
  | .storeConflict => "store: unique constraint violated"
  | .storeLockTimeout => "store: lock wait timeout"
  | .storeStale => "store: row state changed"
  | .canceled => "context canceled"
  | .deadlineExceeded => "context deadline exceeded"
  | .noRows => "sql: no rows in result set"

/-- The name by which a cause is reported. -/
def kind : Cause → String
  | .alreadyParticipated => "already_participated"
  | .noActiveCampaign => "no_active_campaign"
  | .campaignFull => "campaign_full"
  | .campaignNotFound => "campaign_not_found"
  | .voucherNotFound => "voucher_not_found"
  | .voucherNotOwned => "voucher_not_owned"
  | .voucherInvalidOrExpired => "voucher_invalid_or_expired"
  | .belowMinimumTopup => "below_minimum"
  | .paymentFailed => "payment_failed"
  | .lockTimeout => "lock_timeout"
  | .voucherCodeExhausted => "voucher_code_exhausted"
  | .invalidAmount => "invalid_amount"
  | .storeNotFound => "store_not_found"
  | .storeConflict => "store_conflict"
  | .storeLockTimeout => "store_lock_timeout"
  | .storeStale => "store_stale"
  | .canceled => "context_canceled"
  | .deadlineExceeded => "deadline_exceeded"
  | .noRows => "error"

/-- The causes in the order in which a failure is classified: the first one it has names it. -/
def reportOrder : List Cause :=
  [.alreadyParticipated, .noActiveCampaign, .campaignFull, .campaignNotFound, .voucherNotFound,
   .voucherNotOwned, .voucherInvalidOrExpired, .belowMinimumTopup, .paymentFailed, .lockTimeout,
   .voucherCodeExhausted, .invalidAmount, .storeNotFound, .storeConflict, .storeLockTimeout,
   .storeStale, .canceled, .deadlineExceeded]

/-- Causes after which a retry cannot help. -/
def final : List Cause :=
  [.alreadyParticipated, .noActiveCampaign, .campaignFull, .campaignNotFound, .voucherNotFound,
   .voucherNotOwned, .voucherInvalidOrExpired, .belowMinimumTopup, .paymentFailed,
   .invalidAmount, .canceled]

end Cause

/-- A failure: a cause or a text at the bottom, under contexts. -/
inductive Failure where
  /-- A recognised failure. -/
  | cause (c : Cause)
  /-- A top-up below the voucher's minimum; it is a `belowMinimumTopup`. -/
  | belowMinimum (minimum : Decimal)
  /-- A database error with its SQLSTATE code. -/
  | database (code : String) (message : String)
  /-- A failure known by its text only. -/
  | plain (text : String)
  /-- `context: inner`, keeping the causes of `inner`. -/
  | within (context : String) (inner : Failure)
  /-- `inner suffix`, keeping the causes of `inner`. -/
  | followedBy (inner : Failure) (suffix : String)
  /-- `c: detail`, where `detail` is the text of another failure whose causes are dropped. -/
  | joined (c : Cause) (detail : String)
  deriving Repr, Inhabited

namespace Failure

def text : Failure → String
  | .cause c => c.text
  | .belowMinimum m => "minimum top-up amount for this voucher is " ++ m.toFixed 2
  | .database _ m => "pq: " ++ m
  | .plain t => t
  | .within ctx inner => ctx ++ ": " ++ inner.text
  | .followedBy inner s => inner.text ++ s
  | .joined c d => c.text ++ ": " ++ d

/-- Whether the failure has `c` in its chain. -/
def hasCause (c : Cause) : Failure → Bool
  | .cause c' => c' == c
  | .belowMinimum _ => c == .belowMinimumTopup
  | .database _ _ => false
  | .plain _ => false
  | .within _ inner => inner.hasCause c
  | .followedBy inner _ => inner.hasCause c
  | .joined c' _ => c' == c

def belowMinimum? : Failure → Option Decimal
  | .belowMinimum m => some m
  | .within _ inner => inner.belowMinimum?
  | .followedBy inner _ => inner.belowMinimum?
  | _ => none

def databaseCode? : Failure → Option String
  | .database code _ => some code
  | .within _ inner => inner.databaseCode?
  | .followedBy inner _ => inner.databaseCode?
  | _ => none

def quoted (context : String) (f : Failure) : Failure := .plain (context ++ ": " ++ f.text)

/-- The name a failure is reported by: `below_minimum` for a below-minimum failure, else its
first cause in `Cause.reportOrder`, else `error`. -/
def kind (f : Failure) : String :=
  if f.belowMinimum?.isSome then "below_minimum"
  else match Cause.reportOrder.find? (f.hasCause ·) with
    | some c => c.kind
    | none => "error"

/-- A caller may retry unless the failure has a final cause. -/
def retryable (f : Failure) : Bool := !(Cause.final.any (f.hasCause ·))

end Failure

end TopUpPromo
