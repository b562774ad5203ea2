import TopUpPromo.Store.Basic

/-!
# What the promotion services ask of their surroundings

Besides a store, issuing needs a source of voucher codes and a top-up needs a payment gateway
and a fresh suffix for its transaction id. Each is a class over the monad the services run in,
so the same service code runs against any store and any gateway.

A service step is written in `ExceptT Failure m`: `liftStore` runs a store call there, and
`liftWithin` does so while putting a context in front of the failure's text.

## Main definitions

- `CodeSource`, `PaymentRequest`, `PaymentGateway`, `TransactionSuffix`.
- `liftStore`, `liftWithin`, `tryStore`, `liftResult`, `lockWaitFailure`.
-/

namespace TopUpPromo

/-- Where new voucher codes come from. A code source may fail. -/
class CodeSource (m : Type → Type) where
  nextCode : m (Except Failure String)

/-- A single top-up charge. -/
structure PaymentRequest where
  phone : String
  amount : Decimal
  transactionId : String
  method : String
  deriving Repr

def defaultPaymentMethod : String := "bank_transfer"

/-- A payment gateway: whether a charge went through, or why it could not be asked. -/
class PaymentGateway (m : Type → Type) where
  confirmPayment : Ctx → PaymentRequest → m (Except Failure Bool)

/-- The random part of a transaction id. -/
class TransactionSuffix (m : Type → Type) where
  nextSuffix : m String

section Lifting

variable {m : Type → Type} [Monad m] {α : Type}

/-- A call that may fail, as a step of a service. -/
def liftStore (x : m (Except Failure α)) : ExceptT Failure m α := ExceptT.mk x

/-- A call that may fail, as a step of a service whose failures read `context: …`. -/
def liftWithin (context : String) (x : m (Except Failure α)) : ExceptT Failure m α :=
  ExceptT.mk ((fun r => r.mapError (Failure.within context)) <$> x)

/-- A call whose failure the service looks at itself. -/
def tryStore (x : m (Except Failure α)) : ExceptT Failure m (Except Failure α) := ExceptT.lift x

/-- A result worked out without a call, as a step of a service. -/
def liftResult (r : Except Failure α) : ExceptT Failure m α := ExceptT.mk (pure r)

end Lifting

/-- A wait for a row lock that ran out is reported as the service's own lock timeout, with the
store's text after it; every other failure is kept. -/
def lockWaitFailure (f : Failure) : Failure :=
  if f.hasCause .storeLockTimeout && !f.hasCause .lockTimeout then .joined .lockTimeout f.text
  else f

end TopUpPromo
