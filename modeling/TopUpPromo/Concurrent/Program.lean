import TopUpPromo.Service.Enrollment
import TopUpPromo.Service.Redemption
import TopUpPromo.Seed

/-!
# Services as programs of calls

A service written over the store classes can be read as a program: the calls it makes, each
followed by what it does with the answer. `Program` is that reading, a tree whose nodes are
calls of the store, the code source, the payment gateway and the transaction-id source, and
whose branches are the answers. Running the tree one call at a time against a shared store is
how the calls of concurrent requests interleave (`TopUpPromo.Concurrent.World`).

A transaction is two calls: `begin` opens it and `finish` ends it, committing when the body
succeeded and the context is live. Taking a row lock is a call of its own, so the lock is
acquired in one step and the locked row is read in the next; a voucher is first found by its
code, then locked, then read.

## Main definitions

- `Call`, `Call.Answer`: the calls a service makes and what each answers.
- `Program`: calls with their continuations, a monad.
- The instances of `PromotionStore`, `CampaignWriter`, `CodeSource`, `PaymentGateway` and
  `TransactionSuffix` on `Program`.
-/

namespace TopUpPromo
namespace Concurrent

/-- A call a service makes, with its arguments. -/
inductive Call where
  | getCampaign (id : Int)
  | findLatestActiveCampaign (kind : String)
  | listActiveCampaigns
  | hasParticipation (userId : Int) (kind : String)
  | listParticipationsByUser (userId : Int)
  | getVoucherByCode (code : String)
  | listVouchersByUser (userId : Int)
  | createCampaign (campaign : Campaign)
  /-- Opens a transaction. -/
  | begin
  /-- Ends the open transaction: commits if the body's outcome is a success and the context is
  live, rolls back otherwise. -/
  | finish (ctx : Ctx) (outcome : Except Failure Unit)
  | lock (ctx : Ctx) (key : LockKey)
  | readCampaign (id : Int)
  | updateCampaignParticipants (id : Int) (current : Int32) (status : CampaignStatus)
  | createParticipation (p : Participation)
  | updateParticipationStatus (id : Int) (status : ParticipationStatus) (stamp : Instant)
  | createVoucher (v : Voucher)
  | findVoucher (code : String)
  | readVoucher (id : Int)
  | markVoucherUsed (id : Int) (usage : Usage)
  | markVoucherExpired (id : Int)
  | nextCode
  | confirmPayment (ctx : Ctx) (req : PaymentRequest)
  | nextSuffix

/-- What a call answers. -/
@[reducible] def Call.Answer : Call → Type
  | .getCampaign _ | .findLatestActiveCampaign _ | .readCampaign _ => Except Failure Campaign
  | .listActiveCampaigns => Except Failure (List Campaign)
  | .hasParticipation _ _ => Except Failure Bool
  | .listParticipationsByUser _ => Except Failure (List JoinedParticipation)
  | .getVoucherByCode _ | .readVoucher _ => Except Failure Voucher
  | .listVouchersByUser _ => Except Failure (List Voucher)
  | .createCampaign _ => Except Failure Campaign
  | .begin => Unit
  | .finish _ _ | .lock _ _ | .updateCampaignParticipants _ _ _
  | .updateParticipationStatus _ _ _ | .markVoucherUsed _ _ | .markVoucherExpired _ =>
    Except Failure Unit
  | .createParticipation _ | .createVoucher _ | .findVoucher _ => Except Failure Int
  | .nextCode => Except Failure String
  | .confirmPayment _ _ => Except Failure Bool
  | .nextSuffix => String

/-- A program: done with a result, or a call followed by the program its answer leads to. -/
inductive Program (α : Type) where
  | done (result : α)
  | call (c : Call) (next : c.Answer → Program α)

namespace Program

def bind {α β : Type} : Program α → (α → Program β) → Program β
  | .done a, f => f a
  | .call c next, f => .call c fun x => (next x).bind f

instance : Monad Program where
  pure := .done
  bind := Program.bind

def perform (c : Call) : Program c.Answer := .call c .done

@[simp] theorem done_bind {α β : Type} (a : α) (f : α → Program β) :
    (Program.done a).bind f = f a := rfl

@[simp] theorem call_bind {α β : Type} (c : Call) (next : c.Answer → Program α)
    (f : α → Program β) : (Program.call c next).bind f = .call c fun x => (next x).bind f := rfl

theorem bind_assoc {α β γ : Type} (p : Program α) (f : α → Program β) (g : β → Program γ) :
    (p.bind f).bind g = p.bind fun a => (f a).bind g := by
  induction p with
  | done a => rfl
  | call c next ih => simp only [call_bind, ih]

end Program

open Program

instance : PromotionStore Program where
  withTx ctx body := .call .begin fun _ => body.bind fun r =>
    .call (.finish ctx (r.map fun _ => ())) fun e => .done (e.bind fun _ => r)
  getCampaign _ id := perform (.getCampaign id)
  findLatestActiveCampaign _ kind := perform (.findLatestActiveCampaign kind)
  listActiveCampaigns _ := perform .listActiveCampaigns
  hasParticipation _ userId kind := perform (.hasParticipation userId kind)
  listParticipationsByUser _ userId := perform (.listParticipationsByUser userId)
  getVoucherByCode _ code := perform (.getVoucherByCode code)
  listVouchersByUser _ userId := perform (.listVouchersByUser userId)
  lockCampaign ctx id := .call (.lock ctx (.campaign id)) fun
    | .error e => .done (.error e)
    | .ok () => perform (.readCampaign id)
  updateCampaignParticipants _ id current status :=
    perform (.updateCampaignParticipants id current status)
  createParticipation _ p := perform (.createParticipation p)
  updateParticipationStatus _ id status stamp := perform (.updateParticipationStatus id status stamp)
  createVoucher _ v := perform (.createVoucher v)
  lockVoucher ctx code := .call (.findVoucher code) fun
    | .error e => .done (.error e)
    | .ok id => .call (.lock ctx (.voucher code)) fun
      | .error e => .done (.error e)
      | .ok () => perform (.readVoucher id)
  markVoucherUsed _ id usage := perform (.markVoucherUsed id usage)
  markVoucherExpired _ id _ := perform (.markVoucherExpired id)

instance : CampaignWriter Program where
  createCampaign _ campaign := perform (.createCampaign campaign)

instance : CodeSource Program where
  nextCode := perform .nextCode

instance : PaymentGateway Program where
  confirmPayment ctx req := perform (.confirmPayment ctx req)

instance : TransactionSuffix Program where
  nextSuffix := perform .nextSuffix

end Concurrent
end TopUpPromo
