import TopUpPromo.Concurrent.Program
import TopUpPromo.Store.Memory

/-!
# Concurrent requests against the in-memory store

Requests run as threads over one shared in-memory store. Each thread holds the request it
serves, its open transaction and the rest of its program (`TopUpPromo.Concurrent.Program`).
A step lets one thread make its next call: a read sees the committed rows, a transaction call
acts on the shared store and on the thread's own transaction, and the outside world (the code
source, the payment gateway, the transaction-id source) answers from the step's `Oracle`. Any
order of steps is an interleaving, so a statement over every list of events is a statement
over every interleaving of the requests' calls.

A thread that asks for a lock held by another transaction either waits, that is, takes no step
until the holder ends, or takes its step and fails as the store's lock wait does (timeout or
context). A lock that is free or already its own is taken at once.

## Main definitions

- `Oracle`, `Call.perform`: one call made on the store.
- `Request`, `Reply`, `Request.program`.
- `Thread`, `World`, `Event`, `World.step`, `World.run`, `World.start`.
-/

namespace TopUpPromo
namespace Concurrent

open Memory

/-- What the outside world answers when asked: the next voucher code, the payment gateway's
verdict and the random suffix of a transaction id. The code source fails only with a text of its
own, never with one of the failures the callers test for. -/
structure Oracle where
  code : Except String String
  payment : Except Failure Bool
  suffix : String

/-- A call made on the store by a thread with open transaction `b.current`, the outside world
answering from `o`. -/
def Call.perform (o : Oracle) (b : Backend) : (c : Call) → c.Answer × Backend
  | .getCampaign id => (b.store.getCampaign id, b)
  | .findLatestActiveCampaign kind => (b.store.findLatestActiveCampaign kind, b)
  | .listActiveCampaigns => (.ok b.store.listActiveCampaigns, b)
  | .hasParticipation userId kind => (.ok (b.store.hasParticipation userId kind), b)
  | .listParticipationsByUser userId => (.ok (b.store.listParticipationsByUser userId), b)
  | .getVoucherByCode code => (b.store.getVoucherByCode code, b)
  | .listVouchersByUser userId => (.ok (b.store.listVouchersByUser userId), b)
  | .createCampaign c =>
    let (c', s) := b.store.createCampaign c
    (.ok c', { b with store := s })
  | .begin => ((), b.begin)
  | .finish ctx outcome => b.finish ctx outcome
  | .lock ctx key => b.step (Tx.lock ctx key)
  | .readCampaign id => b.step (Tx.readCampaign id)
  | .updateCampaignParticipants id current status =>
    b.step (Tx.updateCampaignParticipants id current status)
  | .createParticipation p => b.step (Tx.createParticipation p)
  | .updateParticipationStatus id status stamp =>
    b.step (Tx.updateParticipationStatus id status stamp)
  | .createVoucher v => b.step (Tx.createVoucher v)
  | .findVoucher code => b.step (Tx.findVoucher code)
  | .readVoucher id => b.step (Tx.readVoucher id)
  | .markVoucherUsed id usage => b.step (Tx.markVoucherUsed id usage)
  | .markVoucherExpired id => b.step (Tx.markVoucherExpired id)
  | .nextCode => (o.code.mapError .plain, b)
  | .confirmPayment _ _ => (o.payment, b)
  | .nextSuffix => (o.suffix, b)

/-- A request a thread serves. -/
inductive Request where
  | enroll (cfg : Enrollment) (ctx : Ctx) (req : EnrollRequest)
  | topUp (now : Instant) (ctx : Ctx) (req : TopUpRequest)
  | redeem (now : Instant) (ctx : Ctx) (req : TopUpRequest)
  | validateVoucher (now : Instant) (ctx : Ctx) (code : String)
  | createCampaign (ctx : Ctx) (campaign : Campaign)

/-- The answer to a request. -/
inductive Reply where
  | enrolled (r : Except Failure EnrollResult)
  | toppedUp (r : Except Failure RedemptionResult)
  | validated (r : Except Failure Voucher)
  | created (r : Except Failure Campaign)

/-- The program that serves a request. -/
def Request.program : Request → Program Reply
  | .enroll cfg ctx req => Reply.enrolled <$> (TopUpPromo.enroll cfg ctx req : Program _)
  | .topUp now ctx req => Reply.toppedUp <$> (TopUpPromo.topUp now ctx req : Program _)
  | .redeem now ctx req => Reply.toppedUp <$> (TopUpPromo.redeem now ctx req : Program _)
  | .validateVoucher now ctx code =>
    Reply.validated <$> (TopUpPromo.validateVoucher now ctx code : Program _)
  | .createCampaign ctx campaign =>
    Reply.created <$> (CampaignWriter.createCampaign ctx campaign : Program _)

/-- A thread: the request it serves, its open transaction and what it has still to run. -/
structure Thread where
  request : Request
  tx : Option Tx
  program : Program Reply

def Thread.start (r : Request) : Thread := ⟨r, none, r.program⟩

def Thread.reply? (th : Thread) : Option Reply :=
  match th.program with
  | .done r => some r
  | .call _ _ => none

def Thread.step (o : Oracle) (s : Store) (th : Thread) : Store × Thread :=
  match th.program with
  | .done _ => (s, th)
  | .call c next =>
    let (a, b) := c.perform o ⟨s, th.tx⟩
    (b.store, { th with tx := b.current, program := next a })

/-- The shared store and the threads running against it. -/
structure World where
  store : Store
  threads : List Thread

/-- One step of an interleaving: the thread that moves and the outside world's answers. -/
structure Event where
  thread : Nat
  oracle : Oracle

namespace World

/-- Requests about to run against a store. -/
def start (s : Store) (requests : List Request) : World := ⟨s, requests.map Thread.start⟩

/-- Thread `e.thread` makes its next call; a thread that is done, or missing, changes
nothing. -/
def step (w : World) (e : Event) : World :=
  match w.threads[e.thread]? with
  | none => w
  | some th =>
    let (s, th') := th.step e.oracle w.store
    ⟨s, w.threads.set e.thread th'⟩

/-- The world after a list of steps. -/
def run (w : World) (es : List Event) : World := es.foldl step w

end World

end Concurrent
end TopUpPromo
