import TopUpPromo.Store.Memory
import TopUpPromo.Store.Relational
import TopUpPromo.Api.Server
import TopUpPromo.Voucher.Code

/-!
# A sandbox for the promotion services

A sandbox runs the promotion services against a store, in memory or in a database that answers
from a script, with scripted surroundings:
a clock that only moves when told, voucher codes taken from a queue and then numbered, a payment
gateway in a chosen mode that records every charge it is asked for, and a task queue that keeps
the first-login tasks published to it.

Random values are drawn from counters: the suffix of a transaction id is six hexadecimal
digits, and an event id is a version 4 UUID.

## Main definitions

- `GatewayMode`, `Gateway`, `PublisherMode`, `QueuedTask`, `Storage`, `World`.
- `SandboxM`: the state monad over a world, with the service classes implemented on it.
-/

namespace TopUpPromo
namespace Sandbox

/-- How the payment gateway answers. -/
inductive GatewayMode where
  /-- Every charge goes through. -/
  | approve
  /-- Every charge is declined. -/
  | decline
  /-- The gateway cannot be reached. -/
  | unreachable
  deriving DecidableEq, Repr

/-- The payment gateway: its mode and the delay before it answers. -/
structure Gateway where
  mode : GatewayMode
  latencyMs : Nat
  deriving Repr

/-- How the task queue behaves. -/
inductive PublisherMode where
  /-- Tasks are queued and get ids `task-1`, `task-2`, …. -/
  | ok
  /-- Tasks are queued, but the queue tells no id. -/
  | noInfo
  /-- The queue refuses tasks. -/
  | failing
  /-- There is no queue. -/
  | absent
  deriving DecidableEq, Repr

/-- A task waiting in the queue. -/
structure QueuedTask where
  kind : String
  payload : String
  deriving Repr

/-- Where a sandbox keeps its rows: in memory, or in a scripted database with the store's lock
timeout. -/
inductive Storage where
  | memory (b : Memory.Backend)
  | database (db : Database.Server) (lockTimeoutMs : Nat)

/-- Everything a sandbox holds. -/
structure World where
  storage : Storage
  now : Instant
  /-- The machine clock, which stamps first logins reported without a time. -/
  wallClock : Instant
  codePrefix : String
  codes : List (Option String) := []
  codeCounter : Nat := 0
  gateway : Gateway
  /-- The charges asked for since the calls were last taken. -/
  calls : List PaymentRequest := []
  publisher : PublisherMode
  tasks : List QueuedTask := []
  taskCounter : Nat := 0
  suffixCounter : Nat := 0
  eventCounter : Nat := 0
  /-- The transactions holding row locks until released on request. -/
  holders : List Nat := []

/-- The monad of a sandbox. -/
abbrev SandboxM := StateM World

namespace World

def call {α : Type} (mem : Memory.Backend → Except Failure α × Memory.Backend)
    (sql : Nat → Database.Connection (Except Failure α)) : SandboxM (Except Failure α) :=
  modifyGet fun w =>
    match w.storage with
    | .memory b => let (r, b) := mem b; (r, { w with storage := .memory b })
    | .database db t => let (r, db) := (sql t).run db; (r, { w with storage := .database db t })

def read {α : Type} (mem : Memory.Store → Except Failure α)
    (sql : Database.Connection (Except Failure α)) : SandboxM (Except Failure α) :=
  call (fun b => (mem b.store, b)) fun _ => sql

def inTx {α : Type} (mem : Memory.TxStep α) (sql : Database.Connection (Except Failure α)) :
    SandboxM (Except Failure α) :=
  call (·.step mem) fun _ => sql

def openTx (ctx : Ctx) : SandboxM (Except Failure Unit) :=
  call (fun b => (.ok (), b.begin)) (Relational.openTx ctx)

def closeTx {α : Type} (ctx : Ctx) (r : Except Failure α) : SandboxM (Except Failure α) :=
  call (·.finish ctx r) fun _ => Relational.closeTx ctx r

end World

instance : PromotionStore SandboxM where
  withTx ctx body := do
    match ← World.openTx ctx with
    | .error e => return .error e
    | .ok () => World.closeTx ctx (← body)
  getCampaign ctx id := World.read (·.getCampaign id) (Relational.getCampaign ctx id)
  findLatestActiveCampaign ctx kind :=
    World.read (·.findLatestActiveCampaign kind) (Relational.findLatestActiveCampaign ctx kind)
  listActiveCampaigns ctx :=
    World.read (.ok ·.listActiveCampaigns) (Relational.listActiveCampaigns ctx)
  hasParticipation ctx userId kind :=
    World.read (.ok <| ·.hasParticipation userId kind) (Relational.hasParticipation ctx userId kind)
  listParticipationsByUser ctx userId :=
    World.read (.ok <| ·.listParticipationsByUser userId)
      (Relational.listParticipationsByUser ctx userId)
  getVoucherByCode ctx code := World.read (·.getVoucherByCode code) (Relational.getVoucherByCode ctx code)
  listVouchersByUser ctx userId :=
    World.read (.ok <| ·.listVouchersByUser userId) (Relational.listVouchersByUser ctx userId)
  lockCampaign ctx id := World.inTx (Memory.Tx.lockCampaign ctx id) (Relational.lockCampaign ctx id)
  updateCampaignParticipants ctx id current status :=
    World.inTx (Memory.Tx.updateCampaignParticipants id current status)
      (Relational.updateCampaignParticipants ctx id current status)
  createParticipation ctx p :=
    World.inTx (Memory.Tx.createParticipation p) (Relational.createParticipation ctx p)
  updateParticipationStatus ctx id status t :=
    World.inTx (Memory.Tx.updateParticipationStatus id status t)
      (Relational.updateParticipationStatus ctx id status t)
  createVoucher ctx v := World.inTx (Memory.Tx.createVoucher v) (Relational.createVoucher ctx v)
  lockVoucher ctx code := World.inTx (Memory.Tx.lockVoucher ctx code) (Relational.lockVoucher ctx code)
  markVoucherUsed ctx id u :=
    World.inTx (Memory.Tx.markVoucherUsed id u) (Relational.markVoucherUsed ctx id u)
  markVoucherExpired ctx id t :=
    World.inTx (Memory.Tx.markVoucherExpired id) (Relational.markVoucherExpired ctx id t)

instance : CodeSource SandboxM where
  nextCode := modifyGet fun w =>
    match w.codes with
    | some c :: rest => (.ok c, { w with codes := rest })
    | none :: rest => (.error (.plain "entropy source failed"), { w with codes := rest })
    | [] =>
      let n := w.codeCounter + 1
      (.ok (Voucher.numberedCode w.codePrefix n), { w with codeCounter := n })

def waitFailure (ctx : Ctx) (ms : Nat) : Option Failure :=
  match ctx with
  | .deadlineIn d => if d < ms then some (.cause .deadlineExceeded) else none
  | c => c.failure?

instance : PaymentGateway SandboxM where
  confirmPayment ctx req := modifyGet fun w =>
    let w := { w with calls := w.calls ++ [req] }
    let answer : Except Failure Bool :=
      match w.gateway.mode with
      | .unreachable => .error (.plain "gateway unreachable")
      | mode =>
        match (if w.gateway.latencyMs > 0 then waitFailure ctx w.gateway.latencyMs else none) with
        | some f => .error f
        | none => .ok (mode == .approve)
    (answer, w)

def hexText (n width : Nat) : String :=
  let ds := Nat.toDigits 16 n |>.map Char.toUpper
  String.ofList (List.replicate (width - ds.length) '0' ++ ds)

instance : TransactionSuffix SandboxM where
  nextSuffix := modifyGet fun w =>
    let n := w.suffixCounter + 1
    (hexText (n % 16777216) 6, { w with suffixCounter := n })

def numberedUuid (n : Nat) : String :=
  (hexText (n % 4294967296) 8).toLower ++ "-0000-4000-8000-000000000000"

instance : Api.FirstLoginQueue SandboxM where
  enqueue _ payload := modifyGet fun w =>
    let task : QueuedTask := ⟨Events.firstLoginType, payload⟩
    match w.publisher with
    | .failing => (.error (.plain "queue unavailable"), w)
    | .noInfo => (.ok none, { w with tasks := w.tasks ++ [task] })
    | _ =>
      let n := w.taskCounter + 1
      (.ok (some ("task-" ++ toString n)), { w with tasks := w.tasks ++ [task], taskCounter := n })
  nextEventId := modifyGet fun w =>
    let n := w.eventCounter + 1
    (numberedUuid n, { w with eventCounter := n })
  wallClock := do return (← get).wallClock

end Sandbox
end TopUpPromo
