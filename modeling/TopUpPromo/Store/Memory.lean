import TopUpPromo.Store.Basic

/-!
# The in-memory store

Committed rows are kept by id. A transaction stages the rows it writes and applies them when it
commits, overwriting the committed rows of the same ids; until then other readers see the
committed rows only, and the transaction itself sees its staged row where it has one.

Uniqueness is enforced at insert time: a participation key (user, campaign) or a voucher code
that is committed, or reserved by an open transaction, refuses a second insert. Ids are drawn
from counters when a row is inserted, so an insert in a transaction that rolls back still uses
its id; an insert refused for a taken code uses none.

Row locks are exclusive and belong to a transaction until it ends. A transaction that asks for
a lock it holds gets it at once; a free lock is taken even when the context has finished. A
held lock is waited for: a finished context ends the wait with its failure at once; otherwise
the first of three events ends it (`waitEnd`): the holder letting go by itself, which hands the
lock over, the lock timeout, which fails naming the key, and the context's deadline.

## Main definitions

- `Memory.Store`, `Memory.Tx`.
- The reads `Store.getCampaign` … `Store.listVouchersByUser`.
- The transaction steps `Tx.lock`, `Tx.lockCampaign` … `Tx.markVoucherExpired`, `Tx.commit`,
  `Tx.rollback`; locking a row is `Tx.lock` followed by `Tx.readCampaign` or, after
  `Tx.findVoucher`, `Tx.readVoucher`.
- `Backend`: the store with the transaction a service runs in.
-/

namespace TopUpPromo
namespace Memory

/-- Who holds a row lock: the owning transaction, and the delay after which the holder lets go
by itself, if it does. -/
structure Holder where
  owner : Nat
  releaseAfterMs : Option Nat
  deriving DecidableEq, Repr

/-- The committed state of the store. -/
structure Store where
  campaigns : List Campaign := []
  participations : List Participation := []
  vouchers : List Voucher := []
  reservedKeys : List (Int × Int) := []
  reservedCodes : List String := []
  nextCampaignId : Int := 0
  nextParticipationId : Int := 0
  nextVoucherId : Int := 0
  locks : List (LockKey × Holder) := []
  /-- The longest wait for a held lock, in milliseconds; zero waits without bound. -/
  lockTimeoutMs : Nat := 0
  /-- The owner number of the next transaction. -/
  nextOwner : Nat := 0
  deriving Repr

/-- An open transaction: the locks it holds and the rows it has staged. -/
structure Tx where
  owner : Nat
  held : List LockKey := []
  campaigns : List Campaign := []
  participations : List Participation := []
  vouchers : List Voucher := []
  newKeys : List ((Int × Int) × Int) := []
  newCodes : List (String × Int) := []
  deriving Repr

/-- A list with the row of the same id replaced, or the row added; rows stay in id order. -/
def upsertBy {α : Type} (idOf : α → Int) (rows : List α) (row : α) : List α :=
  if rows.any (fun r => idOf r == idOf row) then
    rows.map fun r => if idOf r == idOf row then row else r
  else
    let before := rows.filter (fun r => idOf r < idOf row)
    let after := rows.filter (fun r => idOf row < idOf r)
    before ++ [row] ++ after

def findBy {α : Type} (idOf : α → Int) (rows : List α) (id : Int) : Option α :=
  rows.find? (fun r => idOf r == id)

abbrev TxStep (α : Type) := Store → Tx → Except Failure α × Store × Tx

namespace Store

def participationKeys (s : Store) : List (Int × Int) :=
  s.participations.map fun p => (p.userId, p.campaignId)

def voucherCodes (s : Store) : List String := s.vouchers.map (·.code)

/-- Inserts a campaign under the next id; a campaign without a creation stamp is stamped with
the store's wall clock. -/
def createCampaign (s : Store) (c : Campaign) : Campaign × Store :=
  let id := s.nextCampaignId + 1
  let c' := { c with id := id, createdAt := if c.createdAt.isUnset then .wallClock else c.createdAt }
  (c', { s with nextCampaignId := id, campaigns := upsertBy (·.id) s.campaigns c' })

def getCampaign (s : Store) (id : Int) : Except Failure Campaign :=
  match findBy (·.id) s.campaigns id with
  | some c => .ok c
  | none => .error (.cause .storeNotFound)

/-- The active campaigns, newest first. -/
def listActiveCampaigns (s : Store) : List Campaign :=
  (s.campaigns.filter (·.status == .active)).mergeSort (fun a b => a.newerThan b)

/-- The newest active campaign of a type. -/
def findLatestActiveCampaign (s : Store) (kind : String) : Except Failure Campaign :=
  match (s.listActiveCampaigns.filter (·.kind == kind)).head? with
  | some c => .ok c
  | none => .error (.cause .storeNotFound)

/-- Whether the user has a committed participation in a campaign of the type. -/
def hasParticipation (s : Store) (userId : Int) (kind : String) : Bool :=
  s.participationKeys.any fun (u, cid) =>
    u == userId && match findBy (·.id) s.campaigns cid with
      | some c => c.kind == kind
      | none => false

def joinParticipation (s : Store) (p : Participation) : JoinedParticipation :=
  match findBy (·.id) s.campaigns p.campaignId with
  | some c => ⟨p, c.name, some c.endDate⟩
  | none => ⟨p, "", none⟩

/-- The user's committed participations, newest first. -/
def listParticipationsByUser (s : Store) (userId : Int) : List JoinedParticipation :=
  ((s.participations.filter (·.userId == userId)).reverse).map s.joinParticipation

def joinVoucher (s : Store) (staged : List Participation) (v : Voucher) : Voucher :=
  match findBy (·.id) staged v.participationId with
  | some p => { v with userId := p.userId }
  | none =>
    match findBy (·.id) s.participations v.participationId with
    | some p => { v with userId := p.userId }
    | none => v

def getVoucherByCode (s : Store) (code : String) : Except Failure Voucher :=
  match s.vouchers.find? (·.code == code) with
  | some v => .ok (s.joinVoucher [] v)
  | none => .error (.cause .storeNotFound)

/-- The user's committed vouchers, newest first. -/
def listVouchersByUser (s : Store) (userId : Int) : List Voucher :=
  let own := s.vouchers.filter fun v =>
    match findBy (·.id) s.participations v.participationId with
    | some p => p.userId == userId
    | none => false
  (own.reverse).map (s.joinVoucher [])

def begin (s : Store) : Tx × Store :=
  (⟨s.nextOwner, [], [], [], [], [], []⟩, { s with nextOwner := s.nextOwner + 1 })

def holderOf (s : Store) (key : LockKey) : Option Holder :=
  (s.locks.find? (·.1 == key)).map (·.2)

def setRelease (s : Store) (owner ms : Nat) : Store :=
  { s with locks := s.locks.map fun (k, h) =>
      if h.owner == owner then (k, { h with releaseAfterMs := some ms }) else (k, h) }

def releaseOwner (s : Store) (owner : Nat) : Store :=
  { s with locks := s.locks.filter (·.2.owner != owner) }

end Store

namespace Tx

/-- How a wait for a held lock ends. -/
inductive WaitEnd where
  /-- The holder lets go and the waiter takes the lock. -/
  | handedOver
  /-- The lock timeout runs out first. -/
  | timedOut
  /-- The context's deadline passes first. -/
  | deadline
  deriving DecidableEq, Repr

/-- The first of the events a waiter can see: the holder letting go after `release`
milliseconds, the lock timeout after `timeout`, the context's deadline after `deadline`. A
release wins a tie. A wait that nothing ends is reported as a timeout. -/
def waitEnd (release timeout deadline : Option Nat) : WaitEnd :=
  let before (a : Option Nat) (b : Option Nat) : Bool :=
    match a, b with
    | some x, some y => decide (x ≤ y)
    | some _, none => true
    | none, _ => false
  if before release timeout && before release deadline then .handedOver
  else if deadline.isSome && !before timeout deadline then .deadline
  else .timedOut

/-- Takes a row lock for the transaction, or says why it cannot be had. -/
def lock (ctx : Ctx) (key : LockKey) : TxStep Unit := fun s t =>
  if t.held.contains key then (.ok (), s, t)
  else
    let take (s : Store) : Except Failure Unit × Store × Tx :=
      (.ok (), { s with locks := s.locks ++ [(key, ⟨t.owner, none⟩)] }, { t with held := t.held ++ [key] })
    match s.holderOf key with
    | none => take s
    | some h =>
      match ctx.failure? with
      | some f => (.error f, s, t)
      | none =>
        let timeout := if s.lockTimeoutMs = 0 then none else some s.lockTimeoutMs
        match waitEnd h.releaseAfterMs timeout ctx.remainingMs? with
        | .handedOver => take (s.releaseOwner h.owner)
        | .deadline => (.error (.cause .deadlineExceeded), s, t)
        | .timedOut => (.error (.joined .storeLockTimeout key.text), s, t)

def campaign (s : Store) (t : Tx) (id : Int) : Option Campaign :=
  match findBy (·.id) t.campaigns id with
  | some c => some c
  | none => findBy (·.id) s.campaigns id

def participation (s : Store) (t : Tx) (id : Int) : Option Participation :=
  match findBy (·.id) t.participations id with
  | some p => some p
  | none => findBy (·.id) s.participations id

def voucher (s : Store) (t : Tx) (id : Int) : Option Voucher :=
  match findBy (·.id) t.vouchers id with
  | some v => some v
  | none => findBy (·.id) s.vouchers id

/-- Reads a campaign as the transaction sees it. -/
def readCampaign (id : Int) : TxStep Campaign := fun s t =>
  match campaign s t id with
  | some c => (.ok c, s, t)
  | none => (.error (.cause .storeNotFound), s, t)

/-- Locks a campaign and reads it. -/
def lockCampaign (ctx : Ctx) (id : Int) : TxStep Campaign := fun s t =>
  match lock ctx (.campaign id) s t with
  | (.error e, s, t) => (.error e, s, t)
  | (.ok (), s, t) => readCampaign id s t

/-- Stages a campaign's counter and status; a counter above the capacity is refused. -/
def updateCampaignParticipants (id : Int) (current : Int32) (status : CampaignStatus) :
    TxStep Unit := fun s t =>
  match campaign s t id with
  | none => (.error (.cause .storeStale), s, t)
  | some c =>
    if current > c.maxParticipants then (.error (.cause .storeStale), s, t)
    else
      let c' := { c with currentParticipants := current, status := status }
      (.ok (), s, { t with campaigns := upsertBy (·.id) t.campaigns c' })

/-- Inserts a participation under the next id, unless its (user, campaign) key is taken. -/
def createParticipation (p : Participation) : TxStep Int := fun s t =>
  let key := (p.userId, p.campaignId)
  if s.participationKeys.contains key ∨ s.reservedKeys.contains key then
    (.error (.cause .storeConflict), s, t)
  else
    let id := s.nextParticipationId + 1
    let p' := { p with id := id }
    (.ok id, { s with reservedKeys := s.reservedKeys ++ [key], nextParticipationId := id },
      { t with participations := upsertBy (·.id) t.participations p',
               newKeys := t.newKeys ++ [(key, id)] })

def updateParticipationStatus (id : Int) (status : ParticipationStatus) (stamp : Instant) :
    TxStep Unit := fun s t =>
  match participation s t id with
  | none => (.error (.cause .storeStale), s, t)
  | some p =>
    (.ok (), s, { t with participations := upsertBy (·.id) t.participations (p.withStatus status stamp) })

/-- Inserts a voucher under the next id, unless its code is taken. -/
def createVoucher (v : Voucher) : TxStep Int := fun s t =>
  if s.voucherCodes.contains v.code ∨ s.reservedCodes.contains v.code then
    (.error (.cause .storeConflict), s, t)
  else
    let id := s.nextVoucherId + 1
    let v' := { v with id := id }
    (.ok id, { s with reservedCodes := s.reservedCodes ++ [v.code], nextVoucherId := id },
      { t with vouchers := upsertBy (·.id) t.vouchers v', newCodes := t.newCodes ++ [(v.code, id)] })

/-- The id of the voucher with a code: one the transaction inserted, else a committed one. -/
def findVoucher (code : String) : TxStep Int := fun s t =>
  let id? := match t.newCodes.find? (·.1 == code) with
    | some (_, id) => some id
    | none => (s.vouchers.find? (·.code == code)).map (·.id)
  match id? with
  | none => (.error (.cause .storeNotFound), s, t)
  | some id => (.ok id, s, t)

/-- Reads a voucher as the transaction sees it, with its owner. -/
def readVoucher (id : Int) : TxStep Voucher := fun s t =>
  match voucher s t id with
  | some v => (.ok (s.joinVoucher t.participations v), s, t)
  | none => (.error (.cause .storeNotFound), s, t)

/-- Finds a voucher by code, locks it and reads it with its owner. -/
def lockVoucher (ctx : Ctx) (code : String) : TxStep Voucher := fun s t =>
  match findVoucher code s t with
  | (.error e, s, t) => (.error e, s, t)
  | (.ok id, s, t) =>
    match lock ctx (.voucher code) s t with
    | (.error e, s, t) => (.error e, s, t)
    | (.ok (), s, t) => readVoucher id s t

/-- Stages a voucher's use; a voucher that is no longer active is refused. -/
def markVoucherUsed (id : Int) (u : Usage) : TxStep Unit := fun s t =>
  match voucher s t id with
  | some v =>
    if v.status == .active then
      (.ok (), s, { t with vouchers := upsertBy (·.id) t.vouchers (v.markUsed u) })
    else (.error (.cause .storeStale), s, t)
  | none => (.error (.cause .storeStale), s, t)

/-- Stages a voucher's expiry; a voucher that is no longer active is refused. -/
def markVoucherExpired (id : Int) : TxStep Unit := fun s t =>
  match voucher s t id with
  | some v =>
    if v.status == .active then
      (.ok (), s, { t with vouchers := upsertBy (·.id) t.vouchers { v with status := .expired } })
    else (.error (.cause .storeStale), s, t)
  | none => (.error (.cause .storeStale), s, t)

/-- Applies the staged rows over the committed ones, turns reservations into committed keys and
releases the locks. -/
def commit (s : Store) (t : Tx) : Store :=
  let s1 := { s with
    campaigns := t.campaigns.foldl (upsertBy (·.id)) s.campaigns
    participations := t.participations.foldl (upsertBy (·.id)) s.participations
    vouchers := t.vouchers.foldl (upsertBy (·.id)) s.vouchers
    reservedKeys := s.reservedKeys.filter (fun k => !(t.newKeys.any (·.1 == k)))
    reservedCodes := s.reservedCodes.filter (fun c => !(t.newCodes.any (·.1 == c))) }
  s1.releaseOwner t.owner

/-- Drops the staged rows and reservations and releases the locks. -/
def rollback (s : Store) (t : Tx) : Store :=
  let s1 := { s with
    reservedKeys := s.reservedKeys.filter (fun k => !(t.newKeys.any (·.1 == k)))
    reservedCodes := s.reservedCodes.filter (fun c => !(t.newCodes.any (·.1 == c))) }
  s1.releaseOwner t.owner

end Tx

/-- The store together with the transaction a service is running in, if any. -/
structure Backend where
  store : Store
  current : Option Tx := none
  deriving Repr

namespace Backend

def begin (b : Backend) : Backend :=
  let (t, s) := b.store.begin
  ⟨s, some t⟩

def step {α : Type} (b : Backend) (f : TxStep α) : Except Failure α × Backend :=
  match b.current with
  | none => (.error (.plain "sql: transaction has already been committed or rolled back"), b)
  | some t =>
    let (r, s, t) := f b.store t
    (r, ⟨s, some t⟩)

/-- Ends the open transaction: it commits when the body succeeded and the context is live, and
rolls back otherwise. The result is the body's, or the context's failure at commit. -/
def finish {α : Type} (b : Backend) (ctx : Ctx) (r : Except Failure α) :
    Except Failure α × Backend :=
  match b.current with
  | none => (r, b)
  | some t =>
    match r with
    | .error e => (.error e, ⟨t.rollback b.store, none⟩)
    | .ok a =>
      match ctx.failure? with
      | some f => (.error (.within "failed to commit transaction" f), ⟨t.rollback b.store, none⟩)
      | none => (.ok a, ⟨t.commit b.store, none⟩)

end Backend

end Memory
end TopUpPromo
