import TopUpPromo.Proofs.Memory.Listings
import TopUpPromo.Proofs.Memory.Transactions
import TopUpPromo.Proofs.Isolated.Redemption
import TopUpPromo.Proofs.Standing.Threads

/-!
# What every run keeps of the participations' rows

Two facts hold of the store in every run, whatever requests run and however their calls
interleave, and neither needs to know what the requests are:

- the tables stay as the store keeps them (`Store.Keyed`): campaigns of distinct ids, and
  participations and vouchers in increasing order of id, since only a creation of a campaign and
  a commit write rows, each through `upsertBy`;
- no write changes a participant's order (`OrdersAgree`): every row of a participation,
  committed or staged in an open transaction, has the same order, since a transaction stages a
  participation only as an insert under a fresh id or as a new status of a row it sees.

Each is said once of a call (`Store.Keyed.perform`, `OrdersAgree.perform`), then of a step of a
world and of every run.
-/

namespace TopUpPromo

@[simp] theorem Participation.id_withStatus (p : Participation) (status : ParticipationStatus)
    (t : Instant) : (p.withStatus status t).id = p.id := by
  cases status <;> rfl

@[simp] theorem Participation.order_withStatus (p : Participation) (status : ParticipationStatus)
    (t : Instant) : (p.withStatus status t).order = p.order := by
  cases status <;> rfl

namespace Memory

open Concurrent
open scoped List

/-! ## Steps of a transaction, as they touch participations -/

namespace Tx

variable {s : Store} {t : Tx}

theorem lock_store (ctx : Ctx) (key : LockKey) (s : Store) (t : Tx) :
    (lock ctx key s t).2.1.participations = s.participations ∧
      (lock ctx key s t).2.1.nextParticipationId = s.nextParticipationId := by
  unfold lock
  repeat' (first | exact ⟨rfl, rfl⟩ | split | dsimp only)

theorem participation_mem {id : Int} {p : Participation} (h : participation s t id = some p) :
    p ∈ t.participations ∨ p ∈ s.participations := by
  rw [participation_eq] at h
  rcases (overlay_eq_some Participation.id h).2 with hp | ⟨hp, -⟩
  · exact .inl hp
  · exact .inr hp

end Tx

/-- What one call inside a transaction does to the participations' rows, from store `s` and
transaction `t`: the committed rows stay, and the transaction keeps the rows it stages, inserts
one under the next id, or stages a new status of a row it sees. -/
inductive Restage (s : Store) (t : Tx) : Store → Tx → Prop
  | keep {s' : Store} {t' : Tx} (rows : s'.participations = s.participations)
      (next : s'.nextParticipationId = s.nextParticipationId)
      (staged : t'.participations = t.participations) : Restage s t s' t'
  | insert {s' : Store} {t' : Tx} (p : Participation) (rows : s'.participations = s.participations)
      (next : s'.nextParticipationId = s.nextParticipationId + 1)
      (staged : t'.participations =
        upsertBy (·.id) t.participations { p with id := s.nextParticipationId + 1 }) :
      Restage s t s' t'
  | status {s' : Store} {t' : Tx} {id : Int} {p : Participation} (status : ParticipationStatus)
      (stamp : Instant) (row : Tx.participation s t id = some p)
      (rows : s'.participations = s.participations)
      (next : s'.nextParticipationId = s.nextParticipationId)
      (staged : t'.participations = upsertBy (·.id) t.participations (p.withStatus status stamp)) :
      Restage s t s' t'

theorem Restage.same {s : Store} {t : Tx} : Restage s t s t :=
  .keep rfl rfl rfl

end Memory

namespace Concurrent

open Memory

theorem restage_step {α : Type} {s : Store} {t : Tx} (f : TxStep α)
    (h : Restage s t (f s t).2.1 (f s t).2.2) :
    ∃ t', (Backend.step ⟨s, some t⟩ f).2.current = some t' ∧
      Restage s t (Backend.step ⟨s, some t⟩ f).2.store t' :=
  ⟨_, rfl, h⟩

theorem Call.restage (o : Oracle) {c : Call} (hc : c.inner = true) (s : Store) (t : Tx) :
    ∃ t', (c.perform o ⟨s, some t⟩).2.current = some t' ∧
      Restage s t (c.perform o ⟨s, some t⟩).2.store t' := by
  cases c with
  | createCampaign | begin | finish => simp [Call.inner] at hc
  | getCampaign | findLatestActiveCampaign | listActiveCampaigns | hasParticipation
    | listParticipationsByUser | getVoucherByCode | listVouchersByUser | nextCode
    | confirmPayment | nextSuffix => exact ⟨t, rfl, .same⟩
  | lock ctx key =>
    obtain ⟨hrows, hnext⟩ := Tx.lock_store ctx key s t
    refine restage_step _ (.keep hrows hnext ?_)
    rcases Tx.lock_tx_cases ctx key s t with h | h <;> rw [h]
  | readCampaign id =>
    refine restage_step _ ?_
    rw [Tx.readCampaign_eq]
    exact .same
  | updateCampaignParticipants id current status =>
    refine restage_step _ ?_
    unfold Tx.updateCampaignParticipants
    cases Tx.campaign s t id with
    | none => exact .same
    | some c =>
      dsimp only
      split
      · exact .same
      · exact .keep rfl rfl rfl
  | createParticipation p =>
    refine restage_step _ ?_
    by_cases htaken : (p.userId, p.campaignId) ∈ s.participationKeys ∨
        (p.userId, p.campaignId) ∈ s.reservedKeys
    · rw [Tx.createParticipation_of_taken htaken]
      exact .same
    · rw [Tx.createParticipation_of_free htaken]
      exact .insert p rfl rfl rfl
  | updateParticipationStatus id status stamp =>
    refine restage_step _ ?_
    rcases @Tx.updateParticipationStatus_cases s t id status stamp with
      ⟨p, hrow, h⟩ | ⟨e, h⟩ <;> rw [h]
    · exact .status status stamp hrow rfl rfl rfl
    · exact .same
  | createVoucher v =>
    refine restage_step _ ?_
    by_cases htaken : v.code ∈ s.voucherCodes ∨ v.code ∈ s.reservedCodes
    · rw [Tx.createVoucher_of_taken htaken]
      exact .same
    · rw [Tx.createVoucher_of_free htaken]
      exact .keep rfl rfl rfl
  | findVoucher code =>
    refine restage_step _ ?_
    unfold Tx.findVoucher
    dsimp only
    split <;> exact .same
  | readVoucher id =>
    refine restage_step _ ?_
    unfold Tx.readVoucher
    split <;> exact .same
  | markVoucherUsed id u =>
    refine restage_step _ ?_
    rcases @Tx.markVoucherUsed_cases s t id u with
      ⟨v, -, -, h⟩ | ⟨e, h⟩ <;> rw [h]
    · exact .keep rfl rfl rfl
    · exact .same
  | markVoucherExpired id =>
    refine restage_step _ ?_
    rcases @Tx.markVoucherExpired_cases s t id with
      ⟨v, -, -, h⟩ | ⟨e, h⟩ <;> rw [h]
    · exact .keep rfl rfl rfl
    · exact .same

theorem Call.perform_none_of_inner (o : Oracle) {c : Call} (hc : c.inner = true) (s : Store) :
    (c.perform o ⟨s, none⟩).2 = ⟨s, none⟩ := by
  have hchange := Call.perform_change o ⟨s, none⟩ hc
  generalize (c.perform o ⟨s, none⟩).2 = b at hchange ⊢
  obtain ⟨s', current⟩ := b
  cases hchange
  rfl

theorem Thread.step_eq_perform (o : Oracle) (s : Store) (th : Thread) :
    th.step o s = (s, th) ∨ ∃ c : Call, (th.step o s).1 = (c.perform o ⟨s, th.tx⟩).2.store ∧
      (th.step o s).2.tx = (c.perform o ⟨s, th.tx⟩).2.current := by
  unfold Thread.step
  cases th.program with
  | done r => exact .inl rfl
  | call c next => exact .inr ⟨c, rfl, rfl⟩

end Concurrent

namespace Memory

open Concurrent
open scoped List

/-! ## Orders -/

def participationRows (s : Store) (txs : List Tx) : List Participation :=
  s.participations ++ txs.flatMap (·.participations)

@[simp] theorem mem_participationRows {s : Store} {txs : List Tx} {p : Participation} :
    p ∈ participationRows s txs ↔ p ∈ s.participations ∨ ∃ t ∈ txs, p ∈ t.participations := by
  simp [participationRows]

/-- Rows of one participation, committed or staged, have one order, and no row's id is above the
counter. -/
structure OrdersAgree (s : Store) (txs : List Tx) : Prop where
  orders : ∀ p ∈ participationRows s txs, ∀ q ∈ participationRows s txs, p.id = q.id →
    p.order = q.order
  ids : ∀ p ∈ participationRows s txs, p.id ≤ s.nextParticipationId

namespace OrdersAgree

variable {s s' : Store} {txs txs' : List Tx}

theorem of_subset (h : OrdersAgree s txs)
    (hnext : s.nextParticipationId ≤ s'.nextParticipationId)
    (hsub : ∀ p ∈ participationRows s' txs', p ∈ participationRows s txs) :
    OrdersAgree s' txs' :=
  ⟨fun p hp q hq hid => h.orders p (hsub p hp) q (hsub q hq) hid,
    fun p hp => (h.ids p (hsub p hp)).trans hnext⟩

theorem of_subset_insert (h : OrdersAgree s txs)
    (hnext : s.nextParticipationId ≤ s'.nextParticipationId) (row : Participation)
    (hrow : ∀ q ∈ participationRows s txs, q.id = row.id → q.order = row.order)
    (hrowid : row.id ≤ s'.nextParticipationId)
    (hsub : ∀ p ∈ participationRows s' txs', p ∈ participationRows s txs ∨ p = row) :
    OrdersAgree s' txs' := by
  refine ⟨fun p hp q hq hid => ?_, fun p hp => ?_⟩
  · rcases hsub p hp with hp | rfl <;> rcases hsub q hq with hq | rfl
    · exact h.orders p hp q hq hid
    · exact hrow p hp hid
    · exact (hrow q hq hid.symm).symm
    · rfl
  · rcases hsub p hp with hp | rfl
    · exact (h.ids p hp).trans hnext
    · exact hrowid

theorem perm (h : OrdersAgree s txs) (hp : txs ~ txs') : OrdersAgree s txs' := by
  refine h.of_subset le_rfl fun p hmem => ?_
  rw [mem_participationRows] at hmem ⊢
  rcases hmem with hmem | ⟨t, ht, hmem⟩
  · exact .inl hmem
  · exact .inr ⟨t, hp.mem_iff.2 ht, hmem⟩

theorem mem_of_staged {t t' : Tx} {row q : Participation}
    (hrows : s'.participations = s.participations)
    (hstaged : t'.participations = upsertBy (·.id) t.participations row)
    (hq : q ∈ participationRows s' (t' :: txs)) :
    q ∈ participationRows s (t :: txs) ∨ q = row := by
  simp only [mem_participationRows, List.mem_cons, exists_eq_or_imp, hrows, hstaged] at hq ⊢
  rcases hq with hq | hq | hq
  · exact .inl (.inl hq)
  · rcases (mem_upsertBy _).1 hq with rfl | ⟨hq, -⟩
    · exact .inr rfl
    · exact .inl (.inr (.inl hq))
  · exact .inl (.inr (.inr hq))

theorem restage {t t' : Tx} (h : OrdersAgree s (t :: txs)) (hr : Restage s t s' t') :
    OrdersAgree s' (t' :: txs) := by
  cases hr with
  | keep hrows hnext hstaged =>
    refine h.of_subset hnext.ge fun p hp => ?_
    simpa [hrows, hstaged] using hp
  | insert p hrows hnext hstaged =>
    -- the new id is above every id there is
    refine h.of_subset_insert (by omega) { p with id := s.nextParticipationId + 1 }
      (fun q hq hid => ?_) (by rw [hnext]) fun q hq => mem_of_staged hrows hstaged hq
    have hle := h.ids q hq
    simp only at hid
    omega
  | @status id p status stamp hrow hrows hnext hstaged =>
    -- the new status keeps the order of the row it is staged over
    have hp : p ∈ participationRows s (t :: txs) := by
      rcases Tx.participation_mem hrow with hp | hp
      · exact mem_participationRows.2 (.inr ⟨t, List.mem_cons_self, hp⟩)
      · exact mem_participationRows.2 (.inl hp)
    refine h.of_subset_insert hnext.ge (p.withStatus status stamp)
      (fun q hq hid => ?_) ?_ fun q hq => mem_of_staged hrows hstaged hq
    · rw [Participation.order_withStatus]
      exact h.orders q hq _ hp (by rwa [Participation.id_withStatus] at hid)
    · have hle := h.ids _ hp
      rw [hnext]
      rwa [Participation.id_withStatus]

/-- Every call, by a thread with or without an open transaction, keeps the orders agreeing. -/
theorem perform (h : OrdersAgree s (tx.toList ++ txs)) (o : Oracle) (c : Call) :
    OrdersAgree (c.perform o ⟨s, tx⟩).2.store ((c.perform o ⟨s, tx⟩).2.current.toList ++ txs) := by
  by_cases hc : c.inner = true
  · cases tx with
    | none =>
      rw [Call.perform_none_of_inner o hc]
      exact h
    | some t =>
      obtain ⟨t', ht', hr⟩ := Call.restage o hc s t
      rw [ht']
      exact h.restage hr
  cases c with
  | createCampaign campaign =>
    refine h.of_subset le_rfl fun p hp => ?_
    simpa [Call.perform, Store.createCampaign] using hp
  | begin =>
    -- a transaction just opened stages nothing
    refine h.of_subset le_rfl fun p hp => ?_
    simp only [mem_participationRows, Call.perform, Backend.begin, Store.begin] at hp
    rcases hp with hp | ⟨u, hu, hp⟩
    · exact mem_participationRows.2 (.inl hp)
    · rcases List.mem_append.1 hu with hu | hu
      · simp at hu
        subst hu
        cases hp
      · exact mem_participationRows.2 (.inr ⟨u, List.mem_append_right _ hu, hp⟩)
  | finish ctx outcome =>
    cases tx with
    | none => exact h
    | some t =>
      have hcall : Call.perform o ⟨s, some t⟩ (.finish ctx outcome) =
          Backend.finish ⟨s, some t⟩ ctx outcome := rfl
      rw [hcall]
      rcases Backend.finish_cases s t ctx outcome with ⟨-, hfin⟩ | ⟨-, hfin⟩ <;> rw [hfin]
      · -- a commit writes the staged rows over the committed ones
        refine h.of_subset le_rfl fun p hp => ?_
        simp only [mem_participationRows, Tx.commit_participations, Option.toList_none,
          List.nil_append] at hp
        rcases hp with hp | ⟨u, hu, hp⟩
        · rcases mem_foldl_upsertBy _ hp with hp | hp
          · exact mem_participationRows.2 (.inl hp)
          · exact mem_participationRows.2 (.inr ⟨t, by simp, hp⟩)
        · exact mem_participationRows.2 (.inr ⟨u, by simp [hu], hp⟩)
      · refine h.of_subset le_rfl fun p hp => ?_
        simp only [mem_participationRows, Tx.rollback_participations, Option.toList_none,
          List.nil_append] at hp
        rcases hp with hp | ⟨u, hu, hp⟩
        · exact mem_participationRows.2 (.inl hp)
        · exact mem_participationRows.2 (.inr ⟨u, by simp [hu], hp⟩)
  | _ => simp [Call.inner] at hc

theorem step {w : World} (h : OrdersAgree w.store (txsOf w.threads)) (e : Event) :
    OrdersAgree (w.step e).store (txsOf (w.step e).threads) := by
  rcases World.step_cases w e with hsame | ⟨th, others, hold, hnew, hstore⟩
  · rw [hsame]
    exact h
  have hmover : OrdersAgree w.store (th.tx.toList ++ txsOf others) := by
    rw [← txsOf_cons]
    exact h.perm (txsOf_perm hold)
  rw [hstore]
  refine OrdersAgree.perm ?_ (txsOf_perm hnew).symm
  rw [txsOf_cons]
  rcases Thread.step_eq_perform e.oracle w.store th with hsame | ⟨c, hs, htx⟩
  · rw [hsame]
    exact hmover
  · rw [hs, htx]
    exact hmover.perform e.oracle c

theorem reachable {s0 : Store} (h0 : OrdersAgree s0 []) {requests : List Request} {w : World}
    (hw : (World.start s0 requests).Reachable w) : OrdersAgree w.store (txsOf w.threads) := by
  induction hw with
  | start =>
    have hnone : txsOf ((World.start s0 requests).threads) = [] := by
      simp [txsOf, World.start, Thread.start]
    rw [hnone]
    exact h0
  | step e _ ih => exact ih.step e

theorem empty (lockTimeoutMs : Nat) : OrdersAgree { lockTimeoutMs := lockTimeoutMs } [] :=
  ⟨fun p hp => by simp at hp, fun p hp => by simp at hp⟩

end OrdersAgree

/-! ## Tables kept by id -/

section Rows

variable {α : Type} (idOf : α → Int)

theorem nodup_map_foldl_upsertBy {rows : List α} (hnd : (rows.map idOf).Nodup) (new : List α) :
    ((new.foldl (upsertBy idOf) rows).map idOf).Nodup := by
  induction new generalizing rows with
  | nil => exact hnd
  | cons r rest ih => exact ih (nodup_map_upsertBy idOf hnd r)

end Rows

namespace Store.Keyed

variable {s s' : Store}

theorem of_sameRows (h : s.Keyed) (hs : s.SameRows s') : s'.Keyed := by
  refine ⟨?_, ?_, ?_⟩
  · rw [hs.campaigns]
    exact h.campaigns
  · rw [hs.participations]
    exact h.participations
  · rw [hs.vouchers]
    exact h.vouchers

theorem commit (h : s.Keyed) (t : Tx) : (t.commit s).Keyed := by
  refine ⟨?_, ?_, ?_⟩
  · rw [Tx.commit_campaigns]
    exact nodup_map_foldl_upsertBy _ h.campaigns _
  · rw [Tx.commit_participations]
    exact sortedLT_map_foldl_upsertBy _ h.participations _
  · rw [Tx.commit_vouchers]
    exact sortedLT_map_foldl_upsertBy _ h.vouchers _

/-- Every call keeps the tables keyed: only a creation of a campaign and a commit write rows. -/
theorem perform (h : s.Keyed) (o : Oracle) (c : Call) (tx : Option Tx) :
    (c.perform o ⟨s, tx⟩).2.store.Keyed := by
  by_cases hc : c.inner = true
  · exact h.of_sameRows (Call.sameRows_of_inner o ⟨s, tx⟩ hc)
  cases c with
  | createCampaign campaign =>
    exact ⟨nodup_map_upsertBy _ h.campaigns _, h.participations, h.vouchers⟩
  | begin => exact h.of_sameRows ⟨rfl, rfl, rfl⟩
  | finish ctx outcome =>
    cases tx with
    | none => exact h
    | some t =>
      have hcall : Call.perform o ⟨s, some t⟩ (.finish ctx outcome) =
          Backend.finish ⟨s, some t⟩ ctx outcome := rfl
      rw [hcall]
      rcases Backend.finish_cases s t ctx outcome with ⟨-, hfin⟩ | ⟨-, hfin⟩ <;> rw [hfin]
      · exact h.commit t
      · exact h.of_sameRows ⟨rfl, rfl, rfl⟩
  | _ => simp [Call.inner] at hc

theorem step {w : World} (h : w.store.Keyed) (e : Event) : (w.step e).store.Keyed := by
  rcases World.step_cases w e with hsame | ⟨th, others, -, -, hstore⟩
  · rw [hsame]
    exact h
  rw [hstore]
  rcases Thread.step_eq_perform e.oracle w.store th with hsame | ⟨c, hs, -⟩
  · rw [hsame]
    exact h
  · rw [hs]
    exact h.perform e.oracle c th.tx

theorem reachable {s0 : Store} (h0 : s0.Keyed) {requests : List Request} {w : World}
    (hw : (World.start s0 requests).Reachable w) : w.store.Keyed := by
  induction hw with
  | start => exact h0
  | step e _ ih => exact ih.step e

theorem empty (lockTimeoutMs : Nat) : Store.Keyed { lockTimeoutMs := lockTimeoutMs } :=
  ⟨List.nodup_nil, List.Pairwise.nil.sortedLT, List.Pairwise.nil.sortedLT⟩

end Store.Keyed

end Memory

end TopUpPromo
