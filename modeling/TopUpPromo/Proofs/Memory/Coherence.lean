import Mathlib.Data.List.Nodup
import TopUpPromo.Proofs.Memory.Rows

/-!
# The store and its open transactions

While requests run, the in-memory store is shared by the transactions they have open. The store
agrees with them (`Coherent`) when every row lock is held by exactly one of them, their owner
numbers are distinct and below the next one, the reserved participation keys and voucher codes
are exactly those their inserts reserved, no key or code is both committed and reserved or
reserved twice, and the ids drawn for their inserts are new.

`Effect` lists what one call can do to the store and to the caller's own transaction: nothing
(a read, an answer from outside, a refused write), a write staged in the transaction, opening
it, taking a free lock, inserting a participation or a voucher, and ending it by a commit or a
rollback. `Coherent.effect` says that every effect keeps the agreement, whatever the other
transactions hold; the frame lemmas say what an effect leaves alone for the others.
-/

namespace TopUpPromo
namespace Memory

open scoped List

/-- Every row lock belongs to one open transaction, which holds it; the transactions' owner
numbers are distinct and below the next one. -/
structure LocksAgree (s : Store) (txs : List Tx) : Prop where
  lock_keys : (s.locks.map (·.1)).Nodup
  lock_holder : ∀ e ∈ s.locks,
    e.2.releaseAfterMs = none ∧ ∃ t ∈ txs, t.owner = e.2.owner ∧ e.1 ∈ t.held
  held_locked : ∀ t ∈ txs, ∀ k ∈ t.held, (k, ⟨t.owner, none⟩) ∈ s.locks
  owners : (txs.map (·.owner)).Nodup
  owner_lt : ∀ t ∈ txs, t.owner < s.nextOwner

/-- A table whose rows are named by keys: its committed keys and ids, its reserved keys, its id
counter, and the `(key, id)` pairs each open transaction inserted. The reserved keys are those
inserted, no key is committed and reserved or reserved twice, and the ids are distinct and not
above the counter. -/
structure Registry {κ : Type} (committed reserved : List κ) (ids : List Int) (next : Int)
    (inserts : List (List (κ × Int))) : Prop where
  reserved_eq : reserved ~ inserts.flatMap (List.map (·.1))
  keys : (committed ++ reserved).Nodup
  ids_nodup : (ids ++ inserts.flatMap (List.map (·.2))).Nodup
  id_le : ∀ id ∈ ids ++ inserts.flatMap (List.map (·.2)), id ≤ next

/-- The participations and the vouchers of the store, as registries of the open transactions'
inserts. -/
structure Reserved (s : Store) (txs : List Tx) : Prop where
  participations : Registry s.participationKeys s.reservedKeys (s.participations.map (·.id))
    s.nextParticipationId (txs.map (·.newKeys))
  vouchers : Registry s.voucherCodes s.reservedCodes (s.vouchers.map (·.id))
    s.nextVoucherId (txs.map (·.newCodes))

/-- The store agrees with its open transactions `txs`. -/
structure Coherent (s : Store) (txs : List Tx) : Prop where
  locks : LocksAgree s txs
  reserved : Reserved s txs

/-- What one call does to the store and to the caller's own transaction. -/
inductive Effect : Store → Option Tx → Store → Option Tx → Prop
  /-- A read, an answer from outside or a refused write. -/
  | read {s : Store} {t : Option Tx} : Effect s t s t
  /-- A write staged in the transaction, which reserves and locks nothing. -/
  | stage {s : Store} {t t' : Tx} (owner : t'.owner = t.owner) (held : t'.held = t.held)
      (keys : t'.newKeys = t.newKeys) (codes : t'.newCodes = t.newCodes) :
      Effect s (some t) s (some t')
  | begin {s : Store} : Effect s none s.begin.2 (some s.begin.1)
  | lock {s : Store} {t : Tx} {k : LockKey} (mine : k ∉ t.held) (free : s.holderOf k = none) :
      Effect s (some t) { s with locks := s.locks ++ [(k, ⟨t.owner, none⟩)] }
        (some { t with held := t.held ++ [k] })
  /-- An insert of a row under a free key, staged in the transaction, under the next id. -/
  | insertParticipation {s : Store} {t : Tx} {key : Int × Int} {p : Participation}
      (committed : key ∉ s.participationKeys) (reserved : key ∉ s.reservedKeys) :
      Effect s (some t)
        { s with reservedKeys := s.reservedKeys ++ [key],
                 nextParticipationId := s.nextParticipationId + 1 }
        (some { t with participations := upsertBy (·.id) t.participations p,
                       newKeys := t.newKeys ++ [(key, s.nextParticipationId + 1)] })
  | insertVoucher {s : Store} {t : Tx} {code : String} {v : Voucher}
      (committed : code ∉ s.voucherCodes) (reserved : code ∉ s.reservedCodes) :
      Effect s (some t)
        { s with reservedCodes := s.reservedCodes ++ [code], nextVoucherId := s.nextVoucherId + 1 }
        (some { t with vouchers := upsertBy (·.id) t.vouchers v,
                       newCodes := t.newCodes ++ [(code, s.nextVoucherId + 1)] })
  /-- A commit of a transaction whose staged participations and vouchers are those it
  inserted, and whose staged campaigns it has locked. -/
  | commit {s : Store} {t : Tx}
      (campaigns : ∀ c ∈ t.campaigns, LockKey.campaign c.id ∈ t.held)
      (participations : t.participations.map (fun p => ((p.userId, p.campaignId), p.id)) =
        t.newKeys)
      (vouchers : t.vouchers.map (fun v => (v.code, v.id)) = t.newCodes) :
      Effect s (some t) (t.commit s) none
  | rollback {s : Store} {t : Tx} : Effect s (some t) (t.rollback s) none

/-! ## Calls of a transaction -/

namespace Tx

theorem createParticipation_of_free {s : Store} {t : Tx} {p : Participation}
    (free : ¬((p.userId, p.campaignId) ∈ s.participationKeys ∨
      (p.userId, p.campaignId) ∈ s.reservedKeys)) :
    createParticipation p s t =
      (.ok (s.nextParticipationId + 1),
        { s with reservedKeys := s.reservedKeys ++ [(p.userId, p.campaignId)],
                 nextParticipationId := s.nextParticipationId + 1 },
        { t with participations := upsertBy (·.id) t.participations
                   { p with id := s.nextParticipationId + 1 },
                 newKeys := t.newKeys ++ [((p.userId, p.campaignId), s.nextParticipationId + 1)] }) := by
  simp only [createParticipation, List.contains_iff_mem]
  rw [if_neg free]

theorem createParticipation_of_taken {s : Store} {t : Tx} {p : Participation}
    (taken : (p.userId, p.campaignId) ∈ s.participationKeys ∨
      (p.userId, p.campaignId) ∈ s.reservedKeys) :
    createParticipation p s t = (.error (.cause .storeConflict), s, t) := by
  simp only [createParticipation, List.contains_iff_mem]
  rw [if_pos taken]

theorem createVoucher_of_free {s : Store} {t : Tx} {v : Voucher}
    (free : ¬(v.code ∈ s.voucherCodes ∨ v.code ∈ s.reservedCodes)) :
    createVoucher v s t =
      (.ok (s.nextVoucherId + 1),
        { s with reservedCodes := s.reservedCodes ++ [v.code],
                 nextVoucherId := s.nextVoucherId + 1 },
        { t with vouchers := upsertBy (·.id) t.vouchers { v with id := s.nextVoucherId + 1 },
                 newCodes := t.newCodes ++ [(v.code, s.nextVoucherId + 1)] }) := by
  simp only [createVoucher, List.contains_iff_mem]
  rw [if_neg free]

theorem createVoucher_of_taken {s : Store} {t : Tx} {v : Voucher}
    (taken : v.code ∈ s.voucherCodes ∨ v.code ∈ s.reservedCodes) :
    createVoucher v s t = (.error (.cause .storeConflict), s, t) := by
  simp only [createVoucher, List.contains_iff_mem]
  rw [if_pos taken]

theorem lock_of_free {s : Store} {t : Tx} {ctx : Ctx} {k : LockKey} (mine : k ∉ t.held)
    (free : s.holderOf k = none) :
    lock ctx k s t =
      (.ok (), { s with locks := s.locks ++ [(k, ⟨t.owner, none⟩)] },
        { t with held := t.held ++ [k] }) := by
  have hcontains : t.held.contains k = false := by simpa using mine
  simp only [lock, hcontains, Bool.false_eq_true, if_false, free]

theorem waitEnd_ne_handedOver (timeout deadline : Option Nat) :
    waitEnd none timeout deadline ≠ .handedOver := by
  cases timeout <;> cases deadline <;> simp [waitEnd]
  -- with both a timeout and a deadline, whichever comes first ends the wait
  split <;> simp

theorem lock_of_held {s : Store} {t : Tx} {ctx : Ctx} {k : LockKey} {h : Holder}
    (mine : k ∉ t.held) (held : s.holderOf k = some h) (kept : h.releaseAfterMs = none) :
    ∃ e, lock ctx k s t = (.error e, s, t) := by
  have hcontains : t.held.contains k = false := by simpa using mine
  simp only [lock, hcontains, Bool.false_eq_true, if_false, held]
  cases ctx.failure? with
  | some f => exact ⟨f, rfl⟩
  | none =>
    simp only [kept]
    -- a holder that never lets go is never waited out
    cases hend : waitEnd none (if s.lockTimeoutMs = 0 then none else some s.lockTimeoutMs)
        ctx.remainingMs? with
    | handedOver => exact absurd hend (waitEnd_ne_handedOver _ _)
    | deadline => exact ⟨_, rfl⟩
    | timedOut => exact ⟨_, rfl⟩

theorem campaign_of_unstaged {s : Store} {t : Tx} {id : Int} (h : t.campaigns = []) :
    campaign s t id = findBy (·.id) s.campaigns id := by
  simp [campaign, findBy, h]

theorem readCampaign_eq {s : Store} {t : Tx} {id : Int} :
    readCampaign id s t =
      ((match campaign s t id with
        | some c => .ok c
        | none => .error (.cause .storeNotFound)), s, t) := by
  unfold readCampaign
  cases campaign s t id <;> rfl

theorem updateCampaignParticipants_of_row {s : Store} {t : Tx} {id : Int} {c : Campaign}
    {current : Int32} {status : CampaignStatus} (row : campaign s t id = some c)
    (within : ¬current > c.maxParticipants) :
    updateCampaignParticipants id current status s t =
      (.ok (), s,
        { t with
          campaigns :=
            upsertBy (·.id) t.campaigns { c with currentParticipants := current, status } }) := by
  simp only [updateCampaignParticipants, row, within, if_false]

theorem updateParticipationStatus_of_row {s : Store} {t : Tx} {id : Int} {p : Participation}
    {status : ParticipationStatus} {stamp : Instant} (row : participation s t id = some p) :
    updateParticipationStatus id status stamp s t =
      (.ok (), s,
        { t with
          participations := upsertBy (·.id) t.participations (p.withStatus status stamp) }) := by
  simp only [updateParticipationStatus, row]

variable {s : Store} {t : Tx}

@[simp] theorem commit_campaigns :
    (commit s t).campaigns = t.campaigns.foldl (upsertBy (·.id)) s.campaigns := rfl

@[simp] theorem commit_participations :
    (commit s t).participations = t.participations.foldl (upsertBy (·.id)) s.participations := rfl

@[simp] theorem commit_vouchers :
    (commit s t).vouchers = t.vouchers.foldl (upsertBy (·.id)) s.vouchers := rfl

@[simp] theorem commit_reservedKeys :
    (commit s t).reservedKeys = s.reservedKeys.filter (fun k => !(t.newKeys.any (·.1 == k))) :=
  rfl

@[simp] theorem commit_reservedCodes :
    (commit s t).reservedCodes = s.reservedCodes.filter (fun c => !(t.newCodes.any (·.1 == c))) :=
  rfl

@[simp] theorem commit_nextParticipationId :
    (commit s t).nextParticipationId = s.nextParticipationId := rfl

@[simp] theorem commit_nextVoucherId : (commit s t).nextVoucherId = s.nextVoucherId := rfl

@[simp] theorem rollback_campaigns : (rollback s t).campaigns = s.campaigns := rfl

@[simp] theorem rollback_participations : (rollback s t).participations = s.participations := rfl

@[simp] theorem rollback_vouchers : (rollback s t).vouchers = s.vouchers := rfl

@[simp] theorem rollback_reservedKeys :
    (rollback s t).reservedKeys = s.reservedKeys.filter (fun k => !(t.newKeys.any (·.1 == k))) :=
  rfl

@[simp] theorem rollback_reservedCodes :
    (rollback s t).reservedCodes = s.reservedCodes.filter (fun c => !(t.newCodes.any (·.1 == c))) :=
  rfl

@[simp] theorem rollback_nextParticipationId :
    (rollback s t).nextParticipationId = s.nextParticipationId := rfl

@[simp] theorem rollback_nextVoucherId : (rollback s t).nextVoucherId = s.nextVoucherId := rfl

end Tx

/-! ## Reserved items -/

theorem filter_not_reserved {β γ : Type} [BEq β] [LawfulBEq β] {l rest : List β}
    {new : List (β × γ)} (hl : l ~ new.map (·.1) ++ rest) (hnd : l.Nodup) :
    l.filter (fun k => !(new.any (·.1 == k))) ~ rest := by
  have hnd' : (new.map (·.1) ++ rest).Nodup := hl.nodup_iff.1 hnd
  have hmem : ∀ k, new.any (·.1 == k) = true ↔ k ∈ new.map (·.1) := by
    intro k
    simp [List.any_eq_true, List.mem_map]
  refine (hl.filter _).trans ?_
  rw [List.filter_append]
  have hnew : (new.map (·.1)).filter (fun k => !(new.any (·.1 == k))) = [] := by
    rw [List.filter_eq_nil_iff]
    intro k hk
    simp [(hmem k).2 hk]
  have hrest : rest.filter (fun k => !(new.any (·.1 == k))) = rest := by
    rw [List.filter_eq_self]
    intro k hk
    have hout : k ∉ new.map (·.1) := fun hin =>
      (List.nodup_append.1 hnd').2.2 k hin k hk rfl
    have hfalse : new.any (·.1 == k) = false := by
      rw [Bool.eq_false_iff]
      exact fun hany => hout ((hmem k).1 hany)
    simp [hfalse]
  rw [hnew, hrest, List.nil_append]

theorem perm_append_singleton_swap {β : Type} (a b : List β) (k : β) :
    a ++ b ++ [k] ~ a ++ [k] ++ b := by
  rw [List.append_assoc, List.append_assoc]
  exact List.Perm.append_left a List.perm_append_comm

/-! ## Locks -/

namespace LocksAgree

variable {s : Store} {txs : List Tx}

theorem perm {txs' : List Tx} (h : LocksAgree s txs) (hp : txs ~ txs') : LocksAgree s txs' where
  lock_keys := h.lock_keys
  lock_holder e he := by
    obtain ⟨hrel, t, ht, howner, hk⟩ := h.lock_holder e he
    exact ⟨hrel, t, hp.mem_iff.1 ht, howner, hk⟩
  held_locked t ht := h.held_locked t (hp.mem_iff.2 ht)
  owners := (hp.map _).nodup_iff.1 h.owners
  owner_lt t ht := h.owner_lt t (hp.mem_iff.2 ht)

theorem of_store {s' : Store} (h : LocksAgree s txs) (hlocks : s'.locks = s.locks)
    (hnext : s'.nextOwner = s.nextOwner) : LocksAgree s' txs where
  lock_keys := hlocks ▸ h.lock_keys
  lock_holder := hlocks ▸ h.lock_holder
  held_locked := hlocks ▸ h.held_locked
  owners := h.owners
  owner_lt := hnext ▸ h.owner_lt

theorem kept_of_holderOf {k : LockKey} {hd : Holder} (h : LocksAgree s txs)
    (hk : s.holderOf k = some hd) : hd.releaseAfterMs = none := by
  obtain ⟨e, he, rfl⟩ := Option.map_eq_some_iff.1 hk
  exact (h.lock_holder e (List.mem_of_find?_eq_some he)).1

theorem owner_eq_of_held {t u : Tx} {k : LockKey} (h : LocksAgree s txs) (ht : t ∈ txs)
    (hu : u ∈ txs) (hkt : k ∈ t.held) (hku : k ∈ u.held) : t.owner = u.owner := by
  have het := h.held_locked t ht k hkt
  have heu := h.held_locked u hu k hku
  have hsame : ((k, ⟨t.owner, none⟩) : LockKey × Holder) = (k, ⟨u.owner, none⟩) :=
    List.inj_on_of_nodup_map h.lock_keys het heu rfl
  simpa using hsame

theorem not_held_of_held {t u : Tx} {k : LockKey} (h : LocksAgree s (t :: txs)) (hu : u ∈ txs)
    (hkt : k ∈ t.held) : k ∉ u.held := by
  intro hku
  have howner := h.owner_eq_of_held List.mem_cons_self (List.mem_cons_of_mem t hu) hkt hku
  have hnd := h.owners
  rw [List.map_cons, List.nodup_cons] at hnd
  exact hnd.1 (howner ▸ List.mem_map_of_mem hu)

theorem replace {t t' : Tx} (h : LocksAgree s (t :: txs)) (howner : t'.owner = t.owner)
    (hheld : t'.held = t.held) : LocksAgree s (t' :: txs) where
  lock_keys := h.lock_keys
  lock_holder e he := by
    obtain ⟨hrel, u, hu, howner', hk⟩ := h.lock_holder e he
    refine ⟨hrel, ?_⟩
    rcases List.mem_cons.1 hu with rfl | hu
    · exact ⟨t', List.mem_cons_self, howner ▸ howner', hheld ▸ hk⟩
    · exact ⟨u, List.mem_cons_of_mem _ hu, howner', hk⟩
  held_locked u hu k hk := by
    rcases List.mem_cons.1 hu with rfl | hu
    · rw [howner]
      exact h.held_locked t List.mem_cons_self k (hheld ▸ hk)
    · exact h.held_locked u (List.mem_cons_of_mem _ hu) k hk
  owners := by simpa [howner] using h.owners
  owner_lt u hu := by
    rcases List.mem_cons.1 hu with rfl | hu
    · rw [howner]
      exact h.owner_lt t List.mem_cons_self
    · exact h.owner_lt u (List.mem_cons_of_mem _ hu)

theorem begin (h : LocksAgree s txs) : LocksAgree s.begin.2 (s.begin.1 :: txs) where
  lock_keys := h.lock_keys
  lock_holder e he := by
    obtain ⟨hrel, u, hu, howner, hk⟩ := h.lock_holder e he
    exact ⟨hrel, u, List.mem_cons_of_mem _ hu, howner, hk⟩
  held_locked u hu k hk := by
    rcases List.mem_cons.1 hu with rfl | hu
    · simp [Store.begin] at hk
    · exact h.held_locked u hu k hk
  owners := by
    have hfresh : ∀ u ∈ txs, ¬u.owner = s.nextOwner := by
      intro u hu
      have := h.owner_lt u hu
      omega
    simpa [Store.begin] using ⟨hfresh, h.owners⟩
  owner_lt u hu := by
    rcases List.mem_cons.1 hu with rfl | hu
    · simp [Store.begin]
    · have := h.owner_lt u hu
      simp only [Store.begin]
      omega

theorem holderOf_eq_none_iff {k : LockKey} : s.holderOf k = none ↔ k ∉ s.locks.map (·.1) := by
  simp only [Store.holderOf, Option.map_eq_none_iff, List.find?_eq_none, beq_iff_eq]
  constructor
  · intro hnone hin
    obtain ⟨e, he, rfl⟩ := List.mem_map.1 hin
    exact hnone e he rfl
  · intro hk e he heq
    exact hk (heq ▸ List.mem_map_of_mem he)

theorem lock {t : Tx} {k : LockKey} (h : LocksAgree s (t :: txs)) (hfree : s.holderOf k = none) :
    LocksAgree { s with locks := s.locks ++ [(k, ⟨t.owner, none⟩)] }
      ({ t with held := t.held ++ [k] } :: txs) where
  lock_keys := by
    have hk : k ∉ s.locks.map (·.1) := holderOf_eq_none_iff.1 hfree
    simp only [List.map_append, List.map_cons, List.map_nil]
    rw [List.nodup_append]
    refine ⟨h.lock_keys, List.nodup_singleton _, ?_⟩
    intro a ha b hb hab
    rw [List.mem_singleton] at hb
    subst hb
    exact hk (hab ▸ ha)
  lock_holder e he := by
    rcases List.mem_append.1 he with he | he
    · obtain ⟨hrel, u, hu, howner, hk⟩ := h.lock_holder e he
      refine ⟨hrel, ?_⟩
      rcases List.mem_cons.1 hu with rfl | hu
      · exact ⟨_, List.mem_cons_self, howner, List.mem_append_left _ hk⟩
      · exact ⟨u, List.mem_cons_of_mem _ hu, howner, hk⟩
    · rw [List.mem_singleton] at he
      subst he
      exact ⟨rfl, _, List.mem_cons_self, rfl, List.mem_append_right _ List.mem_cons_self⟩
  held_locked u hu k' hk' := by
    rcases List.mem_cons.1 hu with rfl | hu
    · rcases List.mem_append.1 hk' with hk' | hk'
      · exact List.mem_append_left _ (h.held_locked t List.mem_cons_self k' hk')
      · rw [List.mem_singleton] at hk'
        subst hk'
        exact List.mem_append_right _ List.mem_cons_self
    · exact List.mem_append_left _ (h.held_locked u (List.mem_cons_of_mem _ hu) k' hk')
  owners := by simpa using h.owners
  owner_lt u hu := by
    rcases List.mem_cons.1 hu with rfl | hu
    · exact h.owner_lt t List.mem_cons_self
    · exact h.owner_lt u (List.mem_cons_of_mem _ hu)

theorem release {t : Tx} (h : LocksAgree s (t :: txs)) {s₁ : Store} (hlocks : s₁.locks = s.locks)
    (hnext : s₁.nextOwner = s.nextOwner) : LocksAgree (s₁.releaseOwner t.owner) txs where
  lock_keys := by
    simp only [Store.releaseOwner, hlocks]
    exact h.lock_keys.sublist (List.filter_sublist.map _)
  lock_holder e he := by
    simp only [Store.releaseOwner, hlocks, List.mem_filter, bne_iff_ne, ne_eq] at he
    obtain ⟨hrel, u, hu, howner, hk⟩ := h.lock_holder e he.1
    refine ⟨hrel, u, ?_, howner, hk⟩
    rcases List.mem_cons.1 hu with rfl | hu
    · exact absurd howner.symm he.2
    · exact hu
  held_locked u hu k hk := by
    simp only [Store.releaseOwner, hlocks, List.mem_filter, bne_iff_ne, ne_eq]
    refine ⟨h.held_locked u (List.mem_cons_of_mem _ hu) k hk, ?_⟩
    intro howner
    have hnd := h.owners
    rw [List.map_cons, List.nodup_cons] at hnd
    exact hnd.1 (howner ▸ List.mem_map_of_mem hu)
  owners := (List.nodup_cons.1 (by simpa using h.owners)).2
  owner_lt u hu := by
    simp only [Store.releaseOwner, hnext]
    exact h.owner_lt u (List.mem_cons_of_mem _ hu)

end LocksAgree

/-! ## Registries -/

namespace Registry

variable {κ : Type} {committed reserved : List κ} {ids : List Int} {next : Int}
  {inserts : List (List (κ × Int))}

theorem perm {inserts' : List (List (κ × Int))}
    (h : Registry committed reserved ids next inserts) (hp : inserts ~ inserts') :
    Registry committed reserved ids next inserts' where
  reserved_eq := h.reserved_eq.trans (hp.flatMap_right _)
  keys := h.keys
  ids_nodup := ((hp.flatMap_right _).append_left _).nodup_iff.1 h.ids_nodup
  id_le id hid := h.id_le id (((hp.flatMap_right _).append_left _).mem_iff.2 hid)

theorem begin (h : Registry committed reserved ids next inserts) :
    Registry committed reserved ids next ([] :: inserts) := by
  have hflat : ∀ {β : Type} (f : κ × Int → β),
      ([] :: inserts).flatMap (List.map f) = inserts.flatMap (List.map f) := by
    intro β f
    simp
  exact
    { reserved_eq := by rw [hflat]; exact h.reserved_eq
      keys := h.keys
      ids_nodup := by rw [hflat]; exact h.ids_nodup
      id_le := by rw [hflat]; exact h.id_le }

theorem id_not_mem {new : List (κ × Int)} {rest : List (List (κ × Int))} {k : κ} {id : Int}
    (h : Registry committed reserved ids next (new :: rest)) (hmem : (k, id) ∈ new) :
    id ∉ ids := by
  intro hid
  have hdrawn : id ∈ (new :: rest).flatMap (List.map (·.2)) := by
    simp only [List.flatMap_cons, List.mem_append, List.mem_map]
    exact Or.inl ⟨(k, id), hmem, rfl⟩
  exact (List.nodup_append.1 h.ids_nodup).2.2 id hid id hdrawn rfl

theorem insert {new : List (κ × Int)} {rest : List (List (κ × Int))} {k : κ}
    (h : Registry committed reserved ids next (new :: rest)) (hcommitted : k ∉ committed)
    (hreserved : k ∉ reserved) :
    Registry committed (reserved ++ [k]) ids (next + 1) ((new ++ [(k, next + 1)]) :: rest) := by
  have hfresh : ∀ x ∈ ids ++ (new :: rest).flatMap (List.map (·.2)), x < next + 1 := by
    intro x hx
    have := h.id_le x hx
    omega
  have hids : ids ++ (new :: rest).flatMap (List.map (·.2)) ++ [next + 1] ~
      ids ++ ((new ++ [(k, next + 1)]) :: rest).flatMap (List.map (·.2)) := by
    have := perm_append_singleton_swap (ids ++ new.map (·.2)) (rest.flatMap (List.map (·.2)))
      (next + 1)
    simp only [List.flatMap_cons, List.map_append, List.map_cons, List.map_nil,
      List.append_assoc] at this ⊢
    exact this
  refine
    { reserved_eq := ?_
      keys := ?_
      ids_nodup := ?_
      id_le := ?_ }
  · have := (h.reserved_eq.append_right [k]).trans
      (perm_append_singleton_swap (new.map (·.1)) _ k)
    simp only [List.flatMap_cons, List.map_append, List.map_cons, List.map_nil] at this ⊢
    exact this
  · rw [← List.append_assoc, List.nodup_append]
    refine ⟨h.keys, List.nodup_singleton _, ?_⟩
    intro a ha b hb hab
    rw [List.mem_singleton] at hb
    subst hb hab
    rcases List.mem_append.1 ha with ha | ha
    · exact hcommitted ha
    · exact hreserved ha
  · refine hids.nodup_iff.1 ?_
    rw [List.nodup_append]
    refine ⟨h.ids_nodup, List.nodup_singleton _, ?_⟩
    intro a ha b hb hab
    rw [List.mem_singleton] at hb
    have := hfresh a ha
    omega
  · intro x hx
    rcases List.mem_append.1 (hids.mem_iff.2 hx) with hx' | hx'
    · exact le_of_lt (hfresh x hx')
    · rw [List.mem_singleton] at hx'
      exact le_of_eq hx'

variable [BEq κ] [LawfulBEq κ]

theorem commit {new : List (κ × Int)} {rest : List (List (κ × Int))} {committed' : List κ}
    {ids' : List Int} (h : Registry committed reserved ids next (new :: rest))
    (hcommitted : committed' ~ committed ++ new.map (·.1)) (hids : ids' ~ ids ++ new.map (·.2)) :
    Registry committed' (reserved.filter fun k => !(new.any (·.1 == k))) ids' next rest := by
  have hreserved : reserved ~ new.map (·.1) ++ rest.flatMap (List.map (·.1)) := by
    simpa using h.reserved_eq
  have hkept := filter_not_reserved hreserved h.keys.of_append_right
  have hall : ids' ++ rest.flatMap (List.map (·.2)) ~
      ids ++ (new :: rest).flatMap (List.map (·.2)) := by
    simpa [List.append_assoc] using hids.append_right (rest.flatMap (List.map (·.2)))
  refine
    { reserved_eq := hkept
      keys := ?_
      ids_nodup := hall.nodup_iff.2 h.ids_nodup
      id_le := fun x hx => h.id_le x (hall.mem_iff.1 hx) }
  refine (List.Perm.nodup_iff ?_).2 h.keys
  calc committed' ++ reserved.filter (fun k => !(new.any (·.1 == k)))
      ~ committed ++ new.map (·.1) ++ rest.flatMap (List.map (·.1)) := hcommitted.append hkept
    _ = committed ++ (new.map (·.1) ++ rest.flatMap (List.map (·.1))) := List.append_assoc _ _ _
    _ ~ committed ++ reserved := (hreserved.append_left committed).symm

theorem rollback {new : List (κ × Int)} {rest : List (List (κ × Int))}
    (h : Registry committed reserved ids next (new :: rest)) :
    Registry committed (reserved.filter fun k => !(new.any (·.1 == k))) ids next rest := by
  have hreserved : reserved ~ new.map (·.1) ++ rest.flatMap (List.map (·.1)) := by
    simpa using h.reserved_eq
  have hkept := filter_not_reserved hreserved h.keys.of_append_right
  have hsub : ids ++ rest.flatMap (List.map (·.2)) <+
      ids ++ (new :: rest).flatMap (List.map (·.2)) := by
    simp
  refine
    { reserved_eq := hkept
      keys := ?_
      ids_nodup := h.ids_nodup.sublist hsub
      id_le := fun x hx => h.id_le x (hsub.subset hx) }
  have hnd : (committed ++ (new.map (·.1) ++ rest.flatMap (List.map (·.1)))).Nodup :=
    (hreserved.append_left committed).nodup_iff.1 h.keys
  refine ((hkept.append_left committed).nodup_iff.2 ?_)
  exact hnd.sublist ((List.sublist_append_right _ _).append_left committed)

end Registry

/-! ## Reservations -/

namespace Reserved

variable {s : Store} {txs : List Tx}

theorem perm {txs' : List Tx} (h : Reserved s txs) (hp : txs ~ txs') : Reserved s txs' :=
  ⟨h.participations.perm (hp.map _), h.vouchers.perm (hp.map _)⟩

theorem of_store {s' : Store} (h : Reserved s txs) (hp : s'.participations = s.participations)
    (hv : s'.vouchers = s.vouchers) (hk : s'.reservedKeys = s.reservedKeys)
    (hc : s'.reservedCodes = s.reservedCodes)
    (hpn : s'.nextParticipationId = s.nextParticipationId)
    (hvn : s'.nextVoucherId = s.nextVoucherId) : Reserved s' txs := by
  have hpk : s'.participationKeys = s.participationKeys := by
    simp [Store.participationKeys, hp]
  have hvc : s'.voucherCodes = s.voucherCodes := by
    simp [Store.voucherCodes, hv]
  exact ⟨hpk ▸ hk ▸ hp ▸ hpn ▸ h.participations, hvc ▸ hc ▸ hv ▸ hvn ▸ h.vouchers⟩

theorem replace {t t' : Tx} (h : Reserved s (t :: txs)) (hkeys : t'.newKeys = t.newKeys)
    (hcodes : t'.newCodes = t.newCodes) : Reserved s (t' :: txs) := by
  have hp := h.participations
  have hv := h.vouchers
  rw [List.map_cons, ← hkeys, ← List.map_cons] at hp
  rw [List.map_cons, ← hcodes, ← List.map_cons] at hv
  exact ⟨hp, hv⟩

theorem begin (h : Reserved s txs) : Reserved s.begin.2 (s.begin.1 :: txs) :=
  ⟨h.participations.begin, h.vouchers.begin⟩

theorem insertParticipation {t : Tx} {key : Int × Int} {p : Participation}
    (h : Reserved s (t :: txs)) (hcommitted : key ∉ s.participationKeys)
    (hreserved : key ∉ s.reservedKeys) :
    Reserved
      { s with reservedKeys := s.reservedKeys ++ [key],
               nextParticipationId := s.nextParticipationId + 1 }
      ({ t with participations := upsertBy (·.id) t.participations p,
                newKeys := t.newKeys ++ [(key, s.nextParticipationId + 1)] } :: txs) :=
  ⟨h.participations.insert hcommitted hreserved, h.vouchers⟩

theorem insertVoucher {t : Tx} {code : String} {v : Voucher} (h : Reserved s (t :: txs))
    (hcommitted : code ∉ s.voucherCodes) (hreserved : code ∉ s.reservedCodes) :
    Reserved { s with reservedCodes := s.reservedCodes ++ [code], nextVoucherId := s.nextVoucherId + 1 }
      ({ t with vouchers := upsertBy (·.id) t.vouchers v,
                newCodes := t.newCodes ++ [(code, s.nextVoucherId + 1)] } :: txs) :=
  ⟨h.participations, h.vouchers.insert hcommitted hreserved⟩

theorem commit_rows {t : Tx} (h : Reserved s (t :: txs))
    (hp : t.participations.map (fun p => ((p.userId, p.campaignId), p.id)) = t.newKeys)
    (hv : t.vouchers.map (fun v => (v.code, v.id)) = t.newCodes) :
    (t.commit s).participations ~ s.participations ++ t.participations ∧
      (t.commit s).vouchers ~ s.vouchers ++ t.vouchers := by
  have hpr := h.participations
  have hvr := h.vouchers
  simp only [List.map_cons] at hpr hvr
  have hpid : t.participations.map (·.id) = t.newKeys.map (·.2) := by
    rw [← hp, List.map_map]
    rfl
  have hvid : t.vouchers.map (·.id) = t.newCodes.map (·.2) := by
    rw [← hv, List.map_map]
    rfl
  refine ⟨?_, ?_⟩
  · rw [Tx.commit_participations]
    apply foldl_upsertBy_perm
    rw [hpid]
    exact hpr.ids_nodup.sublist (by simp)
  · rw [Tx.commit_vouchers]
    apply foldl_upsertBy_perm
    rw [hvid]
    exact hvr.ids_nodup.sublist (by simp)

theorem commit {t : Tx} (h : Reserved s (t :: txs))
    (hp : t.participations.map (fun p => ((p.userId, p.campaignId), p.id)) = t.newKeys)
    (hv : t.vouchers.map (fun v => (v.code, v.id)) = t.newCodes) :
    Reserved (t.commit s) txs := by
  obtain ⟨hprows, hvrows⟩ := h.commit_rows hp hv
  have hpr := h.participations
  have hvr := h.vouchers
  simp only [List.map_cons] at hpr hvr
  have hpid : t.participations.map (·.id) = t.newKeys.map (·.2) := by
    rw [← hp, List.map_map]
    rfl
  have hvid : t.vouchers.map (·.id) = t.newCodes.map (·.2) := by
    rw [← hv, List.map_map]
    rfl
  refine ⟨hpr.commit ?_ ?_, hvr.commit ?_ ?_⟩
  · have hkeys : t.newKeys.map (·.1) = t.participations.map (fun p => (p.userId, p.campaignId)) := by
      rw [← hp, List.map_map]
      rfl
    show (t.commit s).participations.map _ ~ s.participations.map _ ++ t.newKeys.map (·.1)
    rw [hkeys, ← List.map_append]
    exact hprows.map _
  · rw [← hpid, ← List.map_append]
    exact hprows.map _
  · have hcodes : t.newCodes.map (·.1) = t.vouchers.map (·.code) := by
      rw [← hv, List.map_map]
      rfl
    show (t.commit s).vouchers.map _ ~ s.vouchers.map _ ++ t.newCodes.map (·.1)
    rw [hcodes, ← List.map_append]
    exact hvrows.map _
  · rw [← hvid, ← List.map_append]
    exact hvrows.map _

theorem rollback {t : Tx} (h : Reserved s (t :: txs)) : Reserved (t.rollback s) txs := by
  have hpr := h.participations
  have hvr := h.vouchers
  simp only [List.map_cons] at hpr hvr
  exact ⟨hpr.rollback, hvr.rollback⟩

end Reserved

/-! ## Coherence -/

namespace Coherent

variable {s : Store} {txs : List Tx}

theorem perm {txs' : List Tx} (h : Coherent s txs) (hp : txs ~ txs') : Coherent s txs' :=
  ⟨h.locks.perm hp, h.reserved.perm hp⟩

/-- Every effect of a call keeps the store in agreement with the open transactions: the
caller's transaction `t?` becomes `t'?`, the others `txs` stay as they are. -/
theorem effect {s' : Store} {t? t'? : Option Tx} (h : Coherent s (t?.toList ++ txs))
    (he : Effect s t? s' t'?) : Coherent s' (t'?.toList ++ txs) := by
  cases he with
  | read => exact h
  | stage howner hheld hkeys hcodes =>
    exact ⟨h.locks.replace howner hheld, h.reserved.replace hkeys hcodes⟩
  | begin => exact ⟨h.locks.begin, h.reserved.begin⟩
  | @lock t k _ hfree =>
    have hr : Reserved s ({ t with held := t.held ++ [k] } :: txs) := h.reserved.replace rfl rfl
    exact ⟨h.locks.lock hfree, hr.of_store rfl rfl rfl rfl rfl rfl⟩
  | @insertParticipation t key p hcommitted hreserved =>
    have hl : LocksAgree s
        ({ t with participations := upsertBy (·.id) t.participations p,
                  newKeys := t.newKeys ++ [(key, s.nextParticipationId + 1)] } :: txs) :=
      h.locks.replace rfl rfl
    exact ⟨hl.of_store rfl rfl, h.reserved.insertParticipation hcommitted hreserved⟩
  | @insertVoucher t code v hcommitted hreserved =>
    have hl : LocksAgree s
        ({ t with vouchers := upsertBy (·.id) t.vouchers v,
                  newCodes := t.newCodes ++ [(code, s.nextVoucherId + 1)] } :: txs) :=
      h.locks.replace rfl rfl
    exact ⟨hl.of_store rfl rfl, h.reserved.insertVoucher hcommitted hreserved⟩
  | commit _ hp hv => exact ⟨h.locks.release rfl rfl, h.reserved.commit hp hv⟩
  | rollback => exact ⟨h.locks.release rfl rfl, h.reserved.rollback⟩

end Coherent

/-! ## What an effect leaves alone -/

namespace Effect

variable {s s' : Store} {t? t'? : Option Tx}

theorem rows (he : Effect s t? s' t'?) :
    (s'.campaigns = s.campaigns ∧ s'.participations = s.participations ∧
      s'.vouchers = s.vouchers) ∨ ∃ t, t? = some t ∧ t'? = none ∧ s' = t.commit s := by
  cases he with
  | @commit t _ _ _ => exact Or.inr ⟨t, rfl, rfl, rfl⟩
  | read | stage | begin | lock | insertParticipation | insertVoucher | rollback =>
    exact Or.inl ⟨rfl, rfl, rfl⟩

theorem participation_mem (he : Effect s t? s' t'?) {p : Participation}
    (hp : p ∈ s'.participations) :
    p ∈ s.participations ∨ ∃ t, t? = some t ∧ p ∈ t.participations := by
  rcases he.rows with ⟨-, hparticipations, -⟩ | ⟨t, rfl, -, rfl⟩
  · rw [hparticipations] at hp
    exact .inl hp
  · rw [Tx.commit_participations] at hp
    rcases mem_foldl_upsertBy _ hp with hp | hp
    · exact .inl hp
    · exact .inr ⟨t, rfl, hp⟩

theorem campaign_row_of_held {txs : List Tx} {u : Tx} {id : Int}
    (h : Coherent s (t?.toList ++ txs)) (he : Effect s t? s' t'?) (hu : u ∈ txs)
    (hheld : LockKey.campaign id ∈ u.held) :
    findBy (·.id) s'.campaigns id = findBy (·.id) s.campaigns id := by
  cases he with
  | @commit t hstaged _ _ =>
    -- the committer holds the locks of the campaigns it staged, so not this one
    rw [Tx.commit_campaigns]
    apply findBy_foldl_upsertBy_of_forall_ne
    intro c hc hid
    have hnot := h.locks.not_held_of_held hu (hstaged c hc)
    exact hnot (hid ▸ hheld)
  | read | stage | begin | lock | insertParticipation | insertVoucher | rollback => rfl

end Effect

end Memory
end TopUpPromo
