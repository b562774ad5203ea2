import TopUpPromo.Proofs.Memory.Changes

/-!
# The store around a request that runs alone

When a request runs with no other request moving, the store it ends on is measured against the
store `s0` it started from. While its transaction `t` is open nothing is committed: the rows
are those of `s0`, the reservations are those of `s0` followed by the ones `t` made, which are
fresh, and apart from the locks of `t` the locks are some of those of `s0` (`Untouched`).
Every call inside the transaction keeps this (`Untouched.change`); a rollback then gives back
`s0` but for the id counters and for locks let go (`Kept`), and a commit of a transaction that
inserted nothing gives back all of `s0` but its rows (`Leaves`).

The store `s0` is any store: its locks may be held by transactions that are not moving, and a
holder that lets go by itself hands its lock over, releasing all of its locks.
-/

namespace TopUpPromo
namespace Memory

open scoped List

/-- Store `s` keeps what a request may not change of `s0` but its rows: the campaigns, the
reservations, the campaign counter and the lock timeout are those of `s0`, and every lock of
`s` was held in `s0`. -/
structure Leaves (s0 s : Store) : Prop where
  campaigns : s.campaigns = s0.campaigns
  reservedKeys : s.reservedKeys = s0.reservedKeys
  reservedCodes : s.reservedCodes = s0.reservedCodes
  nextCampaignId : s.nextCampaignId = s0.nextCampaignId
  lockTimeoutMs : s.lockTimeoutMs = s0.lockTimeoutMs
  locks : s.locks <+ s0.locks

/-- Store `s` is `s0` but for the participation, voucher and owner counters and for locks let
go: no row, reservation or lock was added or changed. -/
structure Kept (s0 s : Store) : Prop extends Leaves s0 s where
  participations : s.participations = s0.participations
  vouchers : s.vouchers = s0.vouchers

/-- Store `s` is `s0` with transaction `t` open in it and nothing committed. -/
structure Untouched (s0 s : Store) (t : Tx) : Prop where
  campaigns : s.campaigns = s0.campaigns
  participations : s.participations = s0.participations
  vouchers : s.vouchers = s0.vouchers
  nextCampaignId : s.nextCampaignId = s0.nextCampaignId
  lockTimeoutMs : s.lockTimeoutMs = s0.lockTimeoutMs
  reservedKeys : s.reservedKeys = s0.reservedKeys ++ t.newKeys.map (·.1)
  freshKeys : ∀ k ∈ t.newKeys.map (·.1), k ∉ s0.reservedKeys
  reservedCodes : s.reservedCodes = s0.reservedCodes ++ t.newCodes.map (·.1)
  freshCodes : ∀ c ∈ t.newCodes.map (·.1), c ∉ s0.reservedCodes
  /-- Apart from its own, the locks are some of those of `s0`. -/
  locks : (s.releaseOwner t.owner).locks <+ s0.locks

@[simp] theorem Tx.commit_locks (s : Store) (t : Tx) :
    (t.commit s).locks = (s.releaseOwner t.owner).locks := rfl

@[simp] theorem Tx.rollback_locks (s : Store) (t : Tx) :
    (t.rollback s).locks = (s.releaseOwner t.owner).locks := rfl

@[simp] theorem Tx.commit_nextCampaignId (s : Store) (t : Tx) :
    (t.commit s).nextCampaignId = s.nextCampaignId := rfl

@[simp] theorem Tx.rollback_nextCampaignId (s : Store) (t : Tx) :
    (t.rollback s).nextCampaignId = s.nextCampaignId := rfl

@[simp] theorem Tx.commit_lockTimeoutMs (s : Store) (t : Tx) :
    (t.commit s).lockTimeoutMs = s.lockTimeoutMs := rfl

@[simp] theorem Tx.rollback_lockTimeoutMs (s : Store) (t : Tx) :
    (t.rollback s).lockTimeoutMs = s.lockTimeoutMs := rfl

@[simp] theorem Store.releaseOwner_locks (s : Store) (owner : Nat) :
    (s.releaseOwner owner).locks = s.locks.filter (·.2.owner != owner) := rfl

theorem filter_fresh {β γ : Type} [BEq β] [LawfulBEq β] {l0 : List β} {new : List (β × γ)}
    (hfresh : ∀ k ∈ new.map (·.1), k ∉ l0) :
    (l0 ++ new.map (·.1)).filter (fun k => !(new.any (·.1 == k))) = l0 := by
  have hmem : ∀ k, new.any (·.1 == k) = true ↔ k ∈ new.map (·.1) := by
    intro k
    simp [List.any_eq_true, List.mem_map]
  rw [List.filter_append]
  have hold : l0.filter (fun k => !(new.any (·.1 == k))) = l0 := by
    rw [List.filter_eq_self]
    intro k hk
    have hout : new.any (·.1 == k) = false := by
      rw [Bool.eq_false_iff]
      intro hany
      exact hfresh k ((hmem k).1 hany) hk
    simp [hout]
  have hnew : (new.map (·.1)).filter (fun k => !(new.any (·.1 == k))) = [] := by
    rw [List.filter_eq_nil_iff]
    intro k hk
    simp [(hmem k).2 hk]
  rw [hold, hnew, List.append_nil]

theorem Kept.refl (s : Store) : Kept s s where
  campaigns := rfl
  reservedKeys := rfl
  reservedCodes := rfl
  nextCampaignId := rfl
  lockTimeoutMs := rfl
  locks := List.Sublist.refl _
  participations := rfl
  vouchers := rfl

namespace Untouched

variable {s0 s s' : Store} {t t' : Tx}

theorem begin (h : Kept s0 s) : Untouched s0 s.begin.2 s.begin.1 where
  campaigns := h.campaigns
  participations := h.participations
  vouchers := h.vouchers
  nextCampaignId := h.nextCampaignId
  lockTimeoutMs := h.lockTimeoutMs
  reservedKeys := by simp [Store.begin, h.reservedKeys]
  freshKeys := by simp [Store.begin]
  reservedCodes := by simp [Store.begin, h.reservedCodes]
  freshCodes := by simp [Store.begin]
  locks := (List.filter_sublist).trans h.locks

theorem replace (h : Untouched s0 s t) (howner : t'.owner = t.owner)
    (hkeys : t'.newKeys = t.newKeys) (hcodes : t'.newCodes = t.newCodes) :
    Untouched s0 s t' where
  campaigns := h.campaigns
  participations := h.participations
  vouchers := h.vouchers
  nextCampaignId := h.nextCampaignId
  lockTimeoutMs := h.lockTimeoutMs
  reservedKeys := hkeys ▸ h.reservedKeys
  freshKeys := hkeys ▸ h.freshKeys
  reservedCodes := hcodes ▸ h.reservedCodes
  freshCodes := hcodes ▸ h.freshCodes
  locks := howner ▸ h.locks

/-- Every call inside the transaction leaves the store untouched. -/
theorem change {t? : Option Tx} (h : Untouched s0 s t) (hc : Change s (some t) s' t?) :
    ∃ t', t? = some t' ∧ Untouched s0 s' t' := by
  cases hc with
  | read => exact ⟨t, rfl, h⟩
  | stage howner _ hkeys hcodes => exact ⟨_, rfl, h.replace howner hkeys hcodes⟩
  | lock _ _ =>
    refine ⟨_, rfl, { h with locks := ?_ }⟩
    -- the lock taken is the transaction's own
    simpa using h.locks
  | handOver _ _ _ =>
    refine ⟨_, rfl, { h with locks := List.Sublist.trans ?_ h.locks }⟩
    -- the holder's locks are let go, and the lock taken is the transaction's own
    simp only [Store.releaseOwner_locks, List.filter_append]
    simp only [List.filter_cons, bne_self_eq_false, Bool.false_eq_true, if_false, List.filter_nil,
      List.append_nil]
    exact List.filter_sublist.filter _
  | insertParticipation _ hreserved =>
    refine ⟨_, rfl, ⟨h.campaigns, h.participations, h.vouchers, h.nextCampaignId,
      h.lockTimeoutMs, by simp [h.reservedKeys], ?_, h.reservedCodes, h.freshCodes, h.locks⟩⟩
    intro k hk
    simp only [List.map_append, List.mem_append] at hk
    rcases hk with hk | hk
    · exact h.freshKeys k hk
    · -- the new key was reserved by no one
      simp only [List.map_cons, List.map_nil, List.mem_singleton] at hk
      subst hk
      intro hin
      rw [h.reservedKeys] at hreserved
      exact hreserved (List.mem_append_left _ hin)
  | insertVoucher _ hreserved =>
    refine ⟨_, rfl, ⟨h.campaigns, h.participations, h.vouchers, h.nextCampaignId,
      h.lockTimeoutMs, h.reservedKeys, h.freshKeys, by simp [h.reservedCodes], ?_, h.locks⟩⟩
    intro c hc
    simp only [List.map_append, List.mem_append] at hc
    rcases hc with hc | hc
    · exact h.freshCodes c hc
    · simp only [List.map_cons, List.map_nil, List.mem_singleton] at hc
      subst hc
      intro hin
      rw [h.reservedCodes] at hreserved
      exact hreserved (List.mem_append_left _ hin)

theorem rollback (h : Untouched s0 s t) : Kept s0 (t.rollback s) where
  campaigns := h.campaigns
  reservedKeys := by rw [Tx.rollback_reservedKeys, h.reservedKeys, filter_fresh h.freshKeys]
  reservedCodes := by
    rw [Tx.rollback_reservedCodes, h.reservedCodes, filter_fresh h.freshCodes]
  nextCampaignId := h.nextCampaignId
  lockTimeoutMs := h.lockTimeoutMs
  locks := h.locks
  participations := h.participations
  vouchers := h.vouchers

theorem commit (h : Untouched s0 s t) (hcampaigns : t.campaigns = [])
    (hkeys : t.newKeys = []) (hcodes : t.newCodes = []) : Leaves s0 (t.commit s) where
  campaigns := by simp [hcampaigns, h.campaigns]
  reservedKeys := by simp [hkeys, h.reservedKeys]
  reservedCodes := by simp [hcodes, h.reservedCodes]
  nextCampaignId := h.nextCampaignId
  lockTimeoutMs := h.lockTimeoutMs
  locks := h.locks

end Untouched

end Memory
end TopUpPromo
