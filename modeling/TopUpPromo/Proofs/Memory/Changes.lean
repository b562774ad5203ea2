import TopUpPromo.Proofs.Memory.Coherence
import TopUpPromo.Concurrent.World

/-!
# What a call does inside a transaction, whatever the store

`Change` lists what a call that neither opens nor ends a transaction, nor inserts a campaign,
can do to the store and to the caller's own transaction, on any store and with no assumption
on the other transactions: nothing, a staged write, taking a lock that is free or that its
holder lets go of, or inserting a participation or a voucher. `Call.perform_change` says that
every such call (`Call.inner`) does one of these.

A store need not agree with its open transactions here: a lock may be held by a holder that lets
go by itself, and the lock is then handed over, releasing every lock of that holder.
-/

namespace TopUpPromo
namespace Memory

/-- What one call inside a transaction does to the store and to the caller's transaction. -/
inductive Change : Store → Option Tx → Store → Option Tx → Prop
  | read {s : Store} {t : Option Tx} : Change s t s t
  | stage {s : Store} {t t' : Tx} (owner : t'.owner = t.owner) (held : t'.held = t.held)
      (keys : t'.newKeys = t.newKeys) (codes : t'.newCodes = t.newCodes) :
      Change s (some t) s (some t')
  | lock {s : Store} {t : Tx} {k : LockKey} (mine : k ∉ t.held) (free : s.holderOf k = none) :
      Change s (some t) { s with locks := s.locks ++ [(k, ⟨t.owner, none⟩)] }
        (some { t with held := t.held ++ [k] })
  /-- The holder of the lock lets go by itself, and the lock is taken. -/
  | handOver {s : Store} {t : Tx} {k : LockKey} {h : Holder} (mine : k ∉ t.held)
      (held : s.holderOf k = some h) (lets : h.releaseAfterMs ≠ none) :
      Change s (some t)
        { s.releaseOwner h.owner with
          locks := (s.releaseOwner h.owner).locks ++ [(k, ⟨t.owner, none⟩)] }
        (some { t with held := t.held ++ [k] })
  | insertParticipation {s : Store} {t : Tx} {key : Int × Int} {p : Participation}
      (committed : key ∉ s.participationKeys) (reserved : key ∉ s.reservedKeys) :
      Change s (some t)
        { s with reservedKeys := s.reservedKeys ++ [key],
                 nextParticipationId := s.nextParticipationId + 1 }
        (some { t with participations := upsertBy (·.id) t.participations p,
                       newKeys := t.newKeys ++ [(key, s.nextParticipationId + 1)] })
  | insertVoucher {s : Store} {t : Tx} {code : String} {v : Voucher}
      (committed : code ∉ s.voucherCodes) (reserved : code ∉ s.reservedCodes) :
      Change s (some t)
        { s with reservedCodes := s.reservedCodes ++ [code], nextVoucherId := s.nextVoucherId + 1 }
        (some { t with vouchers := upsertBy (·.id) t.vouchers v,
                       newCodes := t.newCodes ++ [(code, s.nextVoucherId + 1)] })

def TxStep.Changes {α : Type} (f : TxStep α) : Prop :=
  ∀ s t, Change s (some t) (f s t).2.1 (some (f s t).2.2)

namespace Tx

theorem changes_of_cases {α : Type} {f : TxStep α}
    (h : ∀ s t, (f s t).2 = (s, t) ∨ ((f s t).2.1 = s ∧ (f s t).2.2.owner = t.owner ∧
      (f s t).2.2.held = t.held ∧ (f s t).2.2.newKeys = t.newKeys ∧
      (f s t).2.2.newCodes = t.newCodes)) :
    TxStep.Changes f := by
  intro s t
  rcases h s t with hsame | ⟨hs, howner, hheld, hkeys, hcodes⟩
  · rw [hsame]
    exact .read
  · rw [hs]
    exact .stage howner hheld hkeys hcodes

theorem lock_changes (ctx : Ctx) (key : LockKey) : TxStep.Changes (lock ctx key) := by
  intro s t
  by_cases hmine : key ∈ t.held
  · have hcontains : t.held.contains key = true := by simpa using hmine
    simp only [lock, hcontains, if_true]
    exact .read
  cases hholder : s.holderOf key with
  | none =>
    rw [lock_of_free hmine hholder]
    exact .lock hmine hholder
  | some h =>
    have hcontains : t.held.contains key = false := by simpa using hmine
    simp only [lock, hcontains, Bool.false_eq_true, if_false, hholder]
    cases ctx.failure? with
    | some f => exact .read
    | none =>
      dsimp only
      cases hend : waitEnd h.releaseAfterMs
          (if s.lockTimeoutMs = 0 then none else some s.lockTimeoutMs) ctx.remainingMs? with
      | handedOver =>
        -- only a holder that lets go by itself hands the lock over
        have hlets : h.releaseAfterMs ≠ none := by
          intro hnone
          rw [hnone] at hend
          exact waitEnd_ne_handedOver _ _ hend
        exact .handOver hmine hholder hlets
      | deadline => exact .read
      | timedOut => exact .read

theorem readCampaign_changes (id : Int) : TxStep.Changes (readCampaign id) :=
  changes_of_cases fun s t => .inl (by rw [readCampaign_eq])

theorem updateCampaignParticipants_changes (id : Int) (current : Int32)
    (status : CampaignStatus) :
    TxStep.Changes (updateCampaignParticipants id current status) := by
  refine changes_of_cases fun s t => ?_
  unfold updateCampaignParticipants
  cases campaign s t id with
  | none => exact .inl rfl
  | some c =>
    dsimp only
    split
    · exact .inl rfl
    · exact .inr ⟨rfl, rfl, rfl, rfl, rfl⟩

theorem createParticipation_changes (p : Participation) :
    TxStep.Changes (createParticipation p) := by
  intro s t
  by_cases htaken : (p.userId, p.campaignId) ∈ s.participationKeys ∨
      (p.userId, p.campaignId) ∈ s.reservedKeys
  · rw [createParticipation_of_taken htaken]
    exact .read
  · rw [createParticipation_of_free htaken]
    obtain ⟨hcommitted, hreserved⟩ := not_or.1 htaken
    exact .insertParticipation hcommitted hreserved

theorem updateParticipationStatus_changes (id : Int) (status : ParticipationStatus)
    (stamp : Instant) : TxStep.Changes (updateParticipationStatus id status stamp) := by
  refine changes_of_cases fun s t => ?_
  unfold updateParticipationStatus
  cases participation s t id with
  | none => exact .inl rfl
  | some p => exact .inr ⟨rfl, rfl, rfl, rfl, rfl⟩

theorem createVoucher_changes (v : Voucher) : TxStep.Changes (createVoucher v) := by
  intro s t
  by_cases htaken : v.code ∈ s.voucherCodes ∨ v.code ∈ s.reservedCodes
  · rw [createVoucher_of_taken htaken]
    exact .read
  · rw [createVoucher_of_free htaken]
    obtain ⟨hcommitted, hreserved⟩ := not_or.1 htaken
    exact .insertVoucher hcommitted hreserved

theorem findVoucher_changes (code : String) : TxStep.Changes (findVoucher code) := by
  refine changes_of_cases fun s t => .inl ?_
  unfold findVoucher
  dsimp only
  split <;> rfl

theorem readVoucher_changes (id : Int) : TxStep.Changes (readVoucher id) := by
  refine changes_of_cases fun s t => .inl ?_
  unfold readVoucher
  split <;> rfl

theorem markVoucherUsed_changes (id : Int) (u : Usage) :
    TxStep.Changes (markVoucherUsed id u) := by
  refine changes_of_cases fun s t => ?_
  unfold markVoucherUsed
  cases voucher s t id with
  | none => exact .inl rfl
  | some v =>
    dsimp only
    split
    · exact .inr ⟨rfl, rfl, rfl, rfl, rfl⟩
    · exact .inl rfl

theorem markVoucherExpired_changes (id : Int) : TxStep.Changes (markVoucherExpired id) := by
  refine changes_of_cases fun s t => ?_
  unfold markVoucherExpired
  cases voucher s t id with
  | none => exact .inl rfl
  | some v =>
    dsimp only
    split
    · exact .inr ⟨rfl, rfl, rfl, rfl, rfl⟩
    · exact .inl rfl

end Tx

theorem Backend.step_change {α : Type} {f : TxStep α} (hf : TxStep.Changes f) (b : Backend) :
    Change b.store b.current (b.step f).2.store (b.step f).2.current := by
  obtain ⟨s, current⟩ := b
  cases current with
  | none => exact .read
  | some t => exact hf s t

end Memory

namespace Concurrent

open Memory

/-- A call that neither opens nor ends a transaction, nor inserts a campaign. -/
def Call.inner : Call → Bool
  | .createCampaign _ | .begin | .finish _ _ => false
  | _ => true

/-- Every call that neither opens nor ends a transaction, nor inserts a campaign, changes the
store and the caller's transaction as `Change` allows. -/
theorem Call.perform_change (o : Oracle) (b : Backend) {c : Call} (hc : c.inner = true) :
    Change b.store b.current (c.perform o b).2.store (c.perform o b).2.current := by
  cases c with
  | createCampaign | begin | finish => simp [Call.inner] at hc
  | getCampaign | findLatestActiveCampaign | listActiveCampaigns | hasParticipation
    | listParticipationsByUser | getVoucherByCode | listVouchersByUser | nextCode
    | confirmPayment | nextSuffix => exact .read
  | lock ctx key => exact b.step_change (Tx.lock_changes ctx key)
  | readCampaign id => exact b.step_change (Tx.readCampaign_changes id)
  | updateCampaignParticipants id current status =>
    exact b.step_change (Tx.updateCampaignParticipants_changes id current status)
  | createParticipation p => exact b.step_change (Tx.createParticipation_changes p)
  | updateParticipationStatus id status stamp =>
    exact b.step_change (Tx.updateParticipationStatus_changes id status stamp)
  | createVoucher v => exact b.step_change (Tx.createVoucher_changes v)
  | findVoucher code => exact b.step_change (Tx.findVoucher_changes code)
  | readVoucher id => exact b.step_change (Tx.readVoucher_changes id)
  | markVoucherUsed id usage => exact b.step_change (Tx.markVoucherUsed_changes id usage)
  | markVoucherExpired id => exact b.step_change (Tx.markVoucherExpired_changes id)

end Concurrent
end TopUpPromo
