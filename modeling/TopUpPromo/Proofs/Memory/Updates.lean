import TopUpPromo.Proofs.Memory.Coherence

/-!
# Transactions that update rows

A top-up or a voucher check inserts no row: its transaction finds a voucher by code, locks the
code, stages the voucher's use or expiry over the committed row, and stages the new status of
the voucher's participation. `Tx.Guard` says what such a transaction may hold: nothing inserted
and no campaign; each staged voucher over an active committed row of the same id and code, whose
code it has locked; each staged participation over a committed row of the same id and user.
`Touch` lists what one of its calls can do to the store and to the caller's transaction.

The main results: a touch keeps the locks in agreement with the open transactions
(`Touch.locks`); the commit of a guarded transaction keeps the ids and codes of the vouchers and
the ids and users of the participations, and writes only voucher rows that were active and whose
codes it has locked (`Tx.Guard.overwrites`), so that a transaction holding another code still
sees the rows it read (`Tx.Guard.of_overwrites`).
-/

namespace TopUpPromo

def Voucher.key (v : Voucher) : Int × String := (v.id, v.code)

def Participation.owner (p : Participation) : Int × Int := (p.id, p.userId)

@[simp] theorem Voucher.key_markUsed (v : Voucher) (u : Usage) : (v.markUsed u).key = v.key :=
  rfl

@[simp] theorem Voucher.key_expired (v : Voucher) :
    ({ v with status := .expired } : Voucher).key = v.key :=
  rfl

@[simp] theorem Participation.owner_withStatus (p : Participation) (status : ParticipationStatus)
    (t : Instant) : (p.withStatus status t).owner = p.owner := by
  cases status <;> rfl

namespace Memory

open scoped List

/-! ## Reads by code -/

namespace Store

def voucherId (s : Store) (c : String) : Option Int :=
  (s.vouchers.find? (·.code == c)).map (·.id)

theorem voucherId_eq_key (s : Store) (c : String) :
    s.voucherId c = ((s.vouchers.map Voucher.key).find? (·.2 == c)).map (·.1) := by
  simp [voucherId, List.find?_map, Option.map_map, Function.comp_def, Voucher.key]

theorem voucherId_of_keys {s s' : Store}
    (h : s'.vouchers.map Voucher.key = s.vouchers.map Voucher.key) (c : String) :
    s'.voucherId c = s.voucherId c := by
  rw [voucherId_eq_key, voucherId_eq_key, h]

theorem findBy_owner_eq (s : Store) (id : Int) :
    (findBy (·.id) s.participations id).map Participation.owner =
      (s.participations.map Participation.owner).find? (·.1 == id) := by
  simp [findBy, List.find?_map, Function.comp_def, Participation.owner]

theorem joinVoucher_of_owners {s s' : Store}
    (h : s'.participations.map Participation.owner = s.participations.map Participation.owner)
    (v : Voucher) : s'.joinVoucher [] v = s.joinVoucher [] v := by
  have howner : (findBy (·.id) s'.participations v.participationId).map Participation.owner =
      (findBy (·.id) s.participations v.participationId).map Participation.owner := by
    rw [findBy_owner_eq, findBy_owner_eq, h]
  simp only [joinVoucher, findBy, List.find?_nil]
  simp only [findBy] at howner
  cases hs' : s'.participations.find? (·.id == v.participationId) <;>
    cases hs : s.participations.find? (·.id == v.participationId) <;>
    simp only [hs, hs', Option.map_none, Option.map_some, reduceCtorEq, Option.some.injEq,
      Participation.owner, Prod.mk.injEq] at howner ⊢
  rw [howner.2]

end Store

/-! ## Guarded transactions -/

/-- What the transaction of a top-up or of a voucher check may hold against the committed store
`s`: no insert and no campaign; each staged voucher over an active committed row of the same id
and code, whose code it has locked; each staged participation over a committed row of the same
id and user. -/
structure Tx.Guard (s : Store) (t : Tx) : Prop where
  campaigns : t.campaigns = []
  keys : t.newKeys = []
  codes : t.newCodes = []
  vouchers : ∀ v ∈ t.vouchers, LockKey.voucher v.code ∈ t.held ∧
    ∃ v0, findBy (·.id) s.vouchers v.id = some v0 ∧ v0.code = v.code ∧ v0.status = .active
  participations : ∀ p ∈ t.participations,
    p.owner ∈ s.participations.map Participation.owner

/-- How the store `s'` after a step of a transaction holding the locks `held` stands to `s`: the
vouchers keep their ids and codes and the participations their ids and users, and every voucher
row is as it was, but for rows that were active and whose codes the transaction has locked. -/
structure Store.Overwrites (held : List LockKey) (s s' : Store) : Prop where
  keys : s'.vouchers.map Voucher.key = s.vouchers.map Voucher.key
  owners : s'.participations.map Participation.owner = s.participations.map Participation.owner
  rows : ∀ id, findBy (·.id) s'.vouchers id = findBy (·.id) s.vouchers id ∨
    ∃ v0, findBy (·.id) s.vouchers id = some v0 ∧ v0.status = .active ∧
      LockKey.voucher v0.code ∈ held

theorem Store.overwrites_of_rows {held : List LockKey} {s s' : Store}
    (hp : s'.participations = s.participations) (hv : s'.vouchers = s.vouchers) :
    s.Overwrites held s' :=
  ⟨by rw [hv], by rw [hp], fun _ => .inl (by rw [hv])⟩

namespace Tx.Guard

variable {s : Store} {t : Tx}

theorem owner (o : Nat) : Tx.Guard s { owner := o } :=
  ⟨rfl, rfl, rfl, fun _ h => (List.not_mem_nil h).elim, fun _ h => (List.not_mem_nil h).elim⟩

/-- The commit of a guarded transaction keeps the ids and codes of the vouchers and the ids and
users of the participations, and writes only active voucher rows whose codes it holds. -/
theorem overwrites (hg : t.Guard s) (hids : (s.vouchers.map (·.id)).Nodup)
    (hpids : (s.participations.map (·.id)).Nodup) : s.Overwrites t.held (t.commit s) where
  keys := by
    rw [Tx.commit_vouchers]
    refine map_foldl_upsertBy_of_mem _ (fun a b h => congrArg Prod.fst h) hids fun v hv => ?_
    obtain ⟨-, v0, hrow, hcode, -⟩ := hg.vouchers v hv
    obtain ⟨hmem, hid⟩ := findBy_eq_some _ hrow
    exact List.mem_map.2 ⟨v0, hmem, by simp [Voucher.key, hid, hcode]⟩
  owners := by
    rw [Tx.commit_participations]
    exact map_foldl_upsertBy_of_mem _ (fun a b h => congrArg Prod.fst h) hpids hg.participations
  rows id := by
    rw [Tx.commit_vouchers]
    by_cases hstaged : ∃ v ∈ t.vouchers, id = v.id
    · obtain ⟨v, hv, rfl⟩ := hstaged
      obtain ⟨hheld, v0, hrow, hcode, hactive⟩ := hg.vouchers v hv
      exact .inr ⟨v0, hrow, hactive, hcode ▸ hheld⟩
    · exact .inl (findBy_foldl_upsertBy_of_forall_ne _ fun v hv hid => hstaged ⟨v, hv, hid⟩)

/-- A guarded transaction stays guarded over a store that another transaction, holding none of
its locks, overwrote. -/
theorem of_overwrites {held : List LockKey} {s' : Store} (hg : t.Guard s)
    (hov : s.Overwrites held s') (hdisjoint : ∀ k ∈ t.held, k ∉ held) : t.Guard s' where
  campaigns := hg.campaigns
  keys := hg.keys
  codes := hg.codes
  vouchers v hv := by
    obtain ⟨hheld, v0, hrow, hcode, hactive⟩ := hg.vouchers v hv
    refine ⟨hheld, v0, ?_, hcode, hactive⟩
    rcases hov.rows v.id with hsame | ⟨v1, hrow1, -, hheld1⟩
    · exact hsame.trans hrow
    · -- the other transaction would hold this voucher's lock too
      rw [hrow] at hrow1
      cases hrow1
      exact absurd (hcode ▸ hheld1) (hdisjoint _ hheld)
  participations p hp := hov.owners ▸ hg.participations p hp

end Tx.Guard

/-! ## What a call does -/

/-- What one call of a top-up or a voucher check does to the store and to the caller's own
transaction: nothing (a read, an answer from outside, a refused write), a write staged in the
transaction, opening it, taking a free lock, or ending it. -/
inductive Touch : Store → Option Tx → Store → Option Tx → Prop
  | read {s : Store} {t : Option Tx} : Touch s t s t
  | stage {s : Store} {t t' : Tx} (owner : t'.owner = t.owner) (held : t'.held = t.held) :
      Touch s (some t) s (some t')
  | begin {s : Store} : Touch s none s.begin.2 (some s.begin.1)
  | lock {s : Store} {t : Tx} {k : LockKey} (free : s.holderOf k = none) :
      Touch s (some t) { s with locks := s.locks ++ [(k, ⟨t.owner, none⟩)] }
        (some { t with held := t.held ++ [k] })
  | commit {s : Store} {t : Tx} : Touch s (some t) (t.commit s) none
  | rollback {s : Store} {t : Tx} : Touch s (some t) (t.rollback s) none

namespace Touch

variable {s s' : Store} {t? t'? : Option Tx}

/-- Every touch keeps the locks in agreement with the open transactions. -/
theorem locks {txs : List Tx} (h : LocksAgree s (t?.toList ++ txs)) (ht : Touch s t? s' t'?) :
    LocksAgree s' (t'?.toList ++ txs) := by
  cases ht with
  | read => exact h
  | stage howner hheld => exact h.replace howner hheld
  | begin => exact h.begin
  | lock hfree => exact h.lock hfree
  | commit => exact h.release rfl rfl
  | rollback => exact h.release rfl rfl

theorem rows (ht : Touch s t? s' t'?) :
    (s'.participations = s.participations ∧ s'.vouchers = s.vouchers) ∨
      ∃ t, t? = some t ∧ t'? = none ∧ s' = t.commit s := by
  cases ht with
  | @commit t => exact .inr ⟨t, rfl, rfl, rfl⟩
  | read | stage | begin | lock | rollback => exact .inl ⟨rfl, rfl⟩

theorem rows_of_some {t' : Tx} (ht : Touch s t? s' (some t')) :
    s'.participations = s.participations ∧ s'.vouchers = s.vouchers := by
  rcases ht.rows with hsame | ⟨t, -, hnone, -⟩
  · exact hsame
  · cases hnone

theorem overwrites (ht : Touch s t? s' t'?) (hg : ∀ t, t? = some t → t.Guard s)
    (hids : (s.vouchers.map (·.id)).Nodup) (hpids : (s.participations.map (·.id)).Nodup) :
    s.Overwrites ((t?.map Tx.held).getD []) s' := by
  rcases ht.rows with ⟨hp, hv⟩ | ⟨t, rfl, -, rfl⟩
  · exact Store.overwrites_of_rows hp hv
  · exact (hg t rfl).overwrites hids hpids

end Touch

theorem LocksAgree.holderOf_of_held {s : Store} {txs : List Tx} {t : Tx} {k : LockKey}
    (h : LocksAgree s txs) (ht : t ∈ txs) (hk : k ∈ t.held) :
    s.holderOf k = some ⟨t.owner, none⟩ := by
  have hentry := h.held_locked t ht k hk
  obtain ⟨e, he⟩ : ∃ e, s.locks.find? (·.1 == k) = some e := by
    apply Option.isSome_iff_exists.1
    rw [List.find?_isSome]
    exact ⟨_, hentry, by simp⟩
  -- lock keys are distinct, so the entry found is the transaction's
  have hek : e.1 = k := by simpa using List.find?_some he
  have heq : e = (k, ⟨t.owner, none⟩) :=
    List.inj_on_of_nodup_map h.lock_keys (List.mem_of_find?_eq_some he) hentry hek
  simp [Store.holderOf, he, heq]

end Memory
end TopUpPromo
