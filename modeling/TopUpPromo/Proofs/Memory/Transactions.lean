import TopUpPromo.Proofs.Memory.Changes

/-!
# Transactions sharing the store

A transaction body makes its calls on its own transaction while other bodies make theirs: the
store is shared, and any interleaving of opening transactions, calls inside them, campaign
creations and endings is a sequence of `Shared` steps. Started from a store that agrees with
having no transaction open (`Coherent s0 []`), every store reached keeps each open
transaction's staged rows as they were written (`Tx.Staged`), and its reservations and locks in
agreement with the open transactions (`Consistent`).

What that gives (`transactions_stage_then_commit`, through `Transactional`):

- a transaction reads each row as its own staged row when it has one and as the committed row
  otherwise, which is the row its commit would write;
- its calls write no committed row, so the store's own reads see the committed rows only;
- its end commits when the body succeeded and the context is live, writing exactly its staged
  rows over the committed rows of that moment and adding exactly its reserved keys and codes,
  with their ids, to the committed ones; otherwise it rolls back and leaves the committed rows
  as they are; either way its reservations go, leaving those of the other open transactions,
  and its locks are released;
- with no transaction open, the committed participation keys and voucher codes are each
  unique, and no reservation and no lock is left.

A staged participation or voucher is a row the transaction inserted, under the key and id it
reserved, or one over a committed row of the same key and id (`Staging`), so that a commit adds
exactly the reserved pairs (`Staging.commit`): the indexes of keys and codes are read off the
committed rows (`Store.participationKeys`, `Store.voucherCodes`), and stay duplicate-free.

## Main definitions

- `Staging`, `Tx.Staged`: what a transaction holds staged against the committed rows.
- `Shared`, `Shared.Reaches`: steps of transactions sharing the store.
- `Consistent`: the invariant of the stores reached.
- `Transactional`: what the store promises its transactions.
-/

namespace TopUpPromo
namespace Memory

open Concurrent
open scoped List

/-! ## Writes over rows of old and new ids -/

section Rows

variable {α : Type} (idOf : α → Int)

theorem nodup_map_upsertBy {rows : List α} (hnd : (rows.map idOf).Nodup) (row : α) :
    ((upsertBy idOf rows row).map idOf).Nodup := by
  by_cases h : ∃ r ∈ rows, idOf r = idOf row
  · rw [map_upsertBy_of_exists idOf h]
    exact hnd
  · simp only [not_exists, not_and] at h
    refine ((upsertBy_perm_of_forall_ne idOf h).map idOf).nodup_iff.2 ?_
    rw [List.map_append, List.nodup_append]
    refine ⟨hnd, List.nodup_singleton _, ?_⟩
    intro a ha b hb hab
    simp only [List.map_cons, List.map_nil, List.mem_singleton] at hb
    obtain ⟨r, hr, rfl⟩ := List.mem_map.1 ha
    exact h r hr (hab.trans hb)

theorem findBy_foldl_upsertBy {rows new : List α} (hnd : (new.map idOf).Nodup) (id : Int) :
    findBy idOf (new.foldl (upsertBy idOf) rows) id =
      (findBy idOf new id).or (findBy idOf rows id) := by
  induction new generalizing rows with
  | nil => rfl
  | cons r rest ih =>
    rw [List.map_cons, List.nodup_cons] at hnd
    rw [List.foldl_cons, ih hnd.2]
    by_cases hid : idOf r = id
    · -- no later row has the id of `r`
      have hnone : findBy idOf rest id = none := by
        refine (findBy_eq_none_iff idOf).2 fun x hx hx' => hnd.1 ?_
        rw [hid, ← hx']
        exact List.mem_map_of_mem hx
      subst hid
      rw [hnone, findBy_upsertBy_self]
      simp [findBy]
    · rw [findBy_upsertBy_of_ne idOf (Ne.symm hid)]
      simp [findBy, hid]

theorem map_foldl_upsertBy_perm {β : Type} {f : α → β} (hid : ∀ a b, f a = f b → idOf a = idOf b)
    {rows new : List α} (hnd : (rows.map idOf).Nodup) (hnew : (new.map idOf).Nodup)
    (hrows : ∀ x ∈ new, f x ∈ rows.map f ∨ idOf x ∉ rows.map idOf) :
    (new.foldl (upsertBy idOf) rows).map f ~
      rows.map f ++ (new.filter fun x => idOf x ∉ rows.map idOf).map f := by
  induction new generalizing rows with
  | nil => simp
  | cons r rest ih =>
    rw [List.map_cons, List.nodup_cons] at hnew
    have hrest : ∀ x ∈ rest, f x ∈ rows.map f ∨ idOf x ∉ rows.map idOf :=
      fun x hx => hrows x (List.mem_cons_of_mem r hx)
    rcases hrows r List.mem_cons_self with hold | hfresh
    · -- a write over the row of its name keeps the names and the ids
      obtain ⟨x, hx, hfx⟩ := List.mem_map.1 hold
      have hin : idOf r ∈ rows.map idOf := List.mem_map.2 ⟨x, hx, hid x r hfx⟩
      have hnames := map_upsertBy_of_mem idOf hid hnd hold
      have hids := map_upsertBy_of_exists idOf ⟨x, hx, hid x r hfx⟩
      have h := ih (hids ▸ hnd) hnew.2 (by rw [hnames, hids]; exact hrest)
      rw [hnames, hids] at h
      rw [List.filter_cons_of_neg (by simpa using hin)]
      exact h
    · -- a write of a new id adds its row, and the later rows have other ids
      have hne : ∀ x ∈ rows, idOf x ≠ idOf r :=
        fun x hx h => hfresh (h ▸ List.mem_map_of_mem hx)
      have hone := upsertBy_perm_of_forall_ne idOf hne
      have hids : (upsertBy idOf rows r).map idOf ~ rows.map idOf ++ [idOf r] := by
        simpa using hone.map idOf
      have hsame : ∀ x ∈ rest,
          (idOf x ∉ (upsertBy idOf rows r).map idOf ↔ idOf x ∉ rows.map idOf) := by
        intro x hx
        have hother : idOf x ≠ idOf r := fun h => hnew.1 (h ▸ List.mem_map_of_mem hx)
        rw [hids.mem_iff]
        simp [hother]
      have hrest' : ∀ x ∈ rest, f x ∈ (upsertBy idOf rows r).map f ∨
          idOf x ∉ (upsertBy idOf rows r).map idOf := by
        intro x hx
        rcases hrest x hx with h | h
        · exact .inl ((hone.map f).mem_iff.2 (by simp [h]))
        · exact .inr ((hsame x hx).2 h)
      have hfilter : (rest.filter fun x => idOf x ∉ (upsertBy idOf rows r).map idOf) =
          rest.filter fun x => idOf x ∉ rows.map idOf :=
        List.filter_congr fun x hx => decide_eq_decide.2 (hsame x hx)
      calc ((r :: rest).foldl (upsertBy idOf) rows).map f
          = (rest.foldl (upsertBy idOf) (upsertBy idOf rows r)).map f := rfl
        _ ~ (upsertBy idOf rows r).map f ++
            (rest.filter fun x => idOf x ∉ (upsertBy idOf rows r).map idOf).map f :=
          ih (nodup_map_upsertBy idOf hnd r) hnew.2 hrest'
        _ ~ (rows ++ [r]).map f ++ (rest.filter fun x => idOf x ∉ rows.map idOf).map f := by
          rw [hfilter]
          exact (hone.map f).append_right _
        _ = rows.map f ++ ((r :: rest).filter fun x => idOf x ∉ rows.map idOf).map f := by
          rw [List.filter_cons_of_pos (by simpa using hfresh)]
          simp

theorem overlay_eq_some {staged committed : List α} {id : Int} {r : α}
    (h : (findBy idOf staged id).or (findBy idOf committed id) = some r) :
    idOf r = id ∧ (r ∈ staged ∨ (r ∈ committed ∧ ∀ x ∈ staged, idOf x ≠ id)) := by
  cases hs : findBy idOf staged id with
  | some x =>
    rw [hs, Option.some_or] at h
    cases h
    obtain ⟨hmem, hid⟩ := findBy_eq_some idOf hs
    exact ⟨hid, .inl hmem⟩
  | none =>
    rw [hs, Option.none_or] at h
    obtain ⟨hmem, hid⟩ := findBy_eq_some idOf h
    exact ⟨hid, .inr ⟨hmem, (findBy_eq_none_iff idOf).1 hs⟩⟩

/-! ## Staged rows of a table -/

/-- The rows `staged` a transaction holds for one table, against the committed rows, given the
`(key, id)` pairs `inserted` it reserved: their ids are distinct, each is a row it inserted or
one over a committed row of the same key and id, and each reservation has its row. -/
structure Staging {κ : Type} (keyOf : α → κ) (committed staged : List α)
    (inserted : List (κ × Int)) : Prop where
  ids : (staged.map idOf).Nodup
  rows : ∀ r ∈ staged, (keyOf r, idOf r) ∈ inserted ∨
    (keyOf r, idOf r) ∈ committed.map fun c => (keyOf c, idOf c)
  reserved : ∀ e ∈ inserted, e ∈ staged.map fun r => (keyOf r, idOf r)

namespace Staging

variable {idOf} {κ : Type} {keyOf : α → κ} {committed staged : List α}
  {inserted : List (κ × Int)}

theorem nil : Staging idOf keyOf committed [] [] :=
  ⟨List.nodup_nil, fun _ h => absurd h List.not_mem_nil, fun _ h => absurd h List.not_mem_nil⟩

theorem mono {committed' : List α} (h : Staging idOf keyOf committed staged inserted)
    (hsub : ∀ e ∈ committed.map (fun c => (keyOf c, idOf c)),
      e ∈ committed'.map fun c => (keyOf c, idOf c)) :
    Staging idOf keyOf committed' staged inserted :=
  ⟨h.ids, fun r hr => (h.rows r hr).imp_right (hsub _), h.reserved⟩

theorem ne_next (h : Staging idOf keyOf committed staged inserted) {keys reserved : List κ}
    {next : Int} {rest : List (List (κ × Int))}
    (hreg : Registry keys reserved (committed.map idOf) next (inserted :: rest)) :
    ∀ r ∈ staged, idOf r ≠ next + 1 := by
  intro r hr
  have hle : idOf r ≤ next := by
    rcases h.rows r hr with hin | hcom
    · refine hreg.id_le _ (List.mem_append_right _ ?_)
      rw [List.flatMap_cons]
      exact List.mem_append_left _ (List.mem_map_of_mem hin)
    · obtain ⟨c, hc, hcr⟩ := List.mem_map.1 hcom
      have hid : idOf c = idOf r := congrArg Prod.snd hcr
      exact hid ▸ hreg.id_le _ (List.mem_append_left _ (List.mem_map_of_mem hc))
  omega

theorem update {row : α} (h : Staging idOf keyOf committed staged inserted)
    (hrow : (keyOf row, idOf row) ∈ staged.map (fun r => (keyOf r, idOf r)) ∨
      ((keyOf row, idOf row) ∈ committed.map (fun c => (keyOf c, idOf c)) ∧
        ∀ r ∈ staged, idOf r ≠ idOf row)) :
    Staging idOf keyOf committed (upsertBy idOf staged row) inserted where
  ids := nodup_map_upsertBy idOf h.ids row
  rows x hx := by
    rcases (mem_upsertBy idOf).1 hx with rfl | ⟨hx, -⟩
    · rcases hrow with hstaged | ⟨hcommitted, -⟩
      · obtain ⟨r, hr, hpair⟩ := List.mem_map.1 hstaged
        rw [← hpair]
        exact h.rows r hr
      · exact .inr hcommitted
    · exact h.rows x hx
  reserved e he := by
    obtain ⟨r, hr, rfl⟩ := List.mem_map.1 (h.reserved e he)
    by_cases hid : idOf r = idOf row
    · -- the write replaces `r`, and has its key and id
      rcases hrow with hstaged | ⟨-, hnone⟩
      · obtain ⟨r', hr', hpair⟩ := List.mem_map.1 hstaged
        have hid' : idOf r' = idOf row := congrArg Prod.snd hpair
        have hr'r : r' = r := List.inj_on_of_nodup_map h.ids hr' hr (hid'.trans hid.symm)
        subst hr'r
        rw [hpair]
        exact List.mem_map_of_mem ((mem_upsertBy idOf).2 (.inl rfl))
      · exact absurd hid (hnone r hr)
    · exact List.mem_map_of_mem ((mem_upsertBy idOf).2 (.inr ⟨hr, hid⟩))

theorem update_of_overlay {id : Int} {r row : α} (h : Staging idOf keyOf committed staged inserted)
    (hr : (findBy idOf staged id).or (findBy idOf committed id) = some r)
    (hpair : (keyOf row, idOf row) = (keyOf r, idOf r)) :
    Staging idOf keyOf committed (upsertBy idOf staged row) inserted := by
  obtain ⟨hid, hmem⟩ := overlay_eq_some idOf hr
  have hrow : idOf row = idOf r := congrArg Prod.snd hpair
  refine h.update ?_
  rw [hpair]
  rcases hmem with hstaged | ⟨hcommitted, hnone⟩
  · exact .inl (List.mem_map_of_mem hstaged)
  · exact .inr ⟨List.mem_map_of_mem hcommitted, fun x hx => hrow ▸ hid ▸ hnone x hx⟩

theorem insert {row : α} (h : Staging idOf keyOf committed staged inserted)
    (hfresh : ∀ r ∈ staged, idOf r ≠ idOf row) :
    Staging idOf keyOf committed (upsertBy idOf staged row)
      (inserted ++ [(keyOf row, idOf row)]) where
  ids := nodup_map_upsertBy idOf h.ids row
  rows x hx := by
    rcases (mem_upsertBy idOf).1 hx with rfl | ⟨hx, -⟩
    · exact .inl (List.mem_append_right _ (List.mem_singleton_self _))
    · exact (h.rows x hx).imp_left (List.mem_append_left _)
  reserved e he := by
    rcases List.mem_append.1 he with he | he
    · obtain ⟨r, hr, rfl⟩ := List.mem_map.1 (h.reserved e he)
      exact List.mem_map_of_mem ((mem_upsertBy idOf).2 (.inr ⟨hr, hfresh r hr⟩))
    · rw [List.mem_singleton.1 he]
      exact List.mem_map_of_mem ((mem_upsertBy idOf).2 (.inl rfl))

/-- The commit of the staged rows over committed rows of distinct ids, none of which has a
reserved id, adds exactly the reserved pairs. -/
theorem commit (h : Staging idOf keyOf committed staged inserted)
    (hnd : (committed.map idOf).Nodup) (hins : (inserted.map (·.2)).Nodup)
    (hdisjoint : ∀ e ∈ inserted, e.2 ∉ committed.map idOf) :
    (staged.foldl (upsertBy idOf) committed).map (fun c => (keyOf c, idOf c)) ~
      committed.map (fun c => (keyOf c, idOf c)) ++ inserted := by
  have hrows : ∀ x ∈ staged, (keyOf x, idOf x) ∈ committed.map (fun c => (keyOf c, idOf c)) ∨
      idOf x ∉ committed.map idOf := by
    intro x hx
    rcases h.rows x hx with hin | hcom
    · exact .inr (hdisjoint _ hin)
    · exact .inl hcom
  refine (map_foldl_upsertBy_perm idOf (fun a b hab => congrArg Prod.snd hab) hnd h.ids
    hrows).trans (List.Perm.append_left _ ?_)
  -- the rows of new ids are those inserted
  have hnew : ((staged.filter fun x => idOf x ∉ committed.map idOf).map
      fun c => (keyOf c, idOf c)).Nodup := by
    refine List.Nodup.of_map Prod.snd ?_
    rw [List.map_map]
    exact h.ids.sublist (List.filter_sublist.map idOf)
  refine (List.perm_ext_iff_of_nodup hnew (List.Nodup.of_map Prod.snd hins)).2 fun e => ⟨?_, ?_⟩
  · intro he
    obtain ⟨x, hx, rfl⟩ := List.mem_map.1 he
    rw [List.mem_filter] at hx
    rcases h.rows x hx.1 with hin | hcom
    · exact hin
    · obtain ⟨c, hc, hcx⟩ := List.mem_map.1 hcom
      have hidc : idOf c = idOf x := congrArg Prod.snd hcx
      have hnot : idOf x ∉ committed.map idOf := by simpa using hx.2
      exact absurd (hidc ▸ List.mem_map_of_mem hc) hnot
  · intro he
    obtain ⟨x, hx, hpair⟩ := List.mem_map.1 (h.reserved e he)
    refine List.mem_map.2 ⟨x, List.mem_filter.2 ⟨hx, ?_⟩, hpair⟩
    have hnot := hdisjoint e he
    rw [← hpair] at hnot
    simpa using hnot

end Staging

end Rows

/-! ## What an open transaction holds -/

/-- What an open transaction holds against the committed store `s`: staged campaigns of distinct
ids, and staged participations and vouchers as `Staging` says, against the keys and the codes it
reserved. -/
structure Tx.Staged (s : Store) (t : Tx) : Prop where
  campaigns : (t.campaigns.map (·.id)).Nodup
  participations : Staging (fun p : Participation => p.id)
    (fun p : Participation => (p.userId, p.campaignId)) s.participations t.participations t.newKeys
  vouchers : Staging (fun v : Voucher => v.id) (fun v : Voucher => v.code) s.vouchers t.vouchers
    t.newCodes

namespace Tx

theorem campaign_eq (s : Store) (t : Tx) (id : Int) :
    campaign s t id = (findBy (·.id) t.campaigns id).or (findBy (·.id) s.campaigns id) := by
  unfold campaign
  cases findBy (·.id) t.campaigns id <;> rfl

theorem participation_eq (s : Store) (t : Tx) (id : Int) :
    participation s t id =
      (findBy (·.id) t.participations id).or (findBy (·.id) s.participations id) := by
  unfold participation
  cases findBy (·.id) t.participations id <;> rfl

theorem voucher_eq (s : Store) (t : Tx) (id : Int) :
    voucher s t id = (findBy (·.id) t.vouchers id).or (findBy (·.id) s.vouchers id) := by
  unfold voucher
  cases findBy (·.id) t.vouchers id <;> rfl

theorem lock_tx_cases (ctx : Ctx) (key : LockKey) (s : Store) (t : Tx) :
    (lock ctx key s t).2.2 = t ∨ (lock ctx key s t).2.2 = { t with held := t.held ++ [key] } := by
  unfold lock
  repeat' (first | exact .inl rfl | exact .inr rfl | split | dsimp only)

namespace Staged

variable {s s' : Store} {t t' : Tx}

theorem of_rows (h : t.Staged s) (hp : s'.participations = s.participations)
    (hv : s'.vouchers = s.vouchers) : t.Staged s' :=
  ⟨h.campaigns, by rw [hp]; exact h.participations, by rw [hv]; exact h.vouchers⟩

theorem of_tx (h : t.Staged s) (hc : t'.campaigns = t.campaigns)
    (hp : t'.participations = t.participations) (hv : t'.vouchers = t.vouchers)
    (hk : t'.newKeys = t.newKeys) (hcodes : t'.newCodes = t.newCodes) : t'.Staged s :=
  ⟨hc ▸ h.campaigns, by rw [hp, hk]; exact h.participations,
    by rw [hv, hcodes]; exact h.vouchers⟩

theorem empty (o : Nat) : Tx.Staged s ⟨o, [], [], [], [], [], []⟩ :=
  ⟨List.nodup_nil, Staging.nil, Staging.nil⟩

theorem reads (h : t.Staged s) (id : Int) :
    campaign s t id = findBy (·.id) (t.commit s).campaigns id ∧
      participation s t id = findBy (·.id) (t.commit s).participations id ∧
      voucher s t id = findBy (·.id) (t.commit s).vouchers id := by
  refine ⟨?_, ?_, ?_⟩
  · rw [campaign_eq, commit_campaigns, findBy_foldl_upsertBy _ h.campaigns]
  · rw [participation_eq, commit_participations,
      findBy_foldl_upsertBy _ h.participations.ids]
  · rw [voucher_eq, commit_vouchers, findBy_foldl_upsertBy _ h.vouchers.ids]

end Staged

end Tx

/-! ## Calls inside a transaction, under agreeing locks -/

namespace Change

variable {s s' : Store} {t? t'? : Option Tx}

theorem rows (hc : Change s t? s' t'?) :
    s'.campaigns = s.campaigns ∧ s'.participations = s.participations ∧
      s'.vouchers = s.vouchers := by
  cases hc <;> exact ⟨rfl, rfl, rfl⟩

theorem exists_some {t : Tx} (hc : Change s (some t) s' t'?) : ∃ t', t'? = some t' := by
  cases hc <;> exact ⟨_, rfl⟩

theorem effect {txs : List Tx} (h : LocksAgree s txs) (hc : Change s t? s' t'?) :
    Effect s t? s' t'? := by
  cases hc with
  | read => exact .read
  | stage howner hheld hkeys hcodes => exact .stage howner hheld hkeys hcodes
  | lock hmine hfree => exact .lock hmine hfree
  | handOver _ hheld hlets => exact absurd (h.kept_of_holderOf hheld) hlets
  | insertParticipation hcommitted hreserved => exact .insertParticipation hcommitted hreserved
  | insertVoucher hcommitted hreserved => exact .insertVoucher hcommitted hreserved

end Change

/-! ## Calls keep what a transaction holds -/

def TxStep.KeepsStaged {α : Type} (f : TxStep α) : Prop :=
  ∀ s t txs, Reserved s (t :: txs) → t.Staged s → (f s t).2.2.Staged (f s t).2.1

namespace Tx

theorem keepsStaged_of_eq {α : Type} {f : TxStep α} (h : ∀ s t, (f s t).2 = (s, t)) :
    TxStep.KeepsStaged f := by
  intro s t _ _ hst
  rw [h s t]
  exact hst

theorem lock_keepsStaged (ctx : Ctx) (key : LockKey) : TxStep.KeepsStaged (lock ctx key) := by
  intro s t _ _ hst
  obtain ⟨-, hp, hv⟩ := (lock_changes ctx key s t).rows
  rcases lock_tx_cases ctx key s t with h | h <;> rw [h]
  · exact hst.of_rows hp hv
  · exact (hst.of_rows hp hv).of_tx rfl rfl rfl rfl rfl

theorem readCampaign_keepsStaged (id : Int) : TxStep.KeepsStaged (readCampaign id) :=
  keepsStaged_of_eq fun _ _ => by rw [readCampaign_eq]

theorem findVoucher_keepsStaged (code : String) : TxStep.KeepsStaged (findVoucher code) := by
  refine keepsStaged_of_eq fun s t => ?_
  unfold findVoucher
  dsimp only
  split <;> rfl

theorem readVoucher_keepsStaged (id : Int) : TxStep.KeepsStaged (readVoucher id) := by
  refine keepsStaged_of_eq fun s t => ?_
  unfold readVoucher
  split <;> rfl

theorem updateCampaignParticipants_keepsStaged (id : Int) (current : Int32)
    (status : CampaignStatus) :
    TxStep.KeepsStaged (updateCampaignParticipants id current status) := by
  intro s t _ _ hst
  unfold updateCampaignParticipants
  cases campaign s t id with
  | none => exact hst
  | some c =>
    dsimp only
    split
    · exact hst
    · exact ⟨nodup_map_upsertBy _ hst.campaigns _, hst.participations, hst.vouchers⟩

theorem updateParticipationStatus_keepsStaged (id : Int) (status : ParticipationStatus)
    (stamp : Instant) : TxStep.KeepsStaged (updateParticipationStatus id status stamp) := by
  intro s t _ _ hst
  unfold updateParticipationStatus
  cases hrow : participation s t id with
  | none => exact hst
  | some p =>
    rw [participation_eq] at hrow
    -- a new status keeps the participation's key and id
    have hpair : (((p.withStatus status stamp).userId, (p.withStatus status stamp).campaignId),
        (p.withStatus status stamp).id) = ((p.userId, p.campaignId), p.id) := by
      cases status <;> rfl
    exact ⟨hst.campaigns, hst.participations.update_of_overlay hrow hpair, hst.vouchers⟩

theorem markVoucherUsed_keepsStaged (id : Int) (u : Usage) :
    TxStep.KeepsStaged (markVoucherUsed id u) := by
  intro s t _ _ hst
  unfold markVoucherUsed
  cases hrow : voucher s t id with
  | none => exact hst
  | some v =>
    rw [voucher_eq] at hrow
    dsimp only
    split
    · exact ⟨hst.campaigns, hst.participations, hst.vouchers.update_of_overlay hrow rfl⟩
    · exact hst

theorem markVoucherExpired_keepsStaged (id : Int) :
    TxStep.KeepsStaged (markVoucherExpired id) := by
  intro s t _ _ hst
  unfold markVoucherExpired
  cases hrow : voucher s t id with
  | none => exact hst
  | some v =>
    rw [voucher_eq] at hrow
    dsimp only
    split
    · exact ⟨hst.campaigns, hst.participations, hst.vouchers.update_of_overlay hrow rfl⟩
    · exact hst

theorem createParticipation_keepsStaged (p : Participation) :
    TxStep.KeepsStaged (createParticipation p) := by
  intro s t txs hr hst
  by_cases htaken : (p.userId, p.campaignId) ∈ s.participationKeys ∨
      (p.userId, p.campaignId) ∈ s.reservedKeys
  · rw [createParticipation_of_taken htaken]
    exact hst
  · rw [createParticipation_of_free htaken]
    have hreg := hr.participations
    simp only [List.map_cons] at hreg
    exact ⟨hst.campaigns, hst.participations.insert (hst.participations.ne_next hreg),
      hst.vouchers⟩

theorem createVoucher_keepsStaged (v : Voucher) : TxStep.KeepsStaged (createVoucher v) := by
  intro s t txs hr hst
  by_cases htaken : v.code ∈ s.voucherCodes ∨ v.code ∈ s.reservedCodes
  · rw [createVoucher_of_taken htaken]
    exact hst
  · rw [createVoucher_of_free htaken]
    have hreg := hr.vouchers
    simp only [List.map_cons] at hreg
    exact ⟨hst.campaigns, hst.participations, hst.vouchers.insert (hst.vouchers.ne_next hreg)⟩

end Tx

theorem TxStep.KeepsStaged.step {α : Type} {f : TxStep α} (hf : TxStep.KeepsStaged f)
    {s : Store} {t : Tx} {txs : List Tx} (hr : Reserved s (t :: txs)) (hst : t.Staged s)
    {t' : Tx} (ht' : (Backend.step ⟨s, some t⟩ f).2.current = some t') :
    t'.Staged (Backend.step ⟨s, some t⟩ f).2.store := by
  have hstep : (Backend.step ⟨s, some t⟩ f).2 = ⟨(f s t).2.1, some (f s t).2.2⟩ := rfl
  rw [hstep] at ht' ⊢
  cases ht'
  exact hf s t txs hr hst

end Memory

namespace Concurrent

open Memory

theorem Call.perform_staged (o : Oracle) {s : Store} {t : Tx} {txs : List Tx} {c : Call}
    (hc : c.inner = true) (hr : Reserved s (t :: txs)) (hst : t.Staged s) {t' : Tx}
    (ht' : (c.perform o ⟨s, some t⟩).2.current = some t') :
    t'.Staged (c.perform o ⟨s, some t⟩).2.store := by
  cases c with
  | createCampaign | begin | finish => simp [Call.inner] at hc
  | getCampaign | findLatestActiveCampaign | listActiveCampaigns | hasParticipation
    | listParticipationsByUser | getVoucherByCode | listVouchersByUser | nextCode
    | confirmPayment | nextSuffix =>
    cases ht'
    exact hst
  | lock ctx key => exact (Tx.lock_keepsStaged ctx key).step hr hst ht'
  | readCampaign id => exact (Tx.readCampaign_keepsStaged id).step hr hst ht'
  | updateCampaignParticipants id current status =>
    exact (Tx.updateCampaignParticipants_keepsStaged id current status).step hr hst ht'
  | createParticipation p => exact (Tx.createParticipation_keepsStaged p).step hr hst ht'
  | updateParticipationStatus id status stamp =>
    exact (Tx.updateParticipationStatus_keepsStaged id status stamp).step hr hst ht'
  | createVoucher v => exact (Tx.createVoucher_keepsStaged v).step hr hst ht'
  | findVoucher code => exact (Tx.findVoucher_keepsStaged code).step hr hst ht'
  | readVoucher id => exact (Tx.readVoucher_keepsStaged id).step hr hst ht'
  | markVoucherUsed id usage => exact (Tx.markVoucherUsed_keepsStaged id usage).step hr hst ht'
  | markVoucherExpired id => exact (Tx.markVoucherExpired_keepsStaged id).step hr hst ht'

end Concurrent

namespace Memory

open Concurrent
open scoped List


/-! ## Ending a transaction -/

theorem Backend.finish_cases (s : Store) (t : Tx) (ctx : Ctx) (r : Except Failure Unit) :
    ((r = .ok () ∧ ctx.failure? = none) ∧
        (Backend.finish ⟨s, some t⟩ ctx r).2 = ⟨t.commit s, none⟩) ∨
      (¬(r = .ok () ∧ ctx.failure? = none) ∧
        (Backend.finish ⟨s, some t⟩ ctx r).2 = ⟨t.rollback s, none⟩) := by
  rcases r with e | u
  · exact .inr ⟨(fun h => by cases h.1), rfl⟩
  · cases hf : ctx.failure? with
    | none => exact .inl ⟨⟨rfl, rfl⟩, by simp [Backend.finish, hf]⟩
    | some f => exact .inr ⟨(fun h => by cases h.2), by simp [Backend.finish, hf]⟩

theorem Store.owner_ne_of_releaseOwner {s : Store} {o : Nat} {e : LockKey × Holder}
    (he : e ∈ (s.releaseOwner o).locks) : e.2.owner ≠ o := by
  simp only [Store.releaseOwner, List.mem_filter, bne_iff_ne, ne_eq] at he
  exact he.2

namespace Reserved

variable {s : Store} {t : Tx} {txs : List Tx}

theorem commit_pairs (h : Reserved s (t :: txs)) (hst : t.Staged s) :
    (t.commit s).participations.map (fun p => ((p.userId, p.campaignId), p.id)) ~
        s.participations.map (fun p => ((p.userId, p.campaignId), p.id)) ++ t.newKeys ∧
      (t.commit s).vouchers.map (fun v => (v.code, v.id)) ~
        s.vouchers.map (fun v => (v.code, v.id)) ++ t.newCodes := by
  have hpr := h.participations
  have hvr := h.vouchers
  simp only [List.map_cons] at hpr hvr
  have hpids := hpr.ids_nodup
  have hvids := hvr.ids_nodup
  simp only [List.flatMap_cons] at hpids hvids
  refine ⟨hst.participations.commit hpids.of_append_left
    (hpids.of_append_right.of_append_left) fun e he => hpr.id_not_mem he,
    hst.vouchers.commit hvids.of_append_left
    (hvids.of_append_right.of_append_left) fun e he => hvr.id_not_mem he⟩

theorem commit_staged (h : Reserved s (t :: txs)) (hst : t.Staged s) :
    Reserved (t.commit s) txs := by
  obtain ⟨hp, hv⟩ := h.commit_pairs hst
  have hpr := h.participations
  have hvr := h.vouchers
  simp only [List.map_cons] at hpr hvr
  refine ⟨hpr.commit ?_ ?_, hvr.commit ?_ ?_⟩
  · simpa [Store.participationKeys, List.map_map, Function.comp_def] using hp.map Prod.fst
  · simpa [List.map_map, Function.comp_def] using hp.map Prod.snd
  · simpa [Store.voucherCodes, List.map_map, Function.comp_def] using hv.map Prod.fst
  · simpa [List.map_map, Function.comp_def] using hv.map Prod.snd

end Reserved

/-! ## Transactions sharing the store -/

/-- One step of transaction bodies sharing the store, `txs` being the transactions open: a body
opens its transaction; a body makes a call inside its open transaction (a read of the store, a
call on the transaction, or a question to the outside world); a campaign is created; or a body
ends its transaction with its result under its context. Any open transaction may be the one
that moves (`perm`). -/
inductive Shared : Store → List Tx → Store → List Tx → Prop
  | begin (s : Store) (txs : List Tx) : Shared s txs s.begin.2 (s.begin.1 :: txs)
  | call {s : Store} {t : Tx} {rest : List Tx} (o : Oracle) {c : Call} (hc : c.inner = true) :
      Shared s (t :: rest) (c.perform o ⟨s, some t⟩).2.store
        ((c.perform o ⟨s, some t⟩).2.current.toList ++ rest)
  | createCampaign (s : Store) (txs : List Tx) (c : Campaign) :
      Shared s txs (s.createCampaign c).2 txs
  | finish {s : Store} {t : Tx} {rest : List Tx} (ctx : Ctx) (r : Except Failure Unit) :
      Shared s (t :: rest) (Backend.finish ⟨s, some t⟩ ctx r).2.store rest
  | perm {s : Store} {txs txs' : List Tx} (hp : txs ~ txs') : Shared s txs s txs'

/-- The stores, with their open transactions, that steps of transactions reach from `s0` with
none open. -/
inductive Shared.Reaches (s0 : Store) : Store → List Tx → Prop
  | start : Shared.Reaches s0 s0 []
  | step {s s' : Store} {txs txs' : List Tx} :
      Shared.Reaches s0 s txs → Shared s txs s' txs' → Shared.Reaches s0 s' txs'

/-- The store agrees with its open transactions, each of which holds its staged rows as
`Tx.Staged` says. -/
structure Consistent (s : Store) (txs : List Tx) : Prop where
  coherent : Coherent s txs
  staged : ∀ t ∈ txs, t.Staged s

namespace Consistent

variable {s s' : Store} {txs txs' : List Tx}

theorem perm (h : Consistent s txs) (hp : txs ~ txs') : Consistent s txs' :=
  ⟨h.coherent.perm hp, fun t ht => h.staged t (hp.mem_iff.2 ht)⟩

theorem staged_of_commit {t u : Tx} {rest : List Tx} (h : Consistent s (t :: rest))
    (hu : u ∈ rest) : u.Staged (t.commit s) := by
  obtain ⟨hp, hv⟩ := h.coherent.reserved.commit_pairs (h.staged t List.mem_cons_self)
  have hu' := h.staged u (List.mem_cons_of_mem t hu)
  exact ⟨hu'.campaigns,
    hu'.participations.mono fun e he => hp.mem_iff.2 (List.mem_append_left _ he),
    hu'.vouchers.mono fun e he => hv.mem_iff.2 (List.mem_append_left _ he)⟩

theorem shared (h : Consistent s txs) (hs : Shared s txs s' txs') : Consistent s' txs' := by
  cases hs with
  | begin =>
    have hnone : Coherent s ((none : Option Tx).toList ++ txs) := h.coherent
    refine ⟨hnone.effect .begin, fun u hu => ?_⟩
    rcases List.mem_cons.1 hu with rfl | hu
    · exact Tx.Staged.empty _
    · exact (h.staged u hu).of_rows rfl rfl
  | @call t rest o c hc =>
    have hchange := Call.perform_change o ⟨s, some t⟩ hc
    obtain ⟨t', ht'⟩ := hchange.exists_some
    obtain ⟨-, hp, hv⟩ := hchange.rows
    refine ⟨h.coherent.effect (hchange.effect h.coherent.locks), fun u hu => ?_⟩
    rw [ht'] at hu
    rcases List.mem_cons.1 hu with rfl | hu
    · exact Call.perform_staged o hc h.coherent.reserved (h.staged t List.mem_cons_self) ht'
    · exact (h.staged u (List.mem_cons_of_mem t hu)).of_rows hp hv
  | createCampaign =>
    exact ⟨⟨h.coherent.locks.of_store rfl rfl,
      h.coherent.reserved.of_store rfl rfl rfl rfl rfl rfl⟩,
      fun u hu => (h.staged u hu).of_rows rfl rfl⟩
  | @finish t rest ctx r =>
    rcases Backend.finish_cases s t ctx r with ⟨-, hfin⟩ | ⟨-, hfin⟩ <;> rw [hfin]
    · exact ⟨⟨h.coherent.locks.release rfl rfl,
        h.coherent.reserved.commit_staged (h.staged t List.mem_cons_self)⟩,
        fun u hu => h.staged_of_commit hu⟩
    · exact ⟨⟨h.coherent.locks.release rfl rfl, h.coherent.reserved.rollback⟩,
        fun u hu => (h.staged u (List.mem_cons_of_mem t hu)).of_rows rfl rfl⟩
  | perm hp => exact h.perm hp

end Consistent

theorem Shared.Reaches.consistent {s0 : Store} (h0 : Coherent s0 []) {s : Store} {txs : List Tx}
    (hreach : Shared.Reaches s0 s txs) : Consistent s txs := by
  induction hreach with
  | start => exact ⟨h0, fun _ ht => absurd ht List.not_mem_nil⟩
  | step _ hs ih => exact ih.shared hs

/-! ## What the store promises its transactions -/

/-- What the store `s`, with open transactions `txs`, promises them.

- `reads`: an open transaction reads each row as its own staged row when it has one and as the
  committed row otherwise, that is, as the row its commit would write. `Tx.campaign`,
  `Tx.participation` and `Tx.voucher` are how locking a campaign or a voucher, changing a
  participation's status, and using or expiring a voucher read.
- `calls`: a call inside an open transaction writes no committed row, so the store's own reads
  see the committed rows only.
- `commit`: ending a transaction whose body succeeded, under a live context, writes its staged
  rows over the committed rows of that moment, and adds exactly the keys and codes it reserved,
  with their ids, to the committed ones.
- `rollback`: ending it otherwise leaves the committed rows as they are.
- `released`: either way its reservations go, leaving exactly those of the other open
  transactions, and none of its locks is left.
- `quiescent`: with no transaction open, the committed participation keys and voucher codes
  are each unique, and no reservation and no lock is left. -/
structure Transactional (s : Store) (txs : List Tx) : Prop where
  reads : ∀ t ∈ txs, ∀ id,
    Tx.campaign s t id = findBy (·.id) (t.commit s).campaigns id ∧
      Tx.participation s t id = findBy (·.id) (t.commit s).participations id ∧
      Tx.voucher s t id = findBy (·.id) (t.commit s).vouchers id
  calls : ∀ t ∈ txs, ∀ (o : Oracle) (c : Call), c.inner = true →
    let s' := (c.perform o ⟨s, some t⟩).2.store
    s'.campaigns = s.campaigns ∧ s'.participations = s.participations ∧ s'.vouchers = s.vouchers
  commit : ∀ t ∈ txs, ∀ ctx : Ctx, ctx.failure? = none →
    let s' := (Backend.finish ⟨s, some t⟩ ctx (.ok ())).2.store
    s'.campaigns = t.campaigns.foldl (upsertBy (·.id)) s.campaigns ∧
      s'.participations = t.participations.foldl (upsertBy (·.id)) s.participations ∧
      s'.vouchers = t.vouchers.foldl (upsertBy (·.id)) s.vouchers ∧
      s'.participations.map (fun p => ((p.userId, p.campaignId), p.id)) ~
        s.participations.map (fun p => ((p.userId, p.campaignId), p.id)) ++ t.newKeys ∧
      s'.vouchers.map (fun v => (v.code, v.id)) ~
        s.vouchers.map (fun v => (v.code, v.id)) ++ t.newCodes
  rollback : ∀ t ∈ txs, ∀ (ctx : Ctx) (r : Except Failure Unit),
    ¬(r = .ok () ∧ ctx.failure? = none) →
    let s' := (Backend.finish ⟨s, some t⟩ ctx r).2.store
    s'.campaigns = s.campaigns ∧ s'.participations = s.participations ∧ s'.vouchers = s.vouchers
  released : ∀ t rest, txs ~ t :: rest → ∀ (ctx : Ctx) (r : Except Failure Unit),
    let s' := (Backend.finish ⟨s, some t⟩ ctx r).2.store
    s'.reservedKeys ~ rest.flatMap (fun u => u.newKeys.map (·.1)) ∧
      s'.reservedCodes ~ rest.flatMap (fun u => u.newCodes.map (·.1)) ∧
      ∀ e ∈ s'.locks, e.2.owner ≠ t.owner
  quiescent : txs = [] → s.locks = [] ∧ s.reservedKeys = [] ∧ s.reservedCodes = [] ∧
    s.participationKeys.Nodup ∧ s.voucherCodes.Nodup

namespace Consistent

variable {s : Store} {txs : List Tx}

theorem released {t : Tx} {rest : List Tx} (h : Consistent s (t :: rest)) (ctx : Ctx)
    (r : Except Failure Unit) :
    let s' := (Backend.finish ⟨s, some t⟩ ctx r).2.store
    Reserved s' rest ∧ ∀ e ∈ s'.locks, e.2.owner ≠ t.owner := by
  rcases Backend.finish_cases s t ctx r with ⟨-, hfin⟩ | ⟨-, hfin⟩ <;> simp only [hfin]
  · exact ⟨h.coherent.reserved.commit_staged (h.staged t List.mem_cons_self),
      fun e he => Store.owner_ne_of_releaseOwner he⟩
  · exact ⟨h.coherent.reserved.rollback, fun e he => Store.owner_ne_of_releaseOwner he⟩

theorem transactional (h : Consistent s txs) : Transactional s txs where
  reads t ht id := (h.staged t ht).reads id
  calls t _ o c hc := (Call.perform_change o ⟨s, some t⟩ hc).rows
  commit t ht ctx hctx := by
    have hfin : (Backend.finish ⟨s, some t⟩ ctx (.ok ())).2 = ⟨t.commit s, none⟩ := by
      simp [Backend.finish, hctx]
    obtain ⟨l₁, l₂, rfl⟩ := List.append_of_mem ht
    have h' := h.perm List.perm_middle
    obtain ⟨hp, hv⟩ := h'.coherent.reserved.commit_pairs (h'.staged t List.mem_cons_self)
    simp only [hfin]
    exact ⟨rfl, rfl, rfl, hp, hv⟩
  rollback t _ ctx r hr := by
    rcases Backend.finish_cases s t ctx r with ⟨hok, -⟩ | ⟨-, hfin⟩
    · exact absurd hok hr
    · simp only [hfin]
      exact ⟨rfl, rfl, rfl⟩
  released t rest hp ctx r := by
    obtain ⟨hreserved, hlocks⟩ := (h.perm hp).released ctx r
    refine ⟨?_, ?_, hlocks⟩
    · simpa [List.flatMap_map] using hreserved.participations.reserved_eq
    · simpa [List.flatMap_map] using hreserved.vouchers.reserved_eq
  quiescent hnil := by
    subst hnil
    have hp := h.coherent.reserved.participations
    have hv := h.coherent.reserved.vouchers
    refine ⟨?_, by simpa using hp.reserved_eq, by simpa using hv.reserved_eq,
      hp.keys.of_append_left, hv.keys.of_append_left⟩
    -- every lock belongs to an open transaction, and none is open
    refine List.eq_nil_iff_forall_not_mem.2 fun e he => ?_
    obtain ⟨-, t, ht, -⟩ := h.coherent.locks.lock_holder e he
    exact absurd ht List.not_mem_nil

end Consistent

/-- Transactions sharing the store, started from a store that agrees with having none open, get
what `Transactional` says in every store they reach, whatever they call and in whatever order. -/
theorem transactions_stage_then_commit {s0 : Store} (h0 : Coherent s0 []) {s : Store}
    {txs : List Tx} (hreach : Shared.Reaches s0 s txs) : Transactional s txs :=
  (hreach.consistent h0).transactional

theorem Coherent.empty : Coherent ({} : Store) [] := by
  refine ⟨⟨?_, ?_, ?_, ?_, ?_⟩, ⟨⟨?_, ?_, ?_, ?_⟩, ⟨?_, ?_, ?_, ?_⟩⟩⟩ <;>
    simp [Store.participationKeys, Store.voucherCodes]

def oneInserted : Store :=
  { participations := [{ (default : Participation) with id := 1 }], nextParticipationId := 1,
    nextOwner := 1 }

/-- On the empty store, a transaction that inserts one participation and commits leaves it
committed under id 1, with no reservation and no lock. -/
theorem transactions_commit_one_insert :
    Coherent ({} : Store) [] ∧ Shared.Reaches {} oneInserted [] ∧
      Transactional oneInserted [] :=
  have hreach : Shared.Reaches {} oneInserted [] :=
    .step (.step (.step .start (.begin _ _))
      (.call ⟨.ok "", .ok true, ""⟩ (c := .createParticipation default) rfl))
      (.finish .live (.ok ()))
  ⟨Coherent.empty, hreach, transactions_stage_then_commit Coherent.empty hreach⟩

end Memory
end TopUpPromo
