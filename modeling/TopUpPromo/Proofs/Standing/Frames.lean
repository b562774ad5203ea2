import TopUpPromo.Proofs.Standing.Rows
import TopUpPromo.Proofs.Redemption.Steps

/-!
# Commits seen from the other transactions

Three kinds of commit write rows. An admission inserts a participation and its voucher under new
ids and a new code, and bumps the counter of the campaign it has locked; a top-up or a check
rewrites the voucher it has locked and the participation the voucher names; the creation of a
campaign inserts it under a new id.

`Store.Extends` says what a commit of inserts keeps: every committed row under its id, the
voucher each code names, and whose each voucher is. What a top-up or a check knows of the store
survives it (`TopUpStage.Holds.of_extends`, `CheckStage.Holds.of_extends`), as it survives what a
transaction holding another code overwrites (`TopUpStage.Holds.of_overwrites`).

`Tx.Settlement` is what a top-up or a check commits when it writes: one voucher and the
participation it names, rewritten in one of the pairings of `Participation.Configured`. Its
commit keeps the rows standing (`Tx.Settlement.standing`) and the identities of the
participations (`Tx.Settlement.identities`), and with them the registries of ids and keys
(`Reserved.update`, `Coherent.touch`).
-/

namespace TopUpPromo
namespace Memory

open scoped List

/-! ## Commits of inserts -/

namespace Store

theorem voucherId_of_mem {s : Store} {x : Voucher} (hcodes : (s.vouchers.map (·.code)).Nodup)
    (hx : x ∈ s.vouchers) : s.voucherId x.code = some x.id := by
  obtain ⟨y, hy⟩ : ∃ y, s.vouchers.find? (·.code == x.code) = some y :=
    Option.isSome_iff_exists.1 (List.find?_isSome.2 ⟨x, hx, by simp⟩)
  have hyx : y = x :=
    List.inj_on_of_nodup_map hcodes (List.mem_of_find?_eq_some hy) hx
      (by simpa using List.find?_some hy)
  simp [voucherId, hy, hyx]

theorem joinVoucher_of_findBy {s s' : Store} {v : Voucher}
    (h : findBy (·.id) s'.participations v.participationId =
      findBy (·.id) s.participations v.participationId) :
    s'.joinVoucher [] v = s.joinVoucher [] v := by
  unfold joinVoucher
  rw [h]

/-- How the store `s'` after a commit of inserts stands to `s`: every committed voucher and
participation is still a row under its id, each code names the voucher it named, and a voucher
joined with its participation reads as before. -/
structure Extends (s s' : Store) : Prop where
  vouchers : ∀ id v, findBy (·.id) s.vouchers id = some v → findBy (·.id) s'.vouchers id = some v
  named : ∀ c id, s.voucherId c = some id → s'.voucherId c = some id
  participations : ∀ p ∈ s.participations, p ∈ s'.participations
  joins : ∀ v ∈ s.vouchers, s'.joinVoucher [] v = s.joinVoucher [] v

theorem Extends.mem_map {s s' : Store} {β : Type} (hx : s.Extends s') (f : Participation → β) :
    ∀ b ∈ s.participations.map f, b ∈ s'.participations.map f := by
  intro b hb
  obtain ⟨p, hp, rfl⟩ := List.mem_map.1 hb
  exact List.mem_map_of_mem (hx.participations p hp)

theorem extends_of_rows {s s' : Store} (hv : ∀ v ∈ s.vouchers, v ∈ s'.vouchers)
    (hp : ∀ p ∈ s.participations, p ∈ s'.participations)
    (hvids : (s'.vouchers.map (·.id)).Nodup) (hcodes : (s'.vouchers.map (·.code)).Nodup)
    (hpids : (s'.participations.map (·.id)).Nodup)
    (hnamed : ∀ v ∈ s.vouchers, v.participationId ∈ s.participations.map (·.id)) :
    s.Extends s' where
  vouchers id v h := by
    obtain ⟨hmem, rfl⟩ := findBy_eq_some _ h
    exact findBy_of_mem _ hvids (hv v hmem)
  named c id h := by
    simp only [voucherId, Option.map_eq_some_iff] at h
    obtain ⟨x, hx, rfl⟩ := h
    have hcode : x.code = c := by simpa using List.find?_some hx
    rw [← hcode]
    exact voucherId_of_mem hcodes (hv x (List.mem_of_find?_eq_some hx))
  participations := hp
  joins v hv' := by
    apply joinVoucher_of_findBy
    -- the participation the voucher names is a row of both stores, under the same id
    obtain ⟨q, hq⟩ : ∃ q, findBy (·.id) s.participations v.participationId = some q := by
      obtain ⟨q, hqmem, hqid⟩ := List.mem_map.1 (hnamed v hv')
      exact Option.isSome_iff_exists.1 (List.find?_isSome.2 ⟨q, hqmem, by simp [hqid]⟩)
    obtain ⟨hqmem, hqid⟩ := findBy_eq_some _ hq
    rw [hq, ← hqid]
    exact findBy_of_mem _ hpids (hp q hqmem)

theorem RowOf.of_extends {s s' : Store} {c : String} {v0 : Voucher} (h : s.RowOf c v0)
    (hx : s.Extends s') : s'.RowOf c v0 :=
  ⟨hx.vouchers _ _ h.row, h.code, hx.named _ _ h.named⟩

end Store

theorem Tx.Guard.of_extends {s s' : Store} {t : Tx} (hg : t.Guard s) (hx : s.Extends s') :
    t.Guard s' where
  campaigns := hg.campaigns
  keys := hg.keys
  codes := hg.codes
  vouchers v hv := by
    obtain ⟨hheld, v0, hrow, hcode, hactive⟩ := hg.vouchers v hv
    exact ⟨hheld, v0, hx.vouchers _ _ hrow, hcode, hactive⟩
  participations p hp := hx.mem_map _ _ (hg.participations p hp)

/-! ## Commits of a top-up or a check -/

/-- What a top-up or a check commits when it writes: the committed voucher `v0` rewritten as `v`,
of the same id and participation, and the committed participation `q` that `v0` names rewritten
as `p`, of the same identity and configured with `v`; no campaign. -/
structure Tx.Settlement (s : Store) (t : Tx) (v0 v : Voucher) (q p : Participation) : Prop where
  campaigns : t.campaigns = []
  vouchers : t.vouchers = [v]
  participations : t.participations = [p]
  row : v0 ∈ s.vouchers
  id_eq : v.id = v0.id
  names : v.participationId = v0.participationId
  participation : q ∈ s.participations
  participation_id : q.id = v0.participationId
  identity : p.identity = q.identity
  configured : p.Configured [v]

namespace Tx.Settlement

variable {s : Store} {t : Tx} {v0 v : Voucher} {q p : Participation}

theorem standing (h : t.Settlement s v0 v q p) (hs : Standing s)
    (hvids : (s.vouchers.map (·.id)).Nodup) : Standing (t.commit s) :=
  hs.settle hvids h.row h.id_eq h.names h.participation h.participation_id h.identity
    h.configured (by simp [h.vouchers]) (by simp [h.participations]) (by simp [h.campaigns])

/-- The commit rewrites a participation in place: the identities stay as they were. -/
theorem identities (h : t.Settlement s v0 v q p) (hpids : (s.participations.map (·.id)).Nodup) :
    (t.commit s).participations.map Participation.identity =
      s.participations.map Participation.identity := by
  rw [Tx.commit_participations, h.participations, List.foldl_cons, List.foldl_nil]
  refine map_upsertBy_of_mem _ (fun a b hab => congrArg Prod.fst hab) hpids ?_
  rw [h.identity]
  exact List.mem_map_of_mem h.participation

end Tx.Settlement

/-- The commit of a transaction that inserted nothing, keeping the ids and codes of the vouchers
and the identities of the participations, keeps the registries of the other transactions. -/
theorem Reserved.update {s : Store} {t : Tx} {txs : List Tx} (h : Reserved s (t :: txs))
    (hkeys : t.newKeys = []) (hcodes : t.newCodes = [])
    (hvouchers : (t.commit s).vouchers.map Voucher.key = s.vouchers.map Voucher.key)
    (hparticipations : (t.commit s).participations.map Participation.identity =
      s.participations.map Participation.identity) :
    Reserved (t.commit s) txs := by
  have hpr := h.participations
  have hvr := h.vouchers
  simp only [List.map_cons, hkeys, hcodes] at hpr hvr
  -- keys and ids are read off the identities and the voucher keys
  have hpk : (t.commit s).participationKeys = s.participationKeys := by
    have := congrArg (List.map fun x : Int × Int × Int => x.2) hparticipations
    simpa [List.map_map, Function.comp_def, Store.participationKeys,
      Participation.identity] using this
  have hpid : (t.commit s).participations.map (·.id) = s.participations.map (·.id) := by
    have := congrArg (List.map Prod.fst) hparticipations
    simpa [List.map_map, Function.comp_def, Participation.identity] using this
  have hvc : (t.commit s).voucherCodes = s.voucherCodes := by
    have := congrArg (List.map Prod.snd) hvouchers
    simpa [List.map_map, Function.comp_def, Store.voucherCodes, Voucher.key] using this
  have hvid : (t.commit s).vouchers.map (·.id) = s.vouchers.map (·.id) := by
    have := congrArg (List.map Prod.fst) hvouchers
    simpa [List.map_map, Function.comp_def, Voucher.key] using this
  refine ⟨?_, ?_⟩
  · rw [Tx.commit_reservedKeys, Tx.commit_nextParticipationId, hkeys, hpk, hpid]
    exact hpr.commit (by simp) (by simp)
  · rw [Tx.commit_reservedCodes, Tx.commit_nextVoucherId, hcodes, hvc, hvid]
    exact hvr.commit (by simp) (by simp)

namespace Reserved

variable {s : Store} {txs : List Tx}

theorem voucherIds (h : Reserved s txs) : (s.vouchers.map (·.id)).Nodup :=
  h.vouchers.ids_nodup.sublist (List.sublist_append_left _ _)

theorem voucherCodes (h : Reserved s txs) : (s.vouchers.map (·.code)).Nodup :=
  h.vouchers.keys.sublist (List.sublist_append_left _ _)

theorem participationIds (h : Reserved s txs) : (s.participations.map (·.id)).Nodup :=
  h.participations.ids_nodup.sublist (List.sublist_append_left _ _)

end Reserved

/-- A touch of a guarded transaction keeps the store in agreement with the open transactions,
when its commit keeps the identities of the participations. -/
theorem Coherent.touch {s s' : Store} {t? t'? : Option Tx} {txs : List Tx}
    (h : Coherent s (t?.toList ++ txs)) (ht : Touch s t? s' t'?)
    (hg : ∀ t, t? = some t → t.Guard s) (hg' : ∀ t, t'? = some t → t.Guard s')
    (hidentities : s'.participations.map Participation.identity =
      s.participations.map Participation.identity) :
    Coherent s' (t'?.toList ++ txs) := by
  refine ⟨Touch.locks h.locks ht, ?_⟩
  have hr := h.reserved
  cases ht with
  | read => exact hr
  | @stage t t' _ _ =>
    -- neither transaction inserted anything
    exact hr.replace (by rw [(hg' t' rfl).keys, (hg t rfl).keys])
      (by rw [(hg' t' rfl).codes, (hg t rfl).codes])
  | begin => exact hr.begin
  | @lock t k _ =>
    have hr' : Reserved s ({ t with held := t.held ++ [k] } :: txs) := hr.replace rfl rfl
    exact hr'.of_store rfl rfl rfl rfl rfl rfl
  | @commit t =>
    exact hr.update (hg t rfl).keys (hg t rfl).codes
      ((hg t rfl).overwrites hr.voucherIds hr.participationIds).keys hidentities
  | rollback => exact hr.rollback

end Memory

namespace Concurrent

open Memory

/-! ## What a top-up or a check knows, over a commit of inserts -/

namespace Phase

variable {s s' : Store} {tx : Option Tx} {now : Instant} {c : String}

theorem Read.of_extends {v0 v : Voucher} (h : Read s c v0 v) (hx : s.Extends s') :
    Read s' c v0 v :=
  ⟨h.1.of_extends hx, by rw [h.2, hx.joins v0 (findBy_eq_some _ h.1.row).1]⟩

theorem Staged.of_extends {ps : List Participation} (h : Staged s ps) (hx : s.Extends s') :
    Staged s' ps :=
  fun p hp => hx.mem_map _ _ (h p hp)

theorem Found.of_extends {vid : Int} (h : Found s c vid tx) (hx : s.Extends s') :
    Found s' c vid tx :=
  ⟨h.1, hx.named _ _ h.2⟩

theorem Locked.of_extends {vid : Int} (h : Locked s c vid tx) (hx : s.Extends s') :
    Locked s' c vid tx := by
  obtain ⟨o, htx, hnamed⟩ := h
  exact ⟨o, htx, hx.named _ _ hnamed⟩

theorem Expiring.of_extends {v : Voucher} (h : Expiring s now c v tx) (hx : s.Extends s') :
    Expiring s' now c v tx := by
  obtain ⟨o, v0, htx, hread, hlapsed⟩ := h
  exact ⟨o, v0, htx, hread.of_extends hx, hlapsed⟩

theorem Closing.of_extends {v : Voucher} (h : Closing s now c v tx) (hx : s.Extends s') :
    Closing s' now c v tx := by
  obtain ⟨o, v0, htx, hread, hlapsed⟩ := h
  exact ⟨o, v0, htx, hread.of_extends hx, hlapsed⟩

theorem Ending.of_extends (h : Ending s now c tx) (hx : s.Extends s') : Ending s' now c tx := by
  obtain ⟨o, vs, ps, htx, hexpiry, hps⟩ := h
  refine ⟨o, vs, ps, htx, ?_, hps.of_extends hx⟩
  rcases hexpiry with rfl | ⟨v0, rfl, hrow, hlapsed⟩
  · exact .inl rfl
  · exact .inr ⟨v0, rfl, hrow.of_extends hx, hlapsed⟩

theorem Aborting.of_extends (h : Aborting s tx) (hx : s.Extends s') : Aborting s' tx := by
  obtain ⟨t, rfl, hg⟩ := h
  exact ⟨t, rfl, hg.of_extends hx⟩

end Phase

namespace TopUpStage

variable {now : Instant} {req : TopUpRequest} {s s' : Store} {tx : Option Tx}

theorem Recorded.of_extends {res : RedemptionResult} (h : Recorded req s res)
    (hx : s.Extends s') : Recorded req s' res := by
  obtain ⟨r, hrow, hused⟩ := h
  exact ⟨r, hrow.of_extends hx, hused⟩

/-- What a top-up knows stays true over a commit of inserts. -/
theorem Holds.of_extends {st : TopUpStage} (hh : st.Holds now req s tx) (hx : s.Extends s') :
    st.Holds now req s' tx := by
  cases st with
  | start | opening | paying | finding => exact hh
  | locking txId vid => exact Phase.Found.of_extends hh hx
  | reading txId vid => exact Phase.Locked.of_extends hh hx
  | expiring txId v => exact Phase.Expiring.of_extends hh hx
  | closing txId v => exact Phase.Closing.of_extends hh hx
  | charging txId v | marking txId v | settling txId v =>
    obtain ⟨o, v0, htx, hread, husable⟩ := hh
    exact ⟨o, v0, htx, hread.of_extends hx, husable⟩
  | committing txId used =>
    cases used with
    | none => exact Phase.Ending.of_extends hh hx
    | some v =>
      obtain ⟨o, v0, ps, htx, hread, husable, hps⟩ := hh
      exact ⟨o, v0, ps, htx, hread.of_extends hx, husable, hps.of_extends hx⟩
  | aborting txId f => exact Phase.Aborting.of_extends hh hx
  | finished r =>
    obtain ⟨htx, hrecorded⟩ := hh
    exact ⟨htx, fun res hres hempty => (hrecorded res hres hempty).of_extends hx⟩

end TopUpStage

/-- What a voucher check knows stays true over a commit of inserts. -/
theorem CheckStage.Holds.of_extends {now : Instant} {code : String} {s s' : Store}
    {tx : Option Tx} {st : CheckStage} (hh : st.Holds now code s tx) (hx : s.Extends s') :
    st.Holds now code s' tx := by
  cases st with
  | start | opening | finished | finding => exact hh
  | locking vid => exact Phase.Found.of_extends hh hx
  | reading vid => exact Phase.Locked.of_extends hh hx
  | expiring v => exact Phase.Expiring.of_extends hh hx
  | closing v => exact Phase.Closing.of_extends hh hx
  | committing v => exact Phase.Ending.of_extends hh hx
  | aborting f => exact Phase.Aborting.of_extends hh hx

end Concurrent
end TopUpPromo
