import TopUpPromo.Proofs.Memory.Orders

/-!
# What a voucher check alone answers

A voucher check run with no other request moving, from a store `s0` of distinct ids, answers a
failure only with `s0` as it was. Otherwise it answers the voucher its code names: as it is, with
`s0` as it was, when the voucher is not active past its expiry at the check's clock; and
expired, with that expiry and its participation's committed, when it is
(`CheckStage.check_answers`, with `CheckStage.Checked` saying what an answer commits to).

A check is therefore idempotent. Once it has answered a voucher, the code reads as that voucher,
which is not to be expired at the same clock, so a second check at that clock answers the same
voucher at once and writes nothing (`CheckStage.Checked.again`).
-/

namespace TopUpPromo
namespace Memory

namespace Store

variable {s s0 : Store} {c : String}

theorem names_of_getVoucherByCode (hids : (s.vouchers.map (·.id)).Nodup) {v : Voucher}
    (h : s.getVoucherByCode c = .ok v) : ∃ v0, s.Names c v0 ∧ v = s.joinVoucher [] v0 := by
  unfold getVoucherByCode at h
  cases hfind : s.vouchers.find? (·.code == c) with
  | none =>
    rw [hfind] at h
    cases h
  | some v0 =>
    rw [hfind] at h
    cases h
    have hnamed : s.voucherId c = some v0.id := by simp [voucherId, hfind]
    exact ⟨v0, ⟨hnamed, findBy_of_mem _ hids (List.mem_of_find?_eq_some hfind)⟩, rfl⟩

theorem Names.unique {v0 v1 : Voucher} (h : s.Names c v0) (h' : s.Names c v1) : v0 = v1 := by
  have hid : v0.id = v1.id := Option.some.inj (h.1.symm.trans h'.1)
  have hrow := h'.2
  rw [← hid, h.2] at hrow
  exact Option.some.inj hrow

theorem getVoucherByCode_of_kept (h : Kept s0 s) (c : String) :
    s.getVoucherByCode c = s0.getVoucherByCode c := by
  simp only [getVoucherByCode, joinVoucher, h.vouchers, h.participations]

theorem joinVoucher_status (s : Store) (staged : List Participation) (v : Voucher)
    (status : VoucherStatus) :
    s.joinVoucher staged { v with status := status } =
      { s.joinVoucher staged v with status := status } := by
  simp only [joinVoucher]
  cases findBy (·.id) staged v.participationId with
  | some p => rfl
  | none => cases findBy (·.id) s.participations v.participationId <;> rfl

end Store

end Memory

namespace Concurrent

open Memory

/-! ## The store after an expiry -/

namespace Phase.Expired

variable {s0 s : Store} {now : Instant} {c : String}

theorem owners (hk : s0.Keyed) (h : Expired s0 now c s) :
    s.participations.map Participation.owner = s0.participations.map Participation.owner := by
  obtain ⟨v0, p, -, -, hp, -, hparts⟩ := h
  rw [hparts]
  refine map_upsertBy_of_mem _ (fun a b hab => congrArg Prod.fst hab) hk.participations.nodup ?_
  exact List.mem_map.2 ⟨p, (findBy_eq_some _ hp).1, by simp⟩

theorem keys (hk : s0.Keyed) (h : Expired s0 now c s) :
    s.vouchers.map Voucher.key = s0.vouchers.map Voucher.key := by
  obtain ⟨v0, p, hnames, -, -, hvouchers, -⟩ := h
  rw [hvouchers]
  refine map_upsertBy_of_mem _ (fun a b hab => congrArg Prod.fst hab) hk.vouchers.nodup ?_
  exact List.mem_map.2 ⟨v0, (findBy_eq_some _ hnames.2).1, by simp⟩

theorem voucherIds_nodup (hk : s0.Keyed) (h : Expired s0 now c s) :
    (s.vouchers.map (·.id)).Nodup := by
  have hids : s.vouchers.map (·.id) = s0.vouchers.map (·.id) := by
    simpa [List.map_map, Function.comp_def, Voucher.key] using congrArg (List.map Prod.fst) (h.keys hk)
  rw [hids]
  exact hk.vouchers.nodup

theorem participationIds_nodup (hk : s0.Keyed) (h : Expired s0 now c s) :
    (s.participations.map (·.id)).Nodup := by
  have hids : s.participations.map (·.id) = s0.participations.map (·.id) := by
    simpa [List.map_map, Function.comp_def, Participation.owner] using
      congrArg (List.map Prod.fst) (h.owners hk)
  rw [hids]
  exact hk.participations.nodup

theorem getVoucherByCode (hk : s0.Keyed) (h : Expired s0 now c s) {v0 : Voucher}
    (hnames : s0.Names c v0) :
    s.getVoucherByCode c = .ok { s0.joinVoucher [] v0 with status := .expired } := by
  have hkeys := h.keys hk
  have howners := h.owners hk
  have hids := h.voucherIds_nodup hk
  obtain ⟨v1, p, hnames1, -, -, hvouchers, -⟩ := h
  obtain rfl := hnames1.unique hnames
  have hrow : s.RowOf c { v1 with status := .expired } := by
    refine ⟨?_, (Store.rowOf_of_named hk.vouchers.nodup hnames.1 hnames.2).code, ?_⟩
    · rw [hvouchers]
      exact findBy_upsertBy_self _ _ _
    · rw [Store.voucherId_of_keys hkeys]
      exact hnames.1
  rw [hrow.getVoucherByCode hids, Store.joinVoucher_of_owners howners,
    Store.joinVoucher_status]

end Phase.Expired

/-! ## The answer of a check -/

namespace CheckStage

/-- A check at `now` that answered `v` and left `s`: `v` is the voucher code `c` names in `s0`,
as it was and over `s0` as it was when it is not active past its expiry at `now`, and expired,
with that expiry committed, when it is. -/
def Checked (s0 : Store) (now : Instant) (c : String) (v : Voucher) (s : Store) : Prop :=
  ∃ v0, s0.Names c v0 ∧
    ((¬Phase.Lapsed now v0 ∧ v = s0.joinVoucher [] v0 ∧ Kept s0 s) ∨
      (Phase.Lapsed now v0 ∧ v = { s0.joinVoucher [] v0 with status := .expired } ∧
        Leaves s0 s ∧ Phase.Expired s0 now c s))

def Answers (s0 : Store) (now : Instant) (c : String) : CheckStage → Store → Option Tx → Prop
  | .committing v, _, tx => ∃ v0, s0.Names c v0 ∧
    ((¬Phase.Lapsed now v0 ∧ v = s0.joinVoucher [] v0) ∨
      (Phase.Lapsed now v0 ∧ v = { s0.joinVoucher [] v0 with status := .expired } ∧
        ∀ t ∈ tx, t.vouchers ≠ []))
  | .finished (.error _), s, _ => Kept s0 s
  | .finished (.ok v), s, _ => Checked s0 now c v s
  | _, _, _ => True

variable {s0 s1 : Store} {now : Instant} {ctx : Ctx} {code : String} {v : Voucher}

theorem not_lapsed_of_keep {v0 : Voucher} (h : Phase.Named s0 code v0 v)
    (hkeep : (v.status != .active || !v.isExpired now) = true) : ¬Phase.Lapsed now v0 := by
  obtain ⟨u, hu⟩ := s0.joinVoucher_with [] v0
  rintro ⟨hactive, hexpired⟩
  rw [h.2, hu] at hkeep
  simp only [Voucher.isExpired] at hexpired hkeep
  simp [hactive, hexpired] at hkeep

theorem answers_keeps (hk : s0.Keyed) :
    Keeps (move now ctx code)
      (fun _ st s tx => Alone s0 now code st s tx ∧ Answers s0 now code st s tx) := by
  intro L st s tx c after o ⟨hi, ha⟩ hM
  refine ⟨alone_keeps s0 L st s tx c after o hi hM, ?_⟩
  cases st with
  | start =>
    cases hM
    obtain ⟨rfl, hkept⟩ := hi
    simp only [Call.perform]
    cases hget : s.getVoucherByCode code with
    | error e => exact hkept
    | ok v =>
      dsimp only
      split
      · -- the voucher is kept as it is, and the check answers it at once
        rename_i hkeep
        rw [Store.getVoucherByCode_of_kept hkept] at hget
        obtain ⟨v0, hnames, rfl⟩ := Store.names_of_getVoucherByCode hk.vouchers.nodup hget
        exact ⟨v0, hnames, .inl ⟨not_lapsed_of_keep ⟨hnames, rfl⟩ hkeep, rfl, hkept⟩⟩
      · trivial
  | reading vid =>
    cases hM
    obtain ⟨hid, ow, rfl, hu⟩ := hi
    rw [alone_readVoucher o hu]
    cases hrow : findBy (·.id) s0.vouchers vid with
    | none => trivial
    | some v0 =>
      have hvid : v0.id = vid := (findBy_eq_some _ hrow).2
      have hnamed : Phase.Named s0 code v0 (s0.joinVoucher [] v0) :=
        ⟨⟨by rw [hvid]; exact hid, by rw [hvid]; exact hrow⟩, rfl⟩
      dsimp only
      split
      · rename_i hkeep
        exact ⟨v0, hnamed.1, .inl ⟨not_lapsed_of_keep hnamed hkeep, rfl⟩⟩
      · trivial
  | closing v =>
    cases hM
    obtain ⟨ow, v0, rfl, hu, hnamed, hlapsed⟩ := hi
    rw [alone_updateParticipationStatus o hu]
    cases findBy (·.id) s0.participations v.participationId with
    | none => trivial
    | some p =>
      refine ⟨v0, hnamed.1, .inr ⟨hlapsed, by rw [hnamed.2], ?_⟩⟩
      intro t ht
      cases ht
      simp [voucherTx]
  | committing v =>
    cases hM
    obtain ⟨ow, t, rfl, hu, hunused⟩ := hi
    obtain ⟨v0, hnames, hanswer⟩ := ha
    simp only [Call.perform, Backend.finish]
    cases ctx.failure? with
    | some f => exact hu.rollback
    | none =>
      refine ⟨v0, hnames, ?_⟩
      rcases hanswer with ⟨hfresh, rfl⟩ | ⟨hlapsed, rfl, hstaged⟩
      · -- a voucher not past its expiry has nothing staged
        rcases hunused with rfl | ⟨v1, p, hnames1, hlapsed1, -, -⟩
        · exact .inl ⟨hfresh, rfl, Phase.kept_commit_unstaged hu⟩
        · obtain rfl := hnames1.unique hnames
          exact absurd hlapsed1 hfresh
      · -- a voucher past its expiry has its expiry staged
        rcases hunused with rfl | ⟨v1, p, hnames1, hlapsed1, hp, rfl⟩
        · exact absurd rfl (hstaged _ rfl)
        · obtain rfl := hnames1.unique hnames
          exact .inr ⟨hlapsed, rfl, Phase.expired_commit_expiry hu hnames1 hlapsed1 hp⟩
  | aborting f =>
    cases hM
    obtain ⟨t, rfl, hu⟩ := hi
    exact hu.rollback
  | opening =>
    cases hM
    trivial
  | finding =>
    cases hM
    dsimp only
    split <;> trivial
  | locking vid =>
    cases hM
    dsimp only
    split <;> trivial
  | expiring v =>
    cases hM
    dsimp only
    split <;> trivial
  | finished r => cases hM

theorem eq_finished_of_stop {st : CheckStage} {r : Except Failure Voucher}
    (hM : move now ctx code st = .stop (.validated r)) : st = .finished r := by
  cases st with
  | finished r' =>
    cases hM
    rfl
  | start | opening | finding | locking | reading | expiring | closing | committing | aborting =>
    cases hM

/-- A check run alone from a store of distinct ids, whatever the outside world answers, answers
a failure with the store as it was, and otherwise a checked voucher. -/
theorem check_answers (hk : s0.Keyed) (ctx : Ctx) (es : List Event) :
    ∀ th ∈ ((World.start s0 [.validateVoucher now ctx code]).run es).threads, ∀ r,
      th.reply? = some (.validated r) →
        let s := ((World.start s0 [.validateVoucher now ctx code]).run es).store
        (∀ e, r = .error e → Kept s0 s) ∧ (∀ v, r = .ok v → Checked s0 now code v s) := by
  intro th hth r hreply
  obtain ⟨st, hM, -, ha⟩ := reply_alone (answers_keeps hk) follows_validateVoucher
    ⟨⟨rfl, Kept.refl s0⟩, trivial⟩ es th hth _ hreply
  obtain rfl := eq_finished_of_stop hM
  refine ⟨?_, ?_⟩
  · rintro e rfl
    exact ha
  · rintro v rfl
    exact ha

/-! ## A second check -/

theorem Checked.reads (hk : s0.Keyed) (h : Checked s0 now code v s1) :
    s1.getVoucherByCode code = .ok v ∧ (v.status != .active || !v.isExpired now) = true := by
  obtain ⟨v0, hnames, ⟨hfresh, rfl, hkept⟩ | ⟨-, rfl, -, hexpired⟩⟩ := h
  · refine ⟨?_, ?_⟩
    · rw [Store.getVoucherByCode_of_kept hkept]
      exact (Store.rowOf_of_named hk.vouchers.nodup hnames.1 hnames.2).getVoucherByCode hk.vouchers.nodup
    · obtain ⟨u, hu⟩ := s0.joinVoucher_with [] v0
      rw [hu]
      by_contra hkeep
      exact hfresh (by simpa [Phase.Lapsed, Voucher.isExpired] using hkeep)
  · exact ⟨hexpired.getVoucherByCode hk hnames, by simp⟩

def Settled (s1 : Store) (v : Voucher) : CheckStage → Store → Option Tx → Prop
  | .start, s, tx => tx = none ∧ Kept s1 s
  | .finished r, s, tx => r = .ok v ∧ tx = none ∧ Kept s1 s
  | _, _, _ => False

theorem settled_keeps (hget : s1.getVoucherByCode code = .ok v)
    (hkeep : (v.status != .active || !v.isExpired now) = true) :
    Keeps (move now ctx code) (fun _ st s tx => Settled s1 v st s tx) := by
  intro L st s tx c after o hi hM
  cases st with
  | start =>
    cases hM
    obtain ⟨rfl, hkept⟩ := hi
    simp only [Call.perform]
    rw [Store.getVoucherByCode_of_kept hkept, hget]
    simp only [hkeep, if_true]
    exact ⟨rfl, rfl, hkept⟩
  | finished r => cases hM
  | opening | finding | locking | reading | expiring | closing | committing | aborting =>
    exact hi.elim

/-- A check is idempotent: after a check at `now` answered `v`, a second check of the code at
`now`, alone and whatever the outside world answers, answers `v` and leaves every row as the
first left it. -/
theorem Checked.again (hk : s0.Keyed) (h : Checked s0 now code v s1) (ctx : Ctx)
    (es : List Event) :
    ∀ th ∈ ((World.start s1 [.validateVoucher now ctx code]).run es).threads, ∀ r,
      th.reply? = some (.validated r) →
        r = .ok v ∧ Kept s1 ((World.start s1 [.validateVoucher now ctx code]).run es).store := by
  intro th hth r hreply
  obtain ⟨hget, hkeep⟩ := h.reads hk
  obtain ⟨st, hM, hi⟩ := reply_alone (settled_keeps hget hkeep) follows_validateVoucher
    ⟨rfl, Kept.refl s1⟩ es th hth _ hreply
  obtain rfl := eq_finished_of_stop hM
  exact ⟨hi.1, hi.2.2⟩

end CheckStage

end Concurrent
end TopUpPromo
