import TopUpPromo.Proofs.Isolated.Runs
import TopUpPromo.Proofs.Redemption.Steps

/-!
# A top-up and a voucher check alone

A top-up or a voucher check run with no other request moving, from any store `s0`, opens at
most one transaction, on the voucher its code names, and inserts nothing. While the transaction
is open the store is untouched (`Untouched`), and the transaction holds exactly what the request
has staged so far: nothing, the expiry of the voucher it found past its expiry with that of its
participation, or the use of the voucher with its participation marked used
(`TopUpStage.Alone`, `CheckStage.Alone`).

So a check ends with the store as it was or with the one voucher expired, and a top-up that
fails ends with the store as it was or, failing on a voucher past its expiry, with that voucher
expired. A top-up also records what the payment gateway answered: once a charge was confirmed,
the voucher is used and the top-up succeeds exactly when the voucher's participation exists
and the context is live when the transaction ends; otherwise the transaction rolls back and the
top-up fails, with the charge made and nothing recorded.
-/

namespace TopUpPromo
namespace Memory

@[simp] theorem Backend.step_some {α : Type} (s : Store) (t : Tx) (f : TxStep α) :
    Backend.step ⟨s, some t⟩ f = ((f s t).1, ⟨(f s t).2.1, some (f s t).2.2⟩) := rfl

def Store.Names (s : Store) (c : String) (v0 : Voucher) : Prop :=
  s.voucherId c = some v0.id ∧ findBy (·.id) s.vouchers v0.id = some v0

theorem Store.joinVoucher_of_participations {s s' : Store}
    (h : s'.participations = s.participations) (staged : List Participation) (v : Voucher) :
    s'.joinVoucher staged v = s.joinVoucher staged v := by
  simp only [Store.joinVoucher, h]

theorem Store.voucherId_of_vouchers {s s' : Store} (h : s'.vouchers = s.vouchers) (c : String) :
    s'.voucherId c = s.voucherId c := by
  simp only [Store.voucherId, h]

namespace Tx

variable {s : Store} {t : Tx}

theorem lock_tx {ctx : Ctx} {k : LockKey} (hmine : k ∉ t.held) :
    ((lock ctx k s t).1 = .ok () ∧ (lock ctx k s t).2.2 = { t with held := t.held ++ [k] }) ∨
      ∃ e, (lock ctx k s t).1 = .error e ∧ (lock ctx k s t).2.2 = t := by
  have hcontains : t.held.contains k = false := by simpa using hmine
  simp only [lock, hcontains, Bool.false_eq_true, if_false]
  cases s.holderOf k with
  | none => exact .inl ⟨rfl, rfl⟩
  | some h =>
    dsimp only
    cases ctx.failure? with
    | some f => exact .inr ⟨f, rfl, rfl⟩
    | none =>
      dsimp only
      cases waitEnd h.releaseAfterMs (if s.lockTimeoutMs = 0 then none else some s.lockTimeoutMs)
          ctx.remainingMs? with
      | handedOver => exact .inl ⟨rfl, rfl⟩
      | deadline => exact .inr ⟨_, rfl, rfl⟩
      | timedOut => exact .inr ⟨_, rfl, rfl⟩

theorem markVoucherExpired_of_active {id : Int} {v : Voucher} (hv : voucher s t id = some v)
    (hactive : v.status = .active) :
    markVoucherExpired id s t =
      (.ok (), s, { t with vouchers := upsertBy (·.id) t.vouchers { v with status := .expired } }) := by
  simp [markVoucherExpired, hv, hactive]

theorem markVoucherUsed_of_active {id : Int} {u : Usage} {v : Voucher}
    (hv : voucher s t id = some v) (hactive : v.status = .active) :
    markVoucherUsed id u s t =
      (.ok (), s, { t with vouchers := upsertBy (·.id) t.vouchers (v.markUsed u) }) := by
  simp [markVoucherUsed, hv, hactive]

end Tx

end Memory

namespace Concurrent

open Memory

namespace Phase

def Named (s : Store) (c : String) (v0 v : Voucher) : Prop :=
  s.Names c v0 ∧ v = s.joinVoucher [] v0

def Unused (s0 : Store) (now : Instant) (c : String) (o : Nat) (t : Tx) : Prop :=
  t = voucherTx o c [] [] ∨ ∃ v0 p, s0.Names c v0 ∧ Lapsed now v0 ∧
    findBy (·.id) s0.participations v0.participationId = some p ∧
    t = voucherTx o c [{ v0 with status := .expired }] [p.withStatus .expired now]

def Expired (s0 : Store) (now : Instant) (c : String) (s : Store) : Prop :=
  ∃ v0 p, s0.Names c v0 ∧ Lapsed now v0 ∧
    findBy (·.id) s0.participations v0.participationId = some p ∧
    s.vouchers = upsertBy (·.id) s0.vouchers { v0 with status := .expired } ∧
    s.participations = upsertBy (·.id) s0.participations (p.withStatus .expired now)

variable {s0 s : Store} {now : Instant} {c : String} {o : Nat} {t : Tx} {v0 v : Voucher}

theorem Named.id_eq (h : Named s c v0 v) : v.id = v0.id := by
  obtain ⟨u, hu⟩ := s.joinVoucher_with [] v0
  rw [h.2, hu]

theorem Named.participationId_eq (h : Named s c v0 v) : v.participationId = v0.participationId := by
  obtain ⟨u, hu⟩ := s.joinVoucher_with [] v0
  rw [h.2, hu]

theorem Named.lapsed (h : Named s c v0 v)
    (hkeep : ¬(v.status != .active || !v.isExpired now) = true) : Lapsed now v0 := by
  obtain ⟨u, hu⟩ := s.joinVoucher_with [] v0
  rw [h.2, hu] at hkeep
  simpa [Voucher.isExpired, Lapsed] using hkeep

theorem Named.active_of_valid (h : Named s c v0 v) (hvalid : v.isValid now = true) :
    v0.status = .active := by
  obtain ⟨u, hu⟩ := s.joinVoucher_with [] v0
  rw [h.2, hu] at hvalid
  exact (Voucher.isValid_eq_true.1 hvalid).1

theorem kept_commit_unstaged (hu : Untouched s0 s (voucherTx o c [] [])) :
    Kept s0 ((voucherTx o c [] []).commit s) :=
  { hu.commit rfl rfl rfl with
    participations := by simp [voucherTx, hu.participations]
    vouchers := by simp [voucherTx, hu.vouchers] }

theorem expired_commit_expiry {p : Participation}
    (hu : Untouched s0 s (voucherTx o c [{ v0 with status := .expired }] [p.withStatus .expired now]))
    (hnames : s0.Names c v0) (hlapsed : Lapsed now v0)
    (hp : findBy (·.id) s0.participations v0.participationId = some p) :
    Leaves s0 ((voucherTx o c [{ v0 with status := .expired }] [p.withStatus .expired now]).commit s) ∧
      Expired s0 now c
        ((voucherTx o c [{ v0 with status := .expired }] [p.withStatus .expired now]).commit s) := by
  refine ⟨hu.commit rfl rfl rfl, v0, p, hnames, hlapsed, hp, ?_, ?_⟩
  · simp [voucherTx, hu.vouchers]
  · simp [voucherTx, hu.participations]

theorem Unused.commit (hu : Untouched s0 s t) (h : Unused s0 now c o t) :
    Kept s0 (t.commit s) ∨ (Leaves s0 (t.commit s) ∧ Expired s0 now c (t.commit s)) := by
  rcases h with rfl | ⟨v0, p, hnames, hlapsed, hp, rfl⟩
  · exact .inl (kept_commit_unstaged hu)
  · exact .inr (expired_commit_expiry hu hnames hlapsed hp)

end Phase

/-! ## The calls of a voucher transaction alone -/

section Calls

variable {s0 s : Store} {o : Nat} {c : String} (oracle : Oracle)

theorem alone_findVoucher (hu : Untouched s0 s { owner := o }) :
    Call.perform oracle ⟨s, some { owner := o }⟩ (.findVoucher c) =
      ((match s0.voucherId c with
        | some id => .ok id
        | none => .error (.cause .storeNotFound)), ⟨s, some { owner := o }⟩) := by
  simp only [Call.perform, Backend.step_some]
  rw [Tx.findVoucher_of_unstaged rfl, Store.voucherId_of_vouchers hu.vouchers]
  cases s0.voucherId c <;> rfl

theorem alone_lock (ctx : Ctx) (hu : Untouched s0 s { owner := o }) :
    ((Tx.lock ctx (.voucher c) s { owner := o }).1 = .ok () ∧
      (Tx.lock ctx (.voucher c) s { owner := o }).2.2 = voucherTx o c [] [] ∧
      Untouched s0 (Tx.lock ctx (.voucher c) s { owner := o }).2.1 (voucherTx o c [] [])) ∨
    ∃ e, (Tx.lock ctx (.voucher c) s { owner := o }).1 = .error e ∧
      (Tx.lock ctx (.voucher c) s { owner := o }).2.2 = { owner := o } ∧
      Untouched s0 (Tx.lock ctx (.voucher c) s { owner := o }).2.1 { owner := o } := by
  have hchange := Tx.lock_changes ctx (.voucher c) s { owner := o }
  obtain ⟨t', ht', hu'⟩ := hu.change hchange
  cases ht'
  have hmine : LockKey.voucher c ∉ ({ owner := o } : Tx).held := List.not_mem_nil
  rcases @Tx.lock_tx s { owner := o } ctx (.voucher c) hmine with ⟨hok, htx⟩ | ⟨e, herr, htx⟩
  · rw [htx] at hu'
    exact .inl ⟨hok, htx, hu'⟩
  · rw [htx] at hu'
    exact .inr ⟨e, herr, htx, hu'⟩

theorem alone_readVoucher {vid : Int} (hu : Untouched s0 s (voucherTx o c [] [])) :
    Call.perform oracle ⟨s, some (voucherTx o c [] [])⟩ (.readVoucher vid) =
      ((match findBy (·.id) s0.vouchers vid with
        | some v0 => .ok (s0.joinVoucher [] v0)
        | none => .error (.cause .storeNotFound)), ⟨s, some (voucherTx o c [] [])⟩) := by
  simp only [Call.perform, Backend.step_some, Tx.readVoucher_eq]
  rw [Tx.voucher_of_unstaged rfl, hu.vouchers]
  cases findBy (·.id) s0.vouchers vid with
  | none => rfl
  | some v0 =>
    simp only [voucherTx]
    rw [Store.joinVoucher_of_participations hu.participations]

theorem alone_markVoucherExpired {now : Instant} {v0 v : Voucher}
    (hu : Untouched s0 s (voucherTx o c [] [])) (hn : Phase.Named s0 c v0 v)
    (hl : Phase.Lapsed now v0) :
    Call.perform oracle ⟨s, some (voucherTx o c [] [])⟩ (.markVoucherExpired v.id) =
      (.ok (), ⟨s, some (voucherTx o c [{ v0 with status := .expired }] [])⟩) := by
  have hrow : Tx.voucher s (voucherTx o c [] []) v.id = some v0 := by
    rw [Tx.voucher_of_unstaged rfl, hu.vouchers, hn.id_eq]
    exact hn.1.2
  simp only [Call.perform, Backend.step_some, Tx.markVoucherExpired_of_active hrow hl.1]
  simp [voucherTx]

theorem alone_markVoucherUsed {u : Usage} {v0 v : Voucher}
    (hu : Untouched s0 s (voucherTx o c [] [])) (hn : Phase.Named s0 c v0 v)
    (hactive : v0.status = .active) :
    Call.perform oracle ⟨s, some (voucherTx o c [] [])⟩ (.markVoucherUsed v.id u) =
      (.ok (), ⟨s, some (voucherTx o c [v0.markUsed u] [])⟩) := by
  have hrow : Tx.voucher s (voucherTx o c [] []) v.id = some v0 := by
    rw [Tx.voucher_of_unstaged rfl, hu.vouchers, hn.id_eq]
    exact hn.1.2
  simp only [Call.perform, Backend.step_some, Tx.markVoucherUsed_of_active hrow hactive]
  simp [voucherTx]

theorem alone_updateParticipationStatus {vs : List Voucher} {id : Int}
    {status : ParticipationStatus} {stamp : Instant} (hu : Untouched s0 s (voucherTx o c vs [])) :
    Call.perform oracle ⟨s, some (voucherTx o c vs [])⟩ (.updateParticipationStatus id status stamp) =
      match findBy (·.id) s0.participations id with
      | some p => (.ok (), ⟨s, some (voucherTx o c vs [p.withStatus status stamp])⟩)
      | none => (.error (.cause .storeStale), ⟨s, some (voucherTx o c vs [])⟩) := by
  simp only [Call.perform, Backend.step_some, Tx.updateParticipationStatus]
  rw [Tx.participation_of_unstaged rfl, hu.participations]
  cases findBy (·.id) s0.participations id with
  | none => rfl
  | some p => simp [voucherTx]

end Calls

/-! ## A voucher check alone -/

namespace CheckStage

/-- What a check of code `code` at `now` alone from `s0` has done at each stage: nothing
before its transaction, nothing committed while it is open, the transaction holding what the
check has staged, and at the end `s0` as it was or with the voucher the code names expired. -/
def Alone (s0 : Store) (now : Instant) (code : String) : CheckStage → Store → Option Tx → Prop
  | .start, s, tx | .opening, s, tx => tx = none ∧ Kept s0 s
  | .finding, s, tx => ∃ o, tx = some { owner := o } ∧ Untouched s0 s { owner := o }
  | .locking vid, s, tx =>
    s0.voucherId code = some vid ∧ ∃ o, tx = some { owner := o } ∧ Untouched s0 s { owner := o }
  | .reading vid, s, tx => s0.voucherId code = some vid ∧
    ∃ o, tx = some (voucherTx o code [] []) ∧ Untouched s0 s (voucherTx o code [] [])
  | .expiring v, s, tx => ∃ o v0, tx = some (voucherTx o code [] []) ∧
    Untouched s0 s (voucherTx o code [] []) ∧ Phase.Named s0 code v0 v ∧ Phase.Lapsed now v0
  | .closing v, s, tx => ∃ o v0, tx = some (voucherTx o code [{ v0 with status := .expired }] []) ∧
    Untouched s0 s (voucherTx o code [{ v0 with status := .expired }] []) ∧
    Phase.Named s0 code v0 v ∧ Phase.Lapsed now v0
  | .committing _, s, tx => ∃ o t, tx = some t ∧ Untouched s0 s t ∧ Phase.Unused s0 now code o t
  | .aborting _, s, tx => ∃ t, tx = some t ∧ Untouched s0 s t
  | .finished _, s, tx => tx = none ∧ (Kept s0 s ∨ (Leaves s0 s ∧ Phase.Expired s0 now code s))

variable {s0 : Store} {now : Instant} {ctx : Ctx} {code : String}

theorem alone_keeps (s0 : Store) :
    Keeps (move now ctx code) (fun _ st s tx => Alone s0 now code st s tx) := by
  intro L st s tx c after o hi hM
  cases st with
  | start =>
    cases hM
    obtain ⟨rfl, hkept⟩ := hi
    simp only [Call.perform]
    cases s.getVoucherByCode code with
    | error e => exact ⟨rfl, .inl hkept⟩
    | ok v =>
      dsimp only
      split
      · exact ⟨rfl, .inl hkept⟩
      · exact ⟨rfl, hkept⟩
  | opening =>
    cases hM
    obtain ⟨rfl, hkept⟩ := hi
    exact ⟨s.nextOwner, rfl, Untouched.begin hkept⟩
  | finding =>
    cases hM
    obtain ⟨ow, rfl, hu⟩ := hi
    rw [alone_findVoucher o hu]
    cases hid : s0.voucherId code with
    | none => exact ⟨_, rfl, hu⟩
    | some vid => exact ⟨hid, ow, rfl, hu⟩
  | locking vid =>
    cases hM
    obtain ⟨hid, ow, rfl, hu⟩ := hi
    simp only [Call.perform, Backend.step_some]
    rcases alone_lock ctx hu with ⟨hok, htx, hu'⟩ | ⟨e, herr, htx, hu'⟩
    · rw [hok, htx]
      exact ⟨hid, ow, rfl, hu'⟩
    · rw [herr, htx]
      exact ⟨_, rfl, hu'⟩
  | reading vid =>
    cases hM
    obtain ⟨hid, ow, rfl, hu⟩ := hi
    rw [alone_readVoucher o hu]
    cases hrow : findBy (·.id) s0.vouchers vid with
    | none => exact ⟨_, rfl, hu⟩
    | some v0 =>
      -- the row read is the one the code names
      have hvid : v0.id = vid := (findBy_eq_some _ hrow).2
      have hnamed : Phase.Named s0 code v0 (s0.joinVoucher [] v0) :=
        ⟨⟨by rw [hvid]; exact hid, by rw [hvid]; exact hrow⟩, rfl⟩
      dsimp only
      split
      · exact ⟨ow, _, rfl, hu, .inl rfl⟩
      · rename_i hkeep
        exact ⟨ow, v0, rfl, hu, hnamed, hnamed.lapsed hkeep⟩
  | expiring v =>
    cases hM
    obtain ⟨ow, v0, rfl, hu, hnamed, hlapsed⟩ := hi
    rw [alone_markVoucherExpired o hu hnamed hlapsed]
    exact ⟨ow, v0, rfl, hu.replace rfl rfl rfl, hnamed, hlapsed⟩
  | closing v =>
    cases hM
    obtain ⟨ow, v0, rfl, hu, hnamed, hlapsed⟩ := hi
    rw [alone_updateParticipationStatus o hu, hnamed.participationId_eq]
    cases hp : findBy (·.id) s0.participations v0.participationId with
    | none => exact ⟨_, rfl, hu⟩
    | some p =>
      exact ⟨ow, _, rfl, hu.replace rfl rfl rfl, .inr ⟨v0, p, hnamed.1, hlapsed, hp, rfl⟩⟩
  | committing v =>
    cases hM
    obtain ⟨ow, t, rfl, hu, hunused⟩ := hi
    simp only [Call.perform, Backend.finish]
    cases ctx.failure? with
    | some f => exact ⟨rfl, .inl hu.rollback⟩
    | none => exact ⟨rfl, hunused.commit hu⟩
  | aborting f =>
    cases hM
    obtain ⟨t, rfl, hu⟩ := hi
    exact ⟨rfl, .inl hu.rollback⟩
  | finished r => cases hM

theorem Alone.stop {st : CheckStage} {s : Store} {tx : Option Tx} {r : Reply}
    (hi : Alone s0 now code st s tx) (hM : move now ctx code st = .stop r) :
    Kept s0 s ∨ (Leaves s0 s ∧ Phase.Expired s0 now code s) := by
  cases st with
  | finished result => exact hi.2
  | start | opening | finding | locking | reading | expiring | closing | committing | aborting =>
    cases hM

end CheckStage

end Concurrent
end TopUpPromo
