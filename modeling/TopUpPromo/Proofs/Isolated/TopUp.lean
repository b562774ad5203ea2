import TopUpPromo.Proofs.Isolated.Redemption

/-!
# A top-up alone

What a top-up (or a redemption) with no other request moving has done at each of its stages,
from any store `s0`, together with the charges it has asked the payment gateway for
(`TopUpStage.Alone`): nothing before its transaction; while the transaction is open, nothing
committed and exactly what it has staged; from the charge on, exactly that charge, confirmed.

At its end (`TopUpStage.Alone.stop`), a top-up that failed left `s0` as it was, or, failing on a
voucher past its expiry, with that voucher expired (`TopUpStage.FailedAs`); and once the gateway
confirmed a charge for a voucher, the top-up succeeded with the voucher used and its
participation marked used, when the participation exists and the context is live at the end of
the transaction, and otherwise failed with every row as it was (`TopUpStage.Settles`).
-/

namespace TopUpPromo
namespace Concurrent

open Memory

namespace TopUpStage

def payment (req : TopUpRequest) (txId : String) (v : Voucher) : PaymentRequest :=
  ⟨req.phone, (discount req v).final, txId, method req⟩

def Dropped (s0 : Store) (c : String) (L : List (PaymentRequest × Except Failure Bool)) : Prop :=
  ∀ pr, (pr, .ok true) ∈ L →
    ∃ v0, s0.Names c v0 ∧ findBy (·.id) s0.participations v0.participationId = none

/-- A top-up answering `r` and leaving `s` failed without a trace on `s0` but, failing on a
voucher past its expiry, that voucher's expiry. -/
def FailedAs (s0 : Store) (now : Instant) (c : String) (r : Except Failure RedemptionResult)
    (s : Store) : Prop :=
  ∀ e, r = .error e → Kept s0 s ∨
    (e = .cause .voucherInvalidOrExpired ∧ Leaves s0 s ∧ Phase.Expired s0 now c s)

/-- After the gateway confirmed charge `pr` for the voucher the code names in `s0`, the top-up
answering `r` and leaving `s` succeeded, with the voucher used under `pr`'s transaction id and
its participation marked used, when the participation exists and the context is live; and
failed, with every row as it was, when the context is finished or the participation missing. -/
def Settles (s0 : Store) (now : Instant) (ctx : Ctx) (req : TopUpRequest) (pr : PaymentRequest)
    (r : Except Failure RedemptionResult) (s : Store) : Prop :=
  ∃ v0, s0.Names req.voucherCode v0 ∧ Leaves s0 s ∧
    (∀ p, ctx.failure? = none → findBy (·.id) s0.participations v0.participationId = some p →
      (∃ res, r = .ok res ∧ res.transactionId = pr.transactionId ∧
        res.discountAmount = (discount req v0).discount) ∧
      s.vouchers = upsertBy (·.id) s0.vouchers (v0.markUsed (usage now req pr.transactionId v0)) ∧
      s.participations = upsertBy (·.id) s0.participations (p.withStatus .voucherUsed now)) ∧
    (ctx.failure? ≠ none ∨ findBy (·.id) s0.participations v0.participationId = none →
      (∃ e, r = .error e) ∧ s.vouchers = s0.vouchers ∧ s.participations = s0.participations)

/-- What a top-up alone from `s0` has done at each stage, `L` being the charges it asked for
with the gateway's answers. -/
def Alone (s0 : Store) (now : Instant) (ctx : Ctx) (req : TopUpRequest)
    (L : List (PaymentRequest × Except Failure Bool)) : TopUpStage → Store → Option Tx → Prop
  | .start, s, tx | .opening _, s, tx => L = [] ∧ tx = none ∧ Kept s0 s
  | .paying _, s, tx => L = [] ∧ tx = none ∧ Kept s0 s ∧ req.voucherCode.isEmpty = true
  | .finding _, s, tx => L = [] ∧ ∃ o, tx = some { owner := o } ∧ Untouched s0 s { owner := o }
  | .locking _ vid, s, tx => L = [] ∧ s0.voucherId req.voucherCode = some vid ∧
    ∃ o, tx = some { owner := o } ∧ Untouched s0 s { owner := o }
  | .reading _ vid, s, tx => L = [] ∧ s0.voucherId req.voucherCode = some vid ∧
    ∃ o, tx = some (voucherTx o req.voucherCode [] []) ∧
      Untouched s0 s (voucherTx o req.voucherCode [] [])
  | .expiring _ v, s, tx => L = [] ∧ ∃ o v0, tx = some (voucherTx o req.voucherCode [] []) ∧
    Untouched s0 s (voucherTx o req.voucherCode [] []) ∧ Phase.Named s0 req.voucherCode v0 v ∧
    Phase.Lapsed now v0
  | .closing _ v, s, tx => L = [] ∧ ∃ o v0,
    tx = some (voucherTx o req.voucherCode [{ v0 with status := .expired }] []) ∧
    Untouched s0 s (voucherTx o req.voucherCode [{ v0 with status := .expired }] []) ∧
    Phase.Named s0 req.voucherCode v0 v ∧ Phase.Lapsed now v0
  | .charging _ v, s, tx => L = [] ∧ ∃ o v0, tx = some (voucherTx o req.voucherCode [] []) ∧
    Untouched s0 s (voucherTx o req.voucherCode [] []) ∧ Phase.Named s0 req.voucherCode v0 v ∧
    Usable now req v
  | .marking txId v, s, tx => L = [(payment req txId v, .ok true)] ∧
    ∃ o v0, tx = some (voucherTx o req.voucherCode [] []) ∧
      Untouched s0 s (voucherTx o req.voucherCode [] []) ∧ Phase.Named s0 req.voucherCode v0 v ∧
      Usable now req v
  | .settling txId v, s, tx => L = [(payment req txId v, .ok true)] ∧
    ∃ o v0, tx = some (voucherTx o req.voucherCode [v0.markUsed (usage now req txId v)] []) ∧
      Untouched s0 s (voucherTx o req.voucherCode [v0.markUsed (usage now req txId v)] []) ∧
      Phase.Named s0 req.voucherCode v0 v
  | .committing _ none, s, tx => L = [] ∧
    ∃ o t, tx = some t ∧ Untouched s0 s t ∧ Phase.Unused s0 now req.voucherCode o t
  | .committing txId (some v), s, tx => L = [(payment req txId v, .ok true)] ∧
    ∃ o v0 p, tx = some (voucherTx o req.voucherCode [v0.markUsed (usage now req txId v)]
        [p.withStatus .voucherUsed now]) ∧
      Untouched s0 s (voucherTx o req.voucherCode [v0.markUsed (usage now req txId v)]
        [p.withStatus .voucherUsed now]) ∧
      Phase.Named s0 req.voucherCode v0 v ∧
      findBy (·.id) s0.participations v0.participationId = some p
  | .aborting _ _, s, tx => (∃ t, tx = some t ∧ Untouched s0 s t) ∧ Dropped s0 req.voucherCode L
  | .finished r, s, tx => tx = none ∧ FailedAs s0 now req.voucherCode r s ∧
    ∀ pr, (pr, .ok true) ∈ L → req.voucherCode.isEmpty = false → Settles s0 now ctx req pr r s

/-! ### The stages -/

section Stages

variable {s0 : Store} {now : Instant} {ctx : Ctx} {req : TopUpRequest} {named : Bool}
  {L : List (PaymentRequest × Except Failure Bool)} {s : Store} {tx : Option Tx} {c : Call}
  {after : c.Answer → TopUpStage} {txId : String} (o : Oracle)

theorem alone_start (hi : Alone s0 now ctx req L .start s tx)
    (hM : move now ctx req named .start = .call c after) :
    Alone s0 now ctx req (L ++ c.charges o) (after (c.perform o ⟨s, tx⟩).1)
      (c.perform o ⟨s, tx⟩).2.store (c.perform o ⟨s, tx⟩).2.current := by
  obtain ⟨rfl, rfl, hkept⟩ := hi
  simp only [move] at hM
  split at hM
  · cases hM
  split at hM
  · cases hM
  cases hM
  simp only [Call.perform, Call.charges, List.append_nil]
  split
  · exact ⟨rfl, rfl, hkept, ‹_›⟩
  · exact ⟨rfl, rfl, hkept⟩

theorem alone_paying (hi : Alone s0 now ctx req L (.paying txId) s tx)
    (hM : move now ctx req named (.paying txId) = .call c after) :
    Alone s0 now ctx req (L ++ c.charges o) (after (c.perform o ⟨s, tx⟩).1)
      (c.perform o ⟨s, tx⟩).2.store (c.perform o ⟨s, tx⟩).2.current := by
  cases hM
  obtain ⟨rfl, rfl, hkept, hempty⟩ := hi
  simp only [Call.perform, Call.charges, List.nil_append]
  -- a top-up without a voucher charges the full amount and writes nothing
  have hdone : ∀ a r, Alone s0 now ctx req [(⟨req.phone, req.amount, txId, method req⟩, a)]
      (.finished r) s none := by
    intro a r
    refine ⟨rfl, fun _ _ => .inl hkept, fun _ _ hcode => ?_⟩
    rw [hempty] at hcode
    cases hcode
  generalize o.payment = a
  rcases a with e | _ | _ <;> exact hdone _ _

theorem alone_opening (hi : Alone s0 now ctx req L (.opening txId) s tx)
    (hM : move now ctx req named (.opening txId) = .call c after) :
    Alone s0 now ctx req (L ++ c.charges o) (after (c.perform o ⟨s, tx⟩).1)
      (c.perform o ⟨s, tx⟩).2.store (c.perform o ⟨s, tx⟩).2.current := by
  cases hM
  obtain ⟨rfl, rfl, hkept⟩ := hi
  exact ⟨rfl, s.nextOwner, rfl, Untouched.begin hkept⟩

theorem alone_finding (hi : Alone s0 now ctx req L (.finding txId) s tx)
    (hM : move now ctx req named (.finding txId) = .call c after) :
    Alone s0 now ctx req (L ++ c.charges o) (after (c.perform o ⟨s, tx⟩).1)
      (c.perform o ⟨s, tx⟩).2.store (c.perform o ⟨s, tx⟩).2.current := by
  cases hM
  obtain ⟨rfl, ow, rfl, hu⟩ := hi
  rw [alone_findVoucher o hu]
  cases hid : s0.voucherId req.voucherCode with
  | none => exact ⟨⟨_, rfl, hu⟩, fun _ h => by cases h⟩
  | some vid => exact ⟨rfl, hid, ow, rfl, hu⟩

theorem alone_locking {vid : Int} (hi : Alone s0 now ctx req L (.locking txId vid) s tx)
    (hM : move now ctx req named (.locking txId vid) = .call c after) :
    Alone s0 now ctx req (L ++ c.charges o) (after (c.perform o ⟨s, tx⟩).1)
      (c.perform o ⟨s, tx⟩).2.store (c.perform o ⟨s, tx⟩).2.current := by
  cases hM
  obtain ⟨rfl, hid, ow, rfl, hu⟩ := hi
  simp only [Call.perform, Backend.step_some]
  rcases alone_lock ctx hu with ⟨hok, htx, hu'⟩ | ⟨e, herr, htx, hu'⟩
  · rw [hok, htx]
    exact ⟨rfl, hid, ow, rfl, hu'⟩
  · rw [herr, htx]
    exact ⟨⟨_, rfl, hu'⟩, fun _ h => by cases h⟩

theorem alone_afterRead {ow : Nat} {v0 v : Voucher}
    (hu : Untouched s0 s (voucherTx ow req.voucherCode [] []))
    (hnamed : Phase.Named s0 req.voucherCode v0 v) :
    Alone s0 now ctx req [] (afterRead now req txId v) s
      (some (voucherTx ow req.voucherCode [] [])) := by
  unfold afterRead
  by_cases howner : (v.userId != req.userId) = true
  · rw [if_pos howner]
    exact ⟨⟨_, rfl, hu⟩, fun _ h => by cases h⟩
  rw [if_neg howner]
  by_cases hvalid : (!v.isValid now) = true
  · rw [if_pos hvalid]
    split
    · -- a voucher used, cancelled or still in time ends the transaction as it is
      exact ⟨rfl, ow, _, rfl, hu, .inl rfl⟩
    · -- an active voucher past its expiry is expired
      rename_i hkeep
      exact ⟨rfl, ow, v0, rfl, hu, hnamed, hnamed.lapsed hkeep⟩
  rw [if_neg hvalid]
  by_cases hmin : req.amount < v.minTopup
  · rw [if_pos hmin]
    exact ⟨⟨_, rfl, hu⟩, fun _ h => by cases h⟩
  rw [if_neg hmin]
  exact ⟨rfl, ow, v0, rfl, hu, hnamed, by simpa using hvalid, by simpa using howner, hmin⟩

theorem alone_reading {vid : Int} (hi : Alone s0 now ctx req L (.reading txId vid) s tx)
    (hM : move now ctx req named (.reading txId vid) = .call c after) :
    Alone s0 now ctx req (L ++ c.charges o) (after (c.perform o ⟨s, tx⟩).1)
      (c.perform o ⟨s, tx⟩).2.store (c.perform o ⟨s, tx⟩).2.current := by
  cases hM
  obtain ⟨rfl, hid, ow, rfl, hu⟩ := hi
  rw [alone_readVoucher o hu]
  cases hrow : findBy (·.id) s0.vouchers vid with
  | none => exact ⟨⟨_, rfl, hu⟩, fun _ h => by cases h⟩
  | some v0 =>
    -- the row read is the one the code names
    have hvid : v0.id = vid := (findBy_eq_some _ hrow).2
    have hnamed : Phase.Named s0 req.voucherCode v0 (s0.joinVoucher [] v0) :=
      ⟨⟨by rw [hvid]; exact hid, by rw [hvid]; exact hrow⟩, rfl⟩
    exact alone_afterRead hu hnamed

theorem alone_expiring {v : Voucher} (hi : Alone s0 now ctx req L (.expiring txId v) s tx)
    (hM : move now ctx req named (.expiring txId v) = .call c after) :
    Alone s0 now ctx req (L ++ c.charges o) (after (c.perform o ⟨s, tx⟩).1)
      (c.perform o ⟨s, tx⟩).2.store (c.perform o ⟨s, tx⟩).2.current := by
  cases hM
  obtain ⟨rfl, ow, v0, rfl, hu, hnamed, hlapsed⟩ := hi
  rw [alone_markVoucherExpired o hu hnamed hlapsed]
  exact ⟨rfl, ow, v0, rfl, hu.replace rfl rfl rfl, hnamed, hlapsed⟩

theorem alone_closing {v : Voucher} (hi : Alone s0 now ctx req L (.closing txId v) s tx)
    (hM : move now ctx req named (.closing txId v) = .call c after) :
    Alone s0 now ctx req (L ++ c.charges o) (after (c.perform o ⟨s, tx⟩).1)
      (c.perform o ⟨s, tx⟩).2.store (c.perform o ⟨s, tx⟩).2.current := by
  cases hM
  obtain ⟨rfl, ow, v0, rfl, hu, hnamed, hlapsed⟩ := hi
  rw [alone_updateParticipationStatus o hu, hnamed.participationId_eq]
  cases hp : findBy (·.id) s0.participations v0.participationId with
  | none => exact ⟨⟨_, rfl, hu⟩, fun _ h => by cases h⟩
  | some p =>
    exact ⟨rfl, ow, _, rfl, hu.replace rfl rfl rfl, .inr ⟨v0, p, hnamed.1, hlapsed, hp, rfl⟩⟩

theorem alone_charging {v : Voucher} (hi : Alone s0 now ctx req L (.charging txId v) s tx)
    (hM : move now ctx req named (.charging txId v) = .call c after) :
    Alone s0 now ctx req (L ++ c.charges o) (after (c.perform o ⟨s, tx⟩).1)
      (c.perform o ⟨s, tx⟩).2.store (c.perform o ⟨s, tx⟩).2.current := by
  cases hM
  obtain ⟨rfl, ow, v0, rfl, hu, hnamed, husable⟩ := hi
  simp only [Call.perform, Call.charges, List.nil_append]
  -- only a confirmed charge goes on, to mark the voucher used
  generalize o.payment = a
  rcases a with e | _ | _
  · exact ⟨⟨_, rfl, hu⟩, fun _ h => by simp at h⟩
  · exact ⟨⟨_, rfl, hu⟩, fun _ h => by simp at h⟩
  · exact ⟨rfl, ow, v0, rfl, hu, hnamed, husable⟩

theorem alone_marking {v : Voucher} (hi : Alone s0 now ctx req L (.marking txId v) s tx)
    (hM : move now ctx req named (.marking txId v) = .call c after) :
    Alone s0 now ctx req (L ++ c.charges o) (after (c.perform o ⟨s, tx⟩).1)
      (c.perform o ⟨s, tx⟩).2.store (c.perform o ⟨s, tx⟩).2.current := by
  cases hM
  obtain ⟨rfl, ow, v0, rfl, hu, hnamed, husable⟩ := hi
  -- the voucher read active is still active: its use is staged
  rw [alone_markVoucherUsed o hu hnamed (hnamed.active_of_valid husable.1)]
  exact ⟨rfl, ow, v0, rfl, hu.replace rfl rfl rfl, hnamed⟩

theorem alone_settling {v : Voucher} (hi : Alone s0 now ctx req L (.settling txId v) s tx)
    (hM : move now ctx req named (.settling txId v) = .call c after) :
    Alone s0 now ctx req (L ++ c.charges o) (after (c.perform o ⟨s, tx⟩).1)
      (c.perform o ⟨s, tx⟩).2.store (c.perform o ⟨s, tx⟩).2.current := by
  cases hM
  obtain ⟨rfl, ow, v0, rfl, hu, hnamed⟩ := hi
  rw [alone_updateParticipationStatus o hu, hnamed.participationId_eq]
  cases hp : findBy (·.id) s0.participations v0.participationId with
  | none =>
    -- the charge stands while the voucher's participation is missing
    exact ⟨⟨_, rfl, hu⟩, fun _ _ => ⟨v0, hnamed.1, hp⟩⟩
  | some p => exact ⟨rfl, ow, v0, p, rfl, hu.replace rfl rfl rfl, hnamed, hp⟩

theorem alone_committing_none
    (hi : Alone s0 now ctx req L (.committing txId none) s tx)
    (hM : move now ctx req named (.committing txId none) = .call c after) :
    Alone s0 now ctx req (L ++ c.charges o) (after (c.perform o ⟨s, tx⟩).1)
      (c.perform o ⟨s, tx⟩).2.store (c.perform o ⟨s, tx⟩).2.current := by
  cases hM
  obtain ⟨rfl, ow, t, rfl, hu, hunused⟩ := hi
  simp only [Call.perform, Backend.finish]
  cases ctx.failure? with
  | some f => exact ⟨rfl, fun _ _ => .inl hu.rollback, fun _ h => by cases h⟩
  | none =>
    refine ⟨rfl, fun e he => ?_, fun _ h => by cases h⟩
    -- the voucher was unusable: the top-up fails, keeping the expiry it found
    have hcause : e = .cause .voucherInvalidOrExpired := by
      simp only [outcome, Except.bind, Option.map_none, Except.error.injEq] at he
      exact he.symm
    rcases hunused.commit hu with hkept | ⟨hleaves, hexpired⟩
    · exact .inl hkept
    · exact .inr ⟨hcause, hleaves, hexpired⟩

theorem alone_committing_some {v : Voucher}
    (hi : Alone s0 now ctx req L (.committing txId (some v)) s tx)
    (hM : move now ctx req named (.committing txId (some v)) = .call c after) :
    Alone s0 now ctx req (L ++ c.charges o) (after (c.perform o ⟨s, tx⟩).1)
      (c.perform o ⟨s, tx⟩).2.store (c.perform o ⟨s, tx⟩).2.current := by
  cases hM
  obtain ⟨rfl, ow, v0, p, rfl, hu, hnamed, hp⟩ := hi
  -- the discount of the voucher read is that of the row it was read from
  have hdiscount : discount req v = discount req v0 := by
    obtain ⟨u, hjoin⟩ := s0.joinVoucher_with [] v0
    rw [hnamed.2, hjoin]
    rfl
  have hcharged : ∀ pr, (pr, Except.ok true) ∈
      [(payment req txId v, Except.ok true)] ++ Call.charges o (.finish ctx (.ok ())) →
      pr = payment req txId v := by
    intro pr hpr
    simpa [Call.charges] using hpr
  simp only [Call.perform, Backend.finish]
  cases hctx : ctx.failure? with
  | some f =>
    -- the context is finished: the transaction rolls back and the charge stands unrecorded
    have hkept := hu.rollback
    refine ⟨rfl, fun _ _ => .inl hkept, fun pr _ _ => ⟨v0, hnamed.1, hkept.toLeaves, ?_, ?_⟩⟩
    · intro p' hlive
      rw [hctx] at hlive
      cases hlive
    · exact fun _ => ⟨⟨_, rfl⟩, hkept.vouchers, hkept.participations⟩
  | none =>
    -- the commit records the use, and the top-up succeeds
    refine ⟨rfl, fun e he => ?_, fun pr hpr _ => ?_⟩
    · simp [outcome, Except.bind] at he
    obtain rfl := hcharged pr hpr
    refine ⟨v0, hnamed.1, hu.commit rfl rfl rfl, fun p' _ hp' => ?_, fun hfail => ?_⟩
    · rw [hp] at hp'
      cases hp'
      refine ⟨⟨_, rfl, rfl, by rw [hdiscount]⟩, ?_, ?_⟩
      · simp [voucherTx, hu.vouchers, payment, usage, hdiscount]
      · simp [voucherTx, hu.participations]
    · rcases hfail with hfail | hfail
      · exact absurd hctx hfail
      · rw [hp] at hfail
        cases hfail

theorem alone_aborting {f : Failure} (hi : Alone s0 now ctx req L (.aborting txId f) s tx)
    (hM : move now ctx req named (.aborting txId f) = .call c after) :
    Alone s0 now ctx req (L ++ c.charges o) (after (c.perform o ⟨s, tx⟩).1)
      (c.perform o ⟨s, tx⟩).2.store (c.perform o ⟨s, tx⟩).2.current := by
  cases hM
  obtain ⟨⟨t, rfl, hu⟩, hdropped⟩ := hi
  have hkept := hu.rollback
  refine ⟨rfl, fun _ _ => .inl hkept, fun pr hpr _ => ?_⟩
  -- a confirmed charge came before the voucher's participation was found missing
  obtain ⟨v0, hnames, hmissing⟩ := hdropped pr (by simpa [Call.charges] using hpr)
  refine ⟨v0, hnames, hkept.toLeaves, fun p _ hp => ?_,
    fun _ => ⟨⟨_, rfl⟩, hkept.vouchers, hkept.participations⟩⟩
  rw [hmissing] at hp
  cases hp

end Stages

variable {s0 : Store} {now : Instant} {ctx : Ctx} {req : TopUpRequest} {named : Bool}

theorem alone_keeps (s0 : Store) :
    Keeps (move now ctx req named) (Alone s0 now ctx req) := by
  intro L st s tx c after o hi hM
  cases st with
  | start => exact alone_start o hi hM
  | paying txId => exact alone_paying o hi hM
  | opening txId => exact alone_opening o hi hM
  | finding txId => exact alone_finding o hi hM
  | locking txId vid => exact alone_locking o hi hM
  | reading txId vid => exact alone_reading o hi hM
  | expiring txId v => exact alone_expiring o hi hM
  | closing txId v => exact alone_closing o hi hM
  | charging txId v => exact alone_charging o hi hM
  | marking txId v => exact alone_marking o hi hM
  | settling txId v => exact alone_settling o hi hM
  | committing txId used =>
    cases used with
    | none => exact alone_committing_none o hi hM
    | some v => exact alone_committing_some o hi hM
  | aborting txId f => exact alone_aborting o hi hM
  | finished r => cases hM

/-- Where a top-up alone from `s0` stops, a failure left no trace but the expiry it found, and
a confirmed charge settled as `Settles` says. -/
theorem Alone.stop {L : List (PaymentRequest × Except Failure Bool)} {st : TopUpStage}
    {s : Store} {tx : Option Tx} {r : Except Failure RedemptionResult}
    (hi : Alone s0 now ctx req L st s tx) (hM : move now ctx req named st = .stop (.toppedUp r)) :
    FailedAs s0 now req.voucherCode r s ∧
      ∀ pr, (pr, .ok true) ∈ L → req.voucherCode.isEmpty = false → Settles s0 now ctx req pr r s := by
  cases st with
  | start =>
    -- refused before any call
    obtain ⟨rfl, -, hkept⟩ := hi
    exact ⟨fun _ _ => .inl hkept, fun _ h => by cases h⟩
  | finished r' =>
    cases hM
    exact hi.2
  | paying | opening | finding | locking | reading | expiring | closing | charging | marking
    | settling | committing | aborting => cases hM

end TopUpStage

end Concurrent
end TopUpPromo
