import TopUpPromo.Proofs.Concurrent.Threads
import TopUpPromo.Proofs.Redemption.Phases

/-!
# The steps of a top-up and of a voucher check

`TopUpStage.Holds` and `CheckStage.Holds` say what a thread knows at each stage of the store
and of its own transaction, through the phases of the voucher transaction; `TopUpStage.Paid`
says which payment calls a top-up has made by then: none before the charge, and from the charge
on exactly one, of the discounted amount, made under the voucher's lock on a store that reports
the voucher as the top-up's checks passed it.

The step lemmas (`TopUpStage.steps_of_move`, `CheckStage.steps_of_move`) say that the call of
every stage keeps these facts whatever the outside world answers, and what it writes. Only a
commit writes voucher rows, and then the row of the request's code, which was active: a check,
or a top-up that finds its voucher past its expiry, expires it; a top-up that used it marks it
used, and answers with the success whose discount and transaction id the row records.
-/

namespace TopUpPromo

namespace Decimal

theorem equiv_self (a : Decimal) : a.equiv a = true := by
  simp [equiv, cmp]

theorem coeffAt_exp (c e : Int) : (⟨c, e⟩ : Decimal).coeffAt e = c := by
  rw [coeffAt, if_pos le_rfl, Int.sub_self]
  exact Int.mul_one c

theorem equiv_sub_zero (a : Decimal) : a.equiv (a - 0) = true := by
  have hle : min a.exp 0 ≤ a.exp := min_le_left _ _
  -- subtracting zero rescales to the smaller exponent, exactly
  have hsub : a - 0 = ⟨a.coeffAt (min a.exp 0), min a.exp 0⟩ := by
    show add a (neg (ofInt 0)) = _
    simp [add, neg, ofInt, coeffAt]
  have hmin : min a.exp (min a.exp 0) = min a.exp 0 := min_eq_right hle
  rw [hsub, equiv, cmp]
  simp only [hmin, coeffAt_exp]
  simp

end Decimal

theorem Voucher.isValid_eq_true {v : Voucher} {now : Instant} :
    v.isValid now = true ↔ v.status = .active ∧ v.isExpired now = false := by
  simp [Voucher.isValid]

namespace Concurrent

open Memory

namespace TopUpStage

section Facts

variable (now : Instant) (ctx : Ctx) (req : TopUpRequest)

/-- The voucher read under the lock passes the top-up's checks: active and not past its expiry
at `now`, owned by the caller, and with a minimum the amount reaches. -/
def Usable (v : Voucher) : Prop :=
  v.isValid now = true ∧ v.userId = req.userId ∧ ¬req.amount < v.minTopup

/-- The committed voucher of the top-up's code records the use that answer `res` reports, and
its terms give the discount and the final amount of that answer. -/
def Recorded (s : Store) (res : RedemptionResult) : Prop :=
  ∃ r, s.RowOf req.voucherCode r ∧ r.status = .used ∧ r.usedAmount = some req.amount ∧
    r.discountAmount = some res.discountAmount ∧ r.reference = some res.transactionId ∧
    discount req r = ⟨res.discountAmount, res.finalAmount⟩

/-- What a top-up knows at each stage of the store `s` and of its own transaction `tx`. -/
def Holds (s : Store) (tx : Option Tx) : TopUpStage → Prop
  | .start | .opening _ => tx = none
  | .paying _ => tx = none ∧ req.voucherCode.isEmpty = true
  | .finding _ => Phase.Opened tx
  | .locking _ vid => Phase.Found s req.voucherCode vid tx
  | .reading _ vid => Phase.Locked s req.voucherCode vid tx
  | .expiring _ v => Phase.Expiring s now req.voucherCode v tx
  | .closing _ v => Phase.Closing s now req.voucherCode v tx
  | .charging _ v | .marking _ v =>
    ∃ o v0, tx = some (voucherTx o req.voucherCode [] []) ∧ Phase.Read s req.voucherCode v0 v ∧
      Usable now req v
  | .settling txId v =>
    ∃ o v0, tx = some (voucherTx o req.voucherCode [v0.markUsed (usage now req txId v)] []) ∧
      Phase.Read s req.voucherCode v0 v ∧ Usable now req v
  | .committing _ none => Phase.Ending s now req.voucherCode tx
  | .committing txId (some v) =>
    ∃ o v0 ps, tx = some (voucherTx o req.voucherCode [v0.markUsed (usage now req txId v)] ps) ∧
      Phase.Read s req.voucherCode v0 v ∧ Usable now req v ∧ Phase.Staged s ps
  | .aborting _ _ => Phase.Aborting s tx
  | .finished r =>
    tx = none ∧ ∀ res, r = .ok res → req.voucherCode.isEmpty = false → Recorded req s res

/-- The charge of a top-up for voucher `v` under transaction id `txId`: the discounted amount,
asked under the voucher's lock on a store that reports the voucher as `v`, which passes the
checks. -/
def Charged (m : Made) (txId : String) (v : Voucher) : Prop :=
  m.call = .confirmPayment ctx ⟨req.phone, (discount req v).final, txId, method req⟩ ∧
    ∃ t, m.tx = some t ∧ m.store.holderOf (.voucher req.voucherCode) = some ⟨t.owner, none⟩ ∧
      m.store.getVoucherByCode req.voucherCode = .ok v ∧ Usable now req v

/-- The payment calls `pays` a top-up has made at each stage: none before its charge, exactly the
charge after it, and at a successful end the charge of the answer's final amount, the amount
less the discount, under its transaction id, which for a voucher is the charge of its
discount. -/
def Paid (pays : List Made) : TopUpStage → Prop
  | .marking txId v | .settling txId v | .committing txId (some v) =>
    ∃ m, pays = [m] ∧ Charged now ctx req m txId v
  | .aborting _ _ | .finished (.error _) => pays.length ≤ 1
  | .finished (.ok res) =>
    ∃ m, pays = [m] ∧
      m.call = .confirmPayment ctx ⟨req.phone, res.finalAmount, res.transactionId, method req⟩ ∧
      res.finalAmount.equiv (req.amount - res.discountAmount) = true ∧
      (req.voucherCode.isEmpty = false → ∃ v, Charged now ctx req m res.transactionId v ∧
        res.discountAmount = (discount req v).discount ∧ res.finalAmount = (discount req v).final)
  | _ => pays = []

/-- What a step into `next` writes from `s` to `s'`: a voucher row that changes has the top-up's
code and was active, and is expired, past its expiry at `now`, or, when `next` answers with
success, used as the answer says. -/
def Writes (s s' : Store) (next : TopUpStage) : Prop :=
  ∀ id v v', findBy (·.id) s.vouchers id = some v → findBy (·.id) s'.vouchers id = some v' →
    v' ≠ v → v.code = req.voucherCode ∧ v.status = .active ∧
      ((v.isExpired now = true ∧ v' = { v with status := .expired }) ∨
        ∃ res, next = .finished (.ok res) ∧
          v' = v.markUsed ⟨now, req.amount, res.discountAmount, res.transactionId⟩)

def Next (s : Store) (tx : Option Tx) (pays : List Made) (c : Call) (next : TopUpStage)
    (s' : Store) (tx' : Option Tx) : Prop :=
  Touch s tx s' tx' ∧ next.Holds now req s' tx' ∧
    next.Paid now ctx req (pays ++ (Made.mk c s tx).payments) ∧ Writes now req s s' next ∧
    ∀ res, next = .finished (.ok res) → req.voucherCode.isEmpty = false →
      ∃ v0, s.RowOf req.voucherCode v0 ∧ v0.status = .active

def Steps (s : Store) (tx : Option Tx) (pays : List Made) (c : Call)
    (after : c.Answer → TopUpStage) : Prop :=
  ∀ o, Next now ctx req s tx pays c (after (c.perform o ⟨s, tx⟩).1)
    (c.perform o ⟨s, tx⟩).2.store (c.perform o ⟨s, tx⟩).2.current

end Facts

variable {now : Instant} {ctx : Ctx} {req : TopUpRequest} {named : Bool} {s : Store}
  {tx : Option Tx} {pays : List Made} {c : Call} {after : c.Answer → TopUpStage}

/-! ### Building a step -/

theorem steps_of_moves {P : c.Answer → Store → Option Tx → Prop} (hm : Phase.Moves s tx c P)
    (h : ∀ a s' tx', Touch s tx s' tx' → P a s' tx' → Next now ctx req s tx pays c (after a) s' tx') :
    Steps now ctx req s tx pays c after :=
  fun o => h _ _ _ (hm o).1 (hm o).2

theorem steps_of_read (hperform : ∀ o, (c.perform o ⟨s, tx⟩).2 = ⟨s, tx⟩)
    (h : ∀ a, Next now ctx req s tx pays c (after a) s tx) : Steps now ctx req s tx pays c after := by
  intro o
  rw [hperform o]
  exact h _

theorem writes_of_expires {s' : Store} {next : TopUpStage}
    (h : Phase.Expires s s' now req.voucherCode) : Writes now req s s' next := by
  intro id v v' hv hv' hne
  obtain ⟨hcode, ⟨hactive, hexpired⟩, rfl⟩ := h id v v' hv hv' hne
  exact ⟨hcode, hactive, .inl ⟨hexpired, rfl⟩⟩

theorem writes_of_vouchers {s' : Store} {next : TopUpStage} (h : s'.vouchers = s.vouchers) :
    Writes now req s s' next :=
  writes_of_expires (Phase.expires_of_vouchers h)

theorem next_quiet {s' : Store} {tx' : Option Tx} {next : TopUpStage} (ht : Touch s tx s' tx')
    (hholds : next.Holds now req s' tx') (hpaid : next.Paid now ctx req pays)
    (hpay : (Made.mk c s tx).payments = []) (hv : s'.vouchers = s.vouchers)
    (hnext : ∀ res, next ≠ .finished (.ok res)) : Next now ctx req s tx pays c next s' tx' := by
  refine ⟨ht, hholds, ?_, writes_of_vouchers hv, fun res h => absurd h (hnext res)⟩
  rw [hpay, List.append_nil]
  exact hpaid

theorem next_aborting {s' : Store} {t' : Tx} {txId : String} {f : Failure}
    (ht : Touch s tx s' (some t')) (hg : t'.Guard s')
    (hpays : (pays ++ (Made.mk c s tx).payments).length ≤ 1) :
    Next now ctx req s tx pays c (.aborting txId f) s' (some t') :=
  ⟨ht, ⟨t', rfl, hg⟩, hpays, writes_of_vouchers ht.rows_of_some.2, fun _ h => by cases h⟩

theorem next_failed {s' : Store} {e : Failure} (ht : Touch s tx s' none)
    (hpays : (pays ++ (Made.mk c s tx).payments).length ≤ 1) (hv : s'.vouchers = s.vouchers) :
    Next now ctx req s tx pays c (.finished (.error e)) s' none :=
  ⟨ht, ⟨rfl, fun _ h => by cases h⟩, hpays, writes_of_vouchers hv, fun _ h => by cases h⟩

theorem discount_joinVoucher (s : Store) (staged : List Participation) (v : Voucher) :
    discount req (s.joinVoucher staged v) = discount req v := by
  unfold Store.joinVoucher
  split
  · rfl
  · split <;> rfl

theorem Usable.active {s : Store} {v0 v : Voucher} (h : Usable now req v)
    (hread : Phase.Read s req.voucherCode v0 v) : v0.status = .active := by
  obtain ⟨u, hu⟩ := s.joinVoucher_with [] v0
  have hvalid := h.1
  rw [hread.2, hu] at hvalid
  exact (Voucher.isValid_eq_true.1 hvalid).1

/-! ### The stages -/

section Stages

variable {txId : String}

theorem steps_start (hh : Holds now req s tx .start) (hpaid : Paid now ctx req pays .start)
    (hM : move now ctx req named .start = .call c after) : Steps now ctx req s tx pays c after := by
  have htx : tx = none := hh
  simp only [move] at hM
  split at hM
  · cases hM
  split at hM
  · cases hM
  cases hM
  refine steps_of_read (fun _ => rfl) fun suffix => ?_
  split
  · exact next_quiet .read ⟨htx, ‹_›⟩ hpaid rfl rfl fun _ h => by cases h
  · exact next_quiet .read htx hpaid rfl rfl fun _ h => by cases h

theorem steps_paying (hh : Holds now req s tx (.paying txId))
    (hpaid : Paid now ctx req pays (.paying txId))
    (hM : move now ctx req named (.paying txId) = .call c after) :
    Steps now ctx req s tx pays c after := by
  cases hM
  obtain ⟨htx, hempty⟩ := hh
  have hpays : pays = [] := hpaid
  subst hpays htx
  -- the one charge of a top-up without a voucher, of the full amount
  refine steps_of_read (fun _ => rfl) fun a => ?_
  rcases a with e | _ | _
  · exact next_failed .read (by simp [Made.payments]) rfl
  · exact next_failed .read (by simp [Made.payments]) rfl
  · refine ⟨.read, ⟨rfl, fun res _ h => absurd hempty (by simp [h])⟩,
      ⟨_, rfl, rfl, Decimal.equiv_sub_zero _, fun h => absurd hempty (by simp [h])⟩,
      writes_of_vouchers rfl,
      fun res _ h => absurd hempty (by simp [h])⟩

theorem steps_opening (hh : Holds now req s tx (.opening txId))
    (hpaid : Paid now ctx req pays (.opening txId))
    (hM : move now ctx req named (.opening txId) = .call c after) :
    Steps now ctx req s tx pays c after := by
  cases hM
  refine steps_of_moves (Phase.moves_begin hh) fun _ s' tx' ht hopened => ?_
  obtain ⟨o, rfl⟩ := hopened
  exact next_quiet ht ⟨o, rfl⟩ hpaid rfl ht.rows_of_some.2 fun _ h => by cases h

theorem steps_finding (hh : Holds now req s tx (.finding txId))
    (hpaid : Paid now ctx req pays (.finding txId))
    (hM : move now ctx req named (.finding txId) = .call c after) :
    Steps now ctx req s tx pays c after := by
  cases hM
  have hpays : pays = [] := hpaid
  subst hpays
  refine steps_of_moves (Phase.Opened.findVoucher hh) fun a s' tx' ht hpost => ?_
  rcases a with e | vid
  · obtain ⟨t', rfl, hg⟩ := hpost
    exact next_aborting ht hg (by simp [Made.payments])
  · obtain ⟨⟨o, rfl⟩, hnamed⟩ := hpost
    exact next_quiet ht ⟨⟨o, rfl⟩, hnamed⟩ rfl rfl ht.rows_of_some.2 fun _ h => by cases h

theorem steps_locking {others : List Tx} {vid : Int} (hlocks : LocksAgree s (tx.toList ++ others))
    (hh : Holds now req s tx (.locking txId vid)) (hpaid : Paid now ctx req pays (.locking txId vid))
    (hM : move now ctx req named (.locking txId vid) = .call c after) :
    Steps now ctx req s tx pays c after := by
  cases hM
  have hpays : pays = [] := hpaid
  subst hpays
  refine steps_of_moves (Phase.Found.lock hlocks hh) fun a s' tx' ht hpost => ?_
  rcases a with e | _
  · obtain ⟨t', rfl, hg⟩ := hpost
    exact next_aborting ht hg (by simp [Made.payments])
  · obtain ⟨o, rfl, hnamed⟩ := hpost
    exact next_quiet ht ⟨o, rfl, hnamed⟩ rfl rfl ht.rows_of_some.2 fun _ h => by cases h

theorem next_afterRead {s' : Store} {o : Nat} {v0 v : Voucher}
    (ht : Touch s tx s' (some (voucherTx o req.voucherCode [] [])))
    (hread : Phase.Read s' req.voucherCode v0 v) (hpay : (Made.mk c s tx).payments = []) :
    Next now ctx req s tx [] c (afterRead now req txId v) s'
      (some (voucherTx o req.voucherCode [] [])) := by
  have hv := ht.rows_of_some.2
  have hg : (voucherTx o req.voucherCode [] []).Guard s' :=
    voucherTx_guard (fun _ h => by cases h) fun _ h => by cases h
  unfold afterRead
  by_cases howner : (v.userId != req.userId) = true
  · rw [if_pos howner]
    exact next_aborting ht hg (by simp [hpay])
  rw [if_neg howner]
  by_cases hvalid : (!v.isValid now) = true
  · rw [if_pos hvalid]
    split
    · -- a voucher used, cancelled or still in time ends the transaction as it is
      exact next_quiet ht ⟨o, [], [], rfl, .inl rfl, fun _ h => by cases h⟩ rfl hpay hv
        fun _ h => by cases h
    · -- an active voucher past its expiry is expired
      rename_i hkeep
      exact next_quiet ht ⟨o, v0, rfl, hread, hread.lapsed hkeep⟩ rfl hpay hv fun _ h => by cases h
  rw [if_neg hvalid]
  by_cases hmin : req.amount < v.minTopup
  · rw [if_pos hmin]
    exact next_aborting ht hg (by simp [hpay])
  rw [if_neg hmin]
  have husable : Usable now req v :=
    ⟨by simpa using hvalid, by simpa using howner, hmin⟩
  exact next_quiet ht ⟨o, v0, rfl, hread, husable⟩ rfl hpay hv fun _ h => by cases h

theorem steps_reading {vid : Int} (hids : (s.vouchers.map (·.id)).Nodup)
    (hh : Holds now req s tx (.reading txId vid)) (hpaid : Paid now ctx req pays (.reading txId vid))
    (hM : move now ctx req named (.reading txId vid) = .call c after) :
    Steps now ctx req s tx pays c after := by
  cases hM
  have hpays : pays = [] := hpaid
  subst hpays
  refine steps_of_moves (Phase.Locked.readVoucher hids hh) fun a s' tx' ht hpost => ?_
  rcases a with e | v
  · obtain ⟨t', rfl, hg⟩ := hpost
    exact next_aborting ht hg (by simp [Made.payments])
  · obtain ⟨o, v0, rfl, hread⟩ := hpost
    exact next_afterRead ht hread rfl

theorem steps_expiring {v : Voucher} (hh : Holds now req s tx (.expiring txId v))
    (hpaid : Paid now ctx req pays (.expiring txId v))
    (hM : move now ctx req named (.expiring txId v) = .call c after) :
    Steps now ctx req s tx pays c after := by
  cases hM
  have hpays : pays = [] := hpaid
  subst hpays
  refine steps_of_moves (Phase.Expiring.markVoucherExpired hh) fun a s' tx' ht hpost => ?_
  rcases a with e | _
  · obtain ⟨t', rfl, hg⟩ := hpost
    exact next_aborting ht hg (by simp [Made.payments])
  · obtain ⟨o, v0, rfl, hclosing⟩ := hpost
    exact next_quiet ht ⟨o, v0, rfl, hclosing⟩ rfl rfl ht.rows_of_some.2 fun _ h => by cases h

theorem steps_closing {v : Voucher} (hh : Holds now req s tx (.closing txId v))
    (hpaid : Paid now ctx req pays (.closing txId v))
    (hM : move now ctx req named (.closing txId v) = .call c after) :
    Steps now ctx req s tx pays c after := by
  cases hM
  have hpays : pays = [] := hpaid
  subst hpays
  refine steps_of_moves (Phase.Closing.updateParticipationStatus hh) fun a s' tx' ht hpost => ?_
  rcases a with e | _
  · obtain ⟨t', rfl, hg⟩ := hpost
    exact next_aborting ht hg (by simp [Made.payments])
  · obtain ⟨o, vs, ps, rfl, hending⟩ := hpost
    exact next_quiet ht ⟨o, vs, ps, rfl, hending⟩ rfl rfl ht.rows_of_some.2 fun _ h => by cases h

theorem steps_charging {others : List Tx} {v : Voucher} (hlocks : LocksAgree s (tx.toList ++ others))
    (hids : (s.vouchers.map (·.id)).Nodup) (hh : Holds now req s tx (.charging txId v))
    (hpaid : Paid now ctx req pays (.charging txId v))
    (hM : move now ctx req named (.charging txId v) = .call c after) :
    Steps now ctx req s tx pays c after := by
  cases hM
  obtain ⟨o, v0, rfl, hread, husable⟩ := hh
  have hpays : pays = [] := hpaid
  subst hpays
  have hmine : voucherTx o req.voucherCode [] [] ∈
      (some (voucherTx o req.voucherCode [] [])).toList ++ others := List.mem_cons_self
  have hheld : s.holderOf (.voucher req.voucherCode) = some ⟨o, none⟩ :=
    hlocks.holderOf_of_held hmine List.mem_cons_self
  have hcharged : Charged now ctx req
      ⟨.confirmPayment ctx ⟨req.phone, (discount req v).final, txId, method req⟩, s,
        some (voucherTx o req.voucherCode [] [])⟩ txId v := by
    refine ⟨rfl, _, rfl, hheld, ?_, husable⟩
    rw [hread.1.getVoucherByCode hids, hread.2]
  have hg : (voucherTx o req.voucherCode [] []).Guard s :=
    voucherTx_guard (fun _ h => by cases h) fun _ h => by cases h
  refine steps_of_read (fun _ => rfl) fun a => ?_
  rcases a with e | _ | _
  · exact next_aborting .read hg (by simp [Made.payments])
  · exact next_aborting .read hg (by simp [Made.payments])
  · exact ⟨.read, ⟨o, v0, rfl, hread, husable⟩, ⟨_, rfl, hcharged⟩, writes_of_vouchers rfl,
      fun _ h => by cases h⟩

theorem steps_marking {v : Voucher} (hh : Holds now req s tx (.marking txId v))
    (hpaid : Paid now ctx req pays (.marking txId v))
    (hM : move now ctx req named (.marking txId v) = .call c after) :
    Steps now ctx req s tx pays c after := by
  cases hM
  obtain ⟨o, v0, rfl, hread, husable⟩ := hh
  obtain ⟨m, rfl, hcharged⟩ := hpaid
  have hg : (voucherTx o req.voucherCode [] []).Guard s :=
    voucherTx_guard (fun _ h => by cases h) fun _ h => by cases h
  intro oracle
  simp only [Call.perform, Backend.step]
  rcases @Tx.markVoucherUsed_cases s (voucherTx o req.voucherCode [] []) v.id
      (usage now req txId v) with ⟨x, hx, -, hstaged⟩ | ⟨e, he⟩
  · -- the row seen is the one read under the lock, staged used
    rw [Tx.voucher_of_unstaged rfl, hread.id_eq, hread.1.row] at hx
    cases hx
    rw [hstaged]
    exact ⟨.stage rfl rfl, ⟨o, v0, by simp [voucherTx], hread, husable⟩, ⟨m, rfl, hcharged⟩,
      writes_of_vouchers rfl, fun _ h => by cases h⟩
  · rw [he]
    exact next_aborting .read hg (by simp [Made.payments])

theorem steps_settling {v : Voucher} (hh : Holds now req s tx (.settling txId v))
    (hpaid : Paid now ctx req pays (.settling txId v))
    (hM : move now ctx req named (.settling txId v) = .call c after) :
    Steps now ctx req s tx pays c after := by
  cases hM
  obtain ⟨o, v0, rfl, hread, husable⟩ := hh
  obtain ⟨m, rfl, hcharged⟩ := hpaid
  have hstaged : ∀ w ∈ [v0.markUsed (usage now req txId v)], ∃ v1, s.RowOf req.voucherCode v1 ∧
      v1.status = .active ∧ w.id = v1.id ∧ w.code = req.voucherCode :=
    Phase.rowOf_staged hread.1 (husable.active hread) rfl rfl
  intro oracle
  simp only [Call.perform, Backend.step]
  rcases @Tx.updateParticipationStatus_cases s
      (voucherTx o req.voucherCode [v0.markUsed (usage now req txId v)] []) v.participationId
      .voucherUsed now with ⟨p, hp, hupdate⟩ | ⟨e, he⟩
  · rw [hupdate]
    rw [Tx.participation_of_unstaged rfl] at hp
    have hmem : p ∈ s.participations := (findBy_eq_some _ hp).1
    have hps : Phase.Staged s [p.withStatus .voucherUsed now] := by
      intro q hq
      rw [List.mem_singleton] at hq
      subst hq
      rw [Participation.owner_withStatus]
      exact List.mem_map_of_mem hmem
    exact ⟨.stage rfl rfl, ⟨o, v0, _, by simp [voucherTx], hread, husable, hps⟩,
      ⟨m, rfl, hcharged⟩, writes_of_vouchers rfl, fun _ h => by cases h⟩
  · rw [he]
    exact next_aborting .read (voucherTx_guard hstaged fun _ h => by cases h)
      (by simp [Made.payments])

theorem steps_committing_none (hh : Holds now req s tx (.committing txId none))
    (hpaid : Paid now ctx req pays (.committing txId none))
    (hM : move now ctx req named (.committing txId none) = .call c after) :
    Steps now ctx req s tx pays c after := by
  cases hM
  have hpays : pays = [] := hpaid
  subst hpays
  refine steps_of_moves (Phase.Ending.finish hh) fun a s' tx' ht hpost => ?_
  obtain ⟨rfl, hexpires⟩ := hpost
  -- the voucher was not used: the top-up fails however the transaction ends
  rcases a with e | _ <;>
  · exact ⟨ht, ⟨rfl, fun _ h => by cases h⟩, Nat.zero_le _, writes_of_expires hexpires,
      fun _ h => by cases h⟩

theorem steps_committing_used {v : Voucher} (hids : (s.vouchers.map (·.id)).Nodup)
    (hpids : (s.participations.map (·.id)).Nodup)
    (hh : Holds now req s tx (.committing txId (some v)))
    (hpaid : Paid now ctx req pays (.committing txId (some v)))
    (hM : move now ctx req named (.committing txId (some v)) = .call c after) :
    Steps now ctx req s tx pays c after := by
  cases hM
  obtain ⟨o, v0, ps, rfl, hread, husable, hps⟩ := hh
  obtain ⟨m, rfl, hcharged⟩ := hpaid
  have hactive : v0.status = .active := husable.active hread
  have hg : (voucherTx o req.voucherCode [v0.markUsed (usage now req txId v)] ps).Guard s :=
    voucherTx_guard (Phase.rowOf_staged hread.1 hactive rfl rfl) hps
  intro oracle
  simp only [Call.perform, Backend.finish]
  cases ctx.failure? with
  | some f => exact next_failed .rollback (by simp [Made.payments]) rfl
  | none =>
    have hov := hg.overwrites hids hpids
    have hrow : findBy (·.id) ((voucherTx o req.voucherCode [v0.markUsed (usage now req txId v)]
        ps).commit s).vouchers v0.id = some (v0.markUsed (usage now req txId v)) := by
      rw [Tx.findBy_commit_single rfl]
      exact if_pos rfl
    have hrecorded : (v0.markUsed (usage now req txId v)).code = req.voucherCode := hread.1.code
    refine ⟨.commit, ⟨rfl, ?_⟩,
      ⟨m, rfl, hcharged.1, Decimal.equiv_self _, fun _ => ⟨v, hcharged, rfl, rfl⟩⟩, ?_, ?_⟩
    · -- the committed row records the use the answer reports
      rintro res hres -
      cases hres
      refine ⟨_, ⟨hrow, hrecorded, (Store.voucherId_of_keys hov.keys _).trans hread.1.named⟩,
        rfl, rfl, rfl, rfl, ?_⟩
      -- the used row keeps the terms of the voucher read, which gave the discount
      calc discount req (v0.markUsed (usage now req txId v))
          = discount req v0 := rfl
        _ = discount req v := by rw [hread.2, discount_joinVoucher]
    · intro id w w' hw hw' hne
      rw [Tx.findBy_commit_single rfl] at hw'
      split at hw'
      · rename_i hid
        have hid' : id = v0.id := hid
        rw [hid', hread.1.row] at hw
        cases hw
        cases hw'
        exact ⟨hread.1.code, hactive, .inr ⟨_, rfl, rfl⟩⟩
      · rw [hw] at hw'
        cases hw'
        exact absurd rfl hne
    · intro _ _ _
      exact ⟨v0, hread.1, hactive⟩

theorem steps_aborting {f : Failure} (hh : Holds now req s tx (.aborting txId f))
    (hpaid : Paid now ctx req pays (.aborting txId f))
    (hM : move now ctx req named (.aborting txId f) = .call c after) :
    Steps now ctx req s tx pays c after := by
  cases hM
  refine steps_of_moves (Phase.Aborting.finish hh) fun a s' tx' ht hpost => ?_
  obtain ⟨rfl, hv⟩ := hpost
  have hone : pays.length ≤ 1 := hpaid
  have hpays : (pays ++ (Made.mk (.finish ctx (.error f)) s tx).payments).length ≤ 1 := by
    simpa [Made.payments] using hone
  rcases a with e | _
  · exact next_failed ht hpays hv
  · exact next_failed ht hpays hv

/-- The call of every stage keeps what the top-up knows, as `Next` says. -/
theorem steps_of_move {others : List Tx} {st : TopUpStage}
    (hlocks : LocksAgree s (tx.toList ++ others)) (hids : (s.vouchers.map (·.id)).Nodup)
    (hpids : (s.participations.map (·.id)).Nodup) (hh : st.Holds now req s tx)
    (hpaid : st.Paid now ctx req pays) (hM : move now ctx req named st = .call c after) :
    Steps now ctx req s tx pays c after := by
  cases st with
  | start => exact steps_start hh hpaid hM
  | paying txId => exact steps_paying hh hpaid hM
  | opening txId => exact steps_opening hh hpaid hM
  | finding txId => exact steps_finding hh hpaid hM
  | locking txId vid => exact steps_locking hlocks hh hpaid hM
  | reading txId vid => exact steps_reading hids hh hpaid hM
  | expiring txId v => exact steps_expiring hh hpaid hM
  | closing txId v => exact steps_closing hh hpaid hM
  | charging txId v => exact steps_charging hlocks hids hh hpaid hM
  | marking txId v => exact steps_marking hh hpaid hM
  | settling txId v => exact steps_settling hh hpaid hM
  | committing txId used =>
    cases used with
    | none => exact steps_committing_none hh hpaid hM
    | some v => exact steps_committing_used hids hpids hh hpaid hM
  | aborting txId f => exact steps_aborting hh hpaid hM
  | finished r => cases hM

end Stages

/-! ### What the other transactions may do -/

section Frame

variable {s' : Store} {held : List LockKey}

theorem Recorded.of_overwrites {res : RedemptionResult} (h : Recorded req s res)
    (hov : s.Overwrites held s') : Recorded req s' res := by
  obtain ⟨r, hrow, hused, hrest⟩ := h
  -- a used row is not active, so no transaction writes it
  refine ⟨r, hrow.of_overwrites hov fun hactive => ?_, hused, hrest⟩
  rw [hused] at hactive
  cases hactive

theorem Holds.of_overwrites {st : TopUpStage} (hh : st.Holds now req s tx)
    (hov : s.Overwrites held s') (hfree : Phase.Apart held tx) : st.Holds now req s' tx := by
  cases st with
  | start | opening | paying | finding => exact hh
  | locking txId vid => exact Phase.Found.of_overwrites hh hov
  | reading txId vid => exact Phase.Locked.of_overwrites hh hov
  | expiring txId v => exact Phase.Expiring.of_overwrites hh hov hfree
  | closing txId v => exact Phase.Closing.of_overwrites hh hov hfree
  | charging txId v | marking txId v =>
    obtain ⟨o, v0, htx, hread, husable⟩ := hh
    exact ⟨o, v0, htx, hread.of_overwrites hov (hfree.voucher htx), husable⟩
  | settling txId v =>
    obtain ⟨o, v0, htx, hread, husable⟩ := hh
    exact ⟨o, v0, htx, hread.of_overwrites hov (hfree.voucher htx), husable⟩
  | committing txId used =>
    cases used with
    | none => exact Phase.Ending.of_overwrites hh hov hfree
    | some v =>
      obtain ⟨o, v0, ps, htx, hread, husable, hps⟩ := hh
      exact ⟨o, v0, ps, htx, hread.of_overwrites hov (hfree.voucher htx), husable,
        hps.of_overwrites hov⟩
  | aborting txId f => exact Phase.Aborting.of_overwrites hh hov hfree
  | finished r =>
    obtain ⟨htx, hrecorded⟩ := hh
    exact ⟨htx, fun res hres hempty => (hrecorded res hres hempty).of_overwrites hov⟩

theorem Holds.guarded {st : TopUpStage} (hh : st.Holds now req s tx) :
    tx = none ∨ Phase.Aborting s tx := by
  cases st with
  | start | opening => exact .inl hh
  | paying txId => exact .inl hh.1
  | finished r => exact .inl hh.1
  | finding txId => exact .inr (Phase.Opened.aborting hh)
  | locking txId vid => exact .inr (Phase.Opened.aborting hh.1)
  | reading txId vid => exact .inr (Phase.Locked.aborting hh)
  | expiring txId v => exact .inr (Phase.Expiring.aborting hh)
  | closing txId v => exact .inr (Phase.Closing.aborting hh)
  | charging txId v | marking txId v =>
    obtain ⟨o, v0, rfl, -⟩ := hh
    exact .inr ⟨_, rfl, voucherTx_guard (fun _ h => by cases h) fun _ h => by cases h⟩
  | settling txId v =>
    obtain ⟨o, v0, rfl, hread, husable⟩ := hh
    exact .inr ⟨_, rfl, voucherTx_guard (Phase.rowOf_staged hread.1 (husable.active hread) rfl rfl)
      fun _ h => by cases h⟩
  | committing txId used =>
    cases used with
    | none => exact .inr (Phase.Ending.aborting hh)
    | some v =>
      obtain ⟨o, v0, ps, rfl, hread, husable, hps⟩ := hh
      exact .inr ⟨_, rfl, voucherTx_guard
        (Phase.rowOf_staged hread.1 (husable.active hread) rfl rfl) hps⟩
  | aborting txId f => exact .inr hh

end Frame

theorem stop_success {st : TopUpStage} {res : RedemptionResult}
    (hM : move now ctx req named st = .stop (.toppedUp (.ok res))) : st = .finished (.ok res) := by
  cases st with
  | start =>
    simp only [move] at hM
    split at hM
    · cases hM
    split at hM <;> cases hM
  | finished r =>
    cases hM
    rfl
  | paying | opening | finding | locking | reading | expiring | closing | charging | marking
    | settling | committing | aborting => cases hM

end TopUpStage

namespace CheckStage

section Facts

variable (now : Instant) (code : String)

/-- What a voucher check knows at each stage of the store `s` and of its own transaction `tx`. -/
def Holds (s : Store) (tx : Option Tx) : CheckStage → Prop
  | .start | .opening | .finished _ => tx = none
  | .finding => Phase.Opened tx
  | .locking vid => Phase.Found s code vid tx
  | .reading vid => Phase.Locked s code vid tx
  | .expiring v => Phase.Expiring s now code v tx
  | .closing v => Phase.Closing s now code v tx
  | .committing _ => Phase.Ending s now code tx
  | .aborting _ => Phase.Aborting s tx

def Next (s : Store) (tx : Option Tx) (next : CheckStage) (s' : Store) (tx' : Option Tx) : Prop :=
  Touch s tx s' tx' ∧ next.Holds now code s' tx' ∧ Phase.Expires s s' now code

def Steps (s : Store) (tx : Option Tx) (c : Call) (after : c.Answer → CheckStage) : Prop :=
  ∀ o, Next now code s tx (after (c.perform o ⟨s, tx⟩).1) (c.perform o ⟨s, tx⟩).2.store
    (c.perform o ⟨s, tx⟩).2.current

end Facts

variable {now : Instant} {ctx : Ctx} {code : String} {s : Store} {tx : Option Tx} {c : Call}
  {after : c.Answer → CheckStage}

theorem steps_of_moves {P : c.Answer → Store → Option Tx → Prop} (hm : Phase.Moves s tx c P)
    (h : ∀ a s' tx', Touch s tx s' tx' → P a s' tx' → Next now code s tx (after a) s' tx') :
    Steps now code s tx c after :=
  fun o => h _ _ _ (hm o).1 (hm o).2

theorem next_open {s' : Store} {t' : Tx} {next : CheckStage} (ht : Touch s tx s' (some t'))
    (hholds : next.Holds now code s' (some t')) : Next now code s tx next s' (some t') :=
  ⟨ht, hholds, Phase.expires_of_vouchers ht.rows_of_some.2⟩

section Stages

theorem steps_start (hh : Holds now code s tx .start)
    (hM : move now ctx code .start = .call c after) : Steps now code s tx c after := by
  cases hM
  intro o
  refine ⟨.read, ?_, Phase.expires_of_vouchers rfl⟩
  -- the read outside a transaction leads to an answer or to opening one, with none open
  simp only [Call.perform]
  rcases s.getVoucherByCode code with e | v
  · exact hh
  · dsimp only
    split <;> exact hh

theorem steps_opening (hh : Holds now code s tx .opening)
    (hM : move now ctx code .opening = .call c after) : Steps now code s tx c after := by
  cases hM
  refine steps_of_moves (Phase.moves_begin hh) fun _ s' tx' ht hopened => ?_
  obtain ⟨o, rfl⟩ := hopened
  exact next_open ht ⟨o, rfl⟩

theorem steps_finding (hh : Holds now code s tx .finding)
    (hM : move now ctx code .finding = .call c after) : Steps now code s tx c after := by
  cases hM
  refine steps_of_moves (Phase.Opened.findVoucher hh) fun a s' tx' ht hpost => ?_
  rcases a with e | vid
  · obtain ⟨t', rfl, hg⟩ := hpost
    exact next_open ht ⟨t', rfl, hg⟩
  · obtain ⟨⟨o, rfl⟩, hnamed⟩ := hpost
    exact next_open ht ⟨⟨o, rfl⟩, hnamed⟩

theorem steps_locking {others : List Tx} {vid : Int} (hlocks : LocksAgree s (tx.toList ++ others))
    (hh : Holds now code s tx (.locking vid))
    (hM : move now ctx code (.locking vid) = .call c after) : Steps now code s tx c after := by
  cases hM
  refine steps_of_moves (Phase.Found.lock hlocks hh) fun a s' tx' ht hpost => ?_
  rcases a with e | _
  · obtain ⟨t', rfl, hg⟩ := hpost
    exact next_open ht ⟨t', rfl, hg⟩
  · obtain ⟨o, rfl, hnamed⟩ := hpost
    exact next_open ht ⟨o, rfl, hnamed⟩

theorem steps_reading {vid : Int} (hids : (s.vouchers.map (·.id)).Nodup)
    (hh : Holds now code s tx (.reading vid))
    (hM : move now ctx code (.reading vid) = .call c after) : Steps now code s tx c after := by
  cases hM
  refine steps_of_moves (Phase.Locked.readVoucher hids hh) fun a s' tx' ht hpost => ?_
  rcases a with e | v
  · obtain ⟨t', rfl, hg⟩ := hpost
    exact next_open ht ⟨t', rfl, hg⟩
  · obtain ⟨o, v0, rfl, hread⟩ := hpost
    dsimp only
    split
    · exact next_open ht ⟨o, [], [], rfl, .inl rfl, fun _ h => by cases h⟩
    · rename_i hkeep
      exact next_open ht ⟨o, v0, rfl, hread, hread.lapsed hkeep⟩

theorem steps_expiring {v : Voucher} (hh : Holds now code s tx (.expiring v))
    (hM : move now ctx code (.expiring v) = .call c after) : Steps now code s tx c after := by
  cases hM
  refine steps_of_moves (Phase.Expiring.markVoucherExpired hh) fun a s' tx' ht hpost => ?_
  rcases a with e | _
  · obtain ⟨t', rfl, hg⟩ := hpost
    exact next_open ht ⟨t', rfl, hg⟩
  · obtain ⟨o, v0, rfl, hclosing⟩ := hpost
    exact next_open ht ⟨o, v0, rfl, hclosing⟩

theorem steps_closing {v : Voucher} (hh : Holds now code s tx (.closing v))
    (hM : move now ctx code (.closing v) = .call c after) : Steps now code s tx c after := by
  cases hM
  refine steps_of_moves (Phase.Closing.updateParticipationStatus hh) fun a s' tx' ht hpost => ?_
  rcases a with e | _
  · obtain ⟨t', rfl, hg⟩ := hpost
    exact next_open ht ⟨t', rfl, hg⟩
  · obtain ⟨o, vs, ps, rfl, hending⟩ := hpost
    exact next_open ht ⟨o, vs, ps, rfl, hending⟩

theorem steps_committing {v : Voucher} (hh : Holds now code s tx (.committing v))
    (hM : move now ctx code (.committing v) = .call c after) : Steps now code s tx c after := by
  cases hM
  refine steps_of_moves (Phase.Ending.finish hh) fun _ s' tx' ht hpost => ?_
  obtain ⟨rfl, hexpires⟩ := hpost
  exact ⟨ht, rfl, hexpires⟩

theorem steps_aborting {f : Failure} (hh : Holds now code s tx (.aborting f))
    (hM : move now ctx code (.aborting f) = .call c after) : Steps now code s tx c after := by
  cases hM
  refine steps_of_moves (Phase.Aborting.finish hh) fun _ s' tx' ht hpost => ?_
  obtain ⟨rfl, hv⟩ := hpost
  exact ⟨ht, rfl, Phase.expires_of_vouchers hv⟩

/-- The call of every stage keeps what the check knows, as `Next` says. -/
theorem steps_of_move {others : List Tx} {st : CheckStage}
    (hlocks : LocksAgree s (tx.toList ++ others)) (hids : (s.vouchers.map (·.id)).Nodup)
    (hh : st.Holds now code s tx) (hM : move now ctx code st = .call c after) :
    Steps now code s tx c after := by
  cases st with
  | start => exact steps_start hh hM
  | opening => exact steps_opening hh hM
  | finding => exact steps_finding hh hM
  | locking vid => exact steps_locking hlocks hh hM
  | reading vid => exact steps_reading hids hh hM
  | expiring v => exact steps_expiring hh hM
  | closing v => exact steps_closing hh hM
  | committing v => exact steps_committing hh hM
  | aborting f => exact steps_aborting hh hM
  | finished r => cases hM

theorem payments_of_move {st : CheckStage} (hM : move now ctx code st = .call c after)
    (tx : Option Tx) : (Made.mk c s tx).payments = [] := by
  cases st with
  | start | opening | finding | locking | reading | expiring | closing | committing | aborting =>
    cases hM
    rfl
  | finished r => cases hM

end Stages

section Frame

variable {s' : Store} {held : List LockKey}

theorem Holds.of_overwrites {st : CheckStage} (hh : st.Holds now code s tx)
    (hov : s.Overwrites held s') (hfree : Phase.Apart held tx) : st.Holds now code s' tx := by
  cases st with
  | start | opening | finished | finding => exact hh
  | locking vid => exact Phase.Found.of_overwrites hh hov
  | reading vid => exact Phase.Locked.of_overwrites hh hov
  | expiring v => exact Phase.Expiring.of_overwrites hh hov hfree
  | closing v => exact Phase.Closing.of_overwrites hh hov hfree
  | committing v => exact Phase.Ending.of_overwrites hh hov hfree
  | aborting f => exact Phase.Aborting.of_overwrites hh hov hfree

theorem Holds.guarded {st : CheckStage} (hh : st.Holds now code s tx) :
    tx = none ∨ Phase.Aborting s tx := by
  cases st with
  | start | opening | finished => exact .inl hh
  | finding => exact .inr (Phase.Opened.aborting hh)
  | locking vid => exact .inr (Phase.Opened.aborting hh.1)
  | reading vid => exact .inr (Phase.Locked.aborting hh)
  | expiring v => exact .inr (Phase.Expiring.aborting hh)
  | closing v => exact .inr (Phase.Closing.aborting hh)
  | committing v => exact .inr (Phase.Ending.aborting hh)
  | aborting f => exact .inr hh

end Frame

end CheckStage

end Concurrent
end TopUpPromo
