import TopUpPromo.Proofs.Enrollment.Stages
import TopUpPromo.Proofs.Memory.Coherence
import TopUpPromo.Proofs.Concurrent.Threads

/-!
# One step of an enrollment

What a thread serving an enrollment knows at each of its stages (`EnrollStage.Holds`): before
its transaction it has none; once open, its transaction is exactly the one the stage names
(`EnrollStage.admissionTx`: the campaign lock, then the participation, the moved counter and
the voucher, each staged in turn); and from the read under the lock on, the row it read is the
committed row of its campaign and passed the checks (`EnrollStage.Locked`).

The main result, `EnrollStage.thread_step`, says that one step of such a thread keeps what it
knows and has one of the effects of `Memory.Effect` on the store and on its transaction. An
admission's commit is that effect for a transaction that stages exactly the rows it inserted.
-/

namespace TopUpPromo

namespace Memory

/-- A transaction that stages and inserts participations of user `u` only. -/
structure Tx.OfUser (t : Tx) (u : Int) : Prop where
  keys : ∀ k ∈ t.newKeys, k.1.1 = u
  participations : ∀ p ∈ t.participations, p.userId = u

theorem Tx.ofUser_owner (o : Nat) (u : Int) : ({ owner := o } : Tx).OfUser u :=
  ⟨fun _ hk => absurd hk List.not_mem_nil, fun _ hp => absurd hp List.not_mem_nil⟩

end Memory

namespace Concurrent

open Memory

/-! ## Counters -/

theorem Int32.toInt_add_one_of_lt {a b : Int32} (h : a < b) : (a + 1).toInt = a.toInt + 1 := by
  have hlt := Int32.lt_iff_toInt_lt.1 h
  have hb := Int32.toInt_le b
  have ha := Int32.le_toInt a
  rw [Int32.toInt_maxValue] at hb
  rw [Int32.toInt_add, Int32.toInt_one]
  apply Int.bmod_eq_of_le <;> omega

theorem Campaign.lt_max_of_accepts {c : Campaign} {t : Instant}
    (h : c.acceptsParticipants t = true) :
    c.currentParticipants < c.maxParticipants ∧ c.status = .active := by
  simp only [Campaign.acceptsParticipants, Campaign.remainingSlots, Bool.and_eq_true,
    beq_iff_eq] at h
  obtain ⟨⟨hstatus, -⟩, hslots⟩ := h
  refine ⟨?_, hstatus⟩
  by_contra hlt
  have hge : c.currentParticipants ≥ c.maxParticipants := Int32.not_lt.1 hlt
  simp [hge] at hslots

namespace EnrollStage

variable (cfg : Enrollment) (req : EnrollRequest)

def seated (locked : Campaign) (pid : Int) : Participation :=
  { cfg.seat req locked with id := pid }

def bumped (locked : Campaign) : Campaign :=
  { locked with
    currentParticipants := locked.currentParticipants + 1
    status := if locked.currentParticipants + 1 ≥ locked.maxParticipants then .full else .active }

def issued (locked : Campaign) (pid : Int) (code : String) (vid : Int) : Voucher :=
  { Voucher.issue cfg.now (seated cfg req locked pid) locked code with id := vid }

def seatAt (locked : Campaign) (pid : Int) : Option (String × Int) → Participation
  | none => seated cfg req locked pid
  | some _ => (seated cfg req locked pid).withStatus .voucherIssued cfg.now

/-- The transaction of an admission into campaign `c` by owner `o`: the campaign's lock, and
the campaign rows, participation and voucher staged so far. What it reserved is what it
staged. -/
def admissionTx (o : Nat) (c : Campaign) (campaigns : List Campaign) (p : Option Participation)
    (v : Option Voucher) : Tx :=
  { owner := o, held := [.campaign c.id], campaigns := campaigns, participations := p.toList,
    vouchers := v.toList, newKeys := p.toList.map fun p => ((p.userId, p.campaignId), p.id),
    newCodes := v.toList.map fun v => (v.code, v.id) }

@[simp] theorem seated_userId (locked : Campaign) (pid : Int) :
    (seated cfg req locked pid).userId = req.userId := rfl

theorem admissionTx_ofUser {o : Nat} {c : Campaign} {campaigns : List Campaign}
    {p : Option Participation} {v : Option Voucher} {u : Int}
    (hp : ∀ q, p = some q → q.userId = u) : (admissionTx o c campaigns p v).OfUser u := by
  constructor
  · intro k hk
    simp only [admissionTx, List.mem_map, Option.mem_toList] at hk
    obtain ⟨q, hq, rfl⟩ := hk
    exact hp q hq
  · intro q hq
    simp only [admissionTx, Option.mem_toList] at hq
    exact hp q hq

/-- What a thread holding the lock of campaign `c` knows of the store: the row it read under the
lock is the committed row, and it accepts participants. -/
structure Locked (s : Store) (c locked : Campaign) : Prop where
  id_eq : locked.id = c.id
  row : findBy (·.id) s.campaigns c.id = some locked
  accepts : locked.acceptsParticipants cfg.now = true

/-- What a thread knows at each stage of the store and of its own transaction `tx`. -/
def Holds (s : Store) (tx : Option Tx) : EnrollStage → Prop
  | .start | .checked | .opening _ | .finished _ => tx = none
  | .locking _ => ∃ o, tx = some { owner := o }
  | .reading c => ∃ o, tx = some (admissionTx o c [] none none)
  | .seating c locked => ∃ o, tx = some (admissionTx o c [] none none) ∧ Locked cfg s c locked
  | .counting c locked pid =>
    ∃ o, tx = some (admissionTx o c [] (some (seated cfg req locked pid)) none) ∧
      Locked cfg s c locked
  | .drawing c locked pid _ | .issuing c locked pid _ _ =>
    ∃ o, tx = some (admissionTx o c [bumped locked] (some (seated cfg req locked pid)) none) ∧
      Locked cfg s c locked ∧ (seated cfg req locked pid).withinThreshold cfg.threshold = true
  | .marking c locked pid code vid =>
    ∃ o, tx = some (admissionTx o c [bumped locked] (some (seated cfg req locked pid))
        (some (issued cfg req locked pid code vid))) ∧
      Locked cfg s c locked ∧ (seated cfg req locked pid).withinThreshold cfg.threshold = true
  | .committing c locked pid voucher =>
    ∃ o, tx = some (admissionTx o c [bumped locked] (some (seatAt cfg req locked pid voucher))
        (voucher.map fun v => issued cfg req locked pid v.1 v.2)) ∧
      Locked cfg s c locked ∧
      (seated cfg req locked pid).withinThreshold cfg.threshold = voucher.isSome
  | .aborting _ _ => ∃ t, tx = some t ∧ t.OfUser req.userId

def admits : EnrollStage → Option EnrollResult
  | .finished (.ok r) => if r.eligible then some r else none
  | _ => none

def Admits (s : Store) (tx : Option Tx) (s' : Store) (next : EnrollStage) : Prop :=
  (next.admits = none ∧ s'.campaigns = s.campaigns ∧ s'.participations = s.participations ∧
    s'.vouchers = s.vouchers) ∨
    ∃ campaign locked pid voucher t, tx = some t ∧
      (committing campaign locked pid voucher).Holds cfg req s tx ∧ s' = t.commit s ∧
      next.admits = (cfg.settle campaign (.ok (admission locked voucher))).toOption

def Steps (s : Store) (tx : Option Tx) (c : Call) (after : c.Answer → EnrollStage) : Prop :=
  ∀ o : Oracle, Effect s tx (c.perform o ⟨s, tx⟩).2.store (c.perform o ⟨s, tx⟩).2.current ∧
    (after (c.perform o ⟨s, tx⟩).1).Holds cfg req (c.perform o ⟨s, tx⟩).2.store
      (c.perform o ⟨s, tx⟩).2.current ∧
    Admits cfg req s tx (c.perform o ⟨s, tx⟩).2.store (after (c.perform o ⟨s, tx⟩).1)

variable {cfg req}

theorem steps_read {s : Store} {tx : Option Tx} {c : Call} {after : c.Answer → EnrollStage}
    (hperform : ∀ o, (c.perform o ⟨s, tx⟩).2 = ⟨s, tx⟩)
    (hafter : ∀ a, (after a).Holds cfg req s tx ∧ (after a).admits = none) :
    Steps cfg req s tx c after := by
  intro o
  rw [hperform o]
  exact ⟨.read, (hafter _).1, .inl ⟨(hafter _).2, rfl, rfl, rfl⟩⟩

theorem admits_settle_error {campaign : Campaign} {e : Failure} :
    (finished (cfg.settle campaign (.error e))).admits = none := by
  simp only [Enrollment.settle]
  split
  · rfl
  split
  · rfl
  split <;> rfl

theorem Locked.of_row {s s' : Store} {c locked : Campaign} (h : Locked cfg s c locked)
    (hrow : findBy (·.id) s'.campaigns c.id = findBy (·.id) s.campaigns c.id) :
    Locked cfg s' c locked :=
  ⟨h.id_eq, hrow.trans h.row, h.accepts⟩

theorem Locked.of_campaigns {s s' : Store} {c locked : Campaign} (h : Locked cfg s c locked)
    (hc : s'.campaigns = s.campaigns) : Locked cfg s' c locked :=
  h.of_row (by rw [hc])

theorem Holds.of_locked_rows {s s' : Store} {tx : Option Tx} {st : EnrollStage}
    (hh : st.Holds cfg req s tx)
    (hrows : ∀ t, tx = some t → ∀ id r, LockKey.campaign id ∈ t.held →
      findBy (·.id) s.campaigns id = some r → findBy (·.id) s'.campaigns id = some r) :
    st.Holds cfg req s' tx := by
  have hlocked : ∀ {o c locked campaigns p v}, tx = some (admissionTx o c campaigns p v) →
      Locked cfg s c locked → Locked cfg s' c locked := by
    intro o c locked campaigns p v htx hl
    exact ⟨hl.id_eq, hrows _ htx c.id locked (List.mem_singleton_self _) hl.row, hl.accepts⟩
  cases st with
  | start | checked | opening | finished | locking | reading | aborting => exact hh
  | seating =>
    obtain ⟨o, htx, hl⟩ := hh
    exact ⟨o, htx, hlocked htx hl⟩
  | counting =>
    obtain ⟨o, htx, hl⟩ := hh
    exact ⟨o, htx, hlocked htx hl⟩
  | drawing | issuing | marking | committing =>
    obtain ⟨o, htx, hl, hthreshold⟩ := hh
    exact ⟨o, htx, hlocked htx hl, hthreshold⟩

theorem Holds.of_rows {s s' : Store} {tx : Option Tx} {st : EnrollStage}
    (hh : st.Holds cfg req s tx)
    (hrows : ∀ t, tx = some t → ∀ id, LockKey.campaign id ∈ t.held →
      findBy (·.id) s'.campaigns id = findBy (·.id) s.campaigns id) :
    st.Holds cfg req s' tx :=
  hh.of_locked_rows fun t ht id _ hid hrow => (hrows t ht id hid).trans hrow

@[simp] theorem seatAt_id (locked : Campaign) (pid : Int) (voucher : Option (String × Int)) :
    (seatAt cfg req locked pid voucher).id = pid := by
  cases voucher <;> rfl

@[simp] theorem seatAt_userId (locked : Campaign) (pid : Int) (voucher : Option (String × Int)) :
    (seatAt cfg req locked pid voucher).userId = req.userId := by
  cases voucher <;> rfl

@[simp] theorem seatAt_campaignId (locked : Campaign) (pid : Int)
    (voucher : Option (String × Int)) :
    (seatAt cfg req locked pid voucher).campaignId = locked.id := by
  cases voucher <;> rfl

@[simp] theorem seatAt_order (locked : Campaign) (pid : Int) (voucher : Option (String × Int)) :
    (seatAt cfg req locked pid voucher).order = locked.currentParticipants + 1 := by
  cases voucher <;> rfl

theorem Holds.ofUser {s : Store} {tx : Option Tx} {st : EnrollStage} (hh : st.Holds cfg req s tx)
    {t : Tx} (ht : tx = some t) : t.OfUser req.userId := by
  cases st with
  | start | checked | opening | finished =>
    have hnone : tx = none := hh
    rw [hnone] at ht
    cases ht
  | locking =>
    obtain ⟨o, rfl⟩ := hh
    cases ht
    exact Tx.ofUser_owner o _
  | reading =>
    obtain ⟨o, rfl⟩ := hh
    cases ht
    exact admissionTx_ofUser (by simp)
  | seating | counting | drawing | issuing | marking | committing =>
    obtain ⟨o, rfl, -⟩ := hh
    cases ht
    exact admissionTx_ofUser (by simp)
  | aborting =>
    obtain ⟨t', rfl, hown⟩ := hh
    cases ht
    exact hown

/-! ## The steps of each stage -/

section Stages

variable {ctx : Ctx} {s : Store} {tx : Option Tx} {c : Call} {after : c.Answer → EnrollStage}

theorem steps_start (hh : Holds cfg req s tx .start)
    (hM : move cfg ctx req .start = .call c after) : Steps cfg req s tx c after := by
  cases hM
  refine steps_read (fun _ => rfl) fun a => ?_
  rcases a with e | _ | _ <;> exact ⟨hh, rfl⟩

theorem steps_checked (hh : Holds cfg req s tx .checked)
    (hM : move cfg ctx req .checked = .call c after) : Steps cfg req s tx c after := by
  -- every answer about the target leads to an answer or to opening the transaction
  have hafter : ∀ a, (afterTarget cfg a).Holds cfg req s tx ∧ (afterTarget cfg a).admits = none := by
    intro a
    rcases a with e | campaign
    · by_cases hfound : e.hasCause .storeNotFound = true <;> simp only [afterTarget, hfound] <;>
        exact ⟨hh, rfl⟩
    · by_cases hopen : (campaign.kind != firstLoginDiscount ||
          !campaign.acceptsParticipants cfg.now) = true <;>
        simp only [afterTarget, hopen] <;> exact ⟨hh, rfl⟩
  unfold move at hM
  cases hid : req.campaignId with
  | none =>
    rw [hid] at hM
    cases hM
    exact steps_read (fun _ => rfl) hafter
  | some id =>
    rw [hid] at hM
    cases hM
    exact steps_read (fun _ => rfl) hafter

theorem steps_opening {campaign : Campaign} (hh : Holds cfg req s tx (.opening campaign))
    (hM : move cfg ctx req (.opening campaign) = .call c after) : Steps cfg req s tx c after := by
  cases hM
  have htx : tx = none := hh
  subst htx
  intro o
  exact ⟨.begin, ⟨s.nextOwner, rfl⟩, .inl ⟨rfl, rfl, rfl, rfl⟩⟩

theorem steps_locking {others : List Tx} {campaign : Campaign}
    (hlocks : LocksAgree s (tx.toList ++ others)) (hh : Holds cfg req s tx (.locking campaign))
    (hM : move cfg ctx req (.locking campaign) = .call c after) : Steps cfg req s tx c after := by
  cases hM
  obtain ⟨o, rfl⟩ := hh
  intro oracle
  simp only [Call.perform, Backend.step]
  have hmine : LockKey.campaign campaign.id ∉ ({ owner := o } : Tx).held := List.not_mem_nil
  cases hfree : s.holderOf (.campaign campaign.id) with
  | none =>
    rw [Tx.lock_of_free hmine hfree]
    exact ⟨.lock hmine hfree, ⟨o, rfl⟩, .inl ⟨rfl, rfl, rfl, rfl⟩⟩
  | some holder =>
    -- another transaction holds the lock and keeps it: the wait fails and changes nothing
    obtain ⟨e, he⟩ := Tx.lock_of_held hmine hfree (hlocks.kept_of_holderOf hfree)
    rw [he]
    exact ⟨.read, ⟨_, rfl, Tx.ofUser_owner o _⟩, .inl ⟨rfl, rfl, rfl, rfl⟩⟩

theorem steps_reading {campaign : Campaign} (hh : Holds cfg req s tx (.reading campaign))
    (hM : move cfg ctx req (.reading campaign) = .call c after) : Steps cfg req s tx c after := by
  cases hM
  obtain ⟨o, rfl⟩ := hh
  intro oracle
  simp only [Call.perform, Backend.step, Tx.readCampaign_eq]
  rw [Tx.campaign_of_unstaged rfl]
  refine ⟨.read, ?_⟩
  cases hrow : findBy (·.id) s.campaigns campaign.id with
  | none => exact ⟨⟨_, rfl, admissionTx_ofUser (by simp)⟩, .inl ⟨rfl, rfl, rfl, rfl⟩⟩
  | some locked =>
    simp only [afterRead]
    split
    · exact ⟨⟨_, rfl, admissionTx_ofUser (by simp)⟩, .inl ⟨rfl, rfl, rfl, rfl⟩⟩
    split
    · exact ⟨⟨_, rfl, admissionTx_ofUser (by simp)⟩, .inl ⟨rfl, rfl, rfl, rfl⟩⟩
    rename_i _ haccepts
    refine ⟨⟨o, rfl, (findBy_eq_some _ hrow).2, hrow, ?_⟩, .inl ⟨rfl, rfl, rfl, rfl⟩⟩
    simpa using haccepts

theorem steps_seating {campaign locked : Campaign}
    (hh : Holds cfg req s tx (.seating campaign locked))
    (hM : move cfg ctx req (.seating campaign locked) = .call c after) :
    Steps cfg req s tx c after := by
  cases hM
  obtain ⟨o, rfl, hl⟩ := hh
  intro oracle
  simp only [Call.perform, Backend.step]
  by_cases htaken : ((cfg.seat req locked).userId, (cfg.seat req locked).campaignId) ∈
      s.participationKeys ∨
    ((cfg.seat req locked).userId, (cfg.seat req locked).campaignId) ∈ s.reservedKeys
  · -- the user's key is taken: the insert is refused and the admission aborts
    rw [Tx.createParticipation_of_taken htaken]
    refine ⟨.read, ?_⟩
    by_cases hconflict : (Failure.cause .storeConflict).hasCause .storeConflict = true <;>
      simp only [hconflict] <;> exact ⟨⟨_, rfl, admissionTx_ofUser (by simp)⟩, .inl ⟨rfl, rfl, rfl, rfl⟩⟩
  · rw [Tx.createParticipation_of_free htaken]
    obtain ⟨hcommitted, hreserved⟩ := not_or.1 htaken
    exact ⟨.insertParticipation hcommitted hreserved, ⟨o, rfl, hl.of_campaigns rfl⟩,
      .inl ⟨rfl, rfl, rfl, rfl⟩⟩

theorem steps_counting {campaign locked : Campaign} {pid : Int}
    (hh : Holds cfg req s tx (.counting campaign locked pid))
    (hM : move cfg ctx req (.counting campaign locked pid) = .call c after) :
    Steps cfg req s tx c after := by
  cases hM
  obtain ⟨o, rfl, hl⟩ := hh
  obtain ⟨hlt, -⟩ := Campaign.lt_max_of_accepts hl.accepts
  have hrow : Tx.campaign s (admissionTx o campaign [] (some (seated cfg req locked pid)) none)
      locked.id = some locked := by
    rw [Tx.campaign_of_unstaged rfl, hl.id_eq]
    exact hl.row
  -- the next order stays within the capacity
  have hwithin : ¬locked.currentParticipants + 1 > locked.maxParticipants := by
    have := Int32.lt_iff_toInt_lt.1 hlt
    rw [gt_iff_lt, Int32.lt_iff_toInt_lt, Int32.toInt_add_one_of_lt hlt]
    omega
  intro oracle
  simp only [Call.perform, Backend.step]
  rw [Tx.updateCampaignParticipants_of_row hrow hwithin]
  refine ⟨.stage rfl rfl rfl rfl, ?_⟩
  by_cases hthreshold : (seated cfg req locked pid).withinThreshold cfg.threshold = true
  · simp only [seated] at hthreshold
    simp only [hthreshold, if_true]
    cases hattempts : cfg.attempts with
    | zero =>
      have hown : (admissionTx o campaign [bumped locked] (some (seated cfg req locked pid))
          none).OfUser req.userId := admissionTx_ofUser (by simp)
      exact ⟨⟨_, rfl, hown⟩, .inl ⟨rfl, rfl, rfl, rfl⟩⟩
    | succ k => exact ⟨⟨o, rfl, hl, hthreshold⟩, .inl ⟨rfl, rfl, rfl, rfl⟩⟩
  · simp only [seated, Bool.not_eq_true] at hthreshold
    simp only [hthreshold, Bool.false_eq_true, if_false]
    exact ⟨⟨o, rfl, hl, hthreshold⟩, .inl ⟨rfl, rfl, rfl, rfl⟩⟩

theorem steps_drawing {campaign locked : Campaign} {pid : Int} {left : Nat}
    (hh : Holds cfg req s tx (.drawing campaign locked pid left))
    (hM : move cfg ctx req (.drawing campaign locked pid left) = .call c after) :
    Steps cfg req s tx c after := by
  cases hM
  refine steps_read (fun _ => rfl) fun a => ?_
  obtain ⟨o, htx, hrest⟩ := hh
  rcases a with e | code
  · rw [htx]
    exact ⟨⟨_, rfl, admissionTx_ofUser (by simp)⟩, rfl⟩
  · exact ⟨⟨o, htx, hrest⟩, rfl⟩

theorem steps_issuing {campaign locked : Campaign} {pid : Int} {left : Nat} {code : String}
    (hh : Holds cfg req s tx (.issuing campaign locked pid left code))
    (hM : move cfg ctx req (.issuing campaign locked pid left code) = .call c after) :
    Steps cfg req s tx c after := by
  cases hM
  obtain ⟨o, rfl, hl, hthreshold⟩ := hh
  intro oracle
  simp only [Call.perform, Backend.step]
  by_cases htaken :
      (Voucher.issue cfg.now { cfg.seat req locked with id := pid } locked code).code ∈
        s.voucherCodes ∨
      (Voucher.issue cfg.now { cfg.seat req locked with id := pid } locked code).code ∈
        s.reservedCodes
  · -- the code is taken: the next code is drawn, or the issue gives up
    rw [Tx.createVoucher_of_taken htaken]
    refine ⟨.read, ?_⟩
    by_cases hconflict : (Failure.cause .storeConflict).hasCause .storeConflict = true
    · simp only [hconflict, if_true]
      cases left with
      | zero => exact ⟨⟨_, rfl, admissionTx_ofUser (by simp)⟩, .inl ⟨rfl, rfl, rfl, rfl⟩⟩
      | succ k => exact ⟨⟨o, rfl, hl, hthreshold⟩, .inl ⟨rfl, rfl, rfl, rfl⟩⟩
    · simp only [hconflict, Bool.false_eq_true, if_false]
      exact ⟨⟨_, rfl, admissionTx_ofUser (by simp)⟩, .inl ⟨rfl, rfl, rfl, rfl⟩⟩
  · rw [Tx.createVoucher_of_free htaken]
    obtain ⟨hcommitted, hreserved⟩ := not_or.1 htaken
    exact ⟨.insertVoucher hcommitted hreserved, ⟨o, rfl, hl.of_campaigns rfl, hthreshold⟩,
      .inl ⟨rfl, rfl, rfl, rfl⟩⟩

theorem steps_marking {campaign locked : Campaign} {pid : Int} {code : String} {vid : Int}
    (hh : Holds cfg req s tx (.marking campaign locked pid code vid))
    (hM : move cfg ctx req (.marking campaign locked pid code vid) = .call c after) :
    Steps cfg req s tx c after := by
  cases hM
  obtain ⟨o, rfl, hl, hthreshold⟩ := hh
  have hrow : Tx.participation s (admissionTx o campaign [bumped locked]
      (some (seated cfg req locked pid)) (some (issued cfg req locked pid code vid))) pid =
        some (seated cfg req locked pid) := by
    simp [Tx.participation, admissionTx, findBy, seated]
  intro oracle
  simp only [Call.perform, Backend.step]
  rw [Tx.updateParticipationStatus_of_row hrow]
  refine ⟨.stage rfl rfl rfl rfl, ⟨o, ?_, hl, hthreshold⟩, .inl ⟨rfl, rfl, rfl, rfl⟩⟩
  -- the marked participation replaces the seat, under the same key and id
  have hmarked : upsertBy (fun p : Participation => p.id) [seated cfg req locked pid]
      ((seated cfg req locked pid).withStatus .voucherIssued cfg.now) =
        [(seated cfg req locked pid).withStatus .voucherIssued cfg.now] :=
    upsertBy_singleton_of_eq _ rfl
  simp only [admissionTx, Option.toList_some]
  rw [hmarked]
  rfl

theorem committing_tx {campaign locked : Campaign} {pid : Int} {voucher : Option (String × Int)}
    (hh : Holds cfg req s tx (.committing campaign locked pid voucher)) :
    ∃ t, tx = some t ∧ (∀ c ∈ t.campaigns, LockKey.campaign c.id ∈ t.held) ∧
      t.participations.map (fun p => ((p.userId, p.campaignId), p.id)) = t.newKeys ∧
      t.vouchers.map (fun v => (v.code, v.id)) = t.newCodes := by
  obtain ⟨o, rfl, hl, -⟩ := hh
  refine ⟨_, rfl, ?_, rfl, rfl⟩
  intro c hc
  simp only [admissionTx, List.mem_singleton] at hc ⊢
  rw [hc]
  exact congrArg LockKey.campaign hl.id_eq

theorem steps_committing {campaign locked : Campaign} {pid : Int}
    {voucher : Option (String × Int)}
    (hh : Holds cfg req s tx (.committing campaign locked pid voucher))
    (hM : move cfg ctx req (.committing campaign locked pid voucher) = .call c after) :
    Steps cfg req s tx c after := by
  cases hM
  obtain ⟨t, rfl, hcampaigns, hparticipations, hvouchers⟩ := committing_tx hh
  intro oracle
  simp only [Call.perform, Backend.finish]
  cases ctx.failure? with
  | some f => exact ⟨.rollback, rfl, .inl ⟨admits_settle_error, rfl, rfl, rfl⟩⟩
  | none =>
    exact ⟨.commit hcampaigns hparticipations hvouchers, rfl,
      .inr ⟨campaign, locked, pid, voucher, t, rfl, hh, rfl, rfl⟩⟩

theorem steps_aborting {campaign : Campaign} {failure : Failure}
    (hh : Holds cfg req s tx (.aborting campaign failure))
    (hM : move cfg ctx req (.aborting campaign failure) = .call c after) :
    Steps cfg req s tx c after := by
  cases hM
  obtain ⟨t, rfl, -⟩ := hh
  intro oracle
  exact ⟨.rollback, rfl, .inl ⟨admits_settle_error, rfl, rfl, rfl⟩⟩

theorem steps_of_move {others : List Tx} {st : EnrollStage}
    (hlocks : LocksAgree s (tx.toList ++ others)) (hh : st.Holds cfg req s tx)
    (hM : move cfg ctx req st = .call c after) : Steps cfg req s tx c after := by
  cases st with
  | start => exact steps_start hh hM
  | checked => exact steps_checked hh hM
  | opening campaign => exact steps_opening hh hM
  | locking campaign => exact steps_locking hlocks hh hM
  | reading campaign => exact steps_reading hh hM
  | seating campaign locked => exact steps_seating hh hM
  | counting campaign locked pid => exact steps_counting hh hM
  | drawing campaign locked pid left => exact steps_drawing hh hM
  | issuing campaign locked pid left code => exact steps_issuing hh hM
  | marking campaign locked pid code vid => exact steps_marking hh hM
  | committing campaign locked pid voucher => exact steps_committing hh hM
  | aborting campaign failure => exact steps_aborting hh hM
  | finished result => cases hM

theorem admits_of_call {st : EnrollStage} (hM : move cfg ctx req st = .call c after) :
    st.admits = none := by
  cases st with
  | finished result => cases hM
  | start | checked | opening | locking | reading | seating | counting | drawing | issuing
    | marking | committing | aborting => rfl

theorem finished_of_stop {st : EnrollStage} {r : Reply} (hM : move cfg ctx req st = .stop r) :
    ∃ result, st = .finished result ∧ r = .enrolled result := by
  cases st with
  | finished result =>
    cases hM
    exact ⟨result, rfl, rfl⟩
  | checked =>
    cases hid : req.campaignId <;> simp only [move, hid, reduceCtorEq] at hM
  | start | opening | locking | reading | seating | counting | drawing | issuing | marking
    | committing | aborting => cases hM

end Stages

end EnrollStage

/-! ## Threads -/

/-- The eligible answer a thread has given, once it is done. -/
def Thread.admission? (th : Thread) : Option EnrollResult :=
  match th.reply? with
  | some (.enrolled (.ok r)) => if r.eligible then some r else none
  | _ => none

/-- A thread serving an enrollment, at a stage whose facts hold of store `s`. -/
def EnrollThread (s : Store) (th : Thread) : Prop :=
  ∃ cfg ctx req st, th.request = .enroll cfg ctx req ∧
    th.program.Follows (EnrollStage.move cfg ctx req) st ∧ st.Holds cfg req s th.tx

namespace EnrollStage

variable {cfg : Enrollment} {ctx : Ctx} {req : EnrollRequest}

theorem admission?_of_follows {th : Thread} {st : EnrollStage}
    (h : th.program.Follows (move cfg ctx req) st) : th.admission? = st.admits := by
  cases hp : th.program with
  | done r =>
    obtain ⟨result, rfl, rfl⟩ := finished_of_stop (Program.Follows.done h hp)
    simp only [Thread.admission?, Thread.reply?, hp]
    cases result <;> rfl
  | call c next =>
    obtain ⟨after, hM, -⟩ := Program.Follows.next h hp
    rw [admits_of_call hM]
    simp only [Thread.admission?, Thread.reply?, hp]

/-- One step of a thread serving an enrollment keeps what it knows, has an effect on the store
and its transaction, and gives no new admission unless it commits one: then it commits the
transaction of a committing stage and answers with that admission. -/
theorem thread_step {s : Store} {th : Thread} {others : List Tx} (hth : EnrollThread s th)
    (hlocks : LocksAgree s (th.tx.toList ++ others)) (o : Oracle) :
    EnrollThread (th.step o s).1 (th.step o s).2 ∧
      Effect s th.tx (th.step o s).1 (th.step o s).2.tx ∧
      (((th.step o s).2.admission? = th.admission? ∧
          (th.step o s).1.campaigns = s.campaigns ∧
          (th.step o s).1.participations = s.participations ∧
          (th.step o s).1.vouchers = s.vouchers) ∨
        (th.admission? = none ∧
          ∃ cfg req campaign locked pid voucher t, (∃ ctx, th.request = .enroll cfg ctx req) ∧
            th.tx = some t ∧ (committing campaign locked pid voucher).Holds cfg req s th.tx ∧
            (th.step o s).1 = t.commit s ∧
            (th.step o s).2.admission? =
              (cfg.settle campaign (.ok (admission locked voucher))).toOption)) := by
  obtain ⟨cfg, ctx, req, st, hreq, hfollows, hh⟩ := hth
  cases hp : th.program with
  | done r =>
    -- a thread that is done takes no step
    rw [Thread.step_of_done hp]
    exact ⟨⟨cfg, ctx, req, st, hreq, hfollows, hh⟩, .read, .inl ⟨rfl, rfl, rfl, rfl⟩⟩
  | call c next =>
    obtain ⟨after, hM, hnext⟩ := Program.Follows.next hfollows hp
    obtain ⟨heffect, hholds, hadmits⟩ := steps_of_move hlocks hh hM o
    have hold : th.admission? = none := by
      rw [admission?_of_follows hfollows, admits_of_call hM]
    have hnew : (th.step o s).2.admission? = (after (c.perform o ⟨s, th.tx⟩).1).admits :=
      admission?_of_follows (by simpa only [Thread.step, hp] using hnext _)
    simp only [Thread.step, hp] at hnew ⊢
    refine ⟨⟨cfg, ctx, req, _, hreq, hnext _, hholds⟩, heffect, ?_⟩
    rcases hadmits with ⟨hnone, hrows⟩ | ⟨campaign, locked, pid, voucher, t, htx, hcommitting,
      hcommit, hresult⟩
    · exact .inl ⟨by rw [hnew, hnone, hold], hrows⟩
    · exact .inr ⟨hold, cfg, req, campaign, locked, pid, voucher, t, ⟨ctx, hreq⟩, htx,
        hcommitting, hcommit, hnew.trans hresult⟩

end EnrollStage

end Concurrent
end TopUpPromo
