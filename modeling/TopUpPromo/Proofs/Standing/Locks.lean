import Mathlib
import TopUpPromo.Proofs.Standing.World
import TopUpPromo.Proofs.Memory.Transactions
import TopUpPromo.Proofs.Isolated.Redemption

/-!
# Row locks

The store's row locks are exclusive, reentrant and held until the end of the transaction that
took them. `Memory.LocksAgree` says how the lock table stands to the open transactions, `Promo`
carries it through every run, and this module reads off what it means for the locks:

- no key is held by the open transactions of two threads (`index_eq_of_held`), and
  the lock table lists exactly the keys the open transactions hold, each under its transaction's
  owner (`LocksAgree.mem_locks_iff`);
- a lock the transaction holds is had again at once, and nothing changes
  (`Tx.lock_of_mem_held`);
- a step keeps every lock of a transaction that stays open and takes only a key no open
  transaction holds (`PromoThread.held_step`); a transaction ends only by a commit or a
  rollback, which applies the staged rows and lets the locks go in one step
  (`Thread.step_ends`), so whoever takes the key next reads what the commit wrote;
- a request asks for one lock at most, while its transaction holds and stages nothing yet
  (`PromoThread.inOrder`): a thread about to wait for a lock holds none, and no cycle of threads
  waits for each other (`Promo.no_wait_cycle`).

The main result is `row_locks_exclusive_and_released`.
-/

namespace TopUpPromo

namespace Memory

namespace Tx

/-- A lock the transaction holds is had again at once, whatever the context, and nothing
changes. -/
theorem lock_of_mem_held {s : Store} {t : Tx} {ctx : Ctx} {k : LockKey} (mine : k ∈ t.held) :
    lock ctx k s t = (.ok (), s, t) := by
  have hcontains : t.held.contains k = true := by simpa using mine
  simp only [lock, hcontains, if_true]

theorem lock_takes_free {s : Store} {t : Tx} {ctx : Ctx} {k : LockKey}
    (kept : ∀ h, s.holderOf k = some h → h.releaseAfterMs = none) :
    (lock ctx k s t).2.2 = t ∨
      (k ∉ t.held ∧ s.holderOf k = none ∧
        (lock ctx k s t).2.2 = { t with held := t.held ++ [k] }) := by
  by_cases mine : k ∈ t.held
  · rw [lock_of_mem_held mine]
    exact .inl rfl
  cases hholder : s.holderOf k with
  | none => exact .inr ⟨mine, rfl, by rw [lock_of_free mine hholder]⟩
  | some h =>
    obtain ⟨e, he⟩ := lock_of_held mine hholder (kept h hholder)
    rw [he]
    exact .inl rfl

end Tx

def TxStep.KeepsHeld {α : Type} (f : TxStep α) : Prop :=
  ∀ s t, (f s t).2.2.held = t.held

namespace Tx

theorem readCampaign_keepsHeld (id : Int) : TxStep.KeepsHeld (readCampaign id) := by
  intro s t
  rw [readCampaign_eq]

theorem updateCampaignParticipants_keepsHeld (id : Int) (current : Int32)
    (status : CampaignStatus) :
    TxStep.KeepsHeld (updateCampaignParticipants id current status) := by
  intro s t
  unfold updateCampaignParticipants
  cases campaign s t id with
  | none => rfl
  | some c =>
    dsimp only
    split <;> rfl

theorem createParticipation_keepsHeld (p : Participation) :
    TxStep.KeepsHeld (createParticipation p) := by
  intro s t
  by_cases htaken : (p.userId, p.campaignId) ∈ s.participationKeys ∨
      (p.userId, p.campaignId) ∈ s.reservedKeys
  · rw [createParticipation_of_taken htaken]
  · rw [createParticipation_of_free htaken]

theorem updateParticipationStatus_keepsHeld (id : Int) (status : ParticipationStatus)
    (stamp : Instant) : TxStep.KeepsHeld (updateParticipationStatus id status stamp) := by
  intro s t
  unfold updateParticipationStatus
  cases participation s t id <;> rfl

theorem createVoucher_keepsHeld (v : Voucher) : TxStep.KeepsHeld (createVoucher v) := by
  intro s t
  by_cases htaken : v.code ∈ s.voucherCodes ∨ v.code ∈ s.reservedCodes
  · rw [createVoucher_of_taken htaken]
  · rw [createVoucher_of_free htaken]

theorem findVoucher_keepsHeld (code : String) : TxStep.KeepsHeld (findVoucher code) := by
  intro s t
  unfold findVoucher
  dsimp only
  split <;> rfl

theorem readVoucher_keepsHeld (id : Int) : TxStep.KeepsHeld (readVoucher id) := by
  intro s t
  unfold readVoucher
  split <;> rfl

theorem markVoucherUsed_keepsHeld (id : Int) (u : Usage) :
    TxStep.KeepsHeld (markVoucherUsed id u) := by
  intro s t
  unfold markVoucherUsed
  cases voucher s t id with
  | none => rfl
  | some v =>
    dsimp only
    split <;> rfl

theorem markVoucherExpired_keepsHeld (id : Int) : TxStep.KeepsHeld (markVoucherExpired id) := by
  intro s t
  unfold markVoucherExpired
  cases voucher s t id with
  | none => rfl
  | some v =>
    dsimp only
    split <;> rfl

end Tx

theorem Backend.held_step {α : Type} {f : TxStep α} (hf : TxStep.KeepsHeld f) {s : Store}
    {t t' : Tx} (h : (Backend.step ⟨s, some t⟩ f).2.current = some t') : t'.held = t.held := by
  simp only [Backend.step_some] at h
  rw [← Option.some.inj h]
  exact hf s t

/-- The lock table lists exactly the keys the open transactions hold, each under its
transaction's owner. -/
theorem LocksAgree.mem_locks_iff {s : Store} {txs : List Tx} (h : LocksAgree s txs)
    {entry : LockKey × Holder} :
    entry ∈ s.locks ↔ ∃ t ∈ txs, entry.1 ∈ t.held ∧ entry.2 = ⟨t.owner, none⟩ := by
  obtain ⟨k, owner, release⟩ := entry
  constructor
  · intro hentry
    obtain ⟨hrelease, t, ht, howner, hk⟩ := h.lock_holder _ hentry
    refine ⟨t, ht, hk, ?_⟩
    dsimp only at hrelease howner ⊢
    rw [hrelease, howner]
  · rintro ⟨t, ht, hk, hentry⟩
    dsimp only at hk hentry
    rw [hentry]
    exact h.held_locked t ht k hk

theorem LocksAgree.not_held_of_free {s : Store} {txs : List Tx} (h : LocksAgree s txs)
    {k : LockKey} (hfree : s.holderOf k = none) : ∀ u ∈ txs, k ∉ u.held := by
  intro u hu hku
  rw [h.holderOf_of_held hu hku] at hfree
  cases hfree

end Memory

namespace Concurrent

open Memory

/-! ## Calls -/

theorem Call.held_perform (o : Oracle) (s : Store) (t : Tx) {c : Call} (hbegin : c ≠ .begin)
    (hlock : ∀ ctx k, c ≠ .lock ctx k) {t' : Tx}
    (h : (c.perform o ⟨s, some t⟩).2.current = some t') : t'.held = t.held := by
  cases c with
  | begin => exact absurd rfl hbegin
  | lock ctx k => exact absurd rfl (hlock ctx k)
  | finish ctx r =>
    -- a finish leaves no transaction open
    simp only [Call.perform, Backend.finish] at h
    split at h <;> (try split at h) <;> cases h
  | getCampaign | findLatestActiveCampaign | listActiveCampaigns | hasParticipation
    | listParticipationsByUser | getVoucherByCode | listVouchersByUser | createCampaign
    | nextCode | confirmPayment | nextSuffix =>
    cases h
    rfl
  | readCampaign id => exact Backend.held_step (Tx.readCampaign_keepsHeld id) h
  | updateCampaignParticipants id current status =>
    exact Backend.held_step (Tx.updateCampaignParticipants_keepsHeld id current status) h
  | createParticipation p => exact Backend.held_step (Tx.createParticipation_keepsHeld p) h
  | updateParticipationStatus id status stamp =>
    exact Backend.held_step (Tx.updateParticipationStatus_keepsHeld id status stamp) h
  | createVoucher v => exact Backend.held_step (Tx.createVoucher_keepsHeld v) h
  | findVoucher code => exact Backend.held_step (Tx.findVoucher_keepsHeld code) h
  | readVoucher id => exact Backend.held_step (Tx.readVoucher_keepsHeld id) h
  | markVoucherUsed id usage => exact Backend.held_step (Tx.markVoucherUsed_keepsHeld id usage) h
  | markVoucherExpired id => exact Backend.held_step (Tx.markVoucherExpired_keepsHeld id) h

theorem Call.current_perform_none (o : Oracle) (s : Store) {c : Call} (hbegin : c ≠ .begin) :
    (c.perform o ⟨s, none⟩).2.current = none := by
  cases c <;> first | rfl | exact absurd rfl hbegin

theorem Call.ends_perform (o : Oracle) (s : Store) (t : Tx) (c : Call)
    (h : (c.perform o ⟨s, some t⟩).2.current = none) :
    (c.perform o ⟨s, some t⟩).2.store = t.commit s ∨
      (c.perform o ⟨s, some t⟩).2.store = t.rollback s := by
  cases c with
  | finish ctx r =>
    show (Backend.finish ⟨s, some t⟩ ctx r).2.store = _ ∨
      (Backend.finish ⟨s, some t⟩ ctx r).2.store = _
    rcases Backend.finish_cases s t ctx r with ⟨-, hcommit⟩ | ⟨-, hrollback⟩
    · exact .inl (by rw [hcommit])
    · exact .inr (by rw [hrollback])
  | _ => cases h

/-! ## The calls of each request -/

/-- The one-lock discipline of a call made on the caller's transaction `tx`: it opens a
transaction only with none open, and asks for a lock only while the transaction holds and
stages nothing yet. -/
structure Call.InOrder (c : Call) (tx : Option Tx) : Prop where
  opens : c = .begin → tx = none
  locks : ∀ ctx k, c = .lock ctx k → ∃ o, tx = some { owner := o }

theorem Call.InOrder.of_ne {c : Call} {tx : Option Tx} (hbegin : c ≠ .begin)
    (hlock : ∀ ctx k, c ≠ .lock ctx k) : c.InOrder tx :=
  ⟨fun h => absurd h hbegin, fun ctx k h => absurd h (hlock ctx k)⟩

theorem EnrollStage.inOrder {cfg : Enrollment} {ctx : Ctx} {req : EnrollRequest} {s : Store}
    {tx : Option Tx} {st : EnrollStage} {c : Call} {after : c.Answer → EnrollStage}
    (hh : st.Holds cfg req s tx) (hM : EnrollStage.move cfg ctx req st = .call c after) :
    c.InOrder tx := by
  cases st with
  | opening campaign =>
    cases hM
    exact ⟨fun _ => hh, fun _ _ h => by cases h⟩
  | locking campaign =>
    cases hM
    exact ⟨(fun h => by cases h), fun _ _ _ => hh⟩
  | checked =>
    simp only [EnrollStage.move] at hM
    split at hM <;> cases hM <;> exact .of_ne (by simp) (by simp)
  | finished r => cases hM
  | _ =>
    cases hM
    exact .of_ne (by simp) (by simp)

theorem TopUpStage.inOrder {now : Instant} {ctx : Ctx} {req : TopUpRequest} {named : Bool}
    {s : Store} {tx : Option Tx} {st : TopUpStage} {c : Call} {after : c.Answer → TopUpStage}
    (hh : st.Holds now req s tx) (hM : TopUpStage.move now ctx req named st = .call c after) :
    c.InOrder tx := by
  cases st with
  | opening txId =>
    cases hM
    exact ⟨fun _ => hh, fun _ _ h => by cases h⟩
  | locking txId vid =>
    cases hM
    exact ⟨(fun h => by cases h), fun _ _ _ => hh.1⟩
  | start =>
    -- the refusals of the request answer before any call
    simp only [TopUpStage.move] at hM
    split at hM
    · cases hM
    split at hM
    · cases hM
    cases hM
    exact .of_ne (by simp) (by simp)
  | finished r => cases hM
  | _ =>
    cases hM
    exact .of_ne (by simp) (by simp)

theorem CheckStage.inOrder {now : Instant} {ctx : Ctx} {code : String} {s : Store}
    {tx : Option Tx} {st : CheckStage} {c : Call} {after : c.Answer → CheckStage}
    (hh : st.Holds now code s tx) (hM : CheckStage.move now ctx code st = .call c after) :
    c.InOrder tx := by
  cases st with
  | opening =>
    cases hM
    exact ⟨fun _ => hh, fun _ _ h => by cases h⟩
  | locking vid =>
    cases hM
    exact ⟨(fun h => by cases h), fun _ _ _ => hh.1⟩
  | finished r => cases hM
  | _ =>
    cases hM
    exact .of_ne (by simp) (by simp)

/-- Every call of a thread of a world of promotions keeps the one-lock discipline. -/
theorem PromoThread.inOrder {s : Store} {th : Thread} {c : Call}
    {next : c.Answer → Program Reply} (h : PromoThread s th) (hp : th.program = .call c next) :
    c.InOrder th.tx := by
  rcases h with ⟨cfg, ctx, req, st, -, hfollows, hh⟩ |
    (⟨now, ctx, req, named, st, pays, -, hfollows, hh, -⟩ |
      ⟨now, ctx, code, st, -, hfollows, hh, -⟩) |
    ⟨ctx, campaign, -, htx, hprog | ⟨r, hdone⟩⟩
  · obtain ⟨after, hM, -⟩ := hfollows.next hp
    exact EnrollStage.inOrder hh hM
  · obtain ⟨after, hM, -⟩ := hfollows.next hp
    exact TopUpStage.inOrder hh hM
  · obtain ⟨after, hM, -⟩ := hfollows.next hp
    exact CheckStage.inOrder hh hM
  · -- the one call of a creation of a campaign is made outside any transaction
    rw [hprog, Request.program_createCampaign] at hp
    cases hp
    exact .of_ne (by simp) (by simp)
  · rw [hdone] at hp
    cases hp

/-! ## Steps of a thread -/

theorem Thread.held_of_open {th : Thread} {o : Oracle} {s : Store} {t' : Tx}
    (htx : th.tx = none) (ht' : (th.step o s).2.tx = some t') : t'.held = [] := by
  cases hp : th.program with
  | done r =>
    rw [Thread.step_of_done hp, htx] at ht'
    cases ht'
  | call c next =>
    rw [Thread.step_of_call hp, htx] at ht'
    by_cases hbegin : c = .begin
    · subst hbegin
      cases ht'
      rfl
    · rw [Call.current_perform_none o s hbegin] at ht'
      cases ht'

/-- A transaction ends only by a commit or a rollback of the store the step starts from. -/
theorem Thread.step_ends {th : Thread} {o : Oracle} {s : Store} {t : Tx} (htx : th.tx = some t)
    (hend : (th.step o s).2.tx = none) :
    (th.step o s).1 = t.commit s ∨ (th.step o s).1 = t.rollback s := by
  cases hp : th.program with
  | done r =>
    rw [Thread.step_of_done hp, htx] at hend
    cases hend
  | call c next =>
    rw [Thread.step_of_call hp, htx] at hend ⊢
    exact Call.ends_perform o s t c hend

/-- A step of a thread of a world of promotions keeps the locks of its open transaction, or has
it take its first lock, one no transaction holds. -/
theorem PromoThread.held_step {s : Store} {txs : List Tx} {th : Thread} {o : Oracle} {t t' : Tx}
    (h : PromoThread s th) (hlocks : LocksAgree s txs)
    (htx : th.tx = some t) (ht' : (th.step o s).2.tx = some t') :
    t'.held = t.held ∨ ∃ k, t.held = [] ∧ s.holderOf k = none ∧ t'.held = [k] := by
  cases hp : th.program with
  | done r =>
    rw [Thread.step_of_done hp, htx] at ht'
    cases ht'
    exact .inl rfl
  | call c next =>
    obtain ⟨hbegin, hlock⟩ := h.inOrder hp
    rw [Thread.step_of_call hp, htx] at ht'
    by_cases hl : ∃ ctx k, c = .lock ctx k
    · -- the one lock of the request, asked by a transaction that holds nothing yet
      obtain ⟨ctx, k, rfl⟩ := hl
      obtain ⟨owner, howner⟩ := hlock ctx k rfl
      rw [htx] at howner
      cases howner
      have htaken : (Tx.lock ctx k s { owner := owner }).2.2 = t' :=
        Option.some.inj ht'
      rcases Tx.lock_takes_free fun _ hk => hlocks.kept_of_holderOf hk with
        hsame | ⟨-, hfree, htake⟩
      · exact .inl (by rw [← htaken, hsame])
      · exact .inr ⟨k, rfl, hfree, by rw [← htaken, htake]; rfl⟩
    · push Not at hl
      have hopen : c ≠ .begin := fun hc => Option.some_ne_none t (htx.symm.trans (hbegin hc))
      exact .inl (Call.held_perform o s t hopen hl ht')

/-! ## Worlds -/

theorem World.getElem?_step_cases {w : World} {e : Event} {i : Nat} {th th' : Thread}
    (hi : w.threads[i]? = some th) (hi' : (w.step e).threads[i]? = some th') :
    th' = th ∨
      (th' = (th.step e.oracle w.store).2 ∧ (w.step e).store = (th.step e.oracle w.store).1) := by
  by_cases hmoves : e.thread = i
  · subst hmoves
    rw [World.getElem?_step_self hi] at hi'
    exact .inr ⟨(Option.some.inj hi').symm, by rw [World.step_of_getElem? hi]⟩
  · cases hm : w.threads[e.thread]? with
    | none =>
      rw [World.step_of_getElem?_none hm, hi] at hi'
      exact .inl (Option.some.inj hi').symm
    | some mover =>
      rw [World.getElem?_step_ne hm (Ne.symm hmoves), hi] at hi'
      exact .inl (Option.some.inj hi').symm

/-- No key is held by the open transactions of two threads. -/
theorem index_eq_of_held {s : Store} {threads : List Thread}
    (h : LocksAgree s (txsOf threads)) {i j : Nat} {thi thj : Thread} {ti tj : Tx} {k : LockKey}
    (hi : threads[i]? = some thi) (hj : threads[j]? = some thj) (hti : thi.tx = some ti)
    (htj : thj.tx = some tj) (hki : k ∈ ti.held) (hkj : k ∈ tj.held) : i = j := by
  by_contra hij
  -- the transaction of thread `i` in front of those of the others
  have hfront := h.perm (txsOf_perm_eraseIdx hi)
  rw [hti, Option.toList_some, List.singleton_append] at hfront
  have hj' : thj ∈ threads.eraseIdx i := List.mem_eraseIdx_iff_getElem?.2 ⟨j, Ne.symm hij, hj⟩
  exact hfront.not_held_of_held (List.mem_filterMap.2 ⟨thj, hj', htj⟩) hki hkj

theorem held_length_le_one_reachable {s0 : Store} {requests : List Request} {w : World}
    (h0 : Promo s0 (requests.map Thread.start)) (hw : (World.start s0 requests).Reachable w) :
    ∀ t ∈ txsOf w.threads, t.held.length ≤ 1 := by
  induction hw with
  | start =>
    -- no transaction is open at the start
    intro t ht
    simp [World.start, txsOf, Thread.start] at ht
  | step e hreach ih =>
    have hpromo := promo_reachable h0 hreach
    rcases World.step_cases _ e with hsame | ⟨th, others, hold, hnew, -⟩
    · rw [hsame]
      exact ih
    have hmover := hpromo.threads th (hold.mem_iff.2 List.mem_cons_self)
    have hih : ∀ t ∈ th.tx.toList ++ txsOf others, t.held.length ≤ 1 := by
      intro t ht
      rw [← txsOf_cons] at ht
      exact ih t ((txsOf_perm hold).mem_iff.2 ht)
    intro t' ht'
    rw [(txsOf_perm hnew).mem_iff, txsOf_cons] at ht'
    rcases List.mem_append.1 ht' with hmoved | hother
    · have htx' := Option.mem_toList.1 hmoved
      cases htx : th.tx with
      | none =>
        rw [Thread.held_of_open htx htx']
        exact Nat.zero_le 1
      | some t =>
        rcases hmover.held_step hpromo.coherent.locks htx htx' with heq | ⟨k, -, -, hk⟩
        · rw [heq]
          exact hih t (by simp [htx])
        · rw [hk]
          rfl
    · exact hih t' (List.mem_append_right _ hother)

theorem Promo.step_locks {w : World} (h : Promo w.store w.threads) (e : Event) {i : Nat}
    {th th' : Thread} {t : Tx} (hi : w.threads[i]? = some th)
    (hi' : (w.step e).threads[i]? = some th') (htx : th.tx = some t) :
    (∀ t', th'.tx = some t' → t.held ⊆ t'.held ∧
      ∀ k ∈ t'.held, k ∉ t.held → ∀ u ∈ txsOf w.threads, k ∉ u.held) ∧
    (th'.tx = none →
      ((w.step e).store = t.commit w.store ∨ (w.step e).store = t.rollback w.store) ∧
        ∀ entry ∈ (w.step e).store.locks, entry.2.owner ≠ t.owner) := by
  rcases World.getElem?_step_cases hi hi' with rfl | ⟨rfl, hstore⟩
  · -- the thread does not move
    refine ⟨fun t' ht' => ?_, fun hend => ?_⟩
    · rw [htx] at ht'
      cases ht'
      exact ⟨List.Subset.refl _, fun k hk hnk => absurd hk hnk⟩
    · rw [htx] at hend
      cases hend
  rw [hstore]
  refine ⟨fun t' ht' => ?_, fun hend => ?_⟩
  · rcases (h.threads th (List.mem_of_getElem? hi)).held_step h.coherent.locks htx ht' with
      heq | ⟨k, hnil, hfree, hk⟩
    · rw [heq]
      exact ⟨List.Subset.refl _, fun k hk hnk => absurd hk hnk⟩
    · rw [hnil, hk]
      refine ⟨List.nil_subset _, fun k' hk' _ => ?_⟩
      rw [List.mem_singleton.1 hk']
      exact h.coherent.locks.not_held_of_free hfree
  · have hends := Thread.step_ends htx hend
    refine ⟨hends, fun entry hentry => ?_⟩
    rcases hends with hcommit | hrollback
    · rw [hcommit, Tx.commit_locks] at hentry
      exact Store.owner_ne_of_releaseOwner hentry
    · rw [hrollback, Tx.rollback_locks] at hentry
      exact Store.owner_ne_of_releaseOwner hentry

/-- Thread `i` waits for thread `j`: its next call asks for a lock that the open transaction of
`j`, another thread, holds. -/
def World.WaitsFor (w : World) (i j : Nat) : Prop :=
  i ≠ j ∧ ∃ thi thj ctx k t, w.threads[i]? = some thi ∧
    (∃ next, thi.program = .call (.lock ctx k) next) ∧
    w.threads[j]? = some thj ∧ thj.tx = some t ∧ k ∈ t.held

theorem Promo.not_waitsFor_of_waitsFor {w : World} (h : Promo w.store w.threads) {i j x : Nat}
    (hij : w.WaitsFor i j) : ¬ w.WaitsFor x i := by
  rintro ⟨-, thx, thi', ctx', k', u, -, -, hi', hu, hk⟩
  obtain ⟨-, thi, thj, ctx, k, t, hi, ⟨next, hp⟩, -⟩ := hij
  obtain rfl : thi' = thi := Option.some.inj (hi'.symm.trans hi)
  obtain ⟨owner, howner⟩ := ((h.threads _ (List.mem_of_getElem? hi)).inOrder hp).locks ctx k rfl
  rw [howner] at hu
  obtain rfl := Option.some.inj hu
  exact List.not_mem_nil hk

/-- No cycle of threads waits for each other. -/
theorem Promo.no_wait_cycle {w : World} (h : Promo w.store w.threads) (i : Nat) :
    ¬ Relation.TransGen w.WaitsFor i i := by
  intro hcycle
  obtain ⟨j, hij, -⟩ := Relation.TransGen.head'_iff.1 hcycle
  obtain ⟨x, -, hxi⟩ := Relation.TransGen.tail'_iff.1 hcycle
  exact h.not_waitsFor_of_waitsFor hij hxi

/-- From a store with no transaction open, whatever requests run and however their calls
interleave: no key is held by two threads' transactions; the lock table lists exactly the keys
the open transactions hold, under their owners; a lock the transaction holds is had again at
once; a step keeps the locks of a transaction that stays open and takes only keys no open
transaction holds, and a transaction ends by a commit or a rollback that leaves no lock of its
owner; every open transaction holds one lock at most, and no cycle of threads waits for each
other. -/
theorem row_locks_exclusive_and_released {s0 : Store} (hs : Coherent s0 [])
    (hstanding : Standing s0) (hids : ∀ id ∈ s0.campaigns.map (·.id), id ≤ s0.nextCampaignId)
    (requests : List Request) (es : List Event) :
    let w := (World.start s0 requests).run es
    (∀ (i j : Nat) (thi thj : Thread) (ti tj : Tx) k, w.threads[i]? = some thi →
      w.threads[j]? = some thj → thi.tx = some ti → thj.tx = some tj → k ∈ ti.held →
      k ∈ tj.held → i = j) ∧
    (∀ entry, entry ∈ w.store.locks ↔
      ∃ t ∈ txsOf w.threads, entry.1 ∈ t.held ∧ entry.2 = ⟨t.owner, none⟩) ∧
    (∀ (s : Store) (t : Tx) ctx k, k ∈ t.held → Tx.lock ctx k s t = (.ok (), s, t)) ∧
    (∀ (e : Event) (i : Nat) (th th' : Thread) (t : Tx), w.threads[i]? = some th →
      (w.step e).threads[i]? = some th' → th.tx = some t →
      (∀ t' : Tx, th'.tx = some t' → t.held ⊆ t'.held ∧
        ∀ k ∈ t'.held, k ∉ t.held → ∀ u ∈ txsOf w.threads, k ∉ u.held) ∧
      (th'.tx = none →
        ((w.step e).store = t.commit w.store ∨ (w.step e).store = t.rollback w.store) ∧
          ∀ entry ∈ (w.step e).store.locks, entry.2.owner ≠ t.owner)) ∧
    (∀ t ∈ txsOf w.threads, t.held.length ≤ 1) ∧
    (∀ i, ¬ Relation.TransGen w.WaitsFor i i) := by
  intro w
  have h0 := Promo.start hs hstanding hids requests
  have hreach := World.reachable_run (World.start s0 requests) es
  have h := promo_reachable h0 hreach
  exact ⟨fun _ _ _ _ _ _ _ hi hj hti htj hki hkj =>
      index_eq_of_held h.coherent.locks hi hj hti htj hki hkj,
    fun _ => h.coherent.locks.mem_locks_iff, fun _ _ _ _ hk => Tx.lock_of_mem_held hk,
    fun e _ _ _ _ hi hi' htx => h.step_locks e hi hi' htx,
    held_length_le_one_reachable h0 hreach, h.no_wait_cycle⟩

/-- From the empty store, a campaign is created while two users enroll, one of them tops up
with the code it was given and the other checks it: every open transaction holds at most one
row lock, and no thread waits on itself. -/
theorem row_locks_of_empty_store :
    let requests := [Request.createCampaign .live default,
      Request.enroll ⟨1, 3, default⟩ .live ⟨1, none⟩,
      Request.enroll ⟨1, 3, default⟩ .live ⟨2, none⟩,
      Request.topUp default .live ⟨1, 100, "0812345678", "", "CODE-7"⟩,
      Request.validateVoucher default .live "CODE-7"]
    let w := (World.start {} requests).run (World.turns 5 12)
    Coherent ({} : Store) [] ∧ Standing ({} : Store) ∧
      (∀ t ∈ txsOf w.threads, t.held.length ≤ 1) ∧ ∀ i, ¬ Relation.TransGen w.WaitsFor i i := by
  intro requests w
  obtain ⟨-, -, -, -, hheld, hcycle⟩ := row_locks_exclusive_and_released (Fresh.empty _).coherent
    (Standing.empty _) (by simp) requests (World.turns 5 12)
  exact ⟨(Fresh.empty _).coherent, Standing.empty _, hheld, hcycle⟩

end Concurrent
end TopUpPromo
