import TopUpPromo.Proofs.Redemption.Steps

/-!
# Worlds of top-ups and voucher checks

Threads serving top-ups, redemptions and voucher checks run against a store that starts with no
lock held (`Quiet`). `Sound` is what holds of such a world after every run, read off the calls
the run made: the locks agree with the open transactions, the vouchers keep their ids and codes
and the participations their ids and users, every thread knows what its stage says
(`RedeemThread`), with the payment calls of its own in the run, and at most one top-up naming a
code has answered with success.

`RedeemThread.step` says what one step of a thread does, and `Sound.step` carries the invariant
through one step of the world: the moving thread by its stage's step lemma, the others by the
frame lemmas, since the mover commits only rows of codes it has locked. Uniqueness comes from
the committed row: a success commits the use of an active row under its lock, and a successful
thread's row is used from then on. The main results are `sound_run`, that every run keeps
`Sound`, and `Sound.writes`, what a step writes to the voucher rows.
-/

namespace TopUpPromo
namespace Concurrent

open Memory
open scoped List

theorem Redemption.request_topUp_inj {now now' : Instant} {ctx ctx' : Ctx}
    {req req' : TopUpRequest} {named named' : Bool}
    (h : (Redemption.topUp now ctx req named).request =
      (Redemption.topUp now' ctx' req' named').request) :
    now = now' ∧ ctx = ctx' ∧ req = req' := by
  cases named <;> cases named' <;>
    simp only [Redemption.request, Request.topUp.injEq, Request.redeem.injEq, reduceCtorEq] at h
  · exact h
  · exact h

theorem Redemption.request_topUp_ne_check {now now' : Instant} {ctx ctx' : Ctx}
    {req : TopUpRequest} {named : Bool} {code : String} :
    (Redemption.topUp now ctx req named).request ≠ .validateVoucher now' ctx' code := by
  cases named <;> simp [Redemption.request]

/-- The thread serves a top-up naming code `c` and has answered with success. -/
def Thread.Redeemed (th : Thread) (c : String) : Prop :=
  ∃ now ctx req named res, th.request = (Redemption.topUp now ctx req named).request ∧
    req.voucherCode = c ∧ th.reply? = some (.toppedUp (.ok res))

theorem Thread.program_of_reply {th : Thread} {r : Reply} (h : th.reply? = some r) :
    th.program = .done r := by
  unfold Thread.reply? at h
  split at h
  · next r' hp =>
    cases h
    exact hp
  · cases h

/-- A thread serving a top-up or a voucher check, at a stage whose facts hold of store `s`,
having made the payment calls `pays`. -/
def RedeemThread (s : Store) (pays : List Made) (th : Thread) : Prop :=
  (∃ now ctx req named st, th.request = (Redemption.topUp now ctx req named).request ∧
    th.program.Follows (TopUpStage.move now ctx req named) st ∧ st.Holds now req s th.tx ∧
    st.Paid now ctx req pays) ∨
  (∃ now ctx code st, th.request = .validateVoucher now ctx code ∧
    th.program.Follows (CheckStage.move now ctx code) st ∧ st.Holds now code s th.tx ∧ pays = [])

/-- What a step writes to the voucher rows, from `s` to `s'`, seen from the thread `th` after
it: a row that changes was active, and the thread serves a request naming its code; the row is
expired, past its expiry at the request's clock, or the request is a top-up that answered with
success, and the row is used as the answer says. -/
def VoucherWrites (s s' : Store) (th : Thread) : Prop :=
  ∀ id v v', findBy (·.id) s.vouchers id = some v → findBy (·.id) s'.vouchers id = some v' →
    v' ≠ v → v.status = .active ∧ ∃ job : Redemption, th.request = job.request ∧ job.code = v.code ∧
      ((v.isExpired job.now = true ∧ v' = { v with status := .expired }) ∨
        ∃ now ctx req named res, job = .topUp now ctx req named ∧
          th.reply? = some (.toppedUp (.ok res)) ∧
          v' = v.markUsed ⟨now, req.amount, res.discountAmount, res.transactionId⟩)

theorem VoucherWrites.of_vouchers {s s' : Store} {th : Thread} (h : s'.vouchers = s.vouchers) :
    VoucherWrites s s' th := by
  intro id v v' hv hv' hne
  rw [h, hv] at hv'
  cases hv'
  exact absurd rfl hne

namespace RedeemThread

variable {s : Store} {pays : List Made} {th : Thread}

theorem guarded (h : RedeemThread s pays th) : th.tx = none ∨ Phase.Aborting s th.tx := by
  rcases h with ⟨now, ctx, req, named, st, -, -, hh, -⟩ | ⟨now, ctx, code, st, -, -, hh, -⟩
  · exact TopUpStage.Holds.guarded hh
  · exact CheckStage.Holds.guarded hh

theorem guard (h : RedeemThread s pays th) : ∀ t, th.tx = some t → t.Guard s := by
  intro t ht
  rcases h.guarded with hnone | ⟨t', ht', hg⟩
  · rw [hnone] at ht
    cases ht
  · rw [ht] at ht'
    cases ht'
    exact hg

theorem of_overwrites {s' : Store} {held : List LockKey} (h : RedeemThread s pays th)
    (hov : s.Overwrites held s') (hfree : Phase.Apart held th.tx) : RedeemThread s' pays th := by
  rcases h with ⟨now, ctx, req, named, st, hreq, hfollows, hh, hpaid⟩ |
    ⟨now, ctx, code, st, hreq, hfollows, hh, hpays⟩
  · exact .inl ⟨now, ctx, req, named, st, hreq, hfollows, hh.of_overwrites hov hfree, hpaid⟩
  · exact .inr ⟨now, ctx, code, st, hreq, hfollows, hh.of_overwrites hov hfree, hpays⟩

theorem success {now : Instant} {ctx : Ctx} {req : TopUpRequest} {named : Bool}
    {res : RedemptionResult} (h : RedeemThread s pays th)
    (hreq : th.request = (Redemption.topUp now ctx req named).request)
    (hreply : th.reply? = some (.toppedUp (.ok res))) :
    (req.voucherCode.isEmpty = false → TopUpStage.Recorded req s res) ∧
      TopUpStage.Paid now ctx req pays (.finished (.ok res)) := by
  rcases h with ⟨now', ctx', req', named', st, hreq', hfollows, hh, hpaid⟩ |
    ⟨now', ctx', code, st, hreq', -⟩
  · obtain ⟨rfl, rfl, rfl⟩ := Redemption.request_topUp_inj (hreq'.symm.trans hreq)
    have hst := TopUpStage.stop_success (hfollows.done (Thread.program_of_reply hreply))
    subst hst
    exact ⟨fun hempty => hh.2 res rfl hempty, hpaid⟩
  · exact absurd (hreq.symm.trans hreq') Redemption.request_topUp_ne_check

theorem start (job : Redemption) : RedeemThread s [] (Thread.start job.request) := by
  cases job with
  | topUp now ctx req named =>
    exact .inl ⟨now, ctx, req, named, .start, rfl, TopUpStage.follows_request named, rfl, rfl⟩
  | check now ctx code =>
    exact .inr ⟨now, ctx, code, .start, rfl, CheckStage.follows_validateVoucher, rfl, rfl⟩

theorem reply_of_follows {σ : Type} {M : σ → Move σ Reply} {p : Program Reply} {st : σ}
    {r : Reply} (h : p.Follows M st) (hM : M st = .stop r) (th : Thread) (hp : th.program = p) :
    th.reply? = some r := by
  rw [Thread.reply?, hp, h.eq_done hM]

/-- One step of a thread serving a top-up or a check keeps what it knows, with the payment it
makes, if any, added to its payments; it touches the store, writes the voucher rows as
`VoucherWrites` says, and a new success for a voucher comes from a store where the voucher was
active. -/
theorem step {others : List Tx} (h : RedeemThread s pays th)
    (hlocks : LocksAgree s (th.tx.toList ++ others)) (hids : (s.vouchers.map (·.id)).Nodup)
    (hpids : (s.participations.map (·.id)).Nodup) (o : Oracle) :
    RedeemThread (th.step o s).1 (pays ++ ((th.made? s).map Made.payments).getD [])
        (th.step o s).2 ∧
      Touch s th.tx (th.step o s).1 (th.step o s).2.tx ∧
      VoucherWrites s (th.step o s).1 (th.step o s).2 ∧
      ∀ c, (th.step o s).2.Redeemed c → th.Redeemed c ∨
        (c.isEmpty = false → ∃ v0, s.RowOf c v0 ∧ v0.status = .active) := by
  cases hp : th.program with
  | done r =>
    -- a thread that is done takes no step
    have hmade : th.made? s = none := by simp only [Thread.made?, hp]
    rw [Thread.step_of_done hp, hmade]
    exact ⟨by simpa using h, .read, VoucherWrites.of_vouchers rfl, fun c hc => .inl hc⟩
  | call c next =>
    have hmade : th.made? s = some ⟨c, s, th.tx⟩ := by simp only [Thread.made?, hp]
    rw [Thread.step_of_call hp, hmade]
    rcases h with ⟨now, ctx, req, named, st, hreq, hfollows, hh, hpaid⟩ |
      ⟨now, ctx, code, st, hreq, hfollows, hh, hpays⟩
    · obtain ⟨after, hM, hnext⟩ := Program.Follows.next hfollows hp
      obtain ⟨htouch, hholds, hpaid', hwrites, hsuccess⟩ :=
        TopUpStage.steps_of_move hlocks hids hpids hh hpaid hM o
      have hfollows' := hnext (c.perform o ⟨s, th.tx⟩).1
      refine ⟨.inl ⟨now, ctx, req, named, _, hreq, hfollows', hholds, hpaid'⟩, htouch, ?_, ?_⟩
      · -- the rows written are those of the top-up's code
        intro id v v' hv hv' hne
        obtain ⟨hcode, hactive, hkind⟩ := hwrites id v v' hv hv' hne
        refine ⟨hactive, .topUp now ctx req named, hreq, hcode.symm, ?_⟩
        rcases hkind with hexpired | ⟨res, hres, hused⟩
        · exact .inl hexpired
        · refine .inr ⟨now, ctx, req, named, res, rfl, ?_, hused⟩
          exact reply_of_follows hfollows' (by rw [hres]; rfl) _ rfl
      · -- a new success is the commit of an active voucher
        rintro code ⟨now', ctx', req', named', res, hreq', rfl, hreply⟩
        obtain ⟨rfl, rfl, rfl⟩ := Redemption.request_topUp_inj (hreq.symm.trans hreq')
        right
        intro hempty
        have hfinished := TopUpStage.stop_success (hfollows'.done (Thread.program_of_reply hreply))
        exact hsuccess res hfinished hempty
    · obtain ⟨after, hM, hnext⟩ := Program.Follows.next hfollows hp
      obtain ⟨htouch, hholds, hexpires⟩ := CheckStage.steps_of_move hlocks hids hh hM o
      refine ⟨.inr ⟨now, ctx, code, _, hreq, hnext _, hholds, ?_⟩, htouch, ?_, ?_⟩
      · rw [hpays, Option.map_some, Option.getD_some, CheckStage.payments_of_move hM]
        rfl
      · -- a check writes only the expiry of its code's row
        intro id v v' hv hv' hne
        obtain ⟨hcode, ⟨hactive, hexpired⟩, hv'eq⟩ := hexpires id v v' hv hv' hne
        exact ⟨hactive, .check now ctx code, hreq, hcode.symm, .inl ⟨hexpired, hv'eq⟩⟩
      · rintro code' ⟨now', ctx', req', named', res, hreq', -, -⟩
        exact absurd (hreq'.symm.trans hreq) Redemption.request_topUp_ne_check

end RedeemThread

/-- A store before any top-up or check runs: no lock is held, and vouchers and participations
have distinct ids. -/
structure Quiet (s : Store) : Prop where
  locks : s.locks = []
  voucherIds : (s.vouchers.map (·.id)).Nodup
  participationIds : (s.participations.map (·.id)).Nodup

theorem Quiet.locksAgree {s : Store} (h : Quiet s) : LocksAgree s [] where
  lock_keys := by simp [h.locks]
  lock_holder e he := by simp [h.locks] at he
  held_locked _ ht := by cases ht
  owners := List.nodup_nil
  owner_lt _ ht := by cases ht

/-- A world of top-ups and checks started from store `s0`, after the calls `log`: the locks
agree with the open transactions, the vouchers keep the ids and codes and the participations the
ids and users of `s0`, every thread knows what its stage says with its own payments in `log`,
and no two threads are top-ups naming the same code that answered with success. -/
structure Sound (s0 : Store) (log : List (Nat × Made)) (w : World) : Prop where
  locks : LocksAgree w.store (txsOf w.threads)
  keys : w.store.vouchers.map Voucher.key = s0.vouchers.map Voucher.key
  owners : w.store.participations.map Participation.owner =
    s0.participations.map Participation.owner
  threads : ∀ (i : Nat) (th : Thread), w.threads[i]? = some th → RedeemThread w.store (World.paymentsOf i log) th
  unique : ∀ c : String, c.isEmpty = false → ∀ (i j : Nat) (thi thj : Thread), w.threads[i]? = some thi →
    w.threads[j]? = some thj → thi.Redeemed c → thj.Redeemed c → i = j

namespace Sound

variable {s0 : Store} {log : List (Nat × Made)} {w : World}

theorem ids (hw : Sound s0 log w) (hs0 : Quiet s0) : (w.store.vouchers.map (·.id)).Nodup := by
  have hmap : w.store.vouchers.map (·.id) = (w.store.vouchers.map Voucher.key).map Prod.fst := by
    simp [List.map_map, Function.comp_def, Voucher.key]
  have hmap0 : s0.vouchers.map (·.id) = (s0.vouchers.map Voucher.key).map Prod.fst := by
    simp [List.map_map, Function.comp_def, Voucher.key]
  rw [hmap, hw.keys, ← hmap0]
  exact hs0.voucherIds

theorem participationIds (hw : Sound s0 log w) (hs0 : Quiet s0) :
    (w.store.participations.map (·.id)).Nodup := by
  have hmap : w.store.participations.map (·.id) =
      (w.store.participations.map Participation.owner).map Prod.fst := by
    simp [List.map_map, Function.comp_def, Participation.owner]
  have hmap0 : s0.participations.map (·.id) =
      (s0.participations.map Participation.owner).map Prod.fst := by
    simp [List.map_map, Function.comp_def, Participation.owner]
  rw [hmap, hw.owners, ← hmap0]
  exact hs0.participationIds

theorem start (hs0 : Quiet s0) (jobs : List Redemption) :
    Sound s0 [] (World.start s0 (jobs.map Redemption.request)) := by
  have hthreads : ∀ (i : Nat) (th : Thread), (World.start s0 (jobs.map Redemption.request)).threads[i]? = some th →
      ∃ job : Redemption, th = Thread.start job.request := by
    intro i th h
    simp only [World.start, List.map_map, List.getElem?_map, Option.map_eq_some_iff] at h
    obtain ⟨job, -, rfl⟩ := h
    exact ⟨job, rfl⟩
  have hnone : txsOf (World.start s0 (jobs.map Redemption.request)).threads = [] := by
    simp [txsOf, World.start, Thread.start]
  refine ⟨by rw [hnone]; exact hs0.locksAgree, rfl, rfl, ?_, ?_⟩
  · intro i th h
    obtain ⟨job, rfl⟩ := hthreads i th h
    exact RedeemThread.start job
  · -- no thread has answered with success before it ran
    intro c _ i j thi thj hi _ hri _
    obtain ⟨job, rfl⟩ := hthreads i thi hi
    obtain ⟨now, ctx, req, named, res, hreq, -, hreply⟩ := hri
    have hstart : RedeemThread s0 [] (Thread.start job.request) := RedeemThread.start job
    obtain ⟨m, hm, -⟩ := (hstart.success hreq hreply).2
    cases hm

section Mover

variable {e : Event} {th : Thread} (hget : w.threads[e.thread]? = some th)
include hget

theorem locks_mover (hw : Sound s0 log w) :
    LocksAgree w.store (th.tx.toList ++ txsOf (w.threads.eraseIdx e.thread)) :=
  hw.locks.perm (txsOf_perm_eraseIdx hget)

theorem moves (hs0 : Quiet s0) (hw : Sound s0 log w) :
    RedeemThread (th.step e.oracle w.store).1
        (World.paymentsOf e.thread log ++ ((th.made? w.store).map Made.payments).getD [])
        (th.step e.oracle w.store).2 ∧
      Touch w.store th.tx (th.step e.oracle w.store).1 (th.step e.oracle w.store).2.tx ∧
      VoucherWrites w.store (th.step e.oracle w.store).1 (th.step e.oracle w.store).2 ∧
      ∀ c, (th.step e.oracle w.store).2.Redeemed c → th.Redeemed c ∨
        (c.isEmpty = false → ∃ v0, w.store.RowOf c v0 ∧ v0.status = .active) :=
  (hw.threads e.thread th hget).step (hw.locks_mover hget) (hw.ids hs0) (hw.participationIds hs0)
    e.oracle

theorem overwrites_mover (hs0 : Quiet s0) (hw : Sound s0 log w) :
    w.store.Overwrites ((th.tx.map Tx.held).getD []) (th.step e.oracle w.store).1 :=
  (hw.moves hget hs0).2.1.overwrites (hw.threads e.thread th hget).guard (hw.ids hs0)
    (hw.participationIds hs0)

theorem apart_mover (hw : Sound s0 log w) {j : Nat} {thj : Thread} (hj : j ≠ e.thread)
    (hthj : w.threads[j]? = some thj) : Phase.Apart ((th.tx.map Tx.held).getD []) thj.tx := by
  intro u hu k hk hkt
  have hlocks := hw.locks_mover hget
  cases htx : th.tx with
  | none => simp [htx] at hkt
  | some t =>
    rw [htx] at hlocks hkt
    have hmem : thj ∈ w.threads.eraseIdx e.thread := List.mem_eraseIdx_iff_getElem?.2 ⟨j, hj, hthj⟩
    have hu' : u ∈ txsOf (w.threads.eraseIdx e.thread) := List.mem_filterMap.2 ⟨thj, hmem, hu⟩
    exact hlocks.not_held_of_held hu' hkt hk

theorem redeemed_mover (hs0 : Quiet s0) (hw : Sound s0 log w) {c : String}
    (hc : c.isEmpty = false) {j : Nat} {thj : Thread} (hthj : w.threads[j]? = some thj)
    (hrj : thj.Redeemed c) (hri : (th.step e.oracle w.store).2.Redeemed c) : th.Redeemed c := by
  rcases (hw.moves hget hs0).2.2.2 c hri with hold | hnew
  · exact hold
  · obtain ⟨v0, hrow, hactive⟩ := hnew hc
    obtain ⟨now, ctx, req, named, res, hreq, rfl, hreply⟩ := hrj
    obtain ⟨r, hr, hused, -⟩ := ((hw.threads j thj hthj).success hreq hreply).1 hc
    rw [hrow.unique hr, hused] at hactive
    cases hactive

theorem unique_mover (hs0 : Quiet s0) (hw : Sound s0 log w) (c : String) (hc : c.isEmpty = false)
    (i j : Nat) (thi thj : Thread) (hi : (w.step e).threads[i]? = some thi)
    (hj : (w.step e).threads[j]? = some thj) (hri : thi.Redeemed c) (hrj : thj.Redeemed c) :
    i = j := by
  -- the mover's old self, or the others unchanged, were already unique
  by_cases hie : i = e.thread <;> by_cases hje : j = e.thread
  · rw [hie, hje]
  · subst hie
    rw [World.getElem?_step_self hget] at hi
    cases hi
    rw [World.getElem?_step_ne hget hje] at hj
    exact hw.unique c hc _ _ _ _ hget hj (hw.redeemed_mover hget hs0 hc hj hrj hri) hrj
  · subst hje
    rw [World.getElem?_step_self hget] at hj
    cases hj
    rw [World.getElem?_step_ne hget hie] at hi
    exact hw.unique c hc _ _ _ _ hi hget hri (hw.redeemed_mover hget hs0 hc hi hri hrj)
  · rw [World.getElem?_step_ne hget hie] at hi
    rw [World.getElem?_step_ne hget hje] at hj
    exact hw.unique c hc _ _ _ _ hi hj hri hrj

end Mover

/-- One step of a world keeps `Sound`, with the call it makes added to the calls. -/
theorem step (hs0 : Quiet s0) (hw : Sound s0 log w) (e : Event) :
    Sound s0 (log ++ (w.made? e).toList) (w.step e) := by
  cases hget : w.threads[e.thread]? with
  | none =>
    have hmade : w.made? e = none := by simp [World.made?, hget]
    rw [World.step_of_getElem?_none hget, hmade, Option.toList_none, List.append_nil]
    exact hw
  | some th =>
    have hlt : e.thread < w.threads.length := (List.getElem?_eq_some_iff.1 hget).1
    obtain ⟨hth', htouch, -⟩ := hw.moves hget hs0
    have hov := hw.overwrites_mover hget hs0
    refine ⟨?_, ?_, ?_, ?_, hw.unique_mover hget hs0⟩
    · rw [World.step_of_getElem? hget]
      exact (htouch.locks (hw.locks_mover hget)).perm (txsOf_set hlt _).symm
    · rw [World.step_of_getElem? hget]
      exact hov.keys.trans hw.keys
    · rw [World.step_of_getElem? hget]
      exact hov.owners.trans hw.owners
    · intro j thj hj
      rw [World.paymentsOf_made hget]
      by_cases hji : j = e.thread
      · -- the mover, by its step
        subst hji
        rw [World.getElem?_step_self hget] at hj
        cases hj
        rw [if_pos rfl, World.step_of_getElem? hget]
        exact hth'
      · -- the others, over what the mover overwrote
        rw [World.getElem?_step_ne hget hji] at hj
        rw [if_neg (Ne.symm hji), List.append_nil, World.step_of_getElem? hget]
        exact (hw.threads j thj hj).of_overwrites hov (hw.apart_mover hget hji hj)

theorem run (hs0 : Quiet s0) (hw : Sound s0 log w) (es : List Event) :
    Sound s0 (log ++ w.trace es) (w.run es) := by
  induction es generalizing log w with
  | nil => simpa [World.trace, World.run] using hw
  | cons e es ih =>
    have hnext := ih (hw.step hs0 e)
    simpa [World.trace, World.run, List.append_assoc] using hnext

/-- What one step writes to the voucher rows: it overwrites at most rows that were active, and a
row that changes is written as `VoucherWrites` says, by a thread of the world after the step. -/
theorem writes (hs0 : Quiet s0) (hw : Sound s0 log w) (e : Event) :
    (∃ held, w.store.Overwrites held (w.step e).store) ∧
      ∀ id v v', findBy (·.id) w.store.vouchers id = some v →
        findBy (·.id) (w.step e).store.vouchers id = some v' → v' ≠ v →
        ∃ th ∈ (w.step e).threads, VoucherWrites w.store (w.step e).store th := by
  cases hget : w.threads[e.thread]? with
  | none =>
    rw [World.step_of_getElem?_none hget]
    refine ⟨⟨[], Store.overwrites_of_rows rfl rfl⟩, fun id v v' hv hv' hne => ?_⟩
    rw [hv] at hv'
    cases hv'
    exact absurd rfl hne
  | some th =>
    have hmem : (th.step e.oracle w.store).2 ∈ (w.step e).threads :=
      List.mem_iff_getElem?.2 ⟨e.thread, World.getElem?_step_self hget⟩
    have hwrites := (hw.moves hget hs0).2.2.1
    rw [World.step_of_getElem? hget] at hmem ⊢
    exact ⟨⟨_, hw.overwrites_mover hget hs0⟩, fun _ _ _ _ _ _ => ⟨_, hmem, hwrites⟩⟩

end Sound

/-- Every run of top-ups and checks from a quiet store keeps `Sound`, with the calls it made. -/
theorem sound_run {s0 : Store} (hs0 : Quiet s0) (jobs : List Redemption) (es : List Event) :
    Sound s0 ((World.start s0 (jobs.map Redemption.request)).trace es)
      ((World.start s0 (jobs.map Redemption.request)).run es) := by
  simpa using (Sound.start hs0 jobs).run hs0 es

end Concurrent
end TopUpPromo
