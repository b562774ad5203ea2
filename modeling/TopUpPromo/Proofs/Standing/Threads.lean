import TopUpPromo.Proofs.Standing.Frames
import TopUpPromo.Proofs.Enrollment.Steps
import TopUpPromo.Proofs.Memory.Changes

/-!
# What each kind of thread writes

A world of promotions runs threads of three kinds: enrollments, top-ups and voucher checks, and
creations of campaigns. This module says, for each kind, what one step of a thread keeps of what
it knows and what it writes to the committed rows.

A top-up or a check that is about to commit stages nothing, or one voucher with the committed
participation it names, moved to the status that matches the voucher's (`Tx.Pairs`): the stage
machine stages the voucher's use or expiry first and the participation's status next, and
commits only once both are staged. `SettleThread` is what such a thread knows, with the pairs of
its committing stages; `SettleThread.step` says that its step writes no row or commits a
`Tx.Settlement`. An admission commits a new participation with the voucher it was issued, and
keeps the rows standing (`EnrollStage.commit_admission`). A campaign is created in a single call
outside any transaction (`CampaignThread.step`).
-/

namespace TopUpPromo

open scoped List

/-! ## The pairings a status change makes -/

namespace Participation.Configured

theorem withStatus_expired (p : Participation) (now : Instant) {v : Voucher}
    (hv : v.status = .expired) : (p.withStatus .expired now).Configured [v] :=
  ⟨v, rfl, hv⟩

theorem withStatus_voucherUsed (p : Participation) (now : Instant) {v : Voucher}
    (hv : v.status = .used) (hused : v.usedAt = some now) :
    (p.withStatus .voucherUsed now).Configured [v] :=
  ⟨v, rfl, hv, hused.symm⟩

end Participation.Configured

namespace Memory

/-- What the transaction of a top-up or of a check stages when it is about to commit: nothing,
or one voucher with the committed participation it names, moved to `status` at `now`. -/
def Tx.Pairs (s : Store) (status : ParticipationStatus) (now : Instant) (t : Tx) : Prop :=
  (t.vouchers = [] ∧ t.participations = []) ∨
    ∃ (v : Voucher) (p : Participation), t.vouchers = [v] ∧
      t.participations = [p.withStatus status now] ∧
      v.participationId = p.id ∧ p.identity ∈ s.participations.map Participation.identity

theorem Tx.Pairs.of_identities {s s' : Store} {status : ParticipationStatus} {now : Instant}
    {t : Tx} (h : t.Pairs s status now)
    (hid : ∀ x ∈ s.participations.map Participation.identity,
      x ∈ s'.participations.map Participation.identity) :
    t.Pairs s' status now := by
  rcases h with hnone | ⟨v, p, hv, hp, hpid, hmem⟩
  · exact .inl hnone
  · exact .inr ⟨v, p, hv, hp, hpid, hid _ hmem⟩

theorem voucherTx_settlement {s : Store} {o : Nat} {c : String} {v0 x : Voucher}
    {p : Participation} {status : ParticipationStatus} {now : Instant}
    (hpid : x.participationId = p.id)
    (hmem : p.identity ∈ s.participations.map Participation.identity)
    (hconfigured : (p.withStatus status now).Configured [x]) (hv0 : v0 ∈ s.vouchers)
    (hid : x.id = v0.id) (hnames : x.participationId = v0.participationId) :
    ∃ q, (voucherTx o c [x] [p.withStatus status now]).Settlement s v0 x q
      (p.withStatus status now) := by
  obtain ⟨q, hq, hqid⟩ := List.mem_map.1 hmem
  have hqp : q.id = p.id := congrArg Prod.fst hqid
  exact ⟨q, rfl, rfl, rfl, hv0, hid, hnames, hq, hqp.trans (hpid.symm.trans hnames),
    by rw [Participation.identity_withStatus, hqid], hconfigured⟩

/-- The committed rows of `s'` are those of `s`. -/
structure Store.SameRows (s s' : Store) : Prop where
  campaigns : s'.campaigns = s.campaigns
  participations : s'.participations = s.participations
  vouchers : s'.vouchers = s.vouchers

theorem Store.SameRows.refl (s : Store) : s.SameRows s :=
  ⟨rfl, rfl, rfl⟩

theorem Change.sameRows {s s' : Store} {t t' : Option Tx} (hc : Change s t s' t') :
    s.SameRows s' := by
  cases hc <;> exact ⟨rfl, rfl, rfl⟩

end Memory

namespace Concurrent

open Memory

theorem Call.sameRows_of_inner (o : Oracle) (b : Backend) {c : Call} (hc : c.inner = true) :
    b.store.SameRows (c.perform o b).2.store :=
  (Call.perform_change o b hc).sameRows

theorem Phase.Read.participationId_eq {s : Store} {c : String} {v0 v : Voucher}
    (h : Phase.Read s c v0 v) : v.participationId = v0.participationId := by
  obtain ⟨u, hu⟩ := s.joinVoucher_with [] v0
  rw [h.2, hu]

theorem Phase.pairs_updateParticipationStatus {s : Store} {o : Nat} {c : String} {x : Voucher}
    {id : Int} {status : ParticipationStatus} {now : Instant} (hx : x.participationId = id) :
    Phase.Moves s (some (voucherTx o c [x] [])) (.updateParticipationStatus id status now)
      fun a s' tx' => match a with
        | .ok () => ∀ t, tx' = some t → t.Pairs s' status now
        | .error _ => True := by
  intro oracle
  simp only [Call.perform, Backend.step]
  rcases @Tx.updateParticipationStatus_cases s (voucherTx o c [x] []) id status now with
    ⟨p, hp, hupdate⟩ | ⟨e, he⟩
  · rw [hupdate]
    rw [Tx.participation_of_unstaged rfl] at hp
    obtain ⟨hmem, hpid⟩ := findBy_eq_some _ hp
    refine ⟨.stage rfl rfl, ?_⟩
    intro t ht
    cases ht
    exact .inr ⟨x, p, rfl, by simp [voucherTx], hx.trans hpid.symm, List.mem_map_of_mem hmem⟩
  · rw [he]
    exact ⟨.read, trivial⟩

def Phase.LeadsTo {σ : Type} (Q : σ → Store → Option Tx → Prop) (s : Store) (tx : Option Tx)
    (c : Call) (after : c.Answer → σ) : Prop :=
  ∀ o, Q (after (c.perform o ⟨s, tx⟩).1) (c.perform o ⟨s, tx⟩).2.store
    (c.perform o ⟨s, tx⟩).2.current

theorem Phase.leadsTo_of_moves {σ : Type} {Q : σ → Store → Option Tx → Prop} {s : Store}
    {tx : Option Tx} {c : Call} {after : c.Answer → σ} {P : c.Answer → Store → Option Tx → Prop}
    (hm : Phase.Moves s tx c P) (h : ∀ a s' tx', P a s' tx' → Q (after a) s' tx') :
    Phase.LeadsTo Q s tx c after :=
  fun o => h _ _ _ (hm o).2

theorem Phase.commit_expiry {s : Store} {now : Instant} {o : Nat} {c : String}
    {vs : List Voucher} {ps : List Participation} (hexpiry : Phase.Expiry s now c vs)
    (hp : (voucherTx o c vs ps).Pairs s .expired now) :
    s.SameRows ((voucherTx o c vs ps).commit s) ∨
      ∃ v0 v q p, (voucherTx o c vs ps).Settlement s v0 v q p := by
  simp only [Tx.Pairs, voucherTx] at hp
  rcases hp with ⟨rfl, rfl⟩ | ⟨x, p, rfl, rfl, hpid, hmem⟩
  · exact .inl ⟨rfl, rfl, rfl⟩
  -- the voucher staged is the expiry of the row the code names
  rcases hexpiry with hnil | ⟨v0, hvs, hrow, -⟩
  · cases hnil
  obtain rfl := List.singleton_inj.1 hvs
  obtain ⟨q, hq⟩ := voucherTx_settlement hpid hmem
    (Participation.Configured.withStatus_expired p now rfl) (findBy_eq_some _ hrow.row).1 rfl rfl
  exact .inr ⟨v0, _, q, _, hq⟩

/-! ## Top-ups -/

namespace TopUpStage

variable {now : Instant} {ctx : Ctx} {req : TopUpRequest} {named : Bool} {s : Store}
  {tx : Option Tx} {c : Call} {after : c.Answer → TopUpStage}

/-- What a top-up about to commit stages: nothing, or the expiry of its voucher with that of
the voucher's participation, when it used no voucher; the use of its voucher with that of the
participation, when it did. -/
def Pairs (now : Instant) (s : Store) (tx : Option Tx) : TopUpStage → Prop
  | .committing _ none => ∀ t, tx = some t → t.Pairs s .expired now
  | .committing _ (some _) => ∀ t, tx = some t → t.Pairs s .voucherUsed now
  | _ => True

theorem Pairs.of_identities {s' : Store} {st : TopUpStage} (h : st.Pairs now s tx)
    (hid : ∀ x ∈ s.participations.map Participation.identity,
      x ∈ s'.participations.map Participation.identity) :
    st.Pairs now s' tx := by
  cases st with
  | committing txId used =>
    cases used with
    | none => exact fun t ht => (h t ht).of_identities hid
    | some v => exact fun t ht => (h t ht).of_identities hid
  | start | paying | opening | finding | locking | reading | expiring | closing | charging
    | marking | settling | aborting | finished => trivial

theorem pairs_afterRead {txId : String} {v : Voucher} {o : Nat} :
    (afterRead now req txId v).Pairs now s (some (voucherTx o req.voucherCode [] [])) := by
  unfold afterRead
  split
  · trivial
  split
  · split
    · intro t ht
      cases ht
      exact .inl ⟨rfl, rfl⟩
    · trivial
  split <;> trivial

theorem pairs_of_move {st : TopUpStage} (hids : (s.vouchers.map (·.id)).Nodup)
    (hh : st.Holds now req s tx) (hM : move now ctx req named st = .call c after) :
    Phase.LeadsTo (fun st s tx => st.Pairs now s tx) s tx c after := by
  cases st with
  | start =>
    simp only [move] at hM
    split at hM
    · cases hM
    split at hM
    · cases hM
    cases hM
    intro o
    dsimp only
    split <;> trivial
  | opening txId | committing txId used | aborting txId f =>
    cases hM
    intro o
    trivial
  | paying txId | finding txId | locking txId vid | expiring txId v | charging txId v
    | marking txId v =>
    cases hM
    intro o
    dsimp only
    split <;> trivial
  | reading txId vid =>
    cases hM
    refine Phase.leadsTo_of_moves (Phase.Locked.readVoucher hids hh) (fun a s' tx' hpost => ?_)
    rcases a with e | v
    · trivial
    · obtain ⟨o', v0, rfl, -⟩ := hpost
      exact pairs_afterRead
  | closing txId v =>
    cases hM
    obtain ⟨o', v0, rfl, hread, -⟩ := hh
    refine Phase.leadsTo_of_moves
      (Phase.pairs_updateParticipationStatus hread.participationId_eq.symm) fun a s' tx' hpost => ?_
    rcases a with e | _
    · trivial
    · exact hpost
  | settling txId v =>
    cases hM
    obtain ⟨o', v0, rfl, hread, -⟩ := hh
    refine Phase.leadsTo_of_moves
      (Phase.pairs_updateParticipationStatus hread.participationId_eq.symm) fun a s' tx' hpost => ?_
    rcases a with e | _
    · trivial
    · exact hpost
  | finished r => cases hM

theorem writes_of_move {st : TopUpStage} (hh : st.Holds now req s tx) (hpairs : st.Pairs now s tx)
    (hM : move now ctx req named st = .call c after) (o : Oracle) :
    s.SameRows (c.perform o ⟨s, tx⟩).2.store ∨
      ∃ t v0 v q p, tx = some t ∧ (c.perform o ⟨s, tx⟩).2.store = t.commit s ∧
        t.Settlement s v0 v q p := by
  cases st with
  | start =>
    simp only [move] at hM
    split at hM
    · cases hM
    split at hM
    · cases hM
    cases hM
    exact .inl (Store.SameRows.refl s)
  | paying txId | charging txId v =>
    cases hM
    exact .inl (Store.SameRows.refl s)
  | opening txId =>
    cases hM
    exact .inl ⟨rfl, rfl, rfl⟩
  | finding txId | locking txId vid | reading txId vid | expiring txId v | closing txId v
    | marking txId v | settling txId v =>
    cases hM
    exact .inl (Call.sameRows_of_inner o ⟨s, tx⟩ rfl)
  | committing txId used =>
    cases hM
    cases used with
    | none =>
      obtain ⟨o', vs, ps, rfl, hexpiry, -⟩ := hh
      simp only [Call.perform, Backend.finish]
      cases ctx.failure? with
      | some f => exact .inl ⟨rfl, rfl, rfl⟩
      | none =>
        rcases Phase.commit_expiry hexpiry (hpairs _ rfl) with hsame | ⟨v0, v, q, p, hset⟩
        · exact .inl hsame
        · exact .inr ⟨_, v0, v, q, p, rfl, rfl, hset⟩
    | some v =>
      obtain ⟨o', v0, ps, rfl, hread, -, -⟩ := hh
      have hp := hpairs _ rfl
      simp only [Tx.Pairs, voucherTx] at hp
      simp only [Call.perform, Backend.finish]
      cases ctx.failure? with
      | some f => exact .inl ⟨rfl, rfl, rfl⟩
      | none =>
        rcases hp with ⟨hnil, -⟩ | ⟨x, p, hx, rfl, hpid, hmem⟩
        · cases hnil
        -- the voucher staged is the use of the row read under the lock
        obtain rfl := List.singleton_inj.1 hx
        obtain ⟨q, hq⟩ := voucherTx_settlement hpid hmem
          (Participation.Configured.withStatus_voucherUsed p now rfl rfl)
          (findBy_eq_some _ hread.1.row).1 rfl rfl
        exact .inr ⟨_, v0, _, q, _, rfl, rfl, hq⟩
  | aborting txId f =>
    cases hM
    obtain ⟨t, rfl, -⟩ := hh
    exact .inl ⟨rfl, rfl, rfl⟩
  | finished r => cases hM

end TopUpStage

/-! ## Voucher checks -/

namespace CheckStage

variable {now : Instant} {ctx : Ctx} {code : String} {s : Store} {tx : Option Tx} {c : Call}
  {after : c.Answer → CheckStage}

/-- What a check about to commit stages: nothing, or the expiry of its voucher with that of the
voucher's participation. -/
def Pairs (now : Instant) (s : Store) (tx : Option Tx) : CheckStage → Prop
  | .committing _ => ∀ t, tx = some t → t.Pairs s .expired now
  | _ => True

theorem Pairs.of_identities {s' : Store} {st : CheckStage} (h : st.Pairs now s tx)
    (hid : ∀ x ∈ s.participations.map Participation.identity,
      x ∈ s'.participations.map Participation.identity) :
    st.Pairs now s' tx := by
  cases st with
  | committing v => exact fun t ht => (h t ht).of_identities hid
  | start | opening | finding | locking | reading | expiring | closing | aborting | finished =>
    trivial

theorem pairs_of_move {st : CheckStage} (hids : (s.vouchers.map (·.id)).Nodup)
    (hh : st.Holds now code s tx) (hM : move now ctx code st = .call c after) :
    Phase.LeadsTo (fun st s tx => st.Pairs now s tx) s tx c after := by
  cases st with
  | start =>
    cases hM
    intro o
    dsimp only
    split
    · trivial
    · split <;> trivial
  | finding | locking vid | expiring v =>
    cases hM
    intro o
    dsimp only
    split <;> trivial
  | opening | committing v | aborting f =>
    cases hM
    intro o
    trivial
  | reading vid =>
    cases hM
    refine Phase.leadsTo_of_moves (Phase.Locked.readVoucher hids hh) (fun a s' tx' hpost => ?_)
    rcases a with e | v
    · trivial
    · obtain ⟨o', v0, rfl, -⟩ := hpost
      dsimp only
      split
      · intro t ht
        cases ht
        exact .inl ⟨rfl, rfl⟩
      · trivial
  | closing v =>
    cases hM
    obtain ⟨o', v0, rfl, hread, -⟩ := hh
    refine Phase.leadsTo_of_moves
      (Phase.pairs_updateParticipationStatus hread.participationId_eq.symm) fun a s' tx' hpost => ?_
    rcases a with e | _
    · trivial
    · exact hpost
  | finished r => cases hM

theorem writes_of_move {st : CheckStage} (hh : st.Holds now code s tx) (hpairs : st.Pairs now s tx)
    (hM : move now ctx code st = .call c after) (o : Oracle) :
    s.SameRows (c.perform o ⟨s, tx⟩).2.store ∨
      ∃ t v0 v q p, tx = some t ∧ (c.perform o ⟨s, tx⟩).2.store = t.commit s ∧
        t.Settlement s v0 v q p := by
  cases st with
  | start =>
    cases hM
    exact .inl (Store.SameRows.refl s)
  | opening =>
    cases hM
    exact .inl ⟨rfl, rfl, rfl⟩
  | finding | locking vid | reading vid | expiring v | closing v =>
    cases hM
    exact .inl (Call.sameRows_of_inner o ⟨s, tx⟩ rfl)
  | committing v =>
    cases hM
    obtain ⟨o', vs, ps, rfl, hexpiry, -⟩ := hh
    simp only [Call.perform, Backend.finish]
    cases ctx.failure? with
    | some f => exact .inl ⟨rfl, rfl, rfl⟩
    | none =>
      rcases Phase.commit_expiry hexpiry (hpairs _ rfl) with hsame | ⟨v0, v, q, p, hset⟩
      · exact .inl hsame
      · exact .inr ⟨_, v0, v, q, p, rfl, rfl, hset⟩
  | aborting f =>
    cases hM
    obtain ⟨t, rfl, -⟩ := hh
    exact .inl ⟨rfl, rfl, rfl⟩
  | finished r => cases hM

end CheckStage

/-! ## Threads of top-ups and checks -/

/-- A thread serving a top-up, a redemption or a voucher check, at a stage whose facts and pairs
hold of store `s`. -/
def SettleThread (s : Store) (th : Thread) : Prop :=
  (∃ now ctx req named st pays, th.request = (Redemption.topUp now ctx req named).request ∧
    th.program.Follows (TopUpStage.move now ctx req named) st ∧ st.Holds now req s th.tx ∧
    st.Paid now ctx req pays ∧ st.Pairs now s th.tx) ∨
  (∃ now ctx code st, th.request = .validateVoucher now ctx code ∧
    th.program.Follows (CheckStage.move now ctx code) st ∧ st.Holds now code s th.tx ∧
    st.Pairs now s th.tx)

namespace SettleThread

variable {s s' : Store} {th : Thread}

theorem start (job : Redemption) (s : Store) : SettleThread s (Thread.start job.request) := by
  cases job with
  | topUp now ctx req named =>
    exact .inl ⟨now, ctx, req, named, .start, [], rfl, TopUpStage.follows_request named, rfl, rfl,
      trivial⟩
  | check now ctx code =>
    exact .inr ⟨now, ctx, code, .start, rfl, CheckStage.follows_validateVoucher, rfl, trivial⟩

theorem guard (h : SettleThread s th) : ∀ t, th.tx = some t → t.Guard s := by
  intro t ht
  have hguarded : th.tx = none ∨ Phase.Aborting s th.tx := by
    rcases h with ⟨now, ctx, req, named, st, pays, -, -, hh, -, -⟩ |
      ⟨now, ctx, code, st, -, -, hh, -⟩
    · exact TopUpStage.Holds.guarded hh
    · exact CheckStage.Holds.guarded hh
  rcases hguarded with hnone | ⟨t', ht', hg⟩
  · rw [hnone] at ht
    cases ht
  · rw [ht] at ht'
    cases ht'
    exact hg

theorem of_overwrites {held : List LockKey} (h : SettleThread s th) (hov : s.Overwrites held s')
    (hfree : Phase.Apart held th.tx)
    (hid : ∀ x ∈ s.participations.map Participation.identity,
      x ∈ s'.participations.map Participation.identity) :
    SettleThread s' th := by
  rcases h with ⟨now, ctx, req, named, st, pays, hreq, hfollows, hh, hpaid, hpairs⟩ |
    ⟨now, ctx, code, st, hreq, hfollows, hh, hpairs⟩
  · exact .inl ⟨now, ctx, req, named, st, pays, hreq, hfollows, hh.of_overwrites hov hfree, hpaid,
      hpairs.of_identities hid⟩
  · exact .inr ⟨now, ctx, code, st, hreq, hfollows, hh.of_overwrites hov hfree,
      hpairs.of_identities hid⟩

theorem of_extends (h : SettleThread s th) (hx : s.Extends s') : SettleThread s' th := by
  rcases h with ⟨now, ctx, req, named, st, pays, hreq, hfollows, hh, hpaid, hpairs⟩ |
    ⟨now, ctx, code, st, hreq, hfollows, hh, hpairs⟩
  · exact .inl ⟨now, ctx, req, named, st, pays, hreq, hfollows, hh.of_extends hx, hpaid,
      hpairs.of_identities (hx.mem_map _)⟩
  · exact .inr ⟨now, ctx, code, st, hreq, hfollows, hh.of_extends hx,
      hpairs.of_identities (hx.mem_map _)⟩

/-- One step of a top-up or a check keeps what it knows and touches the store; it writes no row,
or commits a settlement of the voucher its code names. -/
theorem step {others : List Tx} (h : SettleThread s th)
    (hlocks : LocksAgree s (th.tx.toList ++ others)) (hids : (s.vouchers.map (·.id)).Nodup)
    (hpids : (s.participations.map (·.id)).Nodup) (o : Oracle) :
    SettleThread (th.step o s).1 (th.step o s).2 ∧
      Touch s th.tx (th.step o s).1 (th.step o s).2.tx ∧
      (s.SameRows (th.step o s).1 ∨
        ∃ t v0 v q p, th.tx = some t ∧ (th.step o s).1 = t.commit s ∧
          t.Settlement s v0 v q p) := by
  cases hp : th.program with
  | done r =>
    -- a thread that is done takes no step
    rw [Thread.step_of_done hp]
    exact ⟨h, .read, .inl (Store.SameRows.refl s)⟩
  | call c next =>
    rw [Thread.step_of_call hp]
    rcases h with ⟨now, ctx, req, named, st, pays, hreq, hfollows, hh, hpaid, hpairs⟩ |
      ⟨now, ctx, code, st, hreq, hfollows, hh, hpairs⟩
    · obtain ⟨after, hM, hnext⟩ := Program.Follows.next hfollows hp
      obtain ⟨htouch, hholds, hpaid', -⟩ :=
        TopUpStage.steps_of_move hlocks hids hpids hh hpaid hM o
      exact ⟨.inl ⟨now, ctx, req, named, _, _, hreq, hnext _, hholds, hpaid',
        TopUpStage.pairs_of_move hids hh hM o⟩, htouch, TopUpStage.writes_of_move hh hpairs hM o⟩
    · obtain ⟨after, hM, hnext⟩ := Program.Follows.next hfollows hp
      obtain ⟨htouch, hholds, -⟩ := CheckStage.steps_of_move hlocks hids hh hM o
      exact ⟨.inr ⟨now, ctx, code, _, hreq, hnext _, hholds,
        CheckStage.pairs_of_move hids hh hM o⟩, htouch, CheckStage.writes_of_move hh hpairs hM o⟩

end SettleThread

/-! ## Creations of campaigns -/

theorem Request.program_createCampaign (ctx : Ctx) (campaign : Campaign) :
    (Request.createCampaign ctx campaign).program =
      .call (.createCampaign campaign) fun a => .done (.created a) :=
  rfl

/-- A thread creating a campaign: it holds no transaction, and its one call is still to make or
made. -/
def CampaignThread (th : Thread) : Prop :=
  ∃ ctx campaign, th.request = .createCampaign ctx campaign ∧ th.tx = none ∧
    (th.program = (Request.createCampaign ctx campaign).program ∨ ∃ r, th.program = .done r)

/-- One step of a thread creating a campaign inserts the campaign, or nothing. -/
theorem CampaignThread.step {th : Thread} (h : CampaignThread th) (o : Oracle) (s : Store) :
    CampaignThread (th.step o s).2 ∧ (th.step o s).2.tx = none ∧
      ((th.step o s).1 = s ∨ ∃ campaign, (th.step o s).1 = (s.createCampaign campaign).2) := by
  obtain ⟨ctx, campaign, hreq, htx, hprog | ⟨r, hdone⟩⟩ := h
  · rw [Request.program_createCampaign] at hprog
    have hstep : th.step o s = ((s.createCampaign campaign).2,
        { th with program := .done (.created (.ok (s.createCampaign campaign).1)) }) := by
      simp only [Thread.step, hprog, Call.perform, htx]
    rw [hstep]
    exact ⟨⟨ctx, campaign, hreq, htx, .inr ⟨_, rfl⟩⟩, htx, .inr ⟨campaign, rfl⟩⟩
  · rw [Thread.step_of_done hdone]
    exact ⟨⟨ctx, campaign, hreq, htx, .inr ⟨r, hdone⟩⟩, htx, .inl rfl⟩

/-! ## Admissions -/

/-- The commit of an admission, whose transaction reserved what it staged, keeps the rows
standing and the campaigns' ids, and extends the store. -/
theorem EnrollStage.commit_admission {cfg : Enrollment} {req : EnrollRequest}
    {campaign locked : Campaign} {pid : Int} {voucher : Option (String × Int)} {s : Store}
    {t : Tx} {txs : List Tx}
    (hh : (EnrollStage.committing campaign locked pid voucher).Holds cfg req s (some t))
    (hr : Reserved s (t :: txs)) (hs : Standing s) :
    Standing (t.commit s) ∧ s.Extends (t.commit s) ∧
      (t.commit s).campaigns.map (·.id) = s.campaigns.map (·.id) := by
  obtain ⟨t', ht', hstaged, hp, hv⟩ := committing_tx hh
  cases ht'
  obtain ⟨hprows, hvrows⟩ := hr.commit_rows hp hv
  have hr' := hr.commit hp hv
  obtain ⟨o, ht, hl, -⟩ := hh
  cases ht
  -- the participation's id is new, and the campaign row is rewritten in place
  have hfresh : (seatAt cfg req locked pid voucher).id ∉ s.participations.map (·.id) :=
    hr.participations.id_not_mem (List.mem_singleton_self _)
  have hlocked : locked ∈ s.campaigns := (findBy_eq_some _ hl.row).1
  have hcampaigns : (Tx.commit s (admissionTx o campaign [bumped locked]
      (some (seatAt cfg req locked pid voucher))
      (voucher.map fun v => issued cfg req locked pid v.1 v.2))).campaigns.map (·.id) =
      s.campaigns.map (·.id) := by
    rw [Tx.commit_campaigns]
    exact map_upsertBy_of_exists _ ⟨locked, hlocked, rfl⟩
  refine ⟨?standing, ?grows, hcampaigns⟩
  case standing =>
    refine hs.of_admission hprows hvrows (fun id hid => hcampaigns ▸ hid) hfresh ?_ ?_ ?_
    · -- the voucher issued names the new participation
      intro v hv
      cases voucher with
      | none => cases hv
      | some cv =>
        simp only [admissionTx, Option.map_some, Option.toList_some, List.mem_singleton] at hv
        rw [hv, seatAt_id]
        rfl
    · cases voucher with
      | none => exact ⟨rfl, rfl, rfl⟩
      | some cv => exact ⟨_, rfl, rfl, rfl⟩
    · rw [hcampaigns, seatAt_campaignId]
      exact List.mem_map_of_mem hlocked
  case grows =>
    refine Store.extends_of_rows (fun v hv => hvrows.mem_iff.2 (List.mem_append_left _ hv))
      (fun p hp => hprows.mem_iff.2 (List.mem_append_left _ hp))
      hr'.voucherIds hr'.voucherCodes hr'.participationIds hs.participation

end Concurrent
end TopUpPromo
