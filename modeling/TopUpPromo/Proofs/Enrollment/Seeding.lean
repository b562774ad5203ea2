import Mathlib
import TopUpPromo.Proofs.Enrollment.Eligibility
import TopUpPromo.Proofs.Enrollment.Slots
import TopUpPromo.Proofs.Discount.Bounds
import TopUpPromo.Proofs.Memory.Listings

/-!
# The seeded campaign and the next enrollment

Ensuring a campaign looks for the newest active campaign of the first-login kind and answers it
when there is one; otherwise it inserts the campaign the options describe, active and starting
at the clock. Either way the campaign it answers is the one an unpinned enrollment then targets.
Whether the user is admitted is decided on that campaign alone: an enrollment at the same clock,
for a user with no first-login participation and with nobody else moving, admits the user into
it when it accepts participants, given a live context and a free voucher code, and rejects the
user for want of an active campaign when it does not. A campaign that was found may be full or
past its end; one that was inserted accepts participants exactly when its end is after its start,
which it is for a clock within range (`ensured_campaign_takes_unpinned_enrollments`).

Both runs are runs alone against one outside world (`Program.runOn`). What an enrollment does on
its way to an admission is said stage by stage (`EnrollStage.Track`, kept by every call,
`EnrollStage.track_of_move`), and a program that follows a machine keeps such an invariant to its
end (`Program.Follows.runOn_holds`).
-/

namespace TopUpPromo

namespace Instant

theorem totalNanos_addDuration {t : Instant} {d : Int} (hnanos : t.nanos < nanosPerSecond)
    (hd : 0 ≤ d) (hlow : -maxClockSeconds - 1 ≤ t.seconds + yearOneSeconds)
    (hfits : t.seconds + yearOneSeconds + d / nanosPerSecond < maxClockSeconds) :
    (t.addDuration d).totalNanos = t.totalNanos + d := by
  have hdiv : d.tdiv nanosPerSecond = d / nanosPerSecond := Int.tdiv_eq_ediv_of_nonneg hd
  have hmod : d.tmod nanosPerSecond = d % nanosPerSecond := Int.tmod_eq_emod_of_nonneg hd
  simp only [nanosPerSecond, maxClockSeconds, yearOneSeconds] at hnanos hlow hfits hdiv hmod
  simp only [addDuration, totalNanos, hdiv, hmod, nanosPerSecond, maxClockSeconds, yearOneSeconds]
  split_ifs <;> omega

theorem before_addDuration {t : Instant} {d : Int} (hnanos : t.nanos < nanosPerSecond)
    (hd : 0 < d) (hlow : -maxClockSeconds - 1 ≤ t.seconds + yearOneSeconds)
    (hfits : t.seconds + yearOneSeconds + d / nanosPerSecond < maxClockSeconds) :
    t.before (t.addDuration d) = true := by
  rw [before, totalNanos_addDuration hnanos hd.le hlow hfits, decide_eq_true_eq]
  omega

end Instant

theorem seededCampaign_accepts_iff {o : SeedOptions} (hvalid : o.problem? = none) (now : Instant)
    (s : Memory.Store) :
    (s.createCampaign (seededCampaign now o)).1.acceptsParticipants now = true ↔
      now.before (now.addDuration o.duration) = true := by
  obtain ⟨-, hmax, -⟩ := SeedOptions.problem?_eq_none_iff.1 hvalid
  have hroom : o.maxParticipants.toInt ≤ 2147483647 := by
    have hle := Int32.toInt_le o.maxParticipants
    rw [Int32.toInt_maxValue] at hle
    norm_num at hle
    exact hle
  have hlt : (0 : Int32) < o.maxParticipants := by
    have hone := Int32.le_iff_toInt_le.1 hmax
    rw [Int32.toInt_one] at hone
    rw [Int32.lt_iff_toInt_lt, Int32.toInt_zero]
    omega
  rw [Campaign.acceptsParticipants_iff]
  simp [Memory.Store.createCampaign, seededCampaign, Campaign.inWindow, Instant.before, hlt, hroom]

/-! ## The store a campaign is ensured on -/

namespace Memory

open scoped List

theorem Store.not_mem_participationKeys {s : Store} {u : Int} {kind : String} {c : Campaign}
    (hfresh : s.hasParticipation u kind = false) (hrow : findBy (·.id) s.campaigns c.id = some c)
    (hkind : c.kind = kind) : (u, c.id) ∉ s.participationKeys := by
  intro hmem
  have hany : s.hasParticipation u kind = true :=
    List.any_eq_true.2 ⟨(u, c.id), hmem, by simp [hrow, hkind]⟩
  rw [hfresh] at hany
  cases hany

namespace Coherent

variable {s : Store} {txs : List Tx}

theorem locks_nil (h : Coherent s []) : s.locks = [] := by
  cases hl : s.locks with
  | nil => rfl
  | cons e rest =>
    obtain ⟨-, t, ht, -⟩ := h.locks.lock_holder e (by simp [hl])
    cases ht

theorem reservedKeys_nil (h : Coherent s []) : s.reservedKeys = [] := by
  simpa using h.reserved.participations.reserved_eq

theorem reservedCodes_nil (h : Coherent s []) : s.reservedCodes = [] := by
  simpa using h.reserved.vouchers.reserved_eq

theorem createCampaign (h : Coherent s txs) (c : Campaign) :
    Coherent (s.createCampaign c).2 txs :=
  ⟨h.locks.of_store rfl rfl, h.reserved.of_store rfl rfl rfl rfl rfl rfl⟩

end Coherent

namespace Store

variable {s : Store}

theorem createCampaign_perm (hnext : ∀ id ∈ s.campaigns.map (·.id), id ≤ s.nextCampaignId)
    (c : Campaign) :
    (s.createCampaign c).2.campaigns ~ s.campaigns ++ [(s.createCampaign c).1] := by
  have hfresh : ∀ r ∈ s.campaigns, r.id ≠ (s.createCampaign c).1.id := by
    intro r hr hid
    have hle := hnext r.id (List.mem_map_of_mem hr)
    have hnew : (s.createCampaign c).1.id = s.nextCampaignId + 1 := rfl
    omega
  exact upsertBy_perm_of_forall_ne _ hfresh

theorem nodup_createCampaign (hids : (s.campaigns.map (·.id)).Nodup)
    (hnext : ∀ id ∈ s.campaigns.map (·.id), id ≤ s.nextCampaignId) (c : Campaign) :
    ((s.createCampaign c).2.campaigns.map (·.id)).Nodup := by
  rw [((createCampaign_perm hnext c).map (·.id)).nodup_iff, List.map_append, List.nodup_append]
  refine ⟨hids, List.nodup_singleton _, ?_⟩
  intro a ha b hb hab
  have hle := hnext a ha
  have hnew : b = s.nextCampaignId + 1 := List.mem_singleton.1 hb
  omega

theorem findLatestActiveCampaign_createCampaign {kind : String} {c : Campaign}
    (hnext : ∀ id ∈ s.campaigns.map (·.id), id ≤ s.nextCampaignId)
    (hnone : ∀ x ∈ s.campaigns, x.status = .active → x.kind ≠ kind)
    (hkind : c.kind = kind) (hactive : c.status = .active) :
    (s.createCampaign c).2.findLatestActiveCampaign kind = .ok (s.createCampaign c).1 := by
  have hold : (s.campaigns.filter (·.status == .active)).filter (·.kind == kind) = [] := by
    rw [List.filter_eq_nil_iff]
    intro x hx
    obtain ⟨hmem, hstatus⟩ := List.mem_filter.1 hx
    simpa using hnone x hmem (by simpa using hstatus)
  have hnew : ((s.campaigns ++ [(s.createCampaign c).1]).filter (·.status == .active)).filter
      (·.kind == kind) = [(s.createCampaign c).1] := by
    have hk : (s.createCampaign c).1.kind = kind := hkind
    have ha : (s.createCampaign c).1.status = .active := hactive
    rw [List.filter_append, List.filter_append, hold]
    simp [hk, ha]
  have hfilter : (s.createCampaign c).2.listActiveCampaigns.filter (·.kind == kind) =
      [(s.createCampaign c).1] := by
    apply List.perm_singleton.1
    rw [← hnew]
    exact ((listActiveCampaigns_perm _).trans ((createCampaign_perm hnext c).filter _)).filter _
  unfold findLatestActiveCampaign
  rw [hfilter]
  rfl

end Store

end Memory

namespace Concurrent

open Memory

/-! ## A program that follows a machine, run alone -/

namespace Program

variable {σ α : Type} {M : σ → Move σ α} (o : Oracle)

theorem Follows.runOn_stop {p : Program α} {st : σ} {r : α} (h : p.Follows M st)
    (hM : M st = .stop r) (b : Backend) : p.runOn o b = (r, b) := by
  rw [h.eq_done hM]
  rfl

theorem Follows.runOn_step {p : Program α} {st : σ} {c : Call} {after : c.Answer → σ}
    {b b' : Backend} {a : c.Answer} (h : p.Follows M st) (hM : M st = .call c after)
    (hc : c.perform o b = (a, b')) :
    ∃ p' : Program α, p'.Follows M (after a) ∧ p.runOn o b = p'.runOn o b' := by
  cases p with
  | done r =>
    have hstop : M st = .stop r := h
    rw [hM] at hstop
    cases hstop
  | call c' next =>
    obtain ⟨after', hM', hnext⟩ := h
    rw [hM] at hM'
    cases hM'
    refine ⟨next a, hnext a, ?_⟩
    show (next (c.perform o b).1).runOn o (c.perform o b).2 = _
    rw [hc]

/-- A program that follows a machine, run alone to its end against one oracle, stops where the
machine stops, at a stage where `Inv` holds, when every call the machine makes from a stage where
`Inv` holds leads to one where it holds, as the oracle answers. -/
theorem Follows.runOn_holds {Inv : σ → Store → Option Tx → Prop}
    (hstep : ∀ st s tx c after, Inv st s tx → M st = .call c after →
      Inv (after (c.perform o ⟨s, tx⟩).1) (c.perform o ⟨s, tx⟩).2.store
        (c.perform o ⟨s, tx⟩).2.current)
    {p : Program α} {st : σ} (b : Backend) (hf : p.Follows M st) (hi : Inv st b.store b.current) :
    ∃ st', M st' = .stop (p.runOn o b).1 ∧
      Inv st' (p.runOn o b).2.store (p.runOn o b).2.current := by
  induction p generalizing st b with
  | done r => exact ⟨st, hf, hi⟩
  | call c next ih =>
    obtain ⟨after, hM, hnext⟩ := hf
    exact ih _ _ (hnext _) (hstep st b.store b.current c after hi hM)

end Program

/-! ## An enrollment on its way to an admission -/

namespace EnrollStage

variable {cfg : Enrollment} {ctx : Ctx} {u : Int} {s : Store} {c : Campaign} {o : Oracle}

theorem afterTarget_of_accepts (hkind : c.kind = firstLoginDiscount)
    (h : c.acceptsParticipants cfg.now = true) : afterTarget cfg (.ok c) = .opening c := by
  simp [afterTarget, hkind, h]

theorem afterTarget_of_refuses (h : c.acceptsParticipants cfg.now = false) :
    afterTarget cfg (.ok c) = .finished (.ok (.rejected .noActiveCampaign)) := by
  simp [afterTarget, h]

theorem afterRead_of_accepts {campaign locked : Campaign}
    (h : locked.acceptsParticipants cfg.now = true) :
    afterRead cfg campaign (.ok locked) = .seating campaign locked := by
  obtain ⟨⟨hactive, -⟩, hslots⟩ : (locked.status = .active ∧ locked.inWindow cfg.now = true) ∧
      0 < locked.remainingSlots := by
    simpa [Campaign.acceptsParticipants] using h
  have hzero : locked.remainingSlots ≠ 0 := by
    rintro h0
    rw [h0] at hslots
    exact absurd hslots (by decide)
  simp [afterRead, hactive, hzero, h]

theorem runOn_target (o : Oracle) {p : Program Reply}
    (hf : p.Follows (move cfg ctx ⟨u, none⟩) .start)
    (hfresh : s.hasParticipation u firstLoginDiscount = false)
    (hlatest : s.findLatestActiveCampaign firstLoginDiscount = .ok c) :
    ∃ p' : Program Reply, p'.Follows (move cfg ctx ⟨u, none⟩) (afterTarget cfg (.ok c)) ∧
      p.runOn o ⟨s, none⟩ = p'.runOn o ⟨s, none⟩ := by
  obtain ⟨p1, hf1, e1⟩ := hf.runOn_step o rfl
    (show Call.perform o ⟨s, none⟩ (.hasParticipation u firstLoginDiscount) =
      (.ok false, ⟨s, none⟩) by simp only [Call.perform, hfresh])
  obtain ⟨p2, hf2, e2⟩ := hf1.runOn_step o rfl
    (show Call.perform o ⟨s, none⟩ (.findLatestActiveCampaign firstLoginDiscount) =
      (.ok c, ⟨s, none⟩) by simp only [Call.perform, hlatest])
  exact ⟨p2, hf2, e1.trans e2⟩

/-- Where an enrollment alone from `s0` is on its way to admitting the user into `c`, with what
its next call needs to succeed. Before the transaction nothing has moved. Inside it the store is
`s0` untouched (`Untouched`), the lock of `c` is free until it is taken, no campaign row is staged
until the counter moves, no key is reserved until the seat is inserted, no code until the voucher
is, and the seat is staged from then on; the row read under the lock is `c` itself, and a code
drawn is one no voucher has. No abort lies on the way, and the answer admits the user into `c`. -/
def Track (s0 : Store) (c : Campaign) : EnrollStage → Store → Option Tx → Prop
  | .start, s, tx | .checked, s, tx => s = s0 ∧ tx = none
  | .opening c', s, tx => c' = c ∧ s = s0 ∧ tx = none
  | .locking c', s, tx => c' = c ∧ s.holderOf (.campaign c.id) = none ∧
      ∃ t, tx = some t ∧ Untouched s0 s t ∧ t.held = [] ∧ t.campaigns = [] ∧ t.newKeys = [] ∧
        t.newCodes = []
  | .reading c', s, tx => c' = c ∧
      ∃ t, tx = some t ∧ Untouched s0 s t ∧ t.campaigns = [] ∧ t.newKeys = [] ∧ t.newCodes = []
  | .seating c' locked, s, tx => c' = c ∧ locked = c ∧
      ∃ t, tx = some t ∧ Untouched s0 s t ∧ t.campaigns = [] ∧ t.newKeys = [] ∧ t.newCodes = []
  | .counting c' locked pid, s, tx => c' = c ∧ locked = c ∧
      ∃ t, tx = some t ∧ Untouched s0 s t ∧ t.campaigns = [] ∧ t.newCodes = [] ∧
        (Tx.participation s t pid).isSome
  | .drawing c' _ pid _, s, tx => c' = c ∧
      ∃ t, tx = some t ∧ Untouched s0 s t ∧ t.newCodes = [] ∧ (Tx.participation s t pid).isSome
  | .issuing c' _ pid _ code, s, tx => c' = c ∧ code ∉ s0.voucherCodes ∧
      ∃ t, tx = some t ∧ Untouched s0 s t ∧ t.newCodes = [] ∧ (Tx.participation s t pid).isSome
  | .marking c' _ pid _ _, s, tx => c' = c ∧ ∃ t, tx = some t ∧ (Tx.participation s t pid).isSome
  | .committing c' _ _ _, _, tx => c' = c ∧ tx.isSome
  | .aborting _ _, _, _ => False
  | .finished r, _, _ => ∃ res, r = .ok res ∧ res.eligible = true ∧ res.campaignId = c.id

variable {s0 : Store} {tx : Option Tx} {cl : Call} {after : cl.Answer → EnrollStage}

theorem track_start (hfresh : s0.hasParticipation u firstLoginDiscount = false)
    (ht : Track s0 c .start s tx) (hM : move cfg ctx ⟨u, none⟩ .start = .call cl after) :
    Track s0 c (after (cl.perform o ⟨s, tx⟩).1) (cl.perform o ⟨s, tx⟩).2.store
      (cl.perform o ⟨s, tx⟩).2.current := by
  cases hM
  obtain ⟨rfl, rfl⟩ := ht
  simp only [Call.perform, hfresh]
  exact ⟨rfl, rfl⟩

theorem track_checked (hlatest : s0.findLatestActiveCampaign firstLoginDiscount = .ok c)
    (haccepts : c.acceptsParticipants cfg.now = true)
    (ht : Track s0 c .checked s tx) (hM : move cfg ctx ⟨u, none⟩ .checked = .call cl after) :
    Track s0 c (after (cl.perform o ⟨s, tx⟩).1) (cl.perform o ⟨s, tx⟩).2.store
      (cl.perform o ⟨s, tx⟩).2.current := by
  cases hM
  obtain ⟨rfl, rfl⟩ := ht
  have hkind := (Store.findLatestActiveCampaign_ok hlatest).2.2
  simp only [Call.perform, hlatest, afterTarget_of_accepts hkind haccepts]
  exact ⟨rfl, rfl, rfl⟩

theorem track_opening (hlocks : s0.locks = [])
    (ht : Track s0 c (.opening c) s tx) (hM : move cfg ctx ⟨u, none⟩ (.opening c) = .call cl after) :
    Track s0 c (after (cl.perform o ⟨s, tx⟩).1) (cl.perform o ⟨s, tx⟩).2.store
      (cl.perform o ⟨s, tx⟩).2.current := by
  cases hM
  obtain ⟨-, rfl, rfl⟩ := ht
  refine ⟨rfl, ?_, s.begin.1, rfl, Untouched.begin (Kept.refl s), rfl, rfl, rfl, rfl⟩
  simp [Call.perform, Backend.begin, Store.begin, Store.holderOf, hlocks]

theorem track_locking
    (ht : Track s0 c (.locking c) s tx) (hM : move cfg ctx ⟨u, none⟩ (.locking c) = .call cl after) :
    Track s0 c (after (cl.perform o ⟨s, tx⟩).1) (cl.perform o ⟨s, tx⟩).2.store
      (cl.perform o ⟨s, tx⟩).2.current := by
  cases hM
  obtain ⟨-, hfree, t, rfl, hu, hheld, hcamp, hkeys, hcodes⟩ := ht
  have hmine : LockKey.campaign c.id ∉ t.held := by simp [hheld]
  simp only [Call.perform, Backend.step, Tx.lock_of_free hmine hfree]
  obtain ⟨t', ht', hu'⟩ := hu.change (.lock hmine hfree)
  cases ht'
  exact ⟨rfl, _, rfl, hu', hcamp, hkeys, hcodes⟩

theorem track_reading (hrow : findBy (·.id) s0.campaigns c.id = some c)
    (haccepts : c.acceptsParticipants cfg.now = true)
    (ht : Track s0 c (.reading c) s tx) (hM : move cfg ctx ⟨u, none⟩ (.reading c) = .call cl after) :
    Track s0 c (after (cl.perform o ⟨s, tx⟩).1) (cl.perform o ⟨s, tx⟩).2.store
      (cl.perform o ⟨s, tx⟩).2.current := by
  cases hM
  obtain ⟨-, t, rfl, hu, hcamp, hkeys, hcodes⟩ := ht
  simp only [Call.perform, Backend.step, Tx.readCampaign_eq, Tx.campaign_of_unstaged hcamp,
    hu.campaigns, hrow, afterRead_of_accepts haccepts]
  exact ⟨rfl, rfl, t, rfl, hu, hcamp, hkeys, hcodes⟩

theorem track_seating (hfresh : (u, c.id) ∉ s0.participationKeys) (hkeys0 : s0.reservedKeys = [])
    (ht : Track s0 c (.seating c c) s tx)
    (hM : move cfg ctx ⟨u, none⟩ (.seating c c) = .call cl after) :
    Track s0 c (after (cl.perform o ⟨s, tx⟩).1) (cl.perform o ⟨s, tx⟩).2.store
      (cl.perform o ⟨s, tx⟩).2.current := by
  cases hM
  obtain ⟨-, -, t, rfl, hu, hcamp, hkeys, hcodes⟩ := ht
  have hcommitted : (u, c.id) ∉ s.participationKeys := by
    rw [Store.participationKeys, hu.participations]
    exact hfresh
  have hreserved : (u, c.id) ∉ s.reservedKeys := by simp [hu.reservedKeys, hkeys0, hkeys]
  simp only [Call.perform, Backend.step]
  rw [Tx.createParticipation_of_free (not_or.2 ⟨hcommitted, hreserved⟩)]
  obtain ⟨t', ht', hu'⟩ := hu.change
    (@Change.insertParticipation s t (u, c.id) { cfg.seat ⟨u, none⟩ c with id := s.nextParticipationId + 1 }
      hcommitted hreserved)
  cases ht'
  refine ⟨rfl, rfl, _, rfl, hu', hcamp, hcodes, ?_⟩
  simp [Tx.participation, findBy_upsertBy_self]

theorem succ_within_of_accepts (h : c.acceptsParticipants cfg.now = true) :
    ¬c.currentParticipants + 1 > c.maxParticipants := by
  have hlt := (Campaign.lt_max_of_accepts h).1
  rw [gt_iff_lt, Int32.lt_iff_toInt_lt, Int32.toInt_add_one_of_lt hlt]
  have := Int32.lt_iff_toInt_lt.1 hlt
  omega

theorem track_counting {pid : Int} (hrow : findBy (·.id) s0.campaigns c.id = some c)
    (haccepts : c.acceptsParticipants cfg.now = true) (hattempts : 1 ≤ cfg.attempts)
    (ht : Track s0 c (.counting c c pid) s tx)
    (hM : move cfg ctx ⟨u, none⟩ (.counting c c pid) = .call cl after) :
    Track s0 c (after (cl.perform o ⟨s, tx⟩).1) (cl.perform o ⟨s, tx⟩).2.store
      (cl.perform o ⟨s, tx⟩).2.current := by
  cases hM
  obtain ⟨-, -, t, rfl, hu, hcamp, hcodes, hseat⟩ := ht
  have hread : Tx.campaign s t c.id = some c := by
    rw [Tx.campaign_of_unstaged hcamp, hu.campaigns, hrow]
  simp only [Call.perform, Backend.step,
    Tx.updateCampaignParticipants_of_row hread (succ_within_of_accepts haccepts)]
  split
  · -- a voucher is due: the first of the attempts is drawn
    obtain ⟨k, hk⟩ : ∃ k, cfg.attempts = k + 1 := ⟨cfg.attempts - 1, by omega⟩
    rw [hk]
    exact ⟨rfl, _, rfl, hu.replace rfl rfl rfl, hcodes, hseat⟩
  · exact ⟨rfl, rfl⟩

theorem track_drawing {l : Campaign} {pid : Int} {k : Nat} {g : String} (hcode : o.code = .ok g)
    (hfree : g ∉ s0.voucherCodes)
    (ht : Track s0 c (.drawing c l pid k) s tx)
    (hM : move cfg ctx ⟨u, none⟩ (.drawing c l pid k) = .call cl after) :
    Track s0 c (after (cl.perform o ⟨s, tx⟩).1) (cl.perform o ⟨s, tx⟩).2.store
      (cl.perform o ⟨s, tx⟩).2.current := by
  cases hM
  obtain ⟨-, t, rfl, hu, hcodes, hseat⟩ := ht
  simp only [Call.perform, hcode, Except.mapError_ok]
  exact ⟨rfl, hfree, t, rfl, hu, hcodes, hseat⟩

theorem track_issuing {l : Campaign} {pid : Int} {k : Nat} {code : String}
    (hcodes0 : s0.reservedCodes = [])
    (ht : Track s0 c (.issuing c l pid k code) s tx)
    (hM : move cfg ctx ⟨u, none⟩ (.issuing c l pid k code) = .call cl after) :
    Track s0 c (after (cl.perform o ⟨s, tx⟩).1) (cl.perform o ⟨s, tx⟩).2.store
      (cl.perform o ⟨s, tx⟩).2.current := by
  cases hM
  obtain ⟨-, hfree, t, rfl, hu, hcodes, hseat⟩ := ht
  have hcommitted : code ∉ s.voucherCodes := by
    rw [Store.voucherCodes, hu.vouchers]
    exact hfree
  have hreserved : code ∉ s.reservedCodes := by simp [hu.reservedCodes, hcodes0, hcodes]
  simp only [Call.perform, Backend.step]
  rw [Tx.createVoucher_of_free (not_or.2 ⟨hcommitted, hreserved⟩)]
  exact ⟨rfl, _, rfl, hseat⟩

theorem track_marking {l : Campaign} {pid vid : Int} {code : String}
    (ht : Track s0 c (.marking c l pid code vid) s tx)
    (hM : move cfg ctx ⟨u, none⟩ (.marking c l pid code vid) = .call cl after) :
    Track s0 c (after (cl.perform o ⟨s, tx⟩).1) (cl.perform o ⟨s, tx⟩).2.store
      (cl.perform o ⟨s, tx⟩).2.current := by
  cases hM
  obtain ⟨-, t, rfl, hseat⟩ := ht
  obtain ⟨p, hp⟩ := Option.isSome_iff_exists.1 hseat
  simp only [Call.perform, Backend.step, Tx.updateParticipationStatus_of_row hp]
  exact ⟨rfl, rfl⟩

theorem track_committing {l : Campaign} {pid : Int} {voucher : Option (String × Int)}
    (hlive : ctx.failure? = none)
    (ht : Track s0 c (.committing c l pid voucher) s tx)
    (hM : move cfg ctx ⟨u, none⟩ (.committing c l pid voucher) = .call cl after) :
    Track s0 c (after (cl.perform o ⟨s, tx⟩).1) (cl.perform o ⟨s, tx⟩).2.store
      (cl.perform o ⟨s, tx⟩).2.current := by
  cases hM
  obtain ⟨-, hsome⟩ := ht
  obtain ⟨t, rfl⟩ := Option.isSome_iff_exists.1 hsome
  simp only [Call.perform, Backend.finish, hlive]
  exact ⟨_, rfl, rfl, rfl⟩

/-- What an unpinned enrollment of user `u` from store `s0` needs to admit the user into `c`, the
outside world answering `o`: no transaction open, campaigns of distinct ids, no first-login
participation of the user, `c` the newest active first-login campaign and accepting participants
at the clock, a live context, an attempt at a code, and a code from the source that no voucher
has. -/
structure Ready (s0 : Store) (cfg : Enrollment) (ctx : Ctx) (u : Int) (c : Campaign)
    (o : Oracle) : Prop where
  coherent : Coherent s0 []
  ids : (s0.campaigns.map (·.id)).Nodup
  fresh : s0.hasParticipation u firstLoginDiscount = false
  latest : s0.findLatestActiveCampaign firstLoginDiscount = .ok c
  accepts : c.acceptsParticipants cfg.now = true
  live : ctx.failure? = none
  attempts : 1 ≤ cfg.attempts
  code : ∃ g, o.code = .ok g ∧ g ∉ s0.voucherCodes

/-- Every call of an enrollment that is ready keeps it on its way to the admission. -/
theorem track_of_move (h : Ready s0 cfg ctx u c o) {st : EnrollStage} (ht : Track s0 c st s tx)
    (hM : move cfg ctx ⟨u, none⟩ st = .call cl after) :
    Track s0 c (after (cl.perform o ⟨s, tx⟩).1) (cl.perform o ⟨s, tx⟩).2.store
      (cl.perform o ⟨s, tx⟩).2.current := by
  obtain ⟨hmem, -, hkind⟩ := Store.findLatestActiveCampaign_ok h.latest
  have hrow : findBy (·.id) s0.campaigns c.id = some c := findBy_of_mem _ h.ids hmem
  obtain ⟨g, hcode, hfree⟩ := h.code
  -- each stage names the target it goes for, which the track says is `c`
  cases st with
  | start => exact track_start h.fresh ht hM
  | checked => exact track_checked h.latest h.accepts ht hM
  | opening c' =>
    obtain rfl := ht.1
    exact track_opening h.coherent.locks_nil ht hM
  | locking c' =>
    obtain rfl := ht.1
    exact track_locking ht hM
  | reading c' =>
    obtain rfl := ht.1
    exact track_reading hrow h.accepts ht hM
  | seating c' l =>
    obtain rfl := ht.1
    obtain rfl := ht.2.1
    exact track_seating (Store.not_mem_participationKeys h.fresh hrow hkind)
      h.coherent.reservedKeys_nil ht hM
  | counting c' l pid =>
    obtain rfl := ht.1
    obtain rfl := ht.2.1
    exact track_counting hrow h.accepts h.attempts ht hM
  | drawing c' l pid k =>
    obtain rfl := ht.1
    exact track_drawing hcode hfree ht hM
  | issuing c' l pid k code =>
    obtain rfl := ht.1
    exact track_issuing h.coherent.reservedCodes_nil ht hM
  | marking c' l pid code vid =>
    obtain rfl := ht.1
    exact track_marking ht hM
  | committing c' l pid voucher =>
    obtain rfl := ht.1
    exact track_committing h.live ht hM
  | aborting c' f => exact ht.elim
  | finished r => cases hM

theorem runOn_admits (h : Ready s0 cfg ctx u c o) :
    ∃ res, ((Request.enroll cfg ctx ⟨u, none⟩).program.runOn o ⟨s0, none⟩).1 =
      .enrolled (.ok res) ∧ res.eligible = true ∧ res.campaignId = c.id := by
  obtain ⟨st, hstop, ht⟩ := (follows_start cfg ctx ⟨u, none⟩).runOn_holds o
    (fun _ _ _ _ _ ht hM => track_of_move h ht hM) ⟨s0, none⟩
    (⟨rfl, rfl⟩ : Track s0 c .start s0 none)
  obtain ⟨r, rfl, hr⟩ := finished_of_stop hstop
  obtain ⟨res, rfl, helig, hid⟩ := ht
  exact ⟨res, hr, helig, hid⟩

theorem runOn_rejects (hfresh : s.hasParticipation u firstLoginDiscount = false)
    (hlatest : s.findLatestActiveCampaign firstLoginDiscount = .ok c)
    (hrefuses : c.acceptsParticipants cfg.now = false) :
    ((Request.enroll cfg ctx ⟨u, none⟩).program.runOn o ⟨s, none⟩).1 =
      .enrolled (.ok (.rejected .noActiveCampaign)) := by
  obtain ⟨p, hf, hrun⟩ := runOn_target o (follows_start cfg ctx ⟨u, none⟩) hfresh hlatest
  rw [afterTarget_of_refuses hrefuses] at hf
  rw [hrun, hf.runOn_stop o rfl]

end EnrollStage

theorem admitted_runOn (s0 : Store) (cfg : Enrollment) (ctx : Ctx) (req : EnrollRequest)
    (o : Oracle) (res : EnrollResult)
    (hreply : ((Request.enroll cfg ctx req).program.runOn o ⟨s0, none⟩).1 = .enrolled (.ok res))
    (helig : res.eligible = true) : EnrollStage.Admitted s0 cfg req res := by
  obtain ⟨st, hstop, -, hsees⟩ := (EnrollStage.follows_start cfg ctx req).runOn_holds o
    (fun st s tx cl after hi hM => EnrollStage.sees_keeps s0 [] st s tx cl after o hi hM)
    ⟨s0, none⟩ ⟨⟨rfl, Kept.refl s0⟩, trivial⟩
  obtain ⟨result, rfl, hr⟩ := EnrollStage.finished_of_stop hstop
  rw [hreply] at hr
  cases hr
  exact hsees res rfl helig

/-! ## Ensuring a campaign -/

@[simp] theorem Program.runOn_findLatestActiveCampaign (o : Oracle) (b : Backend) (ctx : Ctx)
    (kind : String) :
    (PromotionStore.findLatestActiveCampaign ctx kind : Program _).runOn o b =
      (b.store.findLatestActiveCampaign kind, b) :=
  rfl

section Ensure

variable {s : Store} (oracle : Oracle) (ctx : Ctx) (now : Instant) {o : SeedOptions}

theorem createSeededCampaign_runOn (hvalid : o.problem? = none) :
    (createSeededCampaign ctx now o : Program _).runOn oracle ⟨s, none⟩ =
      (.ok (s.createCampaign (seededCampaign now o)).1,
        ⟨(s.createCampaign (seededCampaign now o)).2, none⟩) := by
  simp only [createSeededCampaign, hvalid]
  rfl

theorem ensureSeededCampaign_runOn_of_latest {c : Campaign}
    (h : s.findLatestActiveCampaign firstLoginDiscount = .ok c) :
    (ensureSeededCampaign ctx now o : Program _).runOn oracle ⟨s, none⟩ =
      (.ok (c, false), ⟨s, none⟩) := by
  simp only [ensureSeededCampaign, bind, Program.runOn_bind,
    Program.runOn_findLatestActiveCampaign, h]
  rfl

theorem ensureSeededCampaign_runOn_of_error {e : Failure} (hvalid : o.problem? = none)
    (h : s.findLatestActiveCampaign firstLoginDiscount = .error e) :
    (ensureSeededCampaign ctx now o : Program _).runOn oracle ⟨s, none⟩ =
      (.ok ((s.createCampaign (seededCampaign now o)).1, true),
        ⟨(s.createCampaign (seededCampaign now o)).2, none⟩) := by
  obtain ⟨rfl, -⟩ := Store.findLatestActiveCampaign_error h
  have hcause : (Failure.cause Cause.storeNotFound).hasCause .storeNotFound = true := rfl
  simp only [ensureSeededCampaign, bind, Program.runOn_bind,
    Program.runOn_findLatestActiveCampaign, h, hcause, Bool.not_true, Bool.false_eq_true, if_false,
    createSeededCampaign_runOn oracle ctx now hvalid]
  rfl

theorem ensureSeededCampaign_runOn (hs : Coherent s []) (hids : (s.campaigns.map (·.id)).Nodup)
    (hnext : ∀ id ∈ s.campaigns.map (·.id), id ≤ s.nextCampaignId) (hvalid : o.problem? = none) :
    ∃ c created s1,
      (ensureSeededCampaign ctx now o : Program _).runOn oracle ⟨s, none⟩ =
        (.ok (c, created), ⟨s1, none⟩) ∧
      s1.findLatestActiveCampaign firstLoginDiscount = .ok c ∧ Coherent s1 [] ∧
      (s1.campaigns.map (·.id)).Nodup ∧
      (created = true →
        (c.acceptsParticipants now = true ↔ now.before (now.addDuration o.duration) = true)) := by
  cases hl : s.findLatestActiveCampaign firstLoginDiscount with
  | ok c =>
    exact ⟨c, false, s, ensureSeededCampaign_runOn_of_latest oracle ctx now hl, hl, hs, hids,
      fun h => by cases h⟩
  | error e =>
    -- no active first-login campaign: the seeded one is inserted and is then the newest
    obtain ⟨-, hnone⟩ := Store.findLatestActiveCampaign_error hl
    exact ⟨_, true, _, ensureSeededCampaign_runOn_of_error oracle ctx now hvalid hl,
      Store.findLatestActiveCampaign_createCampaign hnext hnone rfl rfl, hs.createCampaign _,
      Store.nodup_createCampaign hids hnext _, fun _ => seededCampaign_accepts_iff hvalid now s⟩

end Ensure

/-- What ensuring a campaign answers, on a store with no transaction open whose campaign ids are
distinct and not above the campaign counter, with options that pass the checks: a campaign `c`,
the one the store then holds as its newest active first-login campaign. An unpinned enrollment
at the same clock, right after, for a user with no first-login participation, admits the user
into `c` only, and only if `c` accepts participants at that clock; if `c` does not, it rejects
the user for want of an active campaign; if it does, it admits the user when its context is live
and the code source gives a free code. A campaign that was created accepts participants exactly
when its end is later than its start, as it is for a clock whose nanoseconds are below a second
and whose end stays within the clock's range; one that was found may be full or past its end. -/
theorem ensured_campaign_takes_unpinned_enrollments {s : Store} (hs : Coherent s [])
    (hids : (s.campaigns.map (·.id)).Nodup)
    (hnext : ∀ id ∈ s.campaigns.map (·.id), id ≤ s.nextCampaignId)
    {opts : SeedOptions} (hvalid : opts.problem? = none) (ctx : Ctx) (now : Instant)
    (oracle : Oracle) :
    ∃ c created s1,
      (ensureSeededCampaign ctx now opts : Program _).runOn oracle ⟨s, none⟩ =
        (.ok (c, created), ⟨s1, none⟩) ∧
      s1.findLatestActiveCampaign firstLoginDiscount = .ok c ∧
      (created = true →
        (c.acceptsParticipants now = true ↔ now.before (now.addDuration opts.duration) = true) ∧
        (now.nanos < nanosPerSecond →
          -Instant.maxClockSeconds - 1 ≤ now.seconds + Instant.yearOneSeconds →
          now.seconds + Instant.yearOneSeconds + opts.duration / nanosPerSecond <
            Instant.maxClockSeconds →
          c.acceptsParticipants now = true)) ∧
      ∀ (cfg : Enrollment) (ctx' : Ctx) (u : Int) (o : Oracle), cfg.now = now →
        s1.hasParticipation u firstLoginDiscount = false →
        let r := ((Request.enroll cfg ctx' ⟨u, none⟩).program.runOn o ⟨s1, none⟩).1
        (∀ res, r = .enrolled (.ok res) → res.eligible = true →
          res.campaignId = c.id ∧ c.acceptsParticipants now = true) ∧
        (c.acceptsParticipants now = false → r = .enrolled (.ok (.rejected .noActiveCampaign))) ∧
        (c.acceptsParticipants now = true → ctx'.failure? = none → 1 ≤ cfg.attempts →
          ∀ g, o.code = .ok g → g ∉ s1.voucherCodes →
            ∃ res, r = .enrolled (.ok res) ∧ res.eligible = true ∧ res.campaignId = c.id) := by
  obtain ⟨c, created, s1, hrun, hlatest, hs1, hids1, hcreated⟩ :=
    ensureSeededCampaign_runOn oracle ctx now hs hids hnext hvalid
  refine ⟨c, created, s1, hrun, hlatest, fun h => ⟨hcreated h, fun hnanos hlow hfits => ?_⟩,
    fun cfg ctx' u o hnow hfresh => ⟨?_, ?_, ?_⟩⟩
  · obtain ⟨-, -, -, -, -, -, hdur⟩ := SeedOptions.problem?_eq_none_iff.1 hvalid
    exact (hcreated h).2 (Instant.before_addDuration hnanos hdur hlow hfits)
  · intro res hreply helig
    obtain ⟨c', locked, ht, -, hid, -⟩ := admitted_runOn s1 cfg ctx' ⟨u, none⟩ o res hreply helig
    -- the campaign an unpinned enrollment targets is the newest active one
    have hc' : c' = c := by
      have hread := ht.read
      rw [EnrollStage.target, hlatest] at hread
      cases hread
      rfl
    subst hc'
    exact ⟨hid, hnow ▸ ht.accepts⟩
  · intro hrefuses
    exact EnrollStage.runOn_rejects hfresh hlatest (hnow ▸ hrefuses)
  · intro haccepts hlive hattempts g hcode hfree
    exact EnrollStage.runOn_admits
      ⟨hs1, hids1, hfresh, hlatest, hnow ▸ haccepts, hlive, hattempts, g, hcode, hfree⟩

/-- On a store of one open first-login campaign, with the default options, ensuring a campaign
answers the campaign the store holds as its newest active first-login one. -/
theorem ensured_campaign_on_one_open :
    Coherent oneOpen [] ∧ ∃ c created s1,
      (ensureSeededCampaign .live Instant.epoch SeedOptions.defaults : Program _).runOn
          ⟨.ok "A", .ok true, ""⟩ ⟨oneOpen, none⟩ = (.ok (c, created), ⟨s1, none⟩) ∧
        s1.findLatestActiveCampaign firstLoginDiscount = .ok c :=
  have hensured := ensured_campaign_takes_unpinned_enrollments fresh_oneOpen.coherent (by decide)
    (by decide) (by decide : SeedOptions.defaults.problem? = none) .live Instant.epoch
    ⟨.ok "A", .ok true, ""⟩
  ⟨fresh_oneOpen.coherent, by
    obtain ⟨c, created, s1, hrun, hlatest, -⟩ := hensured
    exact ⟨c, created, s1, hrun, hlatest⟩⟩

/-- The campaign ensured is not always open: on a store whose one active first-login campaign
has ended, ensuring a campaign answers it and creates none, and user 1's unpinned enrollment at
the same clock is rejected for want of an active campaign. -/
theorem ensured_campaign_past_its_end_rejects :
    (ensureSeededCampaign .live ⟨2, 0, 0⟩ SeedOptions.defaults : Program _).runOn
        ⟨.ok "A", .ok true, ""⟩ ⟨oneOpen, none⟩ = (.ok (openCampaign, false), ⟨oneOpen, none⟩) ∧
      ((Request.enroll ⟨1, 3, ⟨2, 0, 0⟩⟩ .live ⟨1, none⟩).program.runOn ⟨.ok "A", .ok true, ""⟩
        ⟨oneOpen, none⟩).1 = .enrolled (.ok (.rejected .noActiveCampaign)) := by
  have hlatest : oneOpen.findLatestActiveCampaign firstLoginDiscount = .ok openCampaign := by
    simp [Store.findLatestActiveCampaign, Store.listActiveCampaigns, oneOpen, openCampaign]
  exact ⟨ensureSeededCampaign_runOn_of_latest _ _ _ hlatest,
    EnrollStage.runOn_rejects (by decide) hlatest (by decide)⟩

end Concurrent
end TopUpPromo
