import TopUpPromo.Proofs.Enrollment.Orders
import TopUpPromo.Proofs.Enrollment.Unpinned

/-!
# Unpinned enrollments fill the open campaign

Distinct users with no participation enroll, naming no campaign, against a store whose only
active first-login campaign `c` is in its window at their common clock and has slots left that
fit the counter's width. However their calls interleave, an eligible answer admits into `c`,
and a rejection says that no campaign is open or that `c` is full, and comes only once `c` is
full (`Concurrent.Unpinned`, kept by every step). Once every call has answered without an
error, the admissions are as many as the slots `c` had or as the users, whichever is fewer
(`unpinned_enrollments_fill_capacity`).
-/

namespace TopUpPromo
namespace Concurrent

open Memory
open scoped List

def Thread.user? (th : Thread) : Option Int :=
  match th.request with
  | .enroll _ _ req => some req.userId
  | _ => none

theorem Thread.admission?_eq_some {th : Thread} {r : EnrollResult} (h : th.admission? = some r) :
    th.reply? = some (.enrolled (.ok r)) ∧ r.eligible = true := by
  unfold Thread.admission? at h
  split at h
  · rename_i r' hreply
    by_cases heligible : r'.eligible = true
    · rw [if_pos heligible] at h
      cases h
      exact ⟨hreply, heligible⟩
    · rw [if_neg heligible] at h
      cases h
  · cases h

/-- A thread serving an unpinned enrollment at clock `t`, at a stage whose facts and knowledge
of `c` hold of store `s`. -/
def UnpinnedThread (c : Campaign) (t : Instant) (s : Store) (th : Thread) : Prop :=
  ∃ cfg ctx req st, th.request = .enroll cfg ctx req ∧
    th.program.Follows (EnrollStage.move cfg ctx req) st ∧ st.Holds cfg req s th.tx ∧
    cfg.now = t ∧ req.campaignId = none ∧ st.Knows c s req.userId

theorem UnpinnedThread.answered {c : Campaign} {t : Instant} {s : Store} {th : Thread}
    (h : UnpinnedThread c t s th) {r : EnrollResult} (hr : th.reply? = some (.enrolled (.ok r))) :
    (r.eligible = true → r.campaignId = c.id) ∧
      (r.eligible = false →
        (r.reason = some .noActiveCampaign ∨ r.reason = some .campaignFull) ∧ s.AtCapacity c.id) := by
  obtain ⟨cfg, ctx, req, st, -, hfollows, -, -, -, hk⟩ := h
  cases hp : th.program with
  | call call next => simp [Thread.reply?, hp] at hr
  | done reply =>
    have hreply : reply = .enrolled (.ok r) := by simpa [Thread.reply?, hp] using hr
    subst hreply
    obtain ⟨result, rfl, hresult⟩ := EnrollStage.finished_of_stop (Program.Follows.done hfollows hp)
    cases hresult
    exact hk

/-- Unpinned enrollments of distinct users against a store whose only open campaign is `c`. -/
structure Unpinned (c : Campaign) (t : Instant) (s : Store) (threads : List Thread) : Prop where
  coherent : Coherent s (txsOf threads)
  sole : SoleOpen c t s
  users : (threads.map Thread.user?).Nodup
  threads : ∀ th ∈ threads, UnpinnedThread c t s th

namespace Unpinned

variable {c : Campaign} {t : Instant} {s : Store} {threads : List Thread}

theorem enrollWorld (h : Unpinned c t s threads) : EnrollWorld s threads := by
  refine ⟨h.coherent, fun th hth => ?_⟩
  obtain ⟨cfg, ctx, req, st, hreq, hfollows, hh, -⟩ := h.threads th hth
  exact ⟨cfg, ctx, req, st, hreq, hfollows, hh⟩

theorem perm {threads' : List Thread} (h : Unpinned c t s threads) (hp : threads ~ threads') :
    Unpinned c t s threads' :=
  ⟨h.coherent.perm (txsOf_perm hp), h.sole, (hp.map _).nodup_iff.1 h.users,
    fun th hth => h.threads th (hp.mem_iff.2 hth)⟩

theorem own_reserved (h : Unpinned c t s threads) {th : Thread} (hth : th ∈ threads)
    {cfg : Enrollment} {ctx : Ctx} {req : EnrollRequest}
    (hreq : th.request = .enroll cfg ctx req) :
    ∀ k ∈ s.reservedKeys, k.1 = req.userId → ∃ t, th.tx = some t ∧ k ∈ t.newKeys.map (·.1) := by
  intro k hk huser
  -- the key was reserved by an open transaction, that of some thread
  have hreserved := h.coherent.reserved.participations.reserved_eq.mem_iff.1 hk
  simp only [List.mem_flatMap, List.mem_map] at hreserved
  obtain ⟨_, ⟨tx', htx', rfl⟩, key, hkey, rfl⟩ := hreserved
  obtain ⟨th', hth', htx'⟩ := List.mem_filterMap.1 htx'
  obtain ⟨cfg', ctx', req', st', hreq', -, hh', -⟩ := h.threads th' hth'
  -- whose user is the key's, so it is the thread of that user
  have howner := (hh'.ofUser htx').keys key hkey
  have hsame : th' = th := by
    refine List.inj_on_of_nodup_map h.users hth' hth ?_
    simp only [Thread.user?, hreq, hreq', ← howner, huser]
  subst hsame
  exact ⟨tx', htx', List.mem_map_of_mem hkey⟩

theorem step_self {th : Thread} {others : List Thread} (h : Unpinned c t s (th :: others))
    (o : Oracle) : UnpinnedThread c t (th.step o s).1 (th.step o s).2 := by
  obtain ⟨cfg, ctx, req, st, hreq, hfollows, hh, hnow, hpin, hk⟩ :=
    h.threads th List.mem_cons_self
  have hcoherent := h.coherent
  rw [txsOf_cons] at hcoherent
  cases hp : th.program with
  | done r =>
    rw [Thread.step_of_done hp]
    exact ⟨cfg, ctx, req, st, hreq, hfollows, hh, hnow, hpin, hk⟩
  | call call next =>
    obtain ⟨after, hM, hnext⟩ := Program.Follows.next hfollows hp
    obtain ⟨-, hholds, -⟩ := EnrollStage.steps_of_move hcoherent.locks hh hM o
    have hknows := EnrollStage.knows_step hcoherent.locks h.sole hnow hpin hh hk
      (h.own_reserved List.mem_cons_self hreq) hM o
    simp only [Thread.step, hp]
    exact ⟨cfg, ctx, req, _, hreq, hnext _, hholds, hnow, hpin, hknows⟩

theorem step_other {th : Thread} {others : List Thread} (h : Unpinned c t s (th :: others))
    (o : Oracle) {u : Thread} (hu : u ∈ others) :
    UnpinnedThread c t (th.step o s).1 u := by
  obtain ⟨cfg, ctx, req, st, hreq, hfollows, hh, hnow, hpin, hk⟩ :=
    h.threads u (List.mem_cons_of_mem _ hu)
  obtain ⟨cfg', ctx', req', st', hreq', -, hh', -⟩ := h.threads th List.mem_cons_self
  have hcoherent := h.coherent
  rw [txsOf_cons] at hcoherent
  obtain ⟨-, heffect, -⟩ :=
    EnrollStage.thread_step (h.enrollWorld.threads th List.mem_cons_self) hcoherent.locks o
  have hother : req'.userId ≠ req.userId := by
    intro heq
    have husers := h.users
    rw [List.map_cons, List.nodup_cons] at husers
    apply husers.1
    rw [List.mem_map]
    exact ⟨u, hu, by simp only [Thread.user?, hreq, hreq', heq]⟩
  refine ⟨cfg, ctx, req, st, hreq, hfollows, ?_, hnow, hpin, ?_⟩
  · refine hh.of_rows fun tx htx id hid => ?_
    have hmem : tx ∈ txsOf others := List.mem_filterMap.2 ⟨u, hu, htx⟩
    exact heffect.campaign_row_of_held hcoherent hmem hid
  · refine hk.mono (fun hseat p hp => ?_) (h.enrollWorld.enrolls_front o).atCapacity
    rcases heffect.participation_mem hp with hp | ⟨tx, htx, hp⟩
    · exact hseat p hp
    · rw [(hh'.ofUser htx).participations p hp]
      exact hother

theorem step_front {th : Thread} {others : List Thread} (h : Unpinned c t s (th :: others))
    (o : Oracle) : Unpinned c t (th.step o s).1 ((th.step o s).2 :: others) := by
  have hworld := h.enrollWorld
  have hsame : (th.step o s).2.user? = th.user? := by
    unfold Thread.user?
    rw [Thread.step_request]
  refine ⟨(hworld.step_thread o).coherent, h.sole.enrolls (hworld.enrolls_front o), ?_, ?_⟩
  · rw [List.map_cons, hsame]
    exact h.users
  · intro u hu
    rcases List.mem_cons.1 hu with rfl | hu
    · exact h.step_self o
    · exact h.step_other o hu

theorem step {w : World} (h : Unpinned c t w.store w.threads) (e : Event) :
    Unpinned c t (w.step e).store (w.step e).threads := by
  rcases h.enrollWorld.step_cases e with hsame | ⟨th, others, hold, hnew, hstore, -⟩
  · rw [hsame]
    exact h
  · rw [hstore]
    exact ((h.perm hold).step_front e.oracle).perm hnew.symm

theorem start (hs : Coherent s []) (hsole : SoleOpen c t s)
    {requests : List (Enrollment × Ctx × EnrollRequest)} (hnow : ∀ r ∈ requests, r.1.now = t)
    (hpin : ∀ r ∈ requests, r.2.2.campaignId = none)
    (husers : (requests.map (·.2.2.userId)).Nodup)
    (hseat : ∀ r ∈ requests, s.Seatless r.2.2.userId) :
    Unpinned c t s ((enrollments requests).map Thread.start) := by
  refine ⟨(EnrollWorld.start hs requests).coherent, hsole, ?_, ?_⟩
  · have hmap : ((enrollments requests).map Thread.start).map Thread.user? =
        (requests.map (·.2.2.userId)).map some := by
      simp [enrollments, Thread.user?, Thread.start, Function.comp_def]
    rw [hmap]
    exact List.Nodup.map (fun _ _ h => Option.some.inj h) husers
  · intro th hth
    simp only [enrollments, List.map_map, List.mem_map, Function.comp_apply] at hth
    obtain ⟨⟨cfg, ctx, req⟩, hr, rfl⟩ := hth
    exact ⟨cfg, ctx, req, .start, rfl, EnrollStage.follows_start cfg ctx req, rfl, hnow _ hr,
      hpin _ hr, hseat _ hr⟩

theorem admissions_into (h : Unpinned c t s threads) :
    ∀ r ∈ admissions threads, r.campaignId = c.id := by
  intro r hr
  obtain ⟨th, hth, hadmission⟩ := List.mem_filterMap.1 hr
  obtain ⟨hreply, heligible⟩ := Thread.admission?_eq_some hadmission
  exact ((h.threads th hth).answered hreply).1 heligible

end Unpinned

theorem unpinned_reachable {c : Campaign} {t : Instant} {s0 : Store} (hs0 : Coherent s0 [])
    (hsole : SoleOpen c t s0) {requests : List (Enrollment × Ctx × EnrollRequest)}
    (hnow : ∀ r ∈ requests, r.1.now = t) (hpin : ∀ r ∈ requests, r.2.2.campaignId = none)
    (husers : (requests.map (·.2.2.userId)).Nodup)
    (hseat : ∀ r ∈ requests, s0.Seatless r.2.2.userId) {w : World}
    (hw : (World.start s0 (enrollments requests)).Reachable w) :
    Unpinned c t w.store w.threads := by
  induction hw with
  | start => exact Unpinned.start hs0 hsole hnow hpin husers hseat
  | step e _ ih => exact ih.step e

theorem length_threads_reachable {s0 : Store} {requests : List Request} {w : World}
    (hw : (World.start s0 requests).Reachable w) : w.threads.length = requests.length := by
  induction hw with
  | start => simp [World.start]
  | step e _ ih => rw [World.length_step, ih]

/-- Unpinned enrollments of distinct users with no participation, against a store whose only
active first-login campaign `c` is in its window at their clock and has free slots that fit a
32-bit counter, are admitted into `c`, or rejected as finding no open campaign or a full one
only once `c` is full. When every call has answered, the admissions are as many as the users or
as the free slots `c` had, whichever is fewer. -/
theorem unpinned_enrollments_fill_capacity {s0 : Store} {c : Campaign} {t : Instant}
    (hs0 : Coherent s0 []) (hids : (s0.campaigns.map (·.id)).Nodup) (hc : c ∈ s0.campaigns)
    (hsole : ∀ cc ∈ s0.campaigns, cc.status = .active → cc.kind = firstLoginDiscount → cc = c)
    (hkind : c.kind = firstLoginDiscount) (hactive : c.status = .active)
    (hwindow : c.inWindow t = true) (hroom : c.currentParticipants < c.maxParticipants)
    (hwrap : c.maxParticipants.toInt - c.currentParticipants.toInt ≤ Int32.maxValue.toInt)
    {requests : List (Enrollment × Ctx × EnrollRequest)}
    (hnow : ∀ r ∈ requests, r.1.now = t) (hpin : ∀ r ∈ requests, r.2.2.campaignId = none)
    (husers : (requests.map (·.2.2.userId)).Nodup)
    (hnew : ∀ r ∈ requests, ∀ p ∈ s0.participations, p.userId ≠ r.2.2.userId)
    {w : World} (hw : (World.start s0 (enrollments requests)).Reachable w) :
    (∀ th ∈ w.threads, ∀ r : EnrollResult, th.reply? = some (.enrolled (.ok r)) →
      (r.eligible = true → r.campaignId = c.id) ∧
      (r.eligible = false →
        (r.reason = some .noActiveCampaign ∨ r.reason = some .campaignFull) ∧
        w.store.AtCapacity c.id)) ∧
    ((∀ th ∈ w.threads, ∃ r : EnrollResult, th.reply? = some (.enrolled (.ok r))) →
      (admissions w.threads).length =
        min requests.length (c.maxParticipants.toInt - c.currentParticipants.toInt).toNat) := by
  have hsole0 : SoleOpen c t s0 := by
    refine ⟨hids, fun cc hcc hopen hfirst => by rw [hsole cc hcc hopen hfirst], c, ?_, ?_⟩
    · exact findBy_of_mem _ hids hc
    · exact ⟨hkind, hwindow, hwrap, .inl ⟨hactive, hroom⟩⟩
  have hinv := unpinned_reachable hs0 hsole0 hnow hpin husers hnew hw
  refine ⟨fun th hth r hr => (hinv.threads th hth).answered hr, fun hdone => ?_⟩
  -- the admissions, all into `c`, fill its row from its first counter to its current one
  obtain ⟨cc, hrow, hgrown, hfill⟩ := (counted_reachable hs0 hids hw).rows c hc
  have hadmitted : (admissions w.threads).length =
      (cc.currentParticipants.toInt - c.currentParticipants.toInt).toNat := by
    rw [← hfill.length_eq, ordersIn_of_forall, admittedPairs, List.length_map, List.length_map]
    intro p hp
    obtain ⟨r, hr, rfl⟩ := List.mem_map.1 hp
    exact hinv.admissions_into r hr
  have hcap : cc.currentParticipants ≤ c.maxParticipants := by
    rw [← hgrown.max_eq]
    exact hgrown.le_max (Int32.le_of_lt hroom)
  have hthreads : w.threads.length = requests.length := by
    rw [length_threads_reachable hw, enrollments, List.length_map]
  have hbound : (admissions w.threads).length ≤ requests.length :=
    hthreads ▸ List.length_filterMap_le _ _
  by_cases hrejected : ∃ th ∈ w.threads, ∃ r : EnrollResult,
      th.reply? = some (.enrolled (.ok r)) ∧ r.eligible = false
  · -- a rejection comes only once `c` is full, so the admissions took all its free slots
    obtain ⟨th, hth, r, hr, hrefused⟩ := hrejected
    obtain ⟨cc', hrow', hfull⟩ := (((hinv.threads th hth).answered hr).2 hrefused).2
    rw [hrow] at hrow'
    cases hrow'
    rw [hfull, hgrown.max_eq] at hadmitted
    omega
  · -- every call was admitted, each into a slot of `c`
    have hall : ∀ th ∈ w.threads, th.admission?.isSome := by
      intro th hth
      obtain ⟨r, hr⟩ := hdone th hth
      have heligible : r.eligible = true := by
        cases he : r.eligible
        · exact absurd ⟨th, hth, r, hr, he⟩ hrejected
        · rfl
      simp [Thread.admission?, hr, heligible]
    have hevery : (admissions w.threads).length = requests.length := by
      rw [← hthreads]
      exact List.filterMap_length_eq_length.2 hall
    have hle := Int32.le_iff_toInt_le.1 hcap
    omega

def openCampaign : Campaign :=
  { (default : Campaign) with
    kind := firstLoginDiscount
    status := .active
    endDate := ⟨1, 0, 0⟩
    maxParticipants := 2 }

def oneOpen : Store := { campaigns := [openCampaign] }

theorem fresh_oneOpen : Fresh oneOpen := ⟨rfl, rfl, rfl, rfl, rfl, by decide, by decide⟩

theorem unpinned_enrollments_fill_capacity_oneOpen :
    let w := (World.start oneOpen (enrollments (newUsers 3))).run (World.turns 3 12)
    (∀ r ∈ newUsers 3, r.1.now = default) ∧ (∀ r ∈ newUsers 3, r.2.2.campaignId = none) ∧
      ((newUsers 3).map (·.2.2.userId)).Nodup ∧
      ((∀ th ∈ w.threads, ∃ r : EnrollResult, th.reply? = some (.enrolled (.ok r))) →
        (admissions w.threads).length = 2) := by
  intro w
  have hsole : ∀ cc ∈ oneOpen.campaigns, cc.status = .active → cc.kind = firstLoginDiscount →
      cc = openCampaign := by
    simp [oneOpen]
  have hnow : ∀ r ∈ newUsers 3, r.1.now = default := by simp [newUsers]
  have hpin : ∀ r ∈ newUsers 3, r.2.2.campaignId = none := by simp [newUsers]
  have husers : ((newUsers 3).map (·.2.2.userId)).Nodup := by decide
  have hnew : ∀ r ∈ newUsers 3, ∀ p ∈ oneOpen.participations, p.userId ≠ r.2.2.userId :=
    fun _ _ p hp => absurd hp List.not_mem_nil
  have hcount := (unpinned_enrollments_fill_capacity fresh_oneOpen.coherent fresh_oneOpen.ids
    (List.mem_singleton_self openCampaign) hsole rfl rfl (by decide) (by decide) (by decide) hnow
    hpin husers hnew (World.reachable_run _ (World.turns 3 12))).2
  refine ⟨hnow, hpin, husers, fun hdone => ?_⟩
  rw [hcount hdone]
  rfl

def wrappedCampaign : Campaign :=
  { openCampaign with currentParticipants := Int32.minValue, maxParticipants := 10 }

def wrappedRun : World :=
  (World.start { campaigns := [wrappedCampaign] }
      (enrollments [(⟨1, 3, default⟩, .live, ⟨1, none⟩)])).run
    [⟨0, ⟨.ok "A", .ok true, ""⟩⟩, ⟨0, ⟨.ok "A", .ok true, ""⟩⟩]

def refusedNoCampaign : Option Reply → Bool
  | some (.enrolled (.ok r)) => r.reason == some .noActiveCampaign && !r.eligible
  | _ => false

/-- Without the bound on the free slots, a request is turned away while slots are free: the
slots left wrap below zero, so the campaign reads as not accepting participants. -/
theorem unpinned_enrollment_refused_with_free_slots :
    wrappedCampaign.currentParticipants < wrappedCampaign.maxParticipants ∧
    (World.start { campaigns := [wrappedCampaign] }
      (enrollments [(⟨1, 3, default⟩, .live, ⟨1, none⟩)])).Reachable wrappedRun ∧
    (∀ th ∈ wrappedRun.threads, ∃ r : EnrollResult,
      th.reply? = some (.enrolled (.ok r)) ∧ r.reason = some .noActiveCampaign) ∧
    admissions wrappedRun.threads = [] := by
  have hanswers : wrappedRun.threads.all (fun th => refusedNoCampaign th.reply?) = true := by
    decide +kernel
  have hrefused : ∀ th ∈ wrappedRun.threads, ∃ r : EnrollResult,
      th.reply? = some (.enrolled (.ok r)) ∧ r.reason = some .noActiveCampaign ∧
        r.eligible = false := by
    intro th hth
    have hanswer := List.all_eq_true.1 hanswers th hth
    unfold refusedNoCampaign at hanswer
    split at hanswer
    · rename_i r hreply
      simp only [Bool.and_eq_true, beq_iff_eq, Bool.not_eq_true'] at hanswer
      exact ⟨r, hreply, hanswer⟩
    · cases hanswer
  refine ⟨by decide, World.reachable_run _ _, fun th hth => ?_, ?_⟩
  · obtain ⟨r, hreply, hreason, -⟩ := hrefused th hth
    exact ⟨r, hreply, hreason⟩
  · refine List.filterMap_eq_nil_iff.2 fun th hth => ?_
    obtain ⟨r, hreply, -, heligible⟩ := hrefused th hth
    simp [Thread.admission?, hreply, heligible]

end Concurrent
end TopUpPromo
