import Mathlib.Order.Interval.Finset.Defs
import Mathlib.Order.Interval.Finset.Nat
import Mathlib.Data.Int.Interval
import TopUpPromo.Proofs.Enrollment.Capacity

/-!
# Vouchers of concurrent enrollments

However enrollments with one voucher threshold `T` interleave from a store with no participation,
voucher or open transaction (`Unenrolled`, whatever the campaigns' counters), and whatever codes
the generator gives, the committed vouchers stay in step with the committed participations
(`Vouchered`): each participation within the threshold has one voucher and every other none,
each voucher copies its campaign's discount policy and expiry, and each eligible answer is that
of a committed participation, carrying its voucher's code within the threshold and the empty
code beyond it. The codes are distinct, and a campaign enrolled from `c0` holds one voucher for each
order from `c0 + 1` up to its counter or to `T`, whichever is smaller
(`enrollment_vouchers_follow_threshold`).

A generator may give the empty code: the answer then carries it although the order is within
the threshold (`empty_code_within_threshold`).
-/

namespace TopUpPromo

/-- Voucher `v` carries the discount policy of campaign `c` as issued: its percentage, minimum
top-up and cap, and an expiry the campaign's validity days after its issue. -/
structure Voucher.Snapshots (v : Voucher) (c : Campaign) : Prop where
  discount : v.discountPercentage = c.discountPercentage
  minTopup : v.minTopup = c.minTopup
  maxDiscount : v.maxDiscount = c.maxDiscount
  expires : v.expiresAt = v.issuedAt.addDays c.voucherValidityDays

theorem Voucher.Snapshots.bumped {v : Voucher} {c : Campaign} (h : v.Snapshots c) :
    v.Snapshots (Concurrent.EnrollStage.bumped c) :=
  ⟨h.discount, h.minTopup, h.maxDiscount, h.expires⟩

theorem length_eq_of_mem_Ioc {l : List Int32} {a b : Int} (hnd : l.Nodup)
    (hmem : ∀ x, x ∈ l ↔ a < x.toInt ∧ x.toInt ≤ b) (ha : -2 ^ 31 ≤ a) (hb : b < 2 ^ 31) :
    l.length = (b - a).toNat := by
  have hinj : (l.map Int32.toInt).Nodup := hnd.map fun _ _ h => Int32.toInt_inj.1 h
  -- every integer of the interval is the value of a word
  have hset : (l.map Int32.toInt).toFinset = Finset.Ioc a b := by
    ext z
    simp only [List.mem_toFinset, List.mem_map, Finset.mem_Ioc]
    constructor
    · rintro ⟨x, hx, rfl⟩
      exact (hmem x).1 hx
    · rintro ⟨hlo, hhi⟩
      have hsize : (Int32.size : Int) = 4294967296 := rfl
      have hz : (Int32.ofInt z).toInt = z := by
        rw [Int32.toInt_ofInt]
        exact Int.bmod_eq_of_le (by rw [hsize]; omega) (by rw [hsize]; omega)
      refine ⟨Int32.ofInt z, (hmem _).2 ?_, hz⟩
      rw [hz]
      exact ⟨hlo, hhi⟩
  calc l.length = (l.map Int32.toInt).length := (List.length_map _).symm
    _ = (l.map Int32.toInt).toFinset.card := (List.toFinset_card_of_nodup hinj).symm
    _ = (b - a).toNat := by rw [hset, Int.card_Ioc]

namespace Memory

def Store.participationIn (s : Store) (id pid : Int) : Bool :=
  s.participations.any fun p => p.id == pid && p.campaignId == id

/-- The vouchers of the participations in campaign `id`. -/
def Store.vouchersOf (s : Store) (id : Int) : List Voucher :=
  s.vouchers.filter fun v => s.participationIn id v.participationId

theorem Store.participationIn_id {s : Store} (hids : (s.participations.map (·.id)).Nodup)
    {p : Participation} (hp : p ∈ s.participations) (id : Int) :
    s.participationIn id p.id = (p.campaignId == id) := by
  apply Bool.eq_iff_iff.2
  simp only [Store.participationIn, List.any_eq_true, Bool.and_eq_true, beq_iff_eq]
  constructor
  · rintro ⟨q, hq, hqid, hcampaign⟩
    rw [List.inj_on_of_nodup_map hids hq hp hqid] at hcampaign
    exact hcampaign
  · intro hcampaign
    exact ⟨p, hp, rfl, hcampaign⟩

theorem Store.length_orders_within (s : Store) (id : Int) (T : Int32) :
    ((s.orders id).filter (· ≤ T)).length =
      (s.participations.filter fun p => p.campaignId == id && p.withinThreshold T).length := by
  simp only [Store.orders, ordersIn, Store.seats, List.filter_map, List.map_map, List.length_map,
    List.filter_filter]
  congr 1
  apply List.filter_congr
  intro p _
  simp only [Function.comp_apply, Participation.withinThreshold, Bool.and_comm]

end Memory

namespace Concurrent

open Memory
open scoped List

/-- The committed vouchers under threshold `T`, and the eligible answers `rs` given so far: one
voucher for each participation within the threshold and none for the others, each a snapshot of
its participation's campaign; each answer that of a committed participation, with its voucher's
code within the threshold and the empty code beyond it. -/
structure Vouchered (T : Int32) (s : Store) (rs : List EnrollResult) : Prop where
  owners : s.vouchers.map (·.participationId) ~
    (s.participations.filter (·.withinThreshold T)).map (·.id)
  policy : ∀ v ∈ s.vouchers, ∃ p ∈ s.participations, p.id = v.participationId ∧
    ∃ c, findBy (·.id) s.campaigns p.campaignId = some c ∧ v.Snapshots c
  answers : ∀ r ∈ rs, ∃ p ∈ s.participations, p.campaignId = r.campaignId ∧ p.order = r.order ∧
    (p.withinThreshold T = true →
      ∃ v ∈ s.vouchers, v.participationId = p.id ∧ v.code = r.voucherCode) ∧
    (p.withinThreshold T = false → r.voucherCode = "")

namespace EnrollStage

variable {cfg : Enrollment} {req : EnrollRequest}

theorem seatAt_withinThreshold (locked : Campaign) (pid : Int) (voucher : Option (String × Int))
    (T : Int32) :
    (seatAt cfg req locked pid voucher).withinThreshold T =
      (seated cfg req locked pid).withinThreshold T := by
  cases voucher <;> rfl

@[simp] theorem issued_participationId (locked : Campaign) (pid : Int) (code : String)
    (vid : Int) : (issued cfg req locked pid code vid).participationId = pid := rfl

@[simp] theorem issued_code (locked : Campaign) (pid : Int) (code : String) (vid : Int) :
    (issued cfg req locked pid code vid).code = code := rfl

theorem issued_snapshots (locked : Campaign) (pid : Int) (code : String) (vid : Int) :
    (issued cfg req locked pid code vid).Snapshots (bumped locked) :=
  ⟨rfl, rfl, rfl, rfl⟩

end EnrollStage

theorem findBy_bumped {campaigns : List Campaign} {locked c : Campaign} {id : Int}
    (hrow : findBy (·.id) campaigns locked.id = some locked)
    (hc : findBy (·.id) campaigns id = some c) :
    ∃ c', findBy (·.id) (upsertBy (·.id) campaigns (EnrollStage.bumped locked)) id = some c' ∧
      (c' = c ∨ c' = EnrollStage.bumped c) := by
  by_cases hid : id = locked.id
  · subst hid
    obtain rfl : locked = c := Option.some.inj (hrow.symm.trans hc)
    exact ⟨EnrollStage.bumped locked, findBy_upsertBy_self _ _ _, .inr rfl⟩
  · have hne : id ≠ (EnrollStage.bumped locked).id := hid
    rw [findBy_upsertBy_of_ne _ hne]
    exact ⟨c, hc, .inl rfl⟩

theorem owners_append {T : Int32} {vs : List Voucher} {ps : List Participation}
    {p : Participation} {v? : Option Voucher}
    (h : vs.map (·.participationId) ~ (ps.filter (·.withinThreshold T)).map (·.id))
    (hwithin : p.withinThreshold T = v?.isSome) (hv : ∀ v ∈ v?, v.participationId = p.id) :
    (vs ++ v?.toList).map (·.participationId) ~
      ((ps ++ [p]).filter (·.withinThreshold T)).map (·.id) := by
  cases v? with
  | none =>
    rw [Option.isSome_none] at hwithin
    simpa [hwithin] using h
  | some v =>
    rw [Option.isSome_some] at hwithin
    have hpid : v.participationId = p.id := hv v rfl
    simpa [hwithin, hpid] using h.append_right [p.id]

namespace Vouchered

variable {T : Int32}

theorem start {s : Store} (hs : Unenrolled s) : Vouchered T s [] := by
  refine ⟨?_, fun v hv => ?_, fun r hr => ?_⟩
  · simp [hs.vouchers, hs.participations]
  · rw [hs.vouchers] at hv
    cases hv
  · cases hr

theorem enrolls {s s' : Store} {rs rs' : List EnrollResult} {R : Enrollment → Prop}
    (h : Vouchered T s rs) (he : Enrolls R s rs s' rs') (hR : ∀ cfg, R cfg → cfg.threshold = T) :
    Vouchered T s' rs' := by
  rcases he with ⟨hcampaigns, hparticipations, hvouchers, hrs⟩ | ⟨cfg, req, locked, pid, voucher,
    r, hrow, -, hcampaigns, hparticipations, hvouchers, hthreshold, hid, horder, hcode, hrs, hcfg⟩
  · refine ⟨?_, ?_, fun r hr => ?_⟩
    · rw [hvouchers, hparticipations]
      exact h.owners
    · rw [hvouchers, hparticipations, hcampaigns]
      exact h.policy
    · rw [hvouchers, hparticipations]
      exact h.answers r (hrs.mem_iff.1 hr)
  · have hwithin : (EnrollStage.seatAt cfg req locked pid voucher).withinThreshold T =
        voucher.isSome := by
      rw [EnrollStage.seatAt_withinThreshold, ← hR cfg hcfg, hthreshold]
    have hpart : ∀ p ∈ s.participations, p ∈ s'.participations := fun p hp =>
      hparticipations.mem_iff.2 (List.mem_append_left _ hp)
    have hvouch : ∀ v ∈ s.vouchers, v ∈ s'.vouchers := fun v hv =>
      hvouchers.mem_iff.2 (List.mem_append_left _ hv)
    have hseat : EnrollStage.seatAt cfg req locked pid voucher ∈ s'.participations :=
      hparticipations.mem_iff.2 (List.mem_append_right _ (List.mem_singleton_self _))
    have hbumped : findBy (·.id) s'.campaigns locked.id = some (EnrollStage.bumped locked) := by
      rw [hcampaigns]
      exact findBy_upsertBy_self _ _ _
    refine ⟨?_, fun v hv => ?_, fun r' hr' => ?_⟩
    · refine ((hvouchers.map _).trans ?_).trans ((hparticipations.filter _).map _).symm
      refine owners_append h.owners (by rw [Option.isSome_map]; exact hwithin) fun v hv => ?_
      obtain ⟨x, -, rfl⟩ := Option.map_eq_some_iff.1 hv
      simp
    · rcases List.mem_append.1 (hvouchers.mem_iff.1 hv) with hv | hv
      · -- an earlier voucher: its campaign row is kept, or bumped with the same policy
        obtain ⟨p, hp, hpid, c, hc, hsnap⟩ := h.policy v hv
        obtain ⟨c', hc', hsame | hbump⟩ := findBy_bumped hrow hc
        · subst hsame
          exact ⟨p, hpart p hp, hpid, c', by rw [hcampaigns]; exact hc', hsnap⟩
        · subst hbump
          exact ⟨p, hpart p hp, hpid, _, by rw [hcampaigns]; exact hc', hsnap.bumped⟩
      · -- the admission's voucher, of its participation in the bumped row
        obtain ⟨⟨code, vid⟩, -, rfl⟩ := Option.map_eq_some_iff.1 (Option.mem_toList.1 hv)
        refine ⟨_, hseat, by simp, EnrollStage.bumped locked, ?_,
          EnrollStage.issued_snapshots locked pid code vid⟩
        rw [EnrollStage.seatAt_campaignId]
        exact hbumped
    · rcases List.mem_append.1 (hrs.mem_iff.1 hr') with hr' | hr'
      · obtain ⟨p, hp, hcampaign, horder', hin, hout⟩ := h.answers r' hr'
        refine ⟨p, hpart p hp, hcampaign, horder', fun hw => ?_, hout⟩
        obtain ⟨v, hv, hvp, hvc⟩ := hin hw
        exact ⟨v, hvouch v hv, hvp, hvc⟩
      · -- the admission's answer, with its voucher's code or none
        rw [List.mem_singleton] at hr'
        subst hr'
        refine ⟨_, hseat, by rw [EnrollStage.seatAt_campaignId, hid],
          by rw [EnrollStage.seatAt_order, horder], fun hw => ?_, fun hw => ?_⟩
        · cases voucher with
          | none =>
            rw [hwithin] at hw
            cases hw
          | some v =>
            refine ⟨EnrollStage.issued cfg req locked pid v.1 v.2, ?_, by simp, by simp [hcode]⟩
            exact hvouchers.mem_iff.2 (List.mem_append_right _ (by simp))
        · cases voucher with
          | none => simpa using hcode
          | some v =>
            rw [hwithin] at hw
            cases hw

theorem voucher_count {s : Store} {rs : List EnrollResult} (h : Vouchered T s rs)
    (hids : (s.participations.map (·.id)).Nodup) {p : Participation}
    (hp : p ∈ s.participations) :
    (s.vouchers.filter (·.participationId == p.id)).length = if p.order ≤ T then 1 else 0 := by
  have hcount : (s.vouchers.filter (·.participationId == p.id)).length =
      ((s.participations.filter (·.withinThreshold T)).map (·.id)).count p.id := by
    rw [← h.owners.count_eq, List.count_eq_length_filter, List.filter_map, List.length_map]
    rfl
  have hnodup : ((s.participations.filter (·.withinThreshold T)).map (·.id)).Nodup :=
    ((List.filter_sublist).map _).nodup hids
  rw [hcount]
  by_cases hle : p.order ≤ T
  · rw [if_pos hle]
    apply List.count_eq_one_of_mem hnodup
    exact List.mem_map.2 ⟨p, List.mem_filter.2 ⟨hp, decide_eq_true hle⟩, rfl⟩
  · rw [if_neg hle]
    apply List.count_eq_zero_of_not_mem
    intro hmem
    obtain ⟨q, hq, hqid⟩ := List.mem_map.1 hmem
    obtain ⟨hq, hwithin⟩ := List.mem_filter.1 hq
    obtain rfl := List.inj_on_of_nodup_map hids hq hp hqid
    exact hle (of_decide_eq_true hwithin)

theorem length_vouchersOf {s : Store} {rs : List EnrollResult} (h : Vouchered T s rs)
    (hids : (s.participations.map (·.id)).Nodup) (id : Int) :
    (s.vouchersOf id).length =
      (s.participations.filter fun p => p.campaignId == id && p.withinThreshold T).length := by
  calc (s.vouchersOf id).length
      = ((s.vouchers.map (·.participationId)).filter (s.participationIn id)).length := by
        rw [Store.vouchersOf, List.filter_map, List.length_map]
        rfl
    _ = (((s.participations.filter (·.withinThreshold T)).map (·.id)).filter
          (s.participationIn id)).length := (h.owners.filter _).length_eq
    _ = ((s.participations.filter (·.withinThreshold T)).filter (·.campaignId == id)).length := by
        rw [List.filter_map, List.length_map]
        congr 1
        apply List.filter_congr
        intro p hp
        exact Store.participationIn_id hids (List.mem_filter.1 hp).1 id
    _ = (s.participations.filter fun p => p.campaignId == id && p.withinThreshold T).length := by
        rw [List.filter_filter]

end Vouchered

theorem vouchered_reachable {s0 : Store} (hs0 : Unenrolled s0) {T : Int32}
    {requests : List (Enrollment × Ctx × EnrollRequest)} (hT : ∀ r ∈ requests, r.1.threshold = T)
    {w : World} (hw : (World.start s0 (enrollments requests)).Reachable w) :
    Vouchered T w.store (admissions w.threads) := by
  induction hw with
  | start =>
    show Vouchered T s0 (admissions ((enrollments requests).map Thread.start))
    rw [admissions_start]
    exact Vouchered.start hs0
  | @step w e hreach ih =>
    refine ih.enrolls ((enrollWorld_reachable hs0.coherent hreach).step_enrolls e) ?_
    -- the admitting thread serves one of the requests, all at threshold `T`
    rintro cfg ⟨th, hth, ctx, req, hreq⟩
    have hmem := World.requests_reachable hreach th hth
    rw [hreq, enrollments, List.mem_map] at hmem
    obtain ⟨r, hr, hsame⟩ := hmem
    injection hsame with hcfg
    rw [← hcfg]
    exact hT r hr

/-- However enrollments at threshold `T` interleave from a store with no participation, voucher
or open transaction, and whatever codes the generator gives, each participation within the
threshold has one voucher and every other none; the codes are distinct; each voucher copies its
campaign's discount policy and expires the campaign's validity days after its issue; each
eligible answer is that of a committed participation and carries its voucher's code within the
threshold and the empty code beyond it; and a campaign enrolled from `c0` holds one voucher for
each order from `c0 + 1` up to its counter or to `T`. -/
theorem enrollment_vouchers_follow_threshold {s0 : Store} (hs0 : Unenrolled s0) {T : Int32}
    {requests : List (Enrollment × Ctx × EnrollRequest)} (hT : ∀ r ∈ requests, r.1.threshold = T)
    {w : World} (hw : (World.start s0 (enrollments requests)).Reachable w) :
    (∀ p ∈ w.store.participations,
      (w.store.vouchers.filter (·.participationId == p.id)).length =
        if p.order ≤ T then 1 else 0) ∧
    (w.store.vouchers.map (·.code)).Nodup ∧
    (∀ v ∈ w.store.vouchers, ∃ p ∈ w.store.participations, p.id = v.participationId ∧
      ∃ c, findBy (·.id) w.store.campaigns p.campaignId = some c ∧ v.Snapshots c) ∧
    (∀ r ∈ admissions w.threads, ∃ p ∈ w.store.participations,
      p.campaignId = r.campaignId ∧ p.order = r.order ∧
      (r.order ≤ T → ∃ v ∈ w.store.vouchers, v.participationId = p.id ∧ v.code = r.voucherCode) ∧
      (¬ r.order ≤ T → r.voucherCode = "")) ∧
    ∀ c ∈ w.store.campaigns, ∃ c0 ∈ s0.campaigns, c0.id = c.id ∧
      (w.store.vouchersOf c.id).length =
        (min c.currentParticipants.toInt T.toInt - c0.currentParticipants.toInt).toNat := by
  have hworld := enrollWorld_reachable hs0.coherent hw
  have hv := vouchered_reachable hs0 hT hw
  have hids : (w.store.participations.map (·.id)).Nodup :=
    hworld.coherent.reserved.participations.ids_nodup.of_append_left
  refine ⟨fun p hp => hv.voucher_count hids hp,
    hworld.coherent.reserved.vouchers.keys.of_append_left, hv.policy, fun r hr => ?_,
    fun c hc => ?_⟩
  · -- an answer's order is its participation's, whose voucher follows the threshold
    obtain ⟨p, hp, hcampaign, horder, hin, hout⟩ := hv.answers r hr
    refine ⟨p, hp, hcampaign, horder, fun hle => hin ?_, fun hgt => hout ?_⟩
    · rw [Participation.withinThreshold, horder]
      exact decide_eq_true hle
    · rw [Participation.withinThreshold, horder]
      exact decide_eq_false hgt
  · -- the campaign's orders are those from `c0 + 1` to its counter, once each
    have hcount := counted_reachable hs0.coherent hs0.ids hw
    obtain ⟨c0, hc0, hid, -, hfill⟩ := hcount.row_of_mem hs0.ids hc
    have hseats : w.store.seats ~ admittedPairs (admissions w.threads) := by
      simpa [Store.seats, hs0.participations] using hcount.seats
    have horders : OrdersFill c0 c (w.store.orders c.id) :=
      hfill.perm (ordersIn_perm hseats.symm)
    refine ⟨c0, hc0, hid, ?_⟩
    rw [hv.length_vouchersOf hids, ← Store.length_orders_within]
    have hT31 := Int32.toInt_lt T
    refine length_eq_of_mem_Ioc (horders.nodup.filter _) (fun o => ?_) (Int32.le_toInt _)
      (by omega)
    rw [List.mem_filter, horders.mem_iff, decide_eq_true_iff, Int32.lt_iff_toInt_lt,
      Int32.le_iff_toInt_le, Int32.le_iff_toInt_le]
    omega

theorem enrollment_vouchers_follow_threshold_oneOpen :
    let w := (World.start oneOpen (enrollments (newUsers 3))).run (World.turns 3 12)
    Unenrolled oneOpen ∧ (∀ r ∈ newUsers 3, r.1.threshold = 1) ∧
      (∀ p ∈ w.store.participations,
        (w.store.vouchers.filter (·.participationId == p.id)).length =
          if p.order ≤ 1 then 1 else 0) ∧
      ∀ c ∈ w.store.campaigns, ∃ c0 ∈ oneOpen.campaigns, c0.id = c.id ∧
        (w.store.vouchersOf c.id).length =
          (min c.currentParticipants.toInt (1 : Int32).toInt -
            c0.currentParticipants.toInt).toNat := by
  intro w
  have hstart : Unenrolled oneOpen := fresh_oneOpen.unenrolled
  have hT : ∀ r ∈ newUsers 3, r.1.threshold = 1 := by simp [newUsers]
  obtain ⟨hone, -, -, -, hcount⟩ :=
    enrollment_vouchers_follow_threshold hstart hT (World.reachable_run _ (World.turns 3 12))
  exact ⟨hstart, hT, hone, hcount⟩

def emptyCodeRun : World :=
  (World.start oneOpen (enrollments [(⟨1, 3, default⟩, .live, ⟨1, none⟩)])).run
    (List.replicate 11 ⟨0, ⟨.ok "", .ok true, ""⟩⟩)

/-- A generator may give the empty code: an answer within the threshold then carries it. -/
theorem empty_code_within_threshold :
    (World.start oneOpen (enrollments [(⟨1, 3, default⟩, .live, ⟨1, none⟩)])).Reachable
      emptyCodeRun ∧
    ∃ r ∈ admissions emptyCodeRun.threads, r.order ≤ 1 ∧ r.voucherCode = "" := by
  have hanswer : (admissions emptyCodeRun.threads).any
      (fun r => decide (r.order ≤ 1) && r.voucherCode == "") = true := by
    decide +kernel
  obtain ⟨r, hr, hcode⟩ := List.any_eq_true.1 hanswer
  simp only [Bool.and_eq_true, decide_eq_true_eq, beq_iff_eq] at hcode
  exact ⟨World.reachable_run _ _, r, hr, hcode⟩

end Concurrent
end TopUpPromo
