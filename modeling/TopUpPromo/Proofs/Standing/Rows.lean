import TopUpPromo.Proofs.Memory.Updates

/-!
# Participations and their vouchers

The committed rows pair each participation with the vouchers that name it.
`Participation.Configured` says which pairings the service makes, read off the participation's
status, so that a participation is in exactly one of them: no voucher and no stamp while
eligible; one active voucher, whose issue the participation records, once issued; one used
voucher, whose use it records, once used; one expired voucher once expired. No other status
occurs. `Memory.Standing` says that every committed participation is configured, and that no
participation names a missing campaign nor any voucher a missing participation.

Three kinds of write change these rows, and each keeps `Standing`: a write of campaigns only
(`Standing.of_rows`), an admission that inserts a participation of a new id with the vouchers
that name it (`Standing.of_admission`), and a top-up or a check that rewrites one voucher and
the participation it names (`Standing.settle`). No voucher of a standing store is cancelled
(`Standing.not_cancelled`).
-/

namespace TopUpPromo

open scoped List

/-- What no write changes of a participation: its id, its user and its campaign. -/
def Participation.identity (p : Participation) : Int × Int × Int :=
  (p.id, p.userId, p.campaignId)

@[simp] theorem Participation.identity_withStatus (p : Participation)
    (status : ParticipationStatus) (t : Instant) :
    (p.withStatus status t).identity = p.identity := by
  cases status <;> rfl

/-- Participation `p` with the vouchers `vs` that name it is in the configuration its status
names: no voucher and no stamp while eligible; one active voucher whose issue it records once
issued; one used voucher whose use it records once used; one expired voucher once expired. -/
def Participation.Configured (p : Participation) (vs : List Voucher) : Prop :=
  match p.status with
  | .eligible => vs = [] ∧ p.voucherIssuedAt = none ∧ p.voucherUsedAt = none
  | .voucherIssued => ∃ v, vs = [v] ∧ v.status = .active ∧ p.voucherIssuedAt = some v.issuedAt
  | .voucherUsed => ∃ v, vs = [v] ∧ v.status = .used ∧ p.voucherUsedAt = v.usedAt
  | .expired => ∃ v, vs = [v] ∧ v.status = .expired
  | .other _ => False

namespace Participation.Configured

variable {p : Participation} {vs vs' : List Voucher} {v : Voucher}

theorem perm (h : p.Configured vs) (hperm : vs ~ vs') : p.Configured vs' := by
  unfold Configured at h ⊢
  cases hs : p.status with
  | eligible =>
    rw [hs] at h
    obtain ⟨rfl, hissued, hused⟩ := h
    exact ⟨hperm.symm.eq_nil, hissued, hused⟩
  | voucherIssued =>
    rw [hs] at h
    obtain ⟨w, rfl, hw⟩ := h
    exact ⟨w, hperm.symm.eq_singleton, hw⟩
  | voucherUsed =>
    rw [hs] at h
    obtain ⟨w, rfl, hw⟩ := h
    exact ⟨w, hperm.symm.eq_singleton, hw⟩
  | expired =>
    rw [hs] at h
    obtain ⟨w, rfl, hw⟩ := h
    exact ⟨w, hperm.symm.eq_singleton, hw⟩
  | other word =>
    rw [hs] at h
    exact h.elim

theorem eq_singleton (h : p.Configured vs) (hv : v ∈ vs) : vs = [v] := by
  unfold Configured at h
  split at h
  · rw [h.1] at hv
    cases hv
  · obtain ⟨w, rfl, -⟩ := h
    rw [List.mem_singleton.1 hv]
  · obtain ⟨w, rfl, -⟩ := h
    rw [List.mem_singleton.1 hv]
  · obtain ⟨w, rfl, -⟩ := h
    rw [List.mem_singleton.1 hv]
  · exact h.elim

theorem ne_cancelled (h : p.Configured vs) (hv : v ∈ vs) : v.status ≠ .cancelled := by
  unfold Configured at h
  split at h
  · rw [h.1] at hv
    cases hv
  · obtain ⟨w, rfl, hw, -⟩ := h
    rw [List.mem_singleton.1 hv, hw]
    decide
  · obtain ⟨w, rfl, hw, -⟩ := h
    rw [List.mem_singleton.1 hv, hw]
    decide
  · obtain ⟨w, rfl, hw⟩ := h
    rw [List.mem_singleton.1 hv, hw]
    decide
  · exact h.elim

end Participation.Configured

namespace Memory

/-- The committed vouchers that name participation `id`. -/
def Store.vouchersFor (s : Store) (id : Int) : List Voucher :=
  s.vouchers.filter (·.participationId == id)

/-- The committed rows stand as the service writes them: every participation is configured
with the vouchers that name it, its campaign is a committed row, and so is the participation
every voucher names. -/
structure Standing (s : Store) : Prop where
  configured : ∀ p ∈ s.participations, p.Configured (s.vouchersFor p.id)
  campaign : ∀ p ∈ s.participations, p.campaignId ∈ s.campaigns.map (·.id)
  participation : ∀ v ∈ s.vouchers, v.participationId ∈ s.participations.map (·.id)

namespace Standing

variable {s s' : Store}

theorem empty (lockTimeoutMs : Nat) : Standing { lockTimeoutMs := lockTimeoutMs } :=
  ⟨by simp, by simp, by simp⟩

/-- No voucher of a standing store is cancelled: each names a participation, which is
configured with it. -/
theorem not_cancelled (hs : Standing s) : ∀ v ∈ s.vouchers, v.status ≠ .cancelled := by
  intro v hv
  obtain ⟨q, hq, hqid⟩ := List.mem_map.1 (hs.participation v hv)
  have hfor : v ∈ s.vouchersFor q.id := List.mem_filter.2 ⟨hv, by simp [hqid]⟩
  exact (hs.configured q hq).ne_cancelled hfor

/-- A write that keeps the participations and the vouchers and drops no campaign keeps the rows
standing. -/
theorem of_rows (hs : Standing s) (hparticipations : s'.participations = s.participations)
    (hvouchers : s'.vouchers = s.vouchers)
    (hcampaigns : ∀ id ∈ s.campaigns.map (·.id), id ∈ s'.campaigns.map (·.id)) :
    Standing s' where
  configured p hp := by
    have hfor : s'.vouchersFor p.id = s.vouchersFor p.id := by
      simp only [Store.vouchersFor, hvouchers]
    rw [hparticipations] at hp
    rw [hfor]
    exact hs.configured p hp
  campaign p hp := by
    rw [hparticipations] at hp
    exact hcampaigns _ (hs.campaign p hp)
  participation v hv := by
    rw [hvouchers] at hv
    rw [hparticipations]
    exact hs.participation v hv

/-- An admission that inserts participation `p` of a new id, with the vouchers `vs` that name it,
keeps the rows standing when `p` is configured with them, its campaign is a row, and no campaign
is dropped. -/
theorem of_admission (hs : Standing s) {p : Participation} {vs : List Voucher}
    (hparticipations : s'.participations ~ s.participations ++ [p])
    (hvouchers : s'.vouchers ~ s.vouchers ++ vs)
    (hcampaigns : ∀ id ∈ s.campaigns.map (·.id), id ∈ s'.campaigns.map (·.id))
    (hfresh : p.id ∉ s.participations.map (·.id)) (hnames : ∀ v ∈ vs, v.participationId = p.id)
    (hconfigured : p.Configured vs) (hcampaign : p.campaignId ∈ s'.campaigns.map (·.id)) :
    Standing s' where
  configured q hq := by
    have hfor : s'.vouchersFor q.id ~
        s.vouchersFor q.id ++ vs.filter (·.participationId == q.id) := by
      rw [Store.vouchersFor, Store.vouchersFor, ← List.filter_append]
      exact hvouchers.filter _
    rcases List.mem_append.1 (hparticipations.mem_iff.1 hq) with hq | hq
    · -- an old participation: no new voucher names it
      have hne : p.id ≠ q.id := fun h => hfresh (h ▸ List.mem_map_of_mem hq)
      have hnone : vs.filter (·.participationId == q.id) = [] := by
        rw [List.filter_eq_nil_iff]
        intro v hv
        simp [hnames v hv, hne]
      rw [hnone, List.append_nil] at hfor
      exact (hs.configured q hq).perm hfor.symm
    · -- the new participation: no old voucher names its new id
      rw [List.mem_singleton] at hq
      subst hq
      have hold : s.vouchersFor q.id = [] := by
        rw [Store.vouchersFor, List.filter_eq_nil_iff]
        intro v hv hpid
        have hnamed := hs.participation v hv
        rw [beq_iff_eq.1 hpid] at hnamed
        exact hfresh hnamed
      have hall : vs.filter (·.participationId == q.id) = vs := by
        rw [List.filter_eq_self]
        intro v hv
        simp [hnames v hv]
      rw [hold, hall, List.nil_append] at hfor
      exact hconfigured.perm hfor.symm
  campaign q hq := by
    rcases List.mem_append.1 (hparticipations.mem_iff.1 hq) with hq | hq
    · exact hcampaigns _ (hs.campaign q hq)
    · rw [List.mem_singleton] at hq
      subst hq
      exact hcampaign
  participation v hv := by
    have hids : ∀ id ∈ s.participations.map (·.id), id ∈ s'.participations.map (·.id) := by
      intro id hid
      obtain ⟨q, hq, rfl⟩ := List.mem_map.1 hid
      exact List.mem_map_of_mem (hparticipations.mem_iff.2 (List.mem_append_left _ hq))
    rcases List.mem_append.1 (hvouchers.mem_iff.1 hv) with hv | hv
    · exact hids _ (hs.participation v hv)
    · rw [hnames v hv]
      exact List.mem_map_of_mem
        (hparticipations.mem_iff.2 (List.mem_append_right _ (List.mem_singleton_self p)))

section Settle

variable {v0 v : Voucher} {q p : Participation}

theorem vouchersFor_upsertBy (hvids : (s.vouchers.map (·.id)).Nodup) (hv0 : v0 ∈ s.vouchers)
    (hid : v.id = v0.id) (hnames : v.participationId = v0.participationId) (x : Int) :
    (upsertBy (·.id) s.vouchers v).filter (·.participationId == x) =
      (s.vouchersFor x).map fun r => if r.id = v.id then v else r := by
  have hrow : ∀ r ∈ s.vouchers, r.id = v.id → r = v0 := fun r hr hrid =>
    List.inj_on_of_nodup_map hvids hr hv0 (hrid.trans hid)
  rw [upsertBy_of_exists _ ⟨v0, hv0, hid.symm⟩, List.filter_map, Store.vouchersFor]
  congr 1
  apply List.filter_congr
  intro r hr
  by_cases hrid : r.id = v.id
  · -- the rewritten row names the participation `v0` named
    obtain rfl := hrow r hr hrid
    simp [hrid, hnames]
  · simp [hrid]

theorem vouchersFor_rewrite (hs : Standing s) (hvids : (s.vouchers.map (·.id)).Nodup)
    (hv0 : v0 ∈ s.vouchers) (hid : v.id = v0.id) (hnames : v.participationId = v0.participationId)
    (hq : q ∈ s.participations) (hqid : q.id = v0.participationId)
    (hvouchers : s'.vouchers = upsertBy (·.id) s.vouchers v) :
    s'.vouchersFor q.id = [v] ∧ ∀ x, x ≠ q.id → s'.vouchersFor x = s.vouchersFor x := by
  have hfor : ∀ x, s'.vouchersFor x = (s.vouchersFor x).map fun r => if r.id = v.id then v else r :=
    fun x => by rw [Store.vouchersFor, hvouchers, vouchersFor_upsertBy hvids hv0 hid hnames]
  constructor
  · -- `q` is configured with one voucher, and `v0` names it
    have hmem : v0 ∈ s.vouchersFor q.id := List.mem_filter.2 ⟨hv0, by simp [hqid]⟩
    rw [hfor, (hs.configured q hq).eq_singleton hmem]
    simp [hid]
  · intro x hx
    rw [hfor]
    refine (List.map_congr_left fun r hr => ?_).trans (List.map_id' _)
    obtain ⟨hrmem, hrx⟩ := List.mem_filter.1 hr
    have hrv : r.id ≠ v.id := by
      intro hrid
      have hr0 : r = v0 := List.inj_on_of_nodup_map hvids hrmem hv0 (hrid.trans hid)
      rw [hr0, beq_iff_eq, ← hqid] at hrx
      exact hx hrx.symm
    simp [hrv]

/-- A commit that rewrites voucher `v0` as `v` and the participation `q` it names as `p`, with the
same id, user and campaign, keeps the rows standing when `p` is configured with `v`. -/
theorem settle (hs : Standing s) (hvids : (s.vouchers.map (·.id)).Nodup)
    (hv0 : v0 ∈ s.vouchers) (hid : v.id = v0.id) (hnames : v.participationId = v0.participationId)
    (hq : q ∈ s.participations) (hqid : q.id = v0.participationId)
    (hidentity : p.identity = q.identity) (hconfigured : p.Configured [v])
    (hvouchers : s'.vouchers = upsertBy (·.id) s.vouchers v)
    (hparticipations : s'.participations = upsertBy (·.id) s.participations p)
    (hcampaigns : s'.campaigns = s.campaigns) : Standing s' := by
  have hpid : p.id = q.id := congrArg Prod.fst hidentity
  have hpcampaign : p.campaignId = q.campaignId := congrArg (·.2.2) hidentity
  obtain ⟨hforq, hforx⟩ := hs.vouchersFor_rewrite hvids hv0 hid hnames hq hqid hvouchers
  have hpmap : s'.participations = s.participations.map fun r => if r.id = p.id then p else r := by
    rw [hparticipations, upsertBy_of_exists _ ⟨q, hq, hpid.symm⟩]
  refine ⟨?configured, ?campaign, ?participation⟩
  case configured =>
    intro r' hr'
    rw [hpmap, List.mem_map] at hr'
    obtain ⟨r, hr, rfl⟩ := hr'
    by_cases hrid : r.id = p.id
    · simp only [hrid, if_true]
      rw [hpid, hforq]
      exact hconfigured
    · simp only [hrid, if_false]
      rw [hforx r.id (hpid ▸ hrid)]
      exact hs.configured r hr
  case campaign =>
    intro r' hr'
    rw [hpmap, List.mem_map] at hr'
    obtain ⟨r, hr, rfl⟩ := hr'
    rw [hcampaigns]
    by_cases hrid : r.id = p.id
    · simp only [hrid, if_true, hpcampaign]
      exact hs.campaign q hq
    · simp only [hrid, if_false]
      exact hs.campaign r hr
  case participation =>
    intro w' hw'
    have hids : s'.participations.map (·.id) = s.participations.map (·.id) := by
      rw [hparticipations]
      exact map_upsertBy_of_exists _ ⟨q, hq, hpid.symm⟩
    rw [hids]
    rw [hvouchers, upsertBy_of_exists _ ⟨v0, hv0, hid.symm⟩, List.mem_map] at hw'
    obtain ⟨w, hw, rfl⟩ := hw'
    by_cases hwid : w.id = v.id
    · have hw0 : w = v0 := List.inj_on_of_nodup_map hvids hw hv0 (hwid.trans hid)
      simp only [hwid, if_true, hnames]
      exact hw0 ▸ hs.participation w hw
    · simp only [hwid, if_false]
      exact hs.participation w hw

end Settle

end Standing

end Memory
end TopUpPromo
