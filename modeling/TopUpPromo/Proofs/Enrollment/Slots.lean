import Mathlib
import TopUpPromo.Proofs.Enrollment.Capacity

/-!
# The slots a campaign has left

A campaign's counter and capacity are 32-bit words, and the slots it has left are their
difference taken as such a word, or none once the counter has reached the capacity. The
difference is the integer room `max - current` exactly when that room fits in the word
(`Campaign.remainingSlots_toInt_of_fits`); a room of `2 ^ 31` slots or more, which a counter far
below zero gives, wraps below zero (`Campaign.remainingSlots_toInt_of_wraps`), and the campaign
then reads as accepting nobody (`Campaign.acceptsParticipants_iff`).

An admission is made only into a locked row that accepts participants, whose room fits. Its
order, the counter plus one, and the slots it reports, the capacity less the order, are then the
integer ones, and they are the counter and the slots of the row it commits
(`EnrollWorld.admission_counts`).
-/

namespace TopUpPromo

namespace Campaign

variable (c : Campaign)

theorem remainingSlots_of_full (h : c.maxParticipants ≤ c.currentParticipants) :
    c.remainingSlots = 0 := by
  simp [remainingSlots, h]

theorem remainingSlots_toInt_of_room (h : c.currentParticipants < c.maxParticipants) :
    c.remainingSlots.toInt =
      (c.maxParticipants.toInt - c.currentParticipants.toInt).bmod (2 ^ 32) := by
  rw [remainingSlots, if_neg (Int32.not_le.2 h), Int32.toInt_sub]

theorem remainingSlots_toInt_of_fits (h : c.currentParticipants < c.maxParticipants)
    (hfit : c.maxParticipants.toInt - c.currentParticipants.toInt ≤ 2147483647) :
    c.remainingSlots.toInt = c.maxParticipants.toInt - c.currentParticipants.toInt := by
  have hlt := Int32.lt_iff_toInt_lt.1 h
  rw [remainingSlots_toInt_of_room c h]
  exact Int.bmod_eq_of_le (by omega) (by omega)

theorem room_lt : c.maxParticipants.toInt - c.currentParticipants.toInt < 2 ^ 32 := by
  have hmax := Int32.toInt_le c.maxParticipants
  have hcurrent := Int32.le_toInt c.currentParticipants
  rw [Int32.toInt_maxValue] at hmax
  omega

/-- A room too large for the word wraps: the slots left read as a negative number. -/
theorem remainingSlots_toInt_of_wraps (h : c.currentParticipants < c.maxParticipants)
    (hwrap : 2147483647 < c.maxParticipants.toInt - c.currentParticipants.toInt) :
    c.remainingSlots.toInt = c.maxParticipants.toInt - c.currentParticipants.toInt - 2 ^ 32 := by
  have hroom := room_lt c
  rw [remainingSlots_toInt_of_room c h, Int.bmod_def]
  split <;> omega

theorem remainingSlots_toInt_eq_max_iff :
    c.remainingSlots.toInt = max 0 (c.maxParticipants.toInt - c.currentParticipants.toInt) ↔
      c.maxParticipants.toInt - c.currentParticipants.toInt ≤ 2147483647 := by
  by_cases hroom : c.currentParticipants < c.maxParticipants
  · have hlt := Int32.lt_iff_toInt_lt.1 hroom
    by_cases hfit : c.maxParticipants.toInt - c.currentParticipants.toInt ≤ 2147483647
    · rw [remainingSlots_toInt_of_fits c hroom hfit]
      omega
    · rw [remainingSlots_toInt_of_wraps c hroom (by omega)]
      omega
  · have hle := Int32.le_iff_toInt_le.1 (Int32.not_lt.1 hroom)
    rw [remainingSlots_of_full c (Int32.not_lt.1 hroom), Int32.toInt_zero]
    omega

theorem remainingSlots_pos_iff :
    0 < c.remainingSlots ↔ c.currentParticipants < c.maxParticipants ∧
      c.maxParticipants.toInt - c.currentParticipants.toInt ≤ 2147483647 := by
  by_cases hroom : c.currentParticipants < c.maxParticipants
  · have hlt := Int32.lt_iff_toInt_lt.1 hroom
    rw [Int32.lt_iff_toInt_lt, Int32.toInt_zero, and_iff_right hroom]
    by_cases hfit : c.maxParticipants.toInt - c.currentParticipants.toInt ≤ 2147483647
    · rw [remainingSlots_toInt_of_fits c hroom hfit]
      omega
    · have hbelow := room_lt c
      rw [remainingSlots_toInt_of_wraps c hroom (by omega)]
      omega
  · rw [remainingSlots_of_full c (Int32.not_lt.1 hroom)]
    simp [hroom]

theorem acceptsParticipants_iff (t : Instant) :
    c.acceptsParticipants t = true ↔ c.status = .active ∧ c.inWindow t = true ∧
      c.currentParticipants < c.maxParticipants ∧
      c.maxParticipants.toInt - c.currentParticipants.toInt ≤ 2147483647 := by
  simp only [acceptsParticipants, Bool.and_eq_true, beq_iff_eq, decide_eq_true_eq,
    remainingSlots_pos_iff, and_assoc]

end Campaign

namespace Concurrent

open Memory

namespace EnrollStage

variable {locked : Campaign} {t : Instant}

theorem admission_counts (h : locked.acceptsParticipants t = true) :
    (locked.currentParticipants + 1).toInt = locked.currentParticipants.toInt + 1 ∧
      (locked.maxParticipants - (locked.currentParticipants + 1)).toInt =
        locked.maxParticipants.toInt - (locked.currentParticipants.toInt + 1) ∧
      (bumped locked).currentParticipants = locked.currentParticipants + 1 ∧
      (bumped locked).remainingSlots =
        locked.maxParticipants - (locked.currentParticipants + 1) := by
  obtain ⟨-, -, hroom, hfit⟩ := (Campaign.acceptsParticipants_iff locked t).1 h
  have hlt := Int32.lt_iff_toInt_lt.1 hroom
  have horder := Int32.toInt_add_one_of_lt hroom
  have hcurrent := Int32.le_toInt locked.currentParticipants
  -- the capacity less the order lies in `[0, 2 ^ 31 - 1)`, so it does not wrap either
  have hremaining : (locked.maxParticipants - (locked.currentParticipants + 1)).toInt =
      locked.maxParticipants.toInt - (locked.currentParticipants.toInt + 1) := by
    rw [Int32.toInt_sub, horder]
    exact Int.bmod_eq_of_le (by omega) (by omega)
  have hcounter : (bumped locked).currentParticipants = locked.currentParticipants + 1 := rfl
  have hcapacity : (bumped locked).maxParticipants = locked.maxParticipants := rfl
  refine ⟨horder, hremaining, hcounter, ?_⟩
  by_cases hfull : locked.maxParticipants ≤ locked.currentParticipants + 1
  · -- the order reaches the capacity: no slot is left, and none is reported
    have hmax : locked.maxParticipants.toInt = locked.currentParticipants.toInt + 1 := by
      have := Int32.le_iff_toInt_le.1 hfull
      omega
    rw [Campaign.remainingSlots_of_full _ (hcapacity ▸ hcounter ▸ hfull), ← Int32.toInt_inj,
      hremaining, hmax, Int32.toInt_zero]
    omega
  · rw [Campaign.remainingSlots, hcounter, hcapacity, if_neg hfull]

end EnrollStage

/-- A step of a world of enrollments that gives a thread its eligible answer `r` commits the
row of `r`'s campaign it read under the lock, and counts over the integers: the order is that
row's counter plus one, the slots reported are its capacity less the order, and the row committed
has the order as its counter and exactly the slots reported left. -/
theorem EnrollWorld.admission_counts {w : World} (h : EnrollWorld w.store w.threads) (e : Event)
    {i : Nat} {th th' : Thread} {r : EnrollResult} (hth : w.threads[i]? = some th)
    (hth' : (w.step e).threads[i]? = some th') (hnone : th.admission? = none)
    (hr : th'.admission? = some r) :
    ∃ c c', findBy (·.id) w.store.campaigns r.campaignId = some c ∧
      findBy (·.id) (w.step e).store.campaigns r.campaignId = some c' ∧
      r.order.toInt = c.currentParticipants.toInt + 1 ∧
      r.remainingSlots.toInt = c.maxParticipants.toInt - r.order.toInt ∧
      c'.currentParticipants = r.order ∧ c'.remainingSlots = r.remainingSlots := by
  -- only the thread that moves can change its answer
  have hmover : i = e.thread := by
    by_contra hne
    have hsame : (w.step e).threads[i]? = w.threads[i]? := by
      cases hmove : w.threads[e.thread]? with
      | none => rw [World.step_of_getElem?_none hmove]
      | some mover => exact World.getElem?_step_ne hmove hne
    rw [hsame, hth] at hth'
    cases hth'
    rw [hnone] at hr
    cases hr
  subst hmover
  rw [World.getElem?_step_self hth] at hth'
  cases hth'
  have hcoherent : Coherent w.store (th.tx.toList ++ txsOf (w.threads.eraseIdx e.thread)) :=
    h.coherent.perm (txsOf_perm_eraseIdx hth)
  obtain ⟨-, -, ⟨hsame, -⟩ | ⟨-, cfg, req, campaign, locked, pid, voucher, t, -, htx, hh,
      hcommit, hadmission⟩⟩ :=
    EnrollStage.thread_step (h.threads th (List.mem_of_getElem? hth)) hcoherent.locks e.oracle
  · rw [hsame, hnone] at hr
    cases hr
  rw [htx] at hh hcoherent
  obtain ⟨hcampaigns, -, -⟩ := hh.commit hcoherent
  obtain ⟨-, -, hl, -⟩ := hh
  obtain ⟨r', hr', -, hid, horder, hremaining, -⟩ :=
    Enrollment.settle_ok cfg campaign (EnrollStage.admission locked voucher)
  rw [hadmission, hr'] at hr
  cases hr
  simp only [EnrollStage.admission] at horder hremaining
  obtain ⟨hordered, hcounted, hcurrent, hslots⟩ := EnrollStage.admission_counts hl.accepts
  have hstore : (w.step e).store = t.commit w.store := by
    rw [World.step_of_getElem? hth]
    exact hcommit
  refine ⟨locked, EnrollStage.bumped locked, ?_, ?_, ?_, ?_, ?_, ?_⟩
  · rw [hid, ← hl.id_eq]
    rw [hl.id_eq]
    exact hl.row
  · rw [hstore, hcampaigns, hid, ← hl.id_eq]
    exact findBy_upsertBy_self _ _ _
  · rw [horder]
    exact hordered
  · rw [hremaining, horder]
    exact hcounted.trans (by rw [hordered])
  · rw [horder]
    exact hcurrent
  · rw [hremaining]
    exact hslots

/-- The slots a campaign has left are the integer room, or none once its capacity is reached,
exactly when that room fits in a signed 32-bit word, and it accepts participants exactly when it
is active, in its window, below its capacity and with a room that fits. In every world of
enrollments started with no transaction open, an admission counts over the integers: its order is
the counter of the row it locked plus one, the slots it reports are that row's capacity less the
order, and the row it commits has the order as its counter and exactly those slots left. -/
theorem remaining_slots_exact_when_room_fits {s0 : Store} (hs0 : Coherent s0 [])
    {requests : List (Enrollment × Ctx × EnrollRequest)} {w : World}
    (hw : (World.start s0 (enrollments requests)).Reachable w) :
    (∀ c : Campaign, c.remainingSlots.toInt =
        max 0 (c.maxParticipants.toInt - c.currentParticipants.toInt) ↔
      c.maxParticipants.toInt - c.currentParticipants.toInt ≤ 2147483647) ∧
    (∀ (c : Campaign) (t : Instant), c.acceptsParticipants t = true ↔ c.status = .active ∧
      c.inWindow t = true ∧ c.currentParticipants < c.maxParticipants ∧
      c.maxParticipants.toInt - c.currentParticipants.toInt ≤ 2147483647) ∧
    ∀ (e : Event) (i : Nat) (th th' : Thread) (r : EnrollResult), w.threads[i]? = some th →
      (w.step e).threads[i]? = some th' → th.admission? = none → th'.admission? = some r →
      ∃ c c', findBy (·.id) w.store.campaigns r.campaignId = some c ∧
        findBy (·.id) (w.step e).store.campaigns r.campaignId = some c' ∧
        r.order.toInt = c.currentParticipants.toInt + 1 ∧
        r.remainingSlots.toInt = c.maxParticipants.toInt - r.order.toInt ∧
        c'.currentParticipants = r.order ∧ c'.remainingSlots = r.remainingSlots :=
  ⟨Campaign.remainingSlots_toInt_eq_max_iff, Campaign.acceptsParticipants_iff,
    fun e _ _ _ _ hth hth' hnone hr =>
      (enrollWorld_reachable hs0 hw).admission_counts e hth hth' hnone hr⟩

/-- Three new users against the open campaign's two free slots: each admission in the run counts
over the integers. -/
theorem remaining_slots_exact_on_open_campaign :
    let w := (World.start oneOpen (enrollments (newUsers 3))).run (World.turns 3 12)
    Coherent oneOpen [] ∧ openCampaign.remainingSlots.toInt = max 0 (2 - 0) ∧
      ∀ (e : Event) (i : Nat) (th th' : Thread) (r : EnrollResult), w.threads[i]? = some th →
        (w.step e).threads[i]? = some th' → th.admission? = none → th'.admission? = some r →
        ∃ c c', findBy (·.id) w.store.campaigns r.campaignId = some c ∧
          findBy (·.id) (w.step e).store.campaigns r.campaignId = some c' ∧
          r.order.toInt = c.currentParticipants.toInt + 1 ∧
          r.remainingSlots.toInt = c.maxParticipants.toInt - r.order.toInt ∧
          c'.currentParticipants = r.order ∧ c'.remainingSlots = r.remainingSlots := by
  intro w
  obtain ⟨hslots, -, hcounts⟩ := remaining_slots_exact_when_room_fits fresh_oneOpen.coherent
    (World.reachable_run (World.start oneOpen (enrollments (newUsers 3))) (World.turns 3 12))
  exact ⟨fresh_oneOpen.coherent, (hslots openCampaign).2 (by decide), hcounts⟩

/-- At the lowest counter a 32-bit word holds, ten below the capacity, the room does not fit: the
slots left read as a negative number, and the campaign, active and in its window, accepts
nobody although its counter is below its capacity. -/
theorem remaining_slots_negative_at_lowest_counter :
    wrappedCampaign.currentParticipants < wrappedCampaign.maxParticipants ∧
      wrappedCampaign.status = .active ∧ wrappedCampaign.inWindow ⟨0, 0, 0⟩ = true ∧
      wrappedCampaign.remainingSlots.toInt = -2147483638 ∧
      wrappedCampaign.acceptsParticipants ⟨0, 0, 0⟩ = false := by
  decide

end Concurrent

end TopUpPromo
