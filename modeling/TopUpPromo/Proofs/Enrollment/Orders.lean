import TopUpPromo.Proofs.Enrollment.Admissions

/-!
# Participation orders under concurrent enrollment

However the calls of concurrent enrollments interleave, the participations of each campaign
carry distinct orders, exactly those above the campaign's starting counter up to its current
one; the counter never passes the capacity; the eligible answers given for the campaign report
exactly the committed orders; and a campaign's status only turns from active to full, by the
admission whose order is the capacity, after which nobody is admitted into it.

The counting invariant `Concurrent.Counted` is kept by every step (`Counted.enrolls`): a step
admits nobody, or bumps the committed row of one campaign that accepted the participant and
appends the participation of the next order (`Concurrent.Enrolls`). The main result is
`enrollment_orders_gapless`.
-/

namespace TopUpPromo

open scoped List

def ordersIn (id : Int) (pairs : List (Int × Int32)) : List Int32 :=
  (pairs.filter (·.1 == id)).map (·.2)

theorem ordersIn_perm {id : Int} {pairs pairs' : List (Int × Int32)} (hp : pairs ~ pairs') :
    ordersIn id pairs ~ ordersIn id pairs' :=
  (hp.filter _).map _

theorem ordersIn_append_singleton (id : Int) (pairs : List (Int × Int32)) (c : Int) (o : Int32) :
    ordersIn id (pairs ++ [(c, o)]) = ordersIn id pairs ++ if c = id then [o] else [] := by
  by_cases h : c = id <;> simp [ordersIn, h]

theorem ordersIn_of_forall {id : Int} {pairs : List (Int × Int32)} (h : ∀ p ∈ pairs, p.1 = id) :
    ordersIn id pairs = pairs.map (·.2) := by
  unfold ordersIn
  rw [List.filter_eq_self.2 (by simpa using h)]

namespace Memory

def Store.seats (s : Store) : List (Int × Int32) :=
  s.participations.map fun p => (p.campaignId, p.order)

/-- The orders of the committed participations of campaign `id`. -/
def Store.orders (s : Store) (id : Int) : List Int32 := ordersIn id s.seats

end Memory

/-- The committed row `c` of a campaign that started as `c0`: the same row, or one that
admitted participants while active, with its counter moved up to at most the capacity and its
status full exactly when the counter has reached the capacity. -/
def Campaign.Grown (c0 c : Campaign) : Prop :=
  c = c0 ∨ (c0.status = .active ∧ c0.currentParticipants < c.currentParticipants ∧
    c.currentParticipants ≤ c0.maxParticipants ∧
    c = { c0 with
      currentParticipants := c.currentParticipants
      status := if c.currentParticipants ≥ c0.maxParticipants then .full else .active })

/-- The orders of a campaign that started as `c0` and stands at `c`: distinct, exactly those
above `c0`'s counter up to `c`'s, one for each participant admitted since. -/
structure OrdersFill (c0 c : Campaign) (orders : List Int32) : Prop where
  nodup : orders.Nodup
  mem_iff : ∀ o, o ∈ orders ↔ c0.currentParticipants < o ∧ o ≤ c.currentParticipants
  length_eq :
    orders.length = (c.currentParticipants.toInt - c0.currentParticipants.toInt).toNat

/-! ## Counters and orders -/

namespace Campaign.Grown

theorem start_le {c0 c : Campaign} (h : c0.Grown c) :
    c0.currentParticipants ≤ c.currentParticipants := by
  rcases h with rfl | ⟨-, hlt, -, -⟩
  · exact Int32.le_refl _
  · exact Int32.le_of_lt hlt

theorem le_max {c0 c : Campaign} (hstart : c0.currentParticipants ≤ c0.maxParticipants)
    (h : c0.Grown c) : c.currentParticipants ≤ c.maxParticipants := by
  rcases h with rfl | ⟨-, -, hle, heq⟩
  · exact hstart
  · rw [heq]
    exact hle

theorem max_eq {c0 c : Campaign} (h : c0.Grown c) : c.maxParticipants = c0.maxParticipants := by
  rcases h with rfl | ⟨-, -, -, heq⟩
  · rfl
  · rw [heq]

theorem bumped {t : Instant} {c0 locked : Campaign} (h : c0.Grown locked)
    (haccepts : locked.acceptsParticipants t = true) :
    c0.Grown (Concurrent.EnrollStage.bumped locked) := by
  obtain ⟨hlt, hactive⟩ := Concurrent.Campaign.lt_max_of_accepts haccepts
  have hnext := Concurrent.Int32.toInt_add_one_of_lt hlt
  have hltInt := Int32.lt_iff_toInt_lt.1 hlt
  right
  rcases h with rfl | ⟨hstatus, hgt, -, heq⟩
  · refine ⟨hactive, ?_, ?_, rfl⟩
    · rw [Int32.lt_iff_toInt_lt, Concurrent.EnrollStage.bumped, hnext]
      omega
    · rw [Int32.le_iff_toInt_le, Concurrent.EnrollStage.bumped, hnext]
      omega
  · -- the row keeps the capacity it started with
    have hmax : locked.maxParticipants = c0.maxParticipants := by rw [heq]
    have hgtInt := Int32.lt_iff_toInt_lt.1 hgt
    refine ⟨hstatus, ?_, ?_, ?_⟩
    · rw [Int32.lt_iff_toInt_lt, Concurrent.EnrollStage.bumped, hnext]
      omega
    · rw [Int32.le_iff_toInt_le, Concurrent.EnrollStage.bumped, hnext, ← hmax]
      omega
    · rw [Concurrent.EnrollStage.bumped, hmax]
      rw [heq]

end Campaign.Grown

namespace OrdersFill

theorem perm {c0 c : Campaign} {orders orders' : List Int32} (h : OrdersFill c0 c orders)
    (hp : orders ~ orders') : OrdersFill c0 c orders' where
  nodup := hp.nodup_iff.1 h.nodup
  mem_iff o := hp.mem_iff.symm.trans (h.mem_iff o)
  length_eq := hp.length_eq ▸ h.length_eq

theorem start (c0 : Campaign) : OrdersFill c0 c0 [] where
  nodup := List.nodup_nil
  mem_iff o := by
    simp only [List.not_mem_nil, false_iff, not_and, Int32.lt_iff_toInt_lt,
      Int32.le_iff_toInt_le]
    omega
  length_eq := by simp

theorem bumped {c0 locked : Campaign} {orders : List Int32} (h : OrdersFill c0 locked orders)
    (hstart : c0.currentParticipants ≤ locked.currentParticipants)
    (hlt : locked.currentParticipants < locked.maxParticipants) :
    OrdersFill c0 (Concurrent.EnrollStage.bumped locked)
      (orders ++ [locked.currentParticipants + 1]) := by
  have hnext := Concurrent.Int32.toInt_add_one_of_lt hlt
  have hstartInt := Int32.le_iff_toInt_le.1 hstart
  have hmem : ∀ o, o ∈ orders ↔
      c0.currentParticipants.toInt < o.toInt ∧ o.toInt ≤ locked.currentParticipants.toInt := by
    intro o
    rw [h.mem_iff o, Int32.lt_iff_toInt_lt, Int32.le_iff_toInt_le]
  refine ⟨?_, ?_, ?_⟩
  · -- the new order is above every order taken before
    rw [List.nodup_append]
    refine ⟨h.nodup, List.nodup_singleton _, ?_⟩
    intro a ha b hb hab
    rw [List.mem_singleton] at hb
    subst hb hab
    have := (hmem _).1 ha
    omega
  · intro o
    rw [List.mem_append, List.mem_singleton, hmem o, ← Int32.toInt_inj, hnext,
      Concurrent.EnrollStage.bumped, Int32.lt_iff_toInt_lt, Int32.le_iff_toInt_le, hnext]
    omega
  · rw [List.length_append, h.length_eq, Concurrent.EnrollStage.bumped, hnext]
    simp only [List.length_singleton]
    omega

end OrdersFill

namespace Concurrent

open Memory

def admittedPairs (rs : List EnrollResult) : List (Int × Int32) :=
  rs.map fun r => (r.campaignId, r.order)

/-- The orders the eligible answers given so far report for campaign `id`. -/
def World.admittedOrders (w : World) (id : Int) : List Int32 :=
  ordersIn id (admittedPairs (admissions w.threads))

theorem admittedPairs_append {rs rs' : List EnrollResult} {r : EnrollResult} {id : Int}
    {o : Int32} (hrs : rs' ~ rs ++ [r]) (hid : r.campaignId = id) (horder : r.order = o) :
    admittedPairs rs' ~ admittedPairs rs ++ [(id, o)] := by
  simpa [admittedPairs, hid, horder] using hrs.map fun r => (r.campaignId, r.order)

/-- What concurrent enrollments keep of the campaigns of the store they started from, `s0`:
the same campaigns, each grown from its start with the orders the eligible answers `rs` report
for it filling the range, and the committed (campaign, order) pairs those of `s0` and of `rs`. -/
structure Counted (s0 s : Store) (rs : List EnrollResult) : Prop where
  ids : s.campaigns.map (·.id) = s0.campaigns.map (·.id)
  rows : ∀ c0 ∈ s0.campaigns, ∃ c, findBy (·.id) s.campaigns c0.id = some c ∧
    c0.Grown c ∧ OrdersFill c0 c (ordersIn c0.id (admittedPairs rs))
  seats : s.seats ~ s0.seats ++ admittedPairs rs

namespace Counted

variable {s0 : Store}

theorem start (hids : (s0.campaigns.map (·.id)).Nodup) : Counted s0 s0 [] where
  ids := rfl
  rows c0 hc0 := ⟨c0, findBy_of_mem _ hids hc0, .inl rfl, OrdersFill.start c0⟩
  seats := by simp [admittedPairs]

/-- A step that admits nobody or admits one participant keeps the count. -/
theorem enrolls {s s' : Store} {rs rs' : List EnrollResult} (h : Counted s0 s rs)
    {R : Enrollment → Prop} (he : Enrolls R s rs s' rs') : Counted s0 s' rs' := by
  rcases he with ⟨hcampaigns, hparticipations, -, hrs⟩ | ⟨cfg, req, locked, pid, voucher, r,
    hrow, haccepts, hcampaigns, hparticipations, -, -, hid, horder, -, hrs, -⟩
  · have hseats : s'.seats = s.seats := by
      simp only [Store.seats, hparticipations]
    have hpairs : admittedPairs rs' ~ admittedPairs rs := hrs.map _
    refine ⟨by rw [hcampaigns]; exact h.ids, ?_, ?_⟩
    · intro c0 hc0
      obtain ⟨c, hc, hgrown, hfill⟩ := h.rows c0 hc0
      refine ⟨c, by rw [hcampaigns]; exact hc, hgrown, ?_⟩
      exact hfill.perm (ordersIn_perm hpairs.symm)
    · rw [hseats]
      exact h.seats.trans (hpairs.symm.append_left _)
  · -- the admission appends the pair of the next order in the locked campaign
    have hseats : s'.seats ~ s.seats ++ [(locked.id, locked.currentParticipants + 1)] := by
      simpa [Store.seats] using hparticipations.map fun p => (p.campaignId, p.order)
    have hpairs := admittedPairs_append hrs hid horder
    have hlocked := findBy_eq_some _ hrow
    refine ⟨?_, ?_, ?_⟩
    · have hex : ∃ c ∈ s.campaigns, c.id = (EnrollStage.bumped locked).id :=
        ⟨locked, hlocked.1, rfl⟩
      rw [hcampaigns, map_upsertBy_of_exists _ hex]
      exact h.ids
    · intro c0 hc0
      obtain ⟨c, hc, hgrown, hfill⟩ := h.rows c0 hc0
      have horders : ordersIn c0.id (admittedPairs rs') ~ ordersIn c0.id (admittedPairs rs) ++
          if locked.id = c0.id then [locked.currentParticipants + 1] else [] := by
        rw [← ordersIn_append_singleton]
        exact ordersIn_perm hpairs
      by_cases hsame : locked.id = c0.id
      · -- the campaign admitted into: its committed row is the one read under the lock
        have hc_eq : c = locked := by
          rw [← hsame, hrow] at hc
          exact (Option.some.inj hc).symm
        subst hc_eq
        obtain ⟨hlt, -⟩ := Campaign.lt_max_of_accepts haccepts
        refine ⟨EnrollStage.bumped c, ?_, hgrown.bumped haccepts, ?_⟩
        · rw [hcampaigns, ← hsame]
          exact findBy_upsertBy_self _ _ _
        · rw [if_pos hsame] at horders
          exact (hfill.bumped hgrown.start_le hlt).perm horders.symm
      · refine ⟨c, ?_, hgrown, ?_⟩
        · have hne : c0.id ≠ (EnrollStage.bumped locked).id := Ne.symm hsame
          rw [hcampaigns, findBy_upsertBy_of_ne _ hne]
          exact hc
        · rw [if_neg hsame, List.append_nil] at horders
          exact hfill.perm horders.symm
    · calc s'.seats
          ~ s.seats ++ [(locked.id, locked.currentParticipants + 1)] := hseats
        _ ~ s0.seats ++ admittedPairs rs ++ [(locked.id, locked.currentParticipants + 1)] :=
          h.seats.append_right _
        _ = s0.seats ++ (admittedPairs rs ++ [(locked.id, locked.currentParticipants + 1)]) :=
          List.append_assoc _ _ _
        _ ~ s0.seats ++ admittedPairs rs' := hpairs.symm.append_left _

variable {s : Store} {rs : List EnrollResult}

theorem row_of_mem (h : Counted s0 s rs) (hids : (s0.campaigns.map (·.id)).Nodup)
    {c : Campaign} (hc : c ∈ s.campaigns) :
    ∃ c0 ∈ s0.campaigns, c0.id = c.id ∧ c0.Grown c ∧
      OrdersFill c0 c (ordersIn c.id (admittedPairs rs)) := by
  have hnd : (s.campaigns.map (·.id)).Nodup := h.ids ▸ hids
  have hmem : c.id ∈ s0.campaigns.map (·.id) := h.ids ▸ List.mem_map_of_mem hc
  obtain ⟨c0, hc0, hid⟩ := List.mem_map.1 hmem
  obtain ⟨c1, hrow, hgrown, hfill⟩ := h.rows c0 hc0
  have hc1 : c1 = c := by
    rw [hid, findBy_of_mem _ hnd hc] at hrow
    exact (Option.some.inj hrow).symm
  subst hc1
  exact ⟨c0, hc0, hid, hgrown, hid ▸ hfill⟩

theorem status_step (h : Counted s0 s rs) (hids : (s0.campaigns.map (·.id)).Nodup)
    {s' : Store} {rs' : List EnrollResult} {R : Enrollment → Prop} (he : Enrolls R s rs s' rs')
    {c c' : Campaign}
    (hc : c ∈ s.campaigns) (hc' : c' ∈ s'.campaigns) (hid : c'.id = c.id) :
    (c'.status ≠ c.status → c.status = .active ∧ c'.status = .full ∧
        ordersIn c.id (admittedPairs rs') ~
          ordersIn c.id (admittedPairs rs) ++ [c'.maxParticipants]) ∧
      (c.status = .full →
        c' = c ∧ ordersIn c.id (admittedPairs rs') ~ ordersIn c.id (admittedPairs rs)) := by
  have hnd : (s.campaigns.map (·.id)).Nodup := h.ids ▸ hids
  rcases he with ⟨hcampaigns, -, -, hrs⟩ | ⟨cfg, req, locked, pid, voucher, r, hrow, haccepts,
    hcampaigns, -, -, -, hrid, horder, -, hrs, -⟩
  · -- no row written: the campaign is as it was
    rw [hcampaigns] at hc'
    have hsame : c' = c := List.inj_on_of_nodup_map hnd hc' hc hid
    subst hsame
    exact ⟨fun hne => absurd rfl hne, fun _ => ⟨rfl, ordersIn_perm (hrs.map _)⟩⟩
  · have horders : ordersIn c.id (admittedPairs rs') ~ ordersIn c.id (admittedPairs rs) ++
        if locked.id = c.id then [locked.currentParticipants + 1] else [] := by
      rw [← ordersIn_append_singleton]
      exact ordersIn_perm (admittedPairs_append hrs hrid horder)
    have hlocked := (findBy_eq_some _ hrow).1
    rw [hcampaigns] at hc'
    rcases (mem_upsertBy _).1 hc' with rfl | ⟨hc's, hne⟩
    · -- the campaign admitted into: it was active and below its capacity
      have hsame : locked = c := List.inj_on_of_nodup_map hnd hlocked hc hid
      subst hsame
      obtain ⟨hlt, hactive⟩ := Campaign.lt_max_of_accepts haccepts
      rw [if_pos rfl] at horders
      refine ⟨fun hne => ?_, fun hfull => absurd (hactive.symm.trans hfull) (by decide)⟩
      by_cases hcap : locked.currentParticipants + 1 ≥ locked.maxParticipants
      · -- full exactly at the capacity, since the counter was below it
        have hnext := Int32.toInt_add_one_of_lt hlt
        have hcapInt := Int32.le_iff_toInt_le.1 hcap
        have hltInt := Int32.lt_iff_toInt_lt.1 hlt
        have horder_eq : locked.currentParticipants + 1 = locked.maxParticipants := by
          rw [← Int32.toInt_inj]
          omega
        refine ⟨hactive, by simp [EnrollStage.bumped, hcap], ?_⟩
        rw [show (EnrollStage.bumped locked).maxParticipants = locked.maxParticipants from rfl,
          ← horder_eq]
        exact horders
      · exact absurd (by simp [EnrollStage.bumped, hcap, hactive]) hne
    · -- another campaign: untouched, and no order reported for it
      have hsame : c' = c := List.inj_on_of_nodup_map hnd hc's hc hid
      subst hsame
      have hother : locked.id ≠ c'.id := fun h => hne h.symm
      rw [if_neg hother, List.append_nil] at horders
      exact ⟨fun hne => absurd rfl hne, fun _ => ⟨rfl, horders⟩⟩

end Counted

theorem counted_reachable {s0 : Store} (hs0 : Coherent s0 [])
    (hids : (s0.campaigns.map (·.id)).Nodup)
    {requests : List (Enrollment × Ctx × EnrollRequest)} {w : World}
    (hw : (World.start s0 (enrollments requests)).Reachable w) :
    Counted s0 w.store (admissions w.threads) := by
  induction hw with
  | start =>
    show Counted s0 s0 (admissions ((enrollments requests).map Thread.start))
    rw [admissions_start]
    exact Counted.start hids
  | step e hreach ih => exact ih.enrolls ((enrollWorld_reachable hs0 hreach).step_enrolls e)

/-- Concurrent enrollments from a fresh store leave every campaign's orders gapless and
without duplicates, its counter within the capacity, the eligible answers reporting exactly
the committed orders, and its status moving only from active to full, by the admission at the
capacity, after which nobody is admitted. -/
theorem enrollment_orders_gapless {s0 : Store} (hs0 : Fresh s0)
    {requests : List (Enrollment × Ctx × EnrollRequest)} {w : World}
    (hw : (World.start s0 (enrollments requests)).Reachable w) :
    w.store.campaigns.map (·.id) = s0.campaigns.map (·.id) ∧
      (∀ c ∈ w.store.campaigns, ∃ c0 ∈ s0.campaigns, c0.id = c.id ∧
        (w.store.orders c.id).Nodup ∧
        (∀ o, o ∈ w.store.orders c.id ↔
          c0.currentParticipants < o ∧ o ≤ c.currentParticipants) ∧
        c.currentParticipants ≤ c.maxParticipants ∧
        (w.admittedOrders c.id).length =
          (c.currentParticipants.toInt - c0.currentParticipants.toInt).toNat ∧
        w.admittedOrders c.id ~ w.store.orders c.id) ∧
      ∀ e : Event, ∀ c ∈ w.store.campaigns, ∀ c' ∈ (w.step e).store.campaigns, c'.id = c.id →
        (c'.status ≠ c.status → c.status = .active ∧ c'.status = .full ∧
          (w.step e).admittedOrders c.id ~ w.admittedOrders c.id ++ [c'.maxParticipants]) ∧
        (c.status = .full → c' = c ∧ (w.step e).admittedOrders c.id ~ w.admittedOrders c.id) := by
  have hcount := counted_reachable hs0.coherent hs0.ids hw
  refine ⟨hcount.ids, ?_, ?_⟩
  · intro c hc
    obtain ⟨c0, hc0, hid, hgrown, hfill⟩ := hcount.row_of_mem hs0.ids hc
    -- a fresh store has no seat of its own, so the committed orders are the reported ones
    have hseats : w.store.seats ~ admittedPairs (admissions w.threads) := by
      simpa [Store.seats, hs0.participations] using hcount.seats
    have hreported : w.admittedOrders c.id ~ w.store.orders c.id :=
      ordersIn_perm hseats.symm
    have hcommitted := hfill.perm hreported
    exact ⟨c0, hc0, hid, hcommitted.nodup, hcommitted.mem_iff,
      hgrown.le_max (hs0.counters c0 hc0).2, hfill.length_eq, hreported⟩
  · intro e c hc c' hc' hid
    exact hcount.status_step hs0.ids
      ((enrollWorld_reachable hs0.coherent hw).step_enrolls e) hc hc' hid

def oneCampaign : Store := { campaigns := [{ (default : Campaign) with maxParticipants := 2 }] }

def newUsers (n : Nat) : List (Enrollment × Ctx × EnrollRequest) :=
  (List.range n).map fun k => (⟨1, 3, default⟩, .live, ⟨k + 1, none⟩)

theorem enrollment_orders_gapless_oneCampaign :
    Fresh oneCampaign ∧
      let w := (World.start oneCampaign (enrollments (newUsers 3))).run (World.turns 3 12)
      ∀ c ∈ w.store.campaigns, ∃ c0 ∈ oneCampaign.campaigns, c0.id = c.id ∧
        (∀ o, o ∈ w.store.orders c.id ↔
          c0.currentParticipants < o ∧ o ≤ c.currentParticipants) ∧
        c.currentParticipants ≤ c.maxParticipants := by
  have hfresh : Fresh oneCampaign := ⟨rfl, rfl, rfl, rfl, rfl, by decide, by decide⟩
  refine ⟨hfresh, fun c hc => ?_⟩
  obtain ⟨c0, hc0, hid, -, horders, hle, -⟩ :=
    (enrollment_orders_gapless hfresh (World.reachable_run _ (World.turns 3 12))).2.1 c hc
  exact ⟨c0, hc0, hid, horders, hle⟩

end Concurrent
end TopUpPromo
