import TopUpPromo.Proofs.Enrollment.Admissions

/-!
# Unpinned enrollments into the only open campaign

An enrollment that names no campaign targets the newest active first-login campaign. Let the
store have one such campaign `c`, in its window at the requests' clock, whose slots left do not
wrap around the counter's width (`Concurrent.SoleOpen`). Then a thread serving such an
enrollment knows more than its stage's facts (`EnrollStage.Knows`): its user has no
participation before its insert, its target is `c`, and a failure it carries or a rejection it
gave came after `c` was filled. `EnrollStage.knows_step` says that every call keeps this.
-/

namespace TopUpPromo

open scoped List

def Failure.rejection (f : Failure) : Bool :=
  f.hasCause .alreadyParticipated || f.hasCause .noActiveCampaign || f.hasCause .campaignFull

theorem Ctx.failure?_rejection {ctx : Ctx} {f : Failure} (h : ctx.failure? = some f) :
    f.rejection = false := by
  cases ctx <;> simp only [Ctx.failure?, Option.some.injEq, reduceCtorEq] at h <;>
    subst h <;> rfl

namespace Memory

/-- The row of campaign `id` has reached its capacity. -/
def Store.AtCapacity (s : Store) (id : Int) : Prop :=
  ∃ cc, findBy (·.id) s.campaigns id = some cc ∧ cc.currentParticipants = cc.maxParticipants

def Store.Seatless (s : Store) (u : Int) : Prop := ∀ p ∈ s.participations, p.userId ≠ u

namespace Store

variable {s s' : Store}

theorem AtCapacity.of_eq {id : Int} (h : s.AtCapacity id) (hc : s'.campaigns = s.campaigns) :
    s'.AtCapacity id := by
  unfold AtCapacity
  rw [hc]
  exact h

theorem Seatless.of_eq {u : Int} (h : s.Seatless u) (hp : s'.participations = s.participations) :
    s'.Seatless u := by
  unfold Seatless
  rw [hp]
  exact h

theorem findLatestActiveCampaign_ok {kind : String} {c : Campaign}
    (h : s.findLatestActiveCampaign kind = .ok c) :
    c ∈ s.campaigns ∧ c.status = .active ∧ c.kind = kind := by
  unfold findLatestActiveCampaign at h
  cases hhead : (s.listActiveCampaigns.filter (·.kind == kind)).head? with
  | none => simp [hhead] at h
  | some c' =>
    simp only [hhead, Except.ok.injEq] at h
    subst h
    have hmem := List.mem_filter.1 (List.mem_of_mem_head? hhead)
    have hlisted := hmem.1
    unfold listActiveCampaigns at hlisted
    rw [List.mem_mergeSort, List.mem_filter] at hlisted
    exact ⟨hlisted.1, by simpa using hlisted.2, by simpa using hmem.2⟩

theorem findLatestActiveCampaign_error {kind : String} {e : Failure}
    (h : s.findLatestActiveCampaign kind = .error e) :
    e = .cause .storeNotFound ∧ ∀ c ∈ s.campaigns, c.status = .active → c.kind ≠ kind := by
  unfold findLatestActiveCampaign at h
  cases hhead : (s.listActiveCampaigns.filter (·.kind == kind)).head? with
  | some c' => simp [hhead] at h
  | none =>
    simp only [hhead, Except.error.injEq] at h
    refine ⟨h.symm, fun c hc hactive hkind => ?_⟩
    rw [List.head?_eq_none_iff, List.filter_eq_nil_iff] at hhead
    have hlisted : c ∈ s.listActiveCampaigns := by
      unfold listActiveCampaigns
      rw [List.mem_mergeSort, List.mem_filter]
      exact ⟨hc, by simp [hactive]⟩
    exact hhead c hlisted (by simp [hkind])

theorem hasParticipation_of_seatless {u : Int} (h : s.Seatless u) (kind : String) :
    s.hasParticipation u kind = false := by
  unfold hasParticipation
  rw [List.any_eq_false]
  intro k hk
  simp only [participationKeys, List.mem_map] at hk
  obtain ⟨p, hp, rfl⟩ := hk
  simp [h p hp]

end Store

namespace Tx

variable {s : Store} {t : Tx} {e : Failure}

theorem lock_rejection {ctx : Ctx} {k : LockKey} (h : (lock ctx k s t).1 = .error e) :
    e.rejection = false := by
  unfold lock at h
  by_cases hheld : k ∈ t.held
  · simp [hheld] at h
  · cases hholder : s.holderOf k with
    | none => simp [hheld, hholder] at h
    | some holder =>
      cases hf : ctx.failure? with
      | some f =>
        simp only [List.contains_iff_mem, hheld, hholder, hf, if_false, Except.error.injEq] at h
        subst h
        exact Ctx.failure?_rejection hf
      | none =>
        simp only [List.contains_iff_mem, hheld, hholder, hf, if_false] at h
        split at h <;> simp only [Except.error.injEq, reduceCtorEq] at h <;> subst h <;> rfl

theorem updateCampaignParticipants_error {id : Int} {current : Int32} {status : CampaignStatus}
    (h : (updateCampaignParticipants id current status s t).1 = .error e) :
    e = .cause .storeStale := by
  unfold updateCampaignParticipants at h
  split at h
  · simpa using h.symm
  · split at h
    · simpa using h.symm
    · simp at h

theorem updateParticipationStatus_error {id : Int} {status : ParticipationStatus} {stamp : Instant}
    (h : (updateParticipationStatus id status stamp s t).1 = .error e) :
    e = .cause .storeStale := by
  unfold updateParticipationStatus at h
  split at h
  · simpa using h.symm
  · simp at h

theorem createVoucher_error {v : Voucher} (h : (createVoucher v s t).1 = .error e) :
    e = .cause .storeConflict := by
  unfold createVoucher at h
  split at h
  · simpa using h.symm
  · simp at h

end Tx

namespace Backend

theorem step_answer {α : Type} (s : Store) (t : Tx) (f : TxStep α) :
    (Backend.step ⟨s, some t⟩ f).1 = (f s t).1 := by
  rcases h : f s t with ⟨r, s', t'⟩
  simp only [Backend.step, h]

theorem finish_error {α : Type} (b : Backend) (ctx : Ctx) (f : Failure) :
    (b.finish ctx (.error f : Except Failure α)).1 = .error f := by
  unfold finish
  cases b.current <;> rfl

theorem finish_ok_rejection {α : Type} {b : Backend} {ctx : Ctx} {x : α} {g : Failure}
    (h : (b.finish ctx (.ok x)).1 = .error g) : g.rejection = false := by
  unfold finish at h
  cases hcur : b.current with
  | none => simp [hcur] at h
  | some t =>
    cases hf : ctx.failure? with
    | none => simp [hcur, hf] at h
    | some f =>
      simp only [hcur, hf, Except.error.injEq] at h
      subst h
      -- the context's failure under the commit's context
      have hctx : f.rejection = false := Ctx.failure?_rejection hf
      exact hctx

end Backend

end Memory

namespace Concurrent

open Memory

/-- The row of the campaign being filled: a first-login campaign in its window at `t`, whose
slots left do not wrap, active below its capacity or full at it. -/
structure Filling (t : Instant) (cc : Campaign) : Prop where
  kind : cc.kind = firstLoginDiscount
  window : cc.inWindow t = true
  slots : cc.maxParticipants.toInt - cc.currentParticipants.toInt ≤ Int32.maxValue.toInt
  status : (cc.status = .active ∧ cc.currentParticipants < cc.maxParticipants) ∨
    (cc.status = .full ∧ cc.currentParticipants = cc.maxParticipants)

namespace Filling

variable {t : Instant} {cc : Campaign}

theorem eq_max_of_not_active (h : Filling t cc) (hne : cc.status ≠ .active) :
    cc.currentParticipants = cc.maxParticipants := by
  rcases h.status with ⟨hactive, -⟩ | ⟨-, heq⟩
  · exact absurd hactive hne
  · exact heq

theorem remainingSlots_pos (h : Filling t cc) (hactive : cc.status = .active) :
    cc.remainingSlots > 0 := by
  have hlt : cc.currentParticipants < cc.maxParticipants := by
    rcases h.status with ⟨-, hlt⟩ | ⟨hfull, -⟩
    · exact hlt
    · rw [hactive] at hfull
      cases hfull
  have hltInt := Int32.lt_iff_toInt_lt.1 hlt
  have hslots := h.slots
  have hlow := Int32.le_toInt cc.currentParticipants
  rw [Int32.toInt_maxValue] at hslots
  unfold Campaign.remainingSlots
  rw [if_neg (Int32.not_le.2 hlt), gt_iff_lt, Int32.lt_iff_toInt_lt, Int32.toInt_sub,
    Int32.toInt_zero, Int.bmod_eq_of_le] <;> omega

theorem accepts (h : Filling t cc) (hactive : cc.status = .active) :
    cc.acceptsParticipants t = true := by
  have hslots := h.remainingSlots_pos hactive
  simp [Campaign.acceptsParticipants, hactive, h.window, hslots]

theorem eq_max_of_full (h : Filling t cc)
    (hfull : (cc.remainingSlots == 0 || cc.status == .full) = true) :
    cc.currentParticipants = cc.maxParticipants := by
  by_cases hactive : cc.status = .active
  · have hpos := h.remainingSlots_pos hactive
    simp only [Bool.or_eq_true, beq_iff_eq, hactive, reduceCtorEq, or_false] at hfull
    rw [hfull] at hpos
    exact absurd hpos Int32.lt_irrefl
  · exact h.eq_max_of_not_active hactive

theorem eq_max_of_refuses (h : Filling t cc) (hrefuses : (!cc.acceptsParticipants t) = true) :
    cc.currentParticipants = cc.maxParticipants := by
  by_cases hactive : cc.status = .active
  · rw [h.accepts hactive] at hrefuses
    cases hrefuses
  · exact h.eq_max_of_not_active hactive

theorem bumped {now : Instant} (h : Filling t cc) (haccepts : cc.acceptsParticipants now = true) :
    Filling t (EnrollStage.bumped cc) := by
  obtain ⟨hlt, -⟩ := Campaign.lt_max_of_accepts haccepts
  have hnext := Int32.toInt_add_one_of_lt hlt
  have hltInt := Int32.lt_iff_toInt_lt.1 hlt
  have hslots := h.slots
  refine ⟨h.kind, h.window, ?_, ?_⟩
  · show cc.maxParticipants.toInt - (cc.currentParticipants + 1).toInt ≤ Int32.maxValue.toInt
    rw [hnext]
    omega
  · by_cases hcap : cc.currentParticipants + 1 ≥ cc.maxParticipants
    · -- the last slot: full exactly at the capacity
      have hcapInt := Int32.le_iff_toInt_le.1 hcap
      refine .inr ⟨by simp [EnrollStage.bumped, hcap], ?_⟩
      show cc.currentParticipants + 1 = cc.maxParticipants
      rw [← Int32.toInt_inj]
      omega
    · exact .inl ⟨by simp [EnrollStage.bumped, hcap], Int32.not_le.1 hcap⟩

end Filling

/-- The store's only active first-login campaign is `c`, and the row of `c` is being filled at
`t`. -/
structure SoleOpen (c : Campaign) (t : Instant) (s : Store) : Prop where
  ids : (s.campaigns.map (·.id)).Nodup
  only : ∀ cc ∈ s.campaigns, cc.status = .active → cc.kind = firstLoginDiscount → cc.id = c.id
  row : ∃ cc, findBy (·.id) s.campaigns c.id = some cc ∧ Filling t cc

namespace SoleOpen

variable {c : Campaign} {t : Instant} {s : Store}

theorem atCapacity_of_closed (h : SoleOpen c t s)
    (hclosed : ∀ cc ∈ s.campaigns, cc.status = .active → cc.kind ≠ firstLoginDiscount) :
    s.AtCapacity c.id := by
  obtain ⟨cc, hrow, hfill⟩ := h.row
  have hmem := (findBy_eq_some _ hrow).1
  have hshut : cc.status ≠ .active := fun hactive => hclosed cc hmem hactive hfill.kind
  exact ⟨cc, hrow, hfill.eq_max_of_not_active hshut⟩

theorem filling_of_mem (h : SoleOpen c t s) {cc : Campaign} (hcc : cc ∈ s.campaigns)
    (hid : cc.id = c.id) : Filling t cc := by
  obtain ⟨row, hrow, hfill⟩ := h.row
  have hfind := findBy_of_mem _ h.ids hcc
  rw [hid, hrow] at hfind
  cases hfind
  exact hfill

theorem enrolls (h : SoleOpen c t s) {s' : Store} {rs rs' : List EnrollResult}
    {R : Enrollment → Prop} (he : Enrolls R s rs s' rs') : SoleOpen c t s' := by
  rcases he with ⟨hcampaigns, -⟩ | ⟨cfg, req, locked, pid, voucher, r, hrow, haccepts,
    hcampaigns, -⟩
  · refine ⟨?_, ?_, ?_⟩ <;> rw [hcampaigns]
    · exact h.ids
    · exact h.only
    · exact h.row
  · have hlocked := (findBy_eq_some _ hrow).1
    obtain ⟨-, hactive⟩ := Campaign.lt_max_of_accepts haccepts
    refine ⟨?_, ?_, ?_⟩
    · have hex : ∃ cc ∈ s.campaigns, cc.id = (EnrollStage.bumped locked).id :=
        ⟨locked, hlocked, rfl⟩
      rw [hcampaigns, map_upsertBy_of_exists _ hex]
      exact h.ids
    · intro cc hcc hstatus hkind
      rw [hcampaigns] at hcc
      rcases (mem_upsertBy _).1 hcc with rfl | ⟨hcc, -⟩
      · -- the bumped row keeps its kind, and was active
        exact h.only locked hlocked hactive hkind
      · exact h.only cc hcc hstatus hkind
    · obtain ⟨row, hrowc, hfill⟩ := h.row
      rw [hcampaigns]
      by_cases hsame : locked.id = c.id
      · -- the admission is into `c`: its row is the locked one, bumped
        have hrow_eq : row = locked := by
          rw [← hsame, hrow] at hrowc
          exact (Option.some.inj hrowc).symm
        subst hrow_eq
        refine ⟨EnrollStage.bumped row, ?_, hfill.bumped haccepts⟩
        rw [← hsame]
        exact findBy_upsertBy_self _ _ _
      · have hne : c.id ≠ (EnrollStage.bumped locked).id := Ne.symm hsame
        rw [findBy_upsertBy_of_ne _ hne]
        exact ⟨row, hrowc, hfill⟩

end SoleOpen

theorem Enrolls.atCapacity {s s' : Store} {rs rs' : List EnrollResult} {id : Int}
    {R : Enrollment → Prop} (he : Enrolls R s rs s' rs') (h : s.AtCapacity id) :
    s'.AtCapacity id := by
  rcases he with ⟨hcampaigns, -⟩ | ⟨cfg, req, locked, pid, voucher, r, hrow, haccepts,
    hcampaigns, -⟩
  · exact h.of_eq hcampaigns
  · obtain ⟨cc, hcc, hfull⟩ := h
    have hne : id ≠ (EnrollStage.bumped locked).id := by
      intro hid
      rw [show (EnrollStage.bumped locked).id = locked.id from rfl] at hid
      rw [hid, hrow] at hcc
      cases hcc
      obtain ⟨hlt, -⟩ := Campaign.lt_max_of_accepts haccepts
      rw [hfull] at hlt
      exact Int32.lt_irrefl hlt
    refine ⟨cc, ?_, hfull⟩
    rw [hcampaigns, findBy_upsertBy_of_ne _ hne]
    exact hcc

namespace EnrollStage

/-- What an unpinned enrollment of user `u` knows of `c`, the store's only open first-login
campaign, at each stage: the user has no participation before its insert, the target is `c`,
and a rejection comes once `c` is full. -/
def Knows (c : Campaign) (s : Store) (u : Int) : EnrollStage → Prop
  | .start | .checked => s.Seatless u
  | .opening cc | .locking cc | .reading cc | .seating cc _ => cc.id = c.id ∧ s.Seatless u
  | .counting cc _ _ | .drawing cc _ _ _ | .issuing cc _ _ _ _ | .marking cc _ _ _ _
    | .committing cc _ _ _ => cc.id = c.id
  | .aborting cc f => cc.id = c.id ∧ f.hasCause .alreadyParticipated = false ∧
      (f.rejection = true → s.AtCapacity c.id)
  | .finished (.ok r) => (r.eligible = true → r.campaignId = c.id) ∧
      (r.eligible = false →
        (r.reason = some .noActiveCampaign ∨ r.reason = some .campaignFull) ∧ s.AtCapacity c.id)
  | .finished (.error _) => True

section Knowing

variable {c : Campaign} {s s' : Store} {u : Int}

theorem Knows.mono {st : EnrollStage} (h : st.Knows c s u) (hseat : s.Seatless u → s'.Seatless u)
    (hcap : s.AtCapacity c.id → s'.AtCapacity c.id) : st.Knows c s' u := by
  cases st with
  | start | checked => exact hseat h
  | opening | locking | reading | seating =>
    obtain ⟨hid, hseated⟩ := h
    exact ⟨hid, hseat hseated⟩
  | counting | drawing | issuing | marking | committing => exact h
  | aborting cc f =>
    obtain ⟨hid, halready, hfull⟩ := h
    exact ⟨hid, halready, fun hr => hcap (hfull hr)⟩
  | finished result =>
    cases result with
    | error e => trivial
    | ok r =>
      obtain ⟨hadmitted, hrejected⟩ := h
      exact ⟨hadmitted, fun hne => ⟨(hrejected hne).1, hcap (hrejected hne).2⟩⟩

theorem Knows.of_admits {st : EnrollStage} (h : st.Knows c s u) (hadmits : st.admits.isSome) :
    st.Knows c s' u := by
  cases st with
  | finished result =>
    cases result with
    | error e => trivial
    | ok r =>
      obtain ⟨hadmitted, -⟩ := h
      have heligible : r.eligible = true := by
        by_contra hne
        simp [admits, hne] at hadmits
      exact ⟨hadmitted, fun hne => absurd (heligible.symm.trans hne) (by decide)⟩
  | start | checked | opening | locking | reading | seating | counting | drawing | issuing
    | marking | committing | aborting => simp [admits] at hadmits

theorem knows_aborting {cc : Campaign} {f : Failure} (hid : cc.id = c.id)
    (hf : f.rejection = false) : (aborting cc f).Knows c s u := by
  simp only [Failure.rejection, Bool.or_eq_false_iff] at hf
  refine ⟨hid, hf.1.1, fun hr => ?_⟩
  simp [Failure.rejection, hf.1.1, hf.1.2, hf.2] at hr

theorem knows_draw {cfg : Enrollment} {cc locked : Campaign} {pid : Int} (hid : cc.id = c.id)
    (k : Nat) : (draw cfg cc locked pid k).Knows c s u := by
  cases k with
  | zero => exact knows_aborting hid rfl
  | succ k => exact hid

theorem knows_settle_error {cfg : Enrollment} {cc : Campaign} {f : Failure}
    (hf : f.rejection = false) : (finished (cfg.settle cc (.error f))).Knows c s u := by
  simp only [Failure.rejection, Bool.or_eq_false_iff] at hf
  obtain ⟨⟨halready, hnone⟩, hfull⟩ := hf
  simp only [Enrollment.settle, hfull, hnone, halready, Bool.false_eq_true, if_false]
  trivial

end Knowing

/-! ## The calls of each stage -/

section Stages

variable {c : Campaign} {t : Instant} {cfg : Enrollment} {ctx : Ctx} {req : EnrollRequest}
  {s : Store} {tx : Option Tx} {call : Call} {after : call.Answer → EnrollStage}

theorem knows_start (hk : Knows c s req.userId .start)
    (hM : move cfg ctx req .start = .call call after) (o : Oracle) :
    (after (call.perform o ⟨s, tx⟩).1).Knows c s req.userId := by
  cases hM
  have hnone : s.hasParticipation req.userId firstLoginDiscount = false :=
    Store.hasParticipation_of_seatless hk _
  simp only [Call.perform, hnone]
  exact hk

theorem knows_checked (hsole : SoleOpen c t s) (hnow : cfg.now = t)
    (hpin : req.campaignId = none) (hk : Knows c s req.userId .checked)
    (hM : move cfg ctx req .checked = .call call after) (o : Oracle) :
    (after (call.perform o ⟨s, tx⟩).1).Knows c s req.userId := by
  unfold move at hM
  rw [hpin] at hM
  cases hM
  show (afterTarget cfg (s.findLatestActiveCampaign firstLoginDiscount)).Knows c s req.userId
  cases hfind : s.findLatestActiveCampaign firstLoginDiscount with
  | error e =>
    -- no open campaign left: `c` is full
    obtain ⟨rfl, hclosed⟩ := Store.findLatestActiveCampaign_error hfind
    have hcap := hsole.atCapacity_of_closed hclosed
    have hnotFound : (Failure.cause .storeNotFound).hasCause .storeNotFound = true := rfl
    simp only [afterTarget]
    rw [if_pos hnotFound]
    exact ⟨fun h => by simp [EnrollResult.rejected] at h, fun _ => ⟨.inl rfl, hcap⟩⟩
  | ok cc =>
    -- the newest open campaign is `c`, which takes participants
    obtain ⟨hcc, hactive, hkind⟩ := Store.findLatestActiveCampaign_ok hfind
    have hid := hsole.only cc hcc hactive hkind
    have haccepts : cc.acceptsParticipants cfg.now = true := by
      rw [hnow]
      exact (hsole.filling_of_mem hcc hid).accepts hactive
    simp only [afterTarget, hkind, haccepts, bne_self_eq_false, Bool.not_true, Bool.or_self,
      Bool.false_eq_true, if_false]
    exact ⟨hid, hk⟩

theorem knows_opening {cc : Campaign} (hk : Knows c s req.userId (.opening cc))
    (hM : move cfg ctx req (.opening cc) = .call call after) (o : Oracle) :
    (after (call.perform o ⟨s, tx⟩).1).Knows c s req.userId := by
  cases hM
  exact hk

theorem knows_locking {cc : Campaign} (hh : Holds cfg req s tx (.locking cc))
    (hk : Knows c s req.userId (.locking cc))
    (hM : move cfg ctx req (.locking cc) = .call call after) (o : Oracle) :
    (after (call.perform o ⟨s, tx⟩).1).Knows c s req.userId := by
  cases hM
  obtain ⟨ow, rfl⟩ := hh
  obtain ⟨hid, hseat⟩ := hk
  simp only [Call.perform, Backend.step_answer]
  split
  · rename_i e hlock
    have hwait : e.rejection = false := Tx.lock_rejection hlock
    exact knows_aborting hid hwait
  · exact ⟨hid, hseat⟩

theorem knows_reading {cc : Campaign} (hsole : SoleOpen c t s) (hnow : cfg.now = t)
    (hh : Holds cfg req s tx (.reading cc)) (hk : Knows c s req.userId (.reading cc))
    (hM : move cfg ctx req (.reading cc) = .call call after) (o : Oracle) :
    (after (call.perform o ⟨s, tx⟩).1).Knows c s req.userId := by
  cases hM
  obtain ⟨ow, rfl⟩ := hh
  obtain ⟨hid, hseat⟩ := hk
  obtain ⟨row, hrow, hfill⟩ := hsole.row
  simp only [Call.perform, Backend.step_answer, Tx.readCampaign_eq]
  rw [Tx.campaign_of_unstaged rfl, hid, hrow]
  -- the re-check under the lock sees the row being filled
  show (afterRead cfg cc (.ok row)).Knows c s req.userId
  simp only [afterRead]
  split
  · rename_i hfull
    exact ⟨hid, rfl, fun _ => ⟨row, hrow, hfill.eq_max_of_full hfull⟩⟩
  · split
    · rename_i hrefuses
      rw [hnow] at hrefuses
      exact ⟨hid, rfl, fun _ => ⟨row, hrow, hfill.eq_max_of_refuses hrefuses⟩⟩
    · exact ⟨hid, hseat⟩

theorem knows_seating {cc locked : Campaign} (hh : Holds cfg req s tx (.seating cc locked))
    (hk : Knows c s req.userId (.seating cc locked))
    (hown : ∀ k ∈ s.reservedKeys, k.1 = req.userId → ∃ t, tx = some t ∧ k ∈ t.newKeys.map (·.1))
    (hM : move cfg ctx req (.seating cc locked) = .call call after) (o : Oracle) :
    (after (call.perform o ⟨s, tx⟩).1).Knows c s req.userId := by
  cases hM
  obtain ⟨ow, rfl, -⟩ := hh
  obtain ⟨hid, hseat⟩ := hk
  -- the user's key is free: no committed seat, and no reservation but the thread's own, which
  -- has none yet
  have hfree : ¬(((cfg.seat req locked).userId, (cfg.seat req locked).campaignId) ∈
      s.participationKeys ∨
      ((cfg.seat req locked).userId, (cfg.seat req locked).campaignId) ∈ s.reservedKeys) := by
    rintro (hkey | hkey)
    · simp only [Store.participationKeys, List.mem_map, Prod.mk.injEq] at hkey
      obtain ⟨p, hp, huser, -⟩ := hkey
      exact hseat p hp huser
    · obtain ⟨t', ht', hkey'⟩ := hown _ hkey rfl
      cases ht'
      simp [admissionTx] at hkey'
  simp only [Call.perform, Backend.step_answer]
  rw [Tx.createParticipation_of_free hfree]
  exact hid

theorem knows_counting {cc locked : Campaign} {pid : Int}
    (hh : Holds cfg req s tx (.counting cc locked pid))
    (hk : Knows c s req.userId (.counting cc locked pid))
    (hM : move cfg ctx req (.counting cc locked pid) = .call call after) (o : Oracle) :
    (after (call.perform o ⟨s, tx⟩).1).Knows c s req.userId := by
  cases hM
  obtain ⟨ow, rfl, -⟩ := hh
  simp only [Call.perform, Backend.step_answer]
  split
  · rename_i e hupdate
    have hstale := Tx.updateCampaignParticipants_error hupdate
    subst hstale
    exact knows_aborting hk rfl
  · split
    · exact knows_draw hk _
    · exact hk

theorem knows_drawing {cc locked : Campaign} {pid : Int} {left : Nat}
    (hk : Knows c s req.userId (.drawing cc locked pid left))
    (hM : move cfg ctx req (.drawing cc locked pid left) = .call call after) (o : Oracle) :
    (after (call.perform o ⟨s, tx⟩).1).Knows c s req.userId := by
  cases hM
  simp only [Call.perform]
  -- the code source fails with a text of its own
  cases hcode : o.code with
  | error m =>
    simp only [Except.mapError_error]
    exact knows_aborting hk rfl
  | ok code =>
    simp only [Except.mapError_ok]
    exact hk

theorem knows_issuing {cc locked : Campaign} {pid : Int} {left : Nat} {code : String}
    (hh : Holds cfg req s tx (.issuing cc locked pid left code))
    (hk : Knows c s req.userId (.issuing cc locked pid left code))
    (hM : move cfg ctx req (.issuing cc locked pid left code) = .call call after) (o : Oracle) :
    (after (call.perform o ⟨s, tx⟩).1).Knows c s req.userId := by
  cases hM
  obtain ⟨ow, rfl, -⟩ := hh
  simp only [Call.perform, Backend.step_answer]
  split
  · -- a taken code: the next one is drawn, or the issue gives up
    rename_i e hcreate
    have hconflict := Tx.createVoucher_error hcreate
    subst hconflict
    have hretry : (Failure.cause .storeConflict).hasCause .storeConflict = true := rfl
    rw [if_pos hretry]
    exact knows_draw hk _
  · exact hk

theorem knows_marking {cc locked : Campaign} {pid : Int} {code : String} {vid : Int}
    (hh : Holds cfg req s tx (.marking cc locked pid code vid))
    (hk : Knows c s req.userId (.marking cc locked pid code vid))
    (hM : move cfg ctx req (.marking cc locked pid code vid) = .call call after) (o : Oracle) :
    (after (call.perform o ⟨s, tx⟩).1).Knows c s req.userId := by
  cases hM
  obtain ⟨ow, rfl, -⟩ := hh
  simp only [Call.perform, Backend.step_answer]
  split
  · rename_i e hmark
    have hstale := Tx.updateParticipationStatus_error hmark
    subst hstale
    exact knows_aborting hk rfl
  · exact hk

theorem knows_committing {cc locked : Campaign} {pid : Int} {voucher : Option (String × Int)}
    (hk : Knows c s req.userId (.committing cc locked pid voucher))
    (hM : move cfg ctx req (.committing cc locked pid voucher) = .call call after)
    (o : Oracle) : (after (call.perform o ⟨s, tx⟩).1).Knows c s req.userId := by
  cases hM
  simp only [Call.perform]
  rcases hfinish : (Backend.finish ⟨s, tx⟩ ctx (.ok ())).1 with g | _
  · -- the commit failed on the context: an error, no answer
    exact knows_settle_error (Backend.finish_ok_rejection hfinish)
  · -- the admission, into the target
    exact ⟨fun _ => hk, fun hne => by simp at hne⟩

theorem knows_abort {cc : Campaign} {f : Failure} (hk : Knows c s req.userId (.aborting cc f))
    (hM : move cfg ctx req (.aborting cc f) = .call call after) (o : Oracle) :
    (after (call.perform o ⟨s, tx⟩).1).Knows c s req.userId := by
  cases hM
  obtain ⟨hid, halready, hcap⟩ := hk
  simp only [Call.perform, Backend.finish_error]
  show (finished (cfg.settle cc (.error f))).Knows c s req.userId
  simp only [Enrollment.settle]
  -- the body's failure is a rejection only once `c` is full, and never an earlier seat
  by_cases hfull : f.hasCause .campaignFull = true
  · rw [if_pos hfull]
    exact ⟨fun h => by simp [EnrollResult.rejected] at h,
      fun _ => ⟨.inr rfl, hcap (by simp [Failure.rejection, hfull])⟩⟩
  · rw [if_neg hfull]
    by_cases hnone : f.hasCause .noActiveCampaign = true
    · rw [if_pos hnone]
      exact ⟨fun h => by simp [EnrollResult.rejected] at h,
        fun _ => ⟨.inl rfl, hcap (by simp [Failure.rejection, hnone])⟩⟩
    · rw [if_neg hnone, if_neg (by simp [halready])]
      trivial

end Stages

section Steps

variable {c : Campaign} {t : Instant} {cfg : Enrollment} {ctx : Ctx} {req : EnrollRequest}
  {s : Store} {tx : Option Tx} {call : Call} {after : call.Answer → EnrollStage}
  {st : EnrollStage}

theorem knows_of_move (hsole : SoleOpen c t s) (hnow : cfg.now = t)
    (hpin : req.campaignId = none) (hh : st.Holds cfg req s tx) (hk : st.Knows c s req.userId)
    (hown : ∀ k ∈ s.reservedKeys, k.1 = req.userId → ∃ t, tx = some t ∧ k ∈ t.newKeys.map (·.1))
    (hM : move cfg ctx req st = .call call after) (o : Oracle) :
    (after (call.perform o ⟨s, tx⟩).1).Knows c s req.userId := by
  cases st with
  | start => exact knows_start hk hM o
  | checked => exact knows_checked hsole hnow hpin hk hM o
  | opening cc => exact knows_opening hk hM o
  | locking cc => exact knows_locking hh hk hM o
  | reading cc => exact knows_reading hsole hnow hh hk hM o
  | seating cc locked => exact knows_seating hh hk hown hM o
  | counting cc locked pid => exact knows_counting hh hk hM o
  | drawing cc locked pid left => exact knows_drawing hk hM o
  | issuing cc locked pid left code => exact knows_issuing hh hk hM o
  | marking cc locked pid code vid => exact knows_marking hh hk hM o
  | committing cc locked pid voucher => exact knows_committing hk hM o
  | aborting cc f => exact knows_abort hk hM o
  | finished result => cases hM

/-- Every call of an unpinned enrollment keeps what it knows, of the store the call leaves. -/
theorem knows_step {others : List Tx} (hlocks : LocksAgree s (tx.toList ++ others))
    (hsole : SoleOpen c t s) (hnow : cfg.now = t) (hpin : req.campaignId = none)
    (hh : st.Holds cfg req s tx) (hk : st.Knows c s req.userId)
    (hown : ∀ k ∈ s.reservedKeys, k.1 = req.userId → ∃ t, tx = some t ∧ k ∈ t.newKeys.map (·.1))
    (hM : move cfg ctx req st = .call call after) (o : Oracle) :
    (after (call.perform o ⟨s, tx⟩).1).Knows c (call.perform o ⟨s, tx⟩).2.store req.userId := by
  have hknown := knows_of_move hsole hnow hpin hh hk hown hM o
  obtain ⟨-, -, hadmits⟩ := steps_of_move hlocks hh hM o
  rcases hadmits with ⟨-, hcampaigns, hparticipations, -⟩ |
    ⟨campaign, locked, pid, voucher, t', -, -, -, hadmission⟩
  · -- no row written
    exact hknown.mono (fun h => h.of_eq hparticipations) (fun h => h.of_eq hcampaigns)
  · -- the commit of an admission: its answer holds whatever the store
    obtain ⟨r, hr, -⟩ := Enrollment.settle_ok cfg campaign (admission locked voucher)
    refine hknown.of_admits ?_
    rw [hadmission, hr]
    rfl

end Steps



end EnrollStage

end Concurrent

end TopUpPromo
