import TopUpPromo.Proofs.Enrollment.Invariant

/-!
# Admissions

A step of a world of enrollments admits at most one participant, and then in one commit: the
campaign row the thread read under the campaign's lock, which is still the committed one, gets
one more participant; the participation and, within the threshold, the voucher it staged join
the committed rows under fresh ids; and the thread answers with an eligible result carrying
the participation's order and the voucher's code. Every other step writes no row and gives no
new eligible answer. `Enrolls` says so, and `EnrollWorld.step_enrolls` proves it of every step.
The run invariants of concurrent enrollments follow from it by induction over the run: the
counts of the campaigns (`counted_reachable`), the unpinned admissions (`unpinned_reachable`)
and the vouchers in step with the participations (`vouchered_reachable`).
-/

namespace TopUpPromo
namespace Concurrent

open Memory
open scoped List

/-- The eligible answers given so far by a list of threads. -/
def admissions (threads : List Thread) : List EnrollResult := threads.filterMap Thread.admission?

theorem admissions_cons (th : Thread) (threads : List Thread) :
    admissions (th :: threads) = th.admission?.toList ++ admissions threads := by
  cases h : th.admission? <;> simp [admissions, h]

theorem admissions_perm {threads threads' : List Thread} (hp : threads ~ threads') :
    admissions threads ~ admissions threads' :=
  hp.filterMap _

theorem admissions_start (requests : List (Enrollment × Ctx × EnrollRequest)) :
    admissions ((enrollments requests).map Thread.start) = [] := by
  simp only [admissions, List.filterMap_eq_nil_iff, enrollments, List.map_map, List.mem_map,
    Function.comp_apply]
  rintro th ⟨⟨cfg, ctx, req⟩, -, rfl⟩
  have hfollows : (Thread.start (.enroll cfg ctx req)).program.Follows
      (EnrollStage.move cfg ctx req) .start :=
    EnrollStage.follows_start cfg ctx req
  exact EnrollStage.admission?_of_follows hfollows

theorem Enrollment.settle_ok (cfg : Enrollment) (campaign : Campaign) (a : Admission) :
    ∃ r, (cfg.settle campaign (.ok a)).toOption = some r ∧ r.eligible = true ∧
      r.campaignId = campaign.id ∧ r.order = a.order ∧ r.remainingSlots = a.remaining ∧
      r.voucherCode = a.voucherCode.getD "" :=
  ⟨_, rfl, rfl, rfl, rfl, rfl, rfl⟩

namespace EnrollStage

variable {cfg : Enrollment} {req : EnrollRequest}

theorem Holds.commit {s : Store} {t : Tx} {txs : List Tx} {campaign locked : Campaign}
    {pid : Int} {voucher : Option (String × Int)}
    (hh : (committing campaign locked pid voucher).Holds cfg req s (some t))
    (hc : Coherent s (t :: txs)) :
    (t.commit s).campaigns = upsertBy (·.id) s.campaigns (bumped locked) ∧
      (t.commit s).participations ~ s.participations ++ [seatAt cfg req locked pid voucher] ∧
      (t.commit s).vouchers ~
        s.vouchers ++ (voucher.map fun v => issued cfg req locked pid v.1 v.2).toList := by
  obtain ⟨o, ht, -⟩ := hh
  cases ht
  have hkey : ((req.userId, locked.id), pid) ∈ (admissionTx o campaign [bumped locked]
      (some (seatAt cfg req locked pid voucher))
      (voucher.map fun v => issued cfg req locked pid v.1 v.2)).newKeys := by
    simp [admissionTx]
  have hpid : pid ∉ s.participations.map (·.id) :=
    hc.reserved.participations.id_not_mem hkey
  refine ⟨by simp [admissionTx], ?_, ?_⟩
  · -- the participation's id is fresh, so the upsert appends it
    simp only [Tx.commit_participations, admissionTx, Option.toList_some, List.foldl_cons,
      List.foldl_nil]
    refine upsertBy_perm_of_forall_ne _ fun p hp hid => hpid ?_
    rw [seatAt_id] at hid
    exact List.mem_map.2 ⟨p, hp, hid⟩
  · cases voucher with
    | none => simp [admissionTx]
    | some v =>
      have hcode : (v.1, v.2) ∈ (admissionTx o campaign [bumped locked]
          (some (seatAt cfg req locked pid (some v)))
          (some (issued cfg req locked pid v.1 v.2))).newCodes := by
        simp [admissionTx, issued, Voucher.issue]
      have hvid : v.2 ∉ s.vouchers.map (·.id) := hc.reserved.vouchers.id_not_mem hcode
      simp only [Tx.commit_vouchers, admissionTx, Option.map_some, Option.toList_some,
        List.foldl_cons, List.foldl_nil]
      exact upsertBy_perm_of_forall_ne _ fun w hw hid => hvid (List.mem_map.2 ⟨w, hw, hid⟩)

end EnrollStage

/-- What a step does to the committed rows and to the eligible answers, from store `s` and
answers `rs` to `s'` and `rs'`: nothing, or one admission for a configuration `R` allows. The
admission bumps a committed campaign row that accepts participants at the request's clock,
appends the participation of the next order and, exactly within the threshold, a voucher for it,
and answers with that order and the voucher's code. -/
def Enrolls (R : Enrollment → Prop) (s : Store) (rs : List EnrollResult) (s' : Store)
    (rs' : List EnrollResult) : Prop :=
  (s'.campaigns = s.campaigns ∧ s'.participations = s.participations ∧
      s'.vouchers = s.vouchers ∧ rs' ~ rs) ∨
    ∃ (cfg : Enrollment) (req : EnrollRequest) (locked : Campaign) (pid : Int)
      (voucher : Option (String × Int)) (r : EnrollResult),
      findBy (·.id) s.campaigns locked.id = some locked ∧
      locked.acceptsParticipants cfg.now = true ∧
      s'.campaigns = upsertBy (·.id) s.campaigns (EnrollStage.bumped locked) ∧
      s'.participations ~ s.participations ++ [EnrollStage.seatAt cfg req locked pid voucher] ∧
      s'.vouchers ~ s.vouchers ++
        (voucher.map fun v => EnrollStage.issued cfg req locked pid v.1 v.2).toList ∧
      (EnrollStage.seated cfg req locked pid).withinThreshold cfg.threshold = voucher.isSome ∧
      r.campaignId = locked.id ∧ r.order = locked.currentParticipants + 1 ∧
      r.voucherCode = (voucher.map (·.1)).getD "" ∧ rs' ~ rs ++ [r] ∧ R cfg

theorem Enrolls.perm {R : Enrollment → Prop} {s s' : Store} {rs rs' qs qs' : List EnrollResult}
    (h : Enrolls R s rs s' rs') (hrs : rs ~ qs) (hrs' : rs' ~ qs') : Enrolls R s qs s' qs' := by
  rcases h with ⟨hc, hp, hv, hsame⟩ | ⟨cfg, req, locked, pid, voucher, r, hrow, haccepts,
    hc, hp, hv, hthreshold, hid, horder, hcode, hadmitted, hcfg⟩
  · exact .inl ⟨hc, hp, hv, hrs'.symm.trans (hsame.trans hrs)⟩
  · exact .inr ⟨cfg, req, locked, pid, voucher, r, hrow, haccepts, hc, hp, hv, hthreshold, hid,
      horder, hcode, hrs'.symm.trans (hadmitted.trans (hrs.append_right [r])), hcfg⟩

theorem Enrolls.mono {R R' : Enrollment → Prop} {s s' : Store} {rs rs' : List EnrollResult}
    (h : Enrolls R s rs s' rs') (hR : ∀ cfg, R cfg → R' cfg) : Enrolls R' s rs s' rs' := by
  rcases h with hsame | ⟨cfg, req, locked, pid, voucher, r, hrow, haccepts, hc, hp, hv,
    hthreshold, hid, horder, hcode, hadmitted, hcfg⟩
  · exact .inl hsame
  · exact .inr ⟨cfg, req, locked, pid, voucher, r, hrow, haccepts, hc, hp, hv, hthreshold, hid,
      horder, hcode, hadmitted, hR cfg hcfg⟩

theorem EnrollWorld.enrolls_front {s : Store} {th : Thread} {others : List Thread}
    (h : EnrollWorld s (th :: others)) (o : Oracle) :
    Enrolls (fun cfg => ∃ ctx req, th.request = .enroll cfg ctx req) s (admissions (th :: others))
      (th.step o s).1 (admissions ((th.step o s).2 :: others)) := by
  have hcoherent := h.coherent
  rw [txsOf_cons] at hcoherent
  obtain ⟨-, -, hsame | ⟨hnone, cfg, req, campaign, locked, pid, voucher, t, ⟨ctx, hreq⟩, ht, hh,
      hcommit, hadmission⟩⟩ :=
    EnrollStage.thread_step (h.threads th List.mem_cons_self) hcoherent.locks o
  · obtain ⟨hadmission, hc, hp, hv⟩ := hsame
    refine .inl ⟨hc, hp, hv, ?_⟩
    rw [admissions_cons, admissions_cons, hadmission]
  · rw [ht] at hh hcoherent
    obtain ⟨hc, hp, hv⟩ := hh.commit hcoherent
    obtain ⟨-, -, hl, hthreshold⟩ := hh
    obtain ⟨r, hr, -, hid, horder, -, hcode⟩ :=
      Enrollment.settle_ok cfg campaign (EnrollStage.admission locked voucher)
    have hrow : findBy (·.id) s.campaigns locked.id = some locked := by
      rw [hl.id_eq]
      exact hl.row
    refine .inr ⟨cfg, req, locked, pid, voucher, r, hrow, hl.accepts, ?_, ?_, ?_, hthreshold,
      hid.trans hl.id_eq.symm, horder, hcode, ?_, ctx, req, hreq⟩
    · rw [hcommit]
      exact hc
    · rw [hcommit]
      exact hp
    · rw [hcommit]
      exact hv
    · -- the moving thread's answer is the new one
      rw [admissions_cons, admissions_cons, hnone, hadmission, hr]
      exact List.perm_append_singleton r (admissions others) |>.symm

/-- Every step of a world of enrollments admits nobody, or commits one admission for the
request of one of its threads. -/
theorem EnrollWorld.step_enrolls {w : World} (h : EnrollWorld w.store w.threads) (e : Event) :
    Enrolls (fun cfg => ∃ th ∈ w.threads, ∃ ctx req, th.request = .enroll cfg ctx req) w.store
      (admissions w.threads) (w.step e).store (admissions (w.step e).threads) := by
  rcases h.step_cases e with hsame | ⟨th, others, hold, hnew, hstore, hfront⟩
  · rw [hsame]
    exact .inl ⟨rfl, rfl, rfl, List.Perm.refl _⟩
  · rw [hstore]
    have hmoving : th ∈ w.threads := hold.symm.mem_iff.1 List.mem_cons_self
    refine ((hfront.enrolls_front e.oracle).perm (admissions_perm hold.symm)
      (admissions_perm hnew.symm)).mono fun cfg hcfg => ⟨th, hmoving, hcfg⟩

end Concurrent
end TopUpPromo
