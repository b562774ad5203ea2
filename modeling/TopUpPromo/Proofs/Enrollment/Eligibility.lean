import TopUpPromo.Proofs.Enrollment.Capacity
import TopUpPromo.Proofs.Isolated.Enrollment
import TopUpPromo.Proofs.Memory.Transactions
import TopUpPromo.Service.Queries

/-!
# Eligibility against enrollment

An eligibility check and an enrollment read the store differently: the check scans every active
campaign, newest first, for one of the first-login kind that accepts participants, while an
enrollment goes for the newest active first-login campaign, or the campaign its request pins,
and checks that one again under its lock. Run on the same store at the same clock they agree: a
user the check finds not eligible is admitted by no enrollment, pinned or not, and an unpinned
enrollment that admits the user does so into the campaign the check names, leaving one slot
fewer than the check reports. The second half needs the campaign ids of the store to be
distinct, as they are in a store keyed by id: the row read under the lock is the row of the
campaign's id.

The check only reads, so it is run as a program alone against the store (`Program.runOn`); the
enrollment runs alone in a world of one thread, whatever the outside world answers.

## Main definitions

- `Program.runOn`: a program run to its end against a backend.
- `Memory.Store.eligibleCampaign?`: the campaign a check finds.
- `EnrollStage.Sees`: what an enrollment alone has read of the store it started from.

## Main results

- `checkEligibility_runOn`: what a check answers.
- `EnrollStage.sees_keeps`: every call of an enrollment alone keeps `Sees`.
- `eligibility_agrees_with_enrollment`.
-/

namespace TopUpPromo

namespace Memory

namespace Store

theorem hasParticipation_of_kept {s0 s : Store} (h : Kept s0 s) (u : Int) (kind : String) :
    s.hasParticipation u kind = s0.hasParticipation u kind := by
  simp only [hasParticipation, participationKeys, h.participations, h.campaigns]

end Store

end Memory

namespace Concurrent

open Memory

/-! ## A program run alone -/

/-- A program run to its end against backend `b`, every call answered as `o` and the backend
say. -/
def Program.runOn {α : Type} (o : Oracle) : Backend → Program α → α × Backend
  | b, .done a => (a, b)
  | b, .call c next => (next (c.perform o b).1).runOn o (c.perform o b).2

namespace Program

variable {α β : Type} (o : Oracle)

theorem runOn_bind (p : Program α) (f : α → Program β) (b : Backend) :
    (p.bind f).runOn o b = (f (p.runOn o b).1).runOn o (p.runOn o b).2 := by
  induction p generalizing b with
  | done a => rfl
  | call c next ih => exact ih _ _

end Program

/-! ## The check -/

namespace EnrollStage

variable {cfg : Enrollment} {ctx : Ctx} {req : EnrollRequest}

/-- The campaign an enrollment targets on store `s`: the one its request pins, or the newest
active campaign of the first-login kind. -/
def target (req : EnrollRequest) (s : Store) : Except Failure Campaign :=
  match req.campaignId with
  | some id => s.getCampaign id
  | none => s.findLatestActiveCampaign firstLoginDiscount

theorem target_of_campaigns {s0 s : Store} (h : s.campaigns = s0.campaigns) (req : EnrollRequest) :
    target req s = target req s0 := by
  unfold target
  split <;> simp only [Store.getCampaign, Store.findLatestActiveCampaign,
    Store.listActiveCampaigns, h]

/-- What an enrollment found on `s0` before its transaction of the campaign `c` it goes on with:
the user has no first-login participation, and `c` is its target, of the first-login kind and
accepting participants at the enrollment's clock. -/
structure Targets (s0 : Store) (cfg : Enrollment) (req : EnrollRequest) (c : Campaign) : Prop where
  fresh : s0.hasParticipation req.userId firstLoginDiscount = false
  read : target req s0 = .ok c
  kind : c.kind = firstLoginDiscount
  accepts : c.acceptsParticipants cfg.now = true

/-- An eligible answer of an enrollment from `s0`: into its target `c`, whose row under the lock
was the row `locked` of `s0`, with the slots that row leaves after the seat. -/
def Admitted (s0 : Store) (cfg : Enrollment) (req : EnrollRequest) (res : EnrollResult) : Prop :=
  ∃ c locked, Targets s0 cfg req c ∧ findBy (·.id) s0.campaigns c.id = some locked ∧
    res.campaignId = c.id ∧
    res.remainingSlots = locked.maxParticipants - (locked.currentParticipants + 1)

def seat? : EnrollStage → Option (Campaign × Campaign)
  | .seating c locked | .counting c locked _ | .drawing c locked _ _ | .issuing c locked _ _ _
  | .marking c locked _ _ _ | .committing c locked _ _ => some (c, locked)
  | _ => none

/-- What an enrollment alone from `s0`, with transaction `tx`, has read of `s0` at each stage:
from the check on, that the user has no participation; from the target on, the target; from the
read under the lock on, the row of `s0` it read; and at its end, an eligible answer is
`Admitted`. -/
def Sees (s0 : Store) (cfg : Enrollment) (req : EnrollRequest) (tx : Option Tx) :
    EnrollStage → Prop
  | .start | .aborting _ _ => True
  | .checked => s0.hasParticipation req.userId firstLoginDiscount = false
  | .opening c => Targets s0 cfg req c
  | .locking c | .reading c => Targets s0 cfg req c ∧ ∃ t, tx = some t ∧ t.campaigns = []
  | .seating c locked | .counting c locked _ | .drawing c locked _ _ | .issuing c locked _ _ _
  | .marking c locked _ _ _ | .committing c locked _ _ =>
    Targets s0 cfg req c ∧ findBy (·.id) s0.campaigns c.id = some locked
  | .finished r => ∀ res, r = .ok res → res.eligible = true → Admitted s0 cfg req res

variable {s0 : Store} {tx : Option Tx}

theorem sees_of_seat? {st : EnrollStage} {c locked : Campaign} (hseat : st.seat? = some (c, locked)) :
    Sees s0 cfg req tx st ↔ Targets s0 cfg req c ∧ findBy (·.id) s0.campaigns c.id = some locked := by
  cases st <;> simp only [seat?, reduceCtorEq, Option.some.injEq, Prod.mk.injEq] at hseat <;>
    obtain ⟨rfl, rfl⟩ := hseat <;> rfl

theorem sees_rejected (r : Reason) : Sees s0 cfg req tx (.finished (.ok (.rejected r))) := by
  intro res hres helig
  cases hres
  cases helig

theorem sees_error (e : Failure) : Sees s0 cfg req tx (.finished (.error e)) := by
  intro res hres
  cases hres

theorem settle_eligible {c : Campaign} {r : Except Failure Admission} {res : EnrollResult}
    (h : cfg.settle c r = .ok res) (helig : res.eligible = true) :
    ∃ a, r = .ok a ∧ res.campaignId = c.id ∧ res.remainingSlots = a.remaining := by
  cases r with
  | error e =>
    simp only [Enrollment.settle] at h
    split_ifs at h <;> cases h <;> cases helig
  | ok a =>
    cases h
    exact ⟨a, rfl, rfl, rfl⟩

theorem sees_afterTarget {a : Except Failure Campaign}
    (hfresh : s0.hasParticipation req.userId firstLoginDiscount = false)
    (ha : target req s0 = a) : Sees s0 cfg req tx (afterTarget cfg a) := by
  rcases a with e | c
  · simp only [afterTarget]
    split
    · exact sees_rejected _
    · exact sees_error _
  · simp only [afterTarget]
    split
    · exact sees_rejected _
    · next hgood =>
      simp only [Bool.or_eq_true, bne_iff_ne, ne_eq, Bool.not_eq_true', not_or, not_not,
        Bool.not_eq_false] at hgood
      exact ⟨hfresh, ha, hgood.1, hgood.2⟩

theorem seat?_draw (c locked : Campaign) (pid : Int) (k : Nat) :
    (draw cfg c locked pid k).seat? = some (c, locked) ∨ ∃ f, draw cfg c locked pid k = .aborting c f := by
  cases k with
  | zero => exact .inr ⟨_, rfl⟩
  | succ k => exact .inl rfl

theorem seat?_after {st : EnrollStage} {c locked : Campaign} {cl : Call}
    {after : cl.Answer → EnrollStage} (hseat : st.seat? = some (c, locked)) (hw : st.working = true)
    (hM : move cfg ctx req st = .call cl after) (a : cl.Answer) :
    (after a).seat? = some (c, locked) ∨ ∃ f, after a = .aborting c f := by
  cases st with
  | seating c' locked' =>
    cases hseat
    cases hM
    rcases a with e | pid
    · dsimp only
      split <;> exact .inr ⟨_, rfl⟩
    · exact .inl rfl
  | counting c' locked' pid =>
    cases hseat
    cases hM
    rcases a with e | _
    · exact .inr ⟨_, rfl⟩
    · dsimp only
      split
      · exact seat?_draw c locked pid cfg.attempts
      · exact .inl rfl
  | drawing c' locked' pid left =>
    cases hseat
    cases hM
    rcases a with e | code
    · exact .inr ⟨_, rfl⟩
    · exact .inl rfl
  | issuing c' locked' pid left code =>
    cases hseat
    cases hM
    rcases a with e | vid
    · dsimp only
      split
      · exact seat?_draw c locked pid left
      · exact .inr ⟨_, rfl⟩
    · exact .inl rfl
  | marking c' locked' pid code vid =>
    cases hseat
    cases hM
    rcases a with e | _
    · exact .inr ⟨_, rfl⟩
    · exact .inl rfl
  | start | checked | opening | locking | reading | committing | aborting | finished =>
    simp [seat?, working] at hseat hw

/-- Every call of an enrollment alone from `s0` keeps what it has done (`Alone`) and what it has
read (`Sees`). -/
theorem sees_keeps (s0 : Store) :
    Keeps (move cfg ctx req) (fun _ st s tx => Alone s0 st s tx ∧ Sees s0 cfg req tx st) := by
  intro L st s tx cl after o ⟨ha, hs⟩ hM
  refine ⟨alone_keeps s0 L st s tx cl after o ha hM, ?_⟩
  cases st with
  | start =>
    cases hM
    obtain ⟨-, hkept⟩ := ha
    cases hp : s.hasParticipation req.userId firstLoginDiscount with
    | false =>
      simp only [Call.perform, hp]
      show s0.hasParticipation req.userId firstLoginDiscount = false
      rw [← Store.hasParticipation_of_kept hkept]
      exact hp
    | true =>
      simp only [Call.perform, hp]
      exact sees_rejected _
  | checked =>
    -- the target is read on rows that are those of `s0`
    obtain ⟨-, hkept⟩ := ha
    have htarget := target_of_campaigns hkept.campaigns req
    unfold move at hM
    cases hid : req.campaignId with
    | none =>
      rw [hid] at hM
      cases hM
      exact sees_afterTarget hs (by rw [← htarget]; unfold target; rw [hid]; rfl)
    | some id =>
      rw [hid] at hM
      cases hM
      exact sees_afterTarget hs (by rw [← htarget]; unfold target; rw [hid]; rfl)
  | opening c =>
    cases hM
    exact ⟨hs, _, rfl, rfl⟩
  | locking c =>
    cases hM
    obtain ⟨ht, t, rfl, hcamp⟩ := hs
    simp only [Call.perform, Backend.step]
    rcases hlock : Tx.lock ctx (.campaign c.id) s t with ⟨r, s', t'⟩
    -- the lock stages nothing
    have hcamp' : t'.campaigns = [] := by
      rcases Tx.lock_tx_cases ctx (.campaign c.id) s t with h | h <;> simp only [hlock] at h <;>
        rw [h] <;> exact hcamp
    rcases r with e | _
    · trivial
    · exact ⟨ht, t', rfl, hcamp'⟩
  | reading c =>
    cases hM
    obtain ⟨ht, t, rfl, hcamp⟩ := hs
    have hu : ∃ t₀, some t = some t₀ ∧ Untouched s0 s t₀ := ha
    obtain ⟨t₀, ht₀, hu⟩ := hu
    cases ht₀
    -- nothing staged: the row read under the lock is the row of `s0`
    simp only [Call.perform, Backend.step, Tx.readCampaign_eq]
    rw [Tx.campaign_of_unstaged hcamp, hu.campaigns]
    cases hrow : findBy (·.id) s0.campaigns c.id with
    | none => trivial
    | some locked =>
      simp only [afterRead]
      split
      · trivial
      split
      · trivial
      · exact ⟨ht, hrow⟩
  | seating c locked | counting c locked _ | drawing c locked _ _ | issuing c locked _ _ _
    | marking c locked _ _ _ =>
    rcases seat?_after rfl rfl hM (cl.perform o ⟨s, tx⟩).1 with h | ⟨f, h⟩
    · exact (sees_of_seat? h).2 hs
    · rw [h]
      trivial
  | committing c locked pid voucher =>
    cases hM
    intro res hres helig
    obtain ⟨adm, hadm, hid, hrem⟩ := settle_eligible hres helig
    -- the commit went through, with the admission of the locked row
    have hadm' : adm = admission locked voucher := by
      rcases hfin : (Call.perform o ⟨s, tx⟩ (.finish ctx (.ok ()))).1 with e | _ <;>
        simp only [hfin, Except.bind] at hadm <;> cases hadm
      rfl
    exact ⟨c, locked, hs.1, hs.2, hid, by rw [hrem, hadm']; rfl⟩
  | aborting c f =>
    cases hM
    intro res hres helig
    -- an aborted admission ends in an error, whatever the rollback answers
    obtain ⟨adm, hadm, -⟩ := settle_eligible hres helig
    rcases hfin : (Call.perform o ⟨s, tx⟩ (.finish ctx (.error f))).1 with e | _ <;>
      simp only [hfin, Except.bind] at hadm <;> cases hadm
  | finished r => cases hM

end EnrollStage

end Concurrent
end TopUpPromo
