import TopUpPromo.Proofs.Isolated.Runs
import TopUpPromo.Proofs.Enrollment.Steps

/-!
# An enrollment alone

An enrollment run with no other request moving, from any store `s0`, leaves `s0` as it was,
but for the id counters and for locks let go, whenever it admits nobody: a failure and a
rejection both end its transaction, if it opened one, by a rollback, and before the
transaction it only reads (`EnrollStage.Alone`, `EnrollStage.alone_keeps`).
-/

namespace TopUpPromo
namespace Concurrent

open Memory

namespace EnrollStage

def working : EnrollStage → Bool
  | .locking _ | .reading _ | .seating _ _ | .counting _ _ _ | .drawing _ _ _ _
  | .issuing _ _ _ _ _ | .marking _ _ _ _ _ => true
  | _ => false

def inside (st : EnrollStage) : Bool :=
  st.working || match st with
    | .committing _ _ _ _ | .aborting _ _ => true
    | _ => false

/-- What an enrollment alone from `s0` has done at each stage: nothing before its transaction,
nothing committed while it is open, and, where it has admitted nobody, nothing at all but the
id counters and locks let go. -/
def Alone (s0 : Store) (st : EnrollStage) (s : Store) (tx : Option Tx) : Prop :=
  match st with
  | .start | .checked | .opening _ => tx = none ∧ Kept s0 s
  | .finished r => tx = none ∧ ((finished r).admits = none → Kept s0 s)
  | _ => ∃ t, tx = some t ∧ Untouched s0 s t

variable {s0 s : Store} {tx : Option Tx} {cfg : Enrollment} {ctx : Ctx} {req : EnrollRequest}

theorem alone_of_inside {st : EnrollStage} (hin : st.inside = true)
    (h : ∃ t, tx = some t ∧ Untouched s0 s t) : Alone s0 st s tx := by
  cases st <;> simp_all [inside, working, Alone]

theorem draw_inside (campaign locked : Campaign) (pid : Int) (k : Nat) :
    (draw cfg campaign locked pid k).inside = true := by
  cases k <;> rfl

theorem working_move {st : EnrollStage} {c : Call} {after : c.Answer → EnrollStage}
    (hw : st.working = true) (hM : move cfg ctx req st = .call c after) :
    c.inner = true ∧ ∀ a, (after a).inside = true := by
  cases st with
  | locking campaign =>
    cases hM
    refine ⟨rfl, fun a => ?_⟩
    rcases a with e | _ <;> rfl
  | reading campaign =>
    cases hM
    refine ⟨rfl, fun a => ?_⟩
    rcases a with e | locked
    · rfl
    · simp only [afterRead]
      split
      · rfl
      split <;> rfl
  | seating campaign locked =>
    cases hM
    refine ⟨rfl, fun a => ?_⟩
    rcases a with e | pid
    · dsimp only
      split <;> rfl
    · rfl
  | counting campaign locked pid =>
    cases hM
    refine ⟨rfl, fun a => ?_⟩
    rcases a with e | _
    · rfl
    · dsimp only
      split
      · exact draw_inside campaign locked pid cfg.attempts
      · rfl
  | drawing campaign locked pid left =>
    cases hM
    refine ⟨rfl, fun a => ?_⟩
    rcases a with e | code <;> rfl
  | issuing campaign locked pid left code =>
    cases hM
    refine ⟨rfl, fun a => ?_⟩
    rcases a with e | vid
    · dsimp only
      split
      · exact draw_inside campaign locked pid left
      · rfl
    · rfl
  | marking campaign locked pid code vid =>
    cases hM
    refine ⟨rfl, fun a => ?_⟩
    rcases a with e | _ <;> rfl
  | start | checked | opening | committing | aborting | finished => cases hw

/-- Every call of an enrollment keeps what it has done alone from `s0`. -/
theorem alone_keeps (s0 : Store) :
    Keeps (move cfg ctx req) (fun _ st s tx => Alone s0 st s tx) := by
  intro L st s tx c after o hi hM
  by_cases hw : st.working = true
  · -- inside the transaction nothing is committed
    obtain ⟨hinner, hinside⟩ := working_move hw hM
    have hopen : ∃ t, tx = some t ∧ Untouched s0 s t := by
      cases st <;> simp_all [working, Alone]
    obtain ⟨t, rfl, hu⟩ := hopen
    exact alone_of_inside (hinside _) (hu.change (Call.perform_change o ⟨s, some t⟩ hinner))
  cases st with
  | start =>
    cases hM
    obtain ⟨rfl, hkept⟩ := hi
    cases hp : s.hasParticipation req.userId firstLoginDiscount with
    | false =>
      simp only [Call.perform, hp]
      exact ⟨rfl, hkept⟩
    | true =>
      simp only [Call.perform, hp]
      exact ⟨rfl, fun _ => hkept⟩
  | checked =>
    obtain ⟨rfl, hkept⟩ := hi
    -- the target campaign is read, and the answer leads to an answer or to the transaction
    have hafter : ∀ a, Alone s0 (afterTarget cfg a) s none := by
      intro a
      rcases a with e | campaign
      · simp only [afterTarget]
        split <;> exact ⟨rfl, fun _ => hkept⟩
      · simp only [afterTarget]
        split
        · exact ⟨rfl, fun _ => hkept⟩
        · exact ⟨rfl, hkept⟩
    cases hid : req.campaignId with
    | none =>
      simp only [move, hid] at hM
      cases hM
      exact hafter _
    | some id =>
      simp only [move, hid] at hM
      cases hM
      exact hafter _
  | opening campaign =>
    cases hM
    obtain ⟨rfl, hkept⟩ := hi
    exact ⟨_, rfl, Untouched.begin hkept⟩
  | committing campaign locked pid voucher =>
    cases hM
    obtain ⟨t, rfl, hu⟩ := hi
    simp only [Call.perform, Backend.finish]
    cases ctx.failure? with
    | some f => exact ⟨rfl, fun _ => hu.rollback⟩
    | none =>
      -- the commit admits the user
      refine ⟨rfl, fun hadmits => ?_⟩
      simp [Enrollment.settle, admits, Except.bind] at hadmits
  | aborting campaign failure =>
    cases hM
    obtain ⟨t, rfl, hu⟩ := hi
    exact ⟨rfl, fun _ => hu.rollback⟩
  | finished result => cases hM
  | locking | reading | seating | counting | drawing | issuing | marking =>
    exact absurd rfl hw

theorem Alone.stop {st : EnrollStage} {r : Except Failure EnrollResult}
    (hi : Alone s0 st s tx) (hM : move cfg ctx req st = .stop (.enrolled r))
    (hnone : ∀ res, r = .ok res → res.eligible = false) : Kept s0 s := by
  obtain ⟨result, rfl, hr⟩ := finished_of_stop hM
  cases hr
  apply hi.2
  cases r with
  | error e => rfl
  | ok res => simp [admits, hnone res rfl]

end EnrollStage

end Concurrent
end TopUpPromo
