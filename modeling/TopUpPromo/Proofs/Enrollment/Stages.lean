import TopUpPromo.Proofs.Concurrent.Machine

/-!
# The stages of an enrollment

An enrollment, run as a thread, passes through the points named by `EnrollStage`: the
participation check, the read of the target campaign, the transaction that locks the campaign,
reads it again, seats the user, moves the counter and issues the voucher, and the end of that
transaction. Each stage carries what the program has read so far: the campaign it targets, the
row it read under the lock, the id of the participation it inserted, the code and id of its
voucher. `EnrollStage.move` says which call each stage makes and where each answer leads.

The main result, `EnrollStage.follows_start`, says that the enrollment program follows this
machine from its first stage, so every thread serving an enrollment is, after any number of
its own steps, at some stage of it.
-/

namespace TopUpPromo
namespace Concurrent

/-- The points of an enrollment, with what the program has read at each. -/
inductive EnrollStage where
  | start
  | checked
  | opening (campaign : Campaign)
  | locking (campaign : Campaign)
  | reading (campaign : Campaign)
  | seating (campaign locked : Campaign)
  | counting (campaign locked : Campaign) (pid : Int)
  | drawing (campaign locked : Campaign) (pid : Int) (left : Nat)
  | issuing (campaign locked : Campaign) (pid : Int) (left : Nat) (code : String)
  | marking (campaign locked : Campaign) (pid : Int) (code : String) (vid : Int)
  | committing (campaign locked : Campaign) (pid : Int) (voucher : Option (String × Int))
  | aborting (campaign : Campaign) (failure : Failure)
  | finished (result : Except Failure EnrollResult)

namespace EnrollStage

variable (cfg : Enrollment) (ctx : Ctx) (req : EnrollRequest)

def admission (locked : Campaign) (voucher : Option (String × Int)) : Admission :=
  ⟨locked.currentParticipants + 1, locked.maxParticipants - (locked.currentParticipants + 1),
    voucher.map (·.1)⟩

def afterTarget : Except Failure Campaign → EnrollStage
  | .error e =>
    if e.hasCause .storeNotFound then .finished (.ok (.rejected .noActiveCampaign))
    else .finished (.error (.within "failed to find active campaign" e))
  | .ok campaign =>
    if campaign.kind != firstLoginDiscount || !campaign.acceptsParticipants cfg.now then
      .finished (.ok (.rejected .noActiveCampaign))
    else .opening campaign

def afterRead (campaign : Campaign) : Except Failure Campaign → EnrollStage
  | .error e => .aborting campaign (.within "failed to lock campaign" e)
  | .ok locked =>
    if locked.remainingSlots == 0 || locked.status == .full then
      .aborting campaign (.cause .campaignFull)
    else if !locked.acceptsParticipants cfg.now then
      .aborting campaign (.cause .noActiveCampaign)
    else .seating campaign locked

def draw (campaign locked : Campaign) (pid : Int) : Nat → EnrollStage
  | 0 => .aborting campaign (.followedBy (.cause .voucherCodeExhausted)
      (" after " ++ toString cfg.attempts ++ " attempts"))
  | k + 1 => .drawing campaign locked pid k

/-- The call each stage makes and the stage each answer leads to. -/
def move : EnrollStage → Move EnrollStage Reply
  | .start => .call (.hasParticipation req.userId firstLoginDiscount) fun
    | .error e => .finished (.error (.within "failed to check participation" e))
    | .ok true => .finished (.ok (.rejected .alreadyParticipated))
    | .ok false => .checked
  | .checked => match req.campaignId with
    | some id => .call (.getCampaign id) (afterTarget cfg)
    | none => .call (.findLatestActiveCampaign firstLoginDiscount) (afterTarget cfg)
  | .opening campaign => .call .begin fun _ => .locking campaign
  | .locking campaign => .call (.lock ctx (.campaign campaign.id)) fun
    | .error e => .aborting campaign (.within "failed to lock campaign" e)
    | .ok () => .reading campaign
  | .reading campaign => .call (.readCampaign campaign.id) (afterRead cfg campaign)
  | .seating campaign locked => .call (.createParticipation (cfg.seat req locked)) fun
    | .error e =>
      if e.hasCause .storeConflict then .aborting campaign (.cause .alreadyParticipated)
      else .aborting campaign (.within "failed to create participation" e)
    | .ok pid => .counting campaign locked pid
  | .counting campaign locked pid =>
    let order := locked.currentParticipants + 1
    .call (.updateCampaignParticipants locked.id order
        (if order ≥ locked.maxParticipants then .full else .active)) fun
    | .error e => .aborting campaign (.within "failed to update campaign participants" e)
    | .ok () =>
      if { cfg.seat req locked with id := pid }.withinThreshold cfg.threshold then
        draw cfg campaign locked pid cfg.attempts
      else .committing campaign locked pid none
  | .drawing campaign locked pid left => .call .nextCode fun
    | .error e => .aborting campaign (.within "failed to generate voucher code" e)
    | .ok code => .issuing campaign locked pid left code
  | .issuing campaign locked pid left code =>
    .call (.createVoucher (Voucher.issue cfg.now { cfg.seat req locked with id := pid } locked code)) fun
    | .error e =>
      if e.hasCause .storeConflict then draw cfg campaign locked pid left
      else .aborting campaign (.within "failed to create voucher" e)
    | .ok vid => .marking campaign locked pid code vid
  | .marking campaign locked pid code vid =>
    .call (.updateParticipationStatus pid .voucherIssued cfg.now) fun
    | .error e => .aborting campaign (.within "failed to mark voucher issued" e)
    | .ok () => .committing campaign locked pid (some (code, vid))
  | .committing campaign locked _ voucher => .call (.finish ctx (.ok ())) fun a =>
    .finished (cfg.settle campaign (a.bind fun _ => .ok (admission locked voucher)))
  | .aborting campaign failure => .call (.finish ctx (.error failure)) fun a =>
    .finished (cfg.settle campaign (a.bind fun _ => .error failure))
  | .finished r => .stop (.enrolled r)

def BodyEnds (campaign : Campaign) : Except Failure Admission → EnrollStage → Prop
  | .error f, s => s = .aborting campaign f
  | .ok adm, s => ∃ locked pid voucher, s = .committing campaign locked pid voucher ∧
      adm = admission locked voucher

open Program

theorem runs_issue (campaign locked : Campaign) (pid : Int) (k : Nat) :
    (ExceptT.run (issueVoucher.go cfg.attempts cfg.now ctx { cfg.seat req locked with id := pid }
      locked k : ExceptT Failure Program Voucher)).Runs
      (move cfg ctx req)
      (fun r s => match r with
        | .error f => s = .aborting campaign f
        | .ok v => s = .committing campaign locked pid (some (v.code, v.id)))
      (draw cfg campaign locked pid k) := by
  induction k with
  | zero => exact runs_done rfl
  | succ k ih =>
    refine runs_call _ rfl fun a => ?_
    rcases a with e | code
    · exact runs_done rfl
    · refine runs_call _ rfl fun a => ?_
      rcases a with e | vid
      · dsimp only [Program.bind, ExceptT.bindCont, Function.comp]
        split
        · exact ih
        · exact runs_done rfl
      · refine runs_call _ rfl fun a => ?_
        rcases a with e | _
        · exact runs_done rfl
        · exact runs_done rfl

theorem runs_takeSlot (campaign : Campaign) :
    (ExceptT.run (takeSlot cfg ctx req campaign : ExceptT Failure Program Admission)).Runs
      (move cfg ctx req) (BodyEnds campaign) (.locking campaign) := by
  refine runs_call _ rfl fun a => ?_
  rcases a with e | _
  · exact runs_done rfl
  refine runs_call _ rfl fun a => ?_
  rcases a with e | locked
  · exact runs_done rfl
  simp only [afterRead, done_bind, Function.comp_apply, Except.mapError_ok, ExceptT.bindCont]
  split
  · exact runs_done rfl
  split
  · exact runs_done rfl
  refine runs_call _ rfl fun a => ?_
  rcases a with e | pid
  · by_cases h : e.hasCause .storeConflict = true
    · simp only [done_bind, Function.comp_apply, ExceptT.bindCont, h, if_true]
      exact runs_done rfl
    · simp only [done_bind, Function.comp_apply, ExceptT.bindCont, h]
      exact runs_done rfl
  refine runs_call _ rfl fun a => ?_
  rcases a with e | _
  · exact runs_done rfl
  simp only [done_bind, Function.comp_apply, ExceptT.bindCont, Except.mapError_ok]
  split
  · refine runs_bind (runs_issue cfg ctx req campaign locked pid cfg.attempts) ?_
    intro r s hs
    rcases r with f | v
    · exact runs_done hs
    · exact runs_done ⟨locked, pid, _, hs, rfl⟩
  · exact runs_done ⟨locked, pid, none, rfl, rfl⟩

theorem runs_enroll :
    (TopUpPromo.enroll cfg ctx req : Program (Except Failure EnrollResult)).Runs
      (move cfg ctx req) (fun r s => s = .finished r) .start := by
  refine runs_call _ rfl fun a => ?_
  rcases a with e | _ | _
  · exact runs_done rfl
  · obtain ⟨u, campaignId⟩ := req
    cases campaignId
    all_goals
      refine runs_call _ rfl fun a => ?_
      rcases a with e | campaign
      · by_cases h : e.hasCause .storeNotFound = true
        · simp only [done_bind, Function.comp_apply, ExceptT.bindCont, h, afterTarget, if_true]
          exact runs_done rfl
        · simp only [done_bind, Function.comp_apply, ExceptT.bindCont, h, afterTarget]
          exact runs_done rfl
      by_cases h : (campaign.kind != firstLoginDiscount ||
          !campaign.acceptsParticipants cfg.now) = true
      · simp only [done_bind, Function.comp_apply, ExceptT.bindCont, h, afterTarget, if_true]
        exact runs_done rfl
      simp only [done_bind, Function.comp_apply, ExceptT.bindCont, h, afterTarget,
        Bool.false_eq_true, if_false]
      refine runs_tryStore_liftResult (runs_withTx rfl (runs_takeSlot cfg ctx _ campaign) ?_)
      intro r s hs
      rcases r with f | adm
      · subst hs
        exact ⟨_, rfl, fun _ => rfl⟩
      · obtain ⟨locked, pid, voucher, rfl, rfl⟩ := hs
        exact ⟨_, rfl, fun _ => rfl⟩
  · exact runs_done rfl

/-- A thread serving an enrollment follows the machine from its first stage. -/
theorem follows_start :
    (Request.enroll cfg ctx req).program.Follows (move cfg ctx req) .start := by
  show ((TopUpPromo.enroll cfg ctx req : Program _).bind fun r =>
    .done (Reply.enrolled r)).Runs _ _ _
  refine runs_bind (runs_enroll cfg ctx req) fun r s hs => ?_
  subst hs
  exact runs_done rfl

end EnrollStage

end Concurrent
end TopUpPromo
