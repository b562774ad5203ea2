import Mathlib
import TopUpPromo.Sandbox.World
import TopUpPromo.Proofs.Memory.Coherence
import TopUpPromo.Proofs.Concurrent.Machine

/-!
# Voucher codes

The issue loop of an admission (`issueVoucher`) draws a code, inserts a voucher under it inside
the open transaction, and draws again while the store refuses the code as taken, `attempts`
times at most. Run in a sandbox over the memory store, with codes `g₁, g₂, …` queued at the
code source, it ends in one of three ways (`issueVoucher_takes_first_free_code`):

- with the voucher of the first code no committed voucher has and no open transaction has
  reserved, drawn within the first `attempts` draws: the code is reserved, and the voucher and
  the participation's move to `voucherIssued` are staged in the transaction;
- with the code source's failure, at the first draw that fails, every earlier code taken;
- with `voucherCodeExhausted`, after exactly `attempts` draws of taken codes, the store and the
  transaction as they were.

Each draw takes one code off the queue, so the queue that is left tells how many draws the loop
made. A draw of a taken code changes nothing, so each code is checked against the store the
loop started on.
-/

namespace TopUpPromo

namespace Memory

/-- A code the store refuses to a new voucher: a committed voucher has it, or an open
transaction has reserved it. -/
def Store.CodeTaken (s : Store) (g : String) : Prop :=
  g ∈ s.voucherCodes ∨ g ∈ s.reservedCodes

instance (s : Store) (g : String) : Decidable (s.CodeTaken g) :=
  inferInstanceAs (Decidable (_ ∨ _))

/-- Every draw of `gs` gave a code the store refuses; a failed draw is not a taken code. -/
def Store.AllTaken (s : Store) (gs : List (Option String)) : Prop :=
  ∀ x ∈ gs, ∃ g, x = some g ∧ s.CodeTaken g

@[simp] theorem Store.allTaken_nil (s : Store) : s.AllTaken [] :=
  fun _ hx => absurd hx List.not_mem_nil

@[simp] theorem Store.allTaken_cons {s : Store} {x : Option String} {gs : List (Option String)} :
    s.AllTaken (x :: gs) ↔ (∃ g, x = some g ∧ s.CodeTaken g) ∧ s.AllTaken gs :=
  List.forall_mem_cons

end Memory

namespace Sandbox

open Memory

/-! ## Calls of a sandbox over the memory store -/

section Calls

variable {w : World}

theorem nextCode_of_some {g : String} {rest : List (Option String)}
    (hcodes : w.codes = some g :: rest) :
    (CodeSource.nextCode : SandboxM (Except Failure String)).run w =
      (.ok g, { w with codes := rest }) := by
  simp only [CodeSource.nextCode, StateT.run_modifyGet, hcodes]
  rfl

theorem nextCode_of_none {rest : List (Option String)} (hcodes : w.codes = none :: rest) :
    (CodeSource.nextCode : SandboxM (Except Failure String)).run w =
      (.error (.plain "entropy source failed"), { w with codes := rest }) := by
  simp only [CodeSource.nextCode, StateT.run_modifyGet, hcodes]
  rfl

theorem inTx_of_open {α : Type} {s : Store} {t : Tx}
    (hstorage : w.storage = .memory ⟨s, some t⟩)
    (mem : TxStep α) (sql : Database.Connection (Except Failure α)) :
    (World.inTx mem sql).run w =
      ((mem s t).1, { w with storage := .memory ⟨(mem s t).2.1, some (mem s t).2.2⟩ }) := by
  simp only [World.inTx, World.call, StateT.run_modifyGet, hstorage]
  rfl

theorem inTx_of_step {α : Type} {s s' : Store} {t t' : Tx} {r : Except Failure α}
    {mem : TxStep α} (hstorage : w.storage = .memory ⟨s, some t⟩) (hm : mem s t = (r, s', t'))
    (sql : Database.Connection (Except Failure α)) :
    (World.inTx mem sql).run w = (r, { w with storage := .memory ⟨s', some t'⟩ }) := by
  rw [inTx_of_open hstorage, hm]

end Calls

/-! ## Runs of a service step over a sandbox -/

section Runs

variable {α β : Type} {w w' : World}

theorem run_bind_ok {x : ExceptT Failure SandboxM α} {f : α → ExceptT Failure SandboxM β}
    {a : α} (hx : x.run.run w = (.ok a, w')) : (x >>= f).run.run w = (f a).run.run w' := by
  simp only [ExceptT.run_bind, StateT.run_bind, hx]
  rfl

theorem run_bind_error {x : ExceptT Failure SandboxM α} {f : α → ExceptT Failure SandboxM β}
    {e : Failure} (hx : x.run.run w = (.error e, w')) : (x >>= f).run.run w = (.error e, w') := by
  simp only [ExceptT.run_bind, StateT.run_bind, hx]
  rfl

theorem liftWithin_run {x : SandboxM (Except Failure α)} {r : Except Failure α}
    (hx : x.run w = (r, w')) (context : String) :
    (liftWithin context x : ExceptT Failure SandboxM α).run.run w =
      (r.mapError (.within context), w') := by
  simp only [liftWithin, ExceptT.run_mk, StateT.run_map, hx]
  rfl

theorem tryStore_run {x : SandboxM (Except Failure α)} {r : Except Failure α}
    (hx : x.run w = (r, w')) :
    (tryStore x : ExceptT Failure SandboxM (Except Failure α)).run.run w = (.ok r, w') := by
  simp only [tryStore, ExceptT.run_lift, StateT.run_map, hx]
  rfl

end Runs

/-! ## One draw -/

def issuedBackend (s : Store) (t : Tx) (v : Voucher) (q : Participation) (now : Instant) :
    Backend :=
  ⟨{ s with reservedCodes := s.reservedCodes ++ [v.code], nextVoucherId := s.nextVoucherId + 1 },
    some { t with
      vouchers := upsertBy (·.id) t.vouchers { v with id := s.nextVoucherId + 1 },
      newCodes := t.newCodes ++ [(v.code, s.nextVoucherId + 1)],
      participations := upsertBy (·.id) t.participations (q.withStatus .voucherIssued now) }⟩

section Draw

variable (attempts : Nat) (now : Instant) (ctx : Ctx) (p : Participation) (c : Campaign)
  {w : World} {s : Store} {t : Tx} {rest : List (Option String)}

def exhaustedFailure : Failure :=
  .followedBy (.cause .voucherCodeExhausted) (" after " ++ toString attempts ++ " attempts")

theorem go_zero (w : World) :
    (issueVoucher.go attempts now ctx p c 0 : ExceptT Failure SandboxM Voucher).run.run w =
      (.error (exhaustedFailure attempts), w) :=
  rfl

theorem go_of_none (k : Nat) (hcodes : w.codes = none :: rest) :
    (issueVoucher.go attempts now ctx p c (k + 1) : ExceptT Failure SandboxM Voucher).run.run w =
      (.error (.within "failed to generate voucher code" (.plain "entropy source failed")),
        { w with codes := rest }) := by
  rw [issueVoucher.go]
  exact run_bind_error (liftWithin_run (nextCode_of_none hcodes) _)

theorem go_of_taken (k : Nat) {g : String} (hcodes : w.codes = some g :: rest)
    (hstorage : w.storage = .memory ⟨s, some t⟩) (htaken : s.CodeTaken g) :
    (issueVoucher.go attempts now ctx p c (k + 1) : ExceptT Failure SandboxM Voucher).run.run w =
      (issueVoucher.go attempts now ctx p c k : ExceptT Failure SandboxM Voucher).run.run
        { w with codes := rest } := by
  have hstorage' : ({ w with codes := rest } : World).storage = .memory ⟨s, some t⟩ := hstorage
  have htaken' : (Voucher.issue now p c g).code ∈ s.voucherCodes ∨
      (Voucher.issue now p c g).code ∈ s.reservedCodes := htaken
  have hcreate : (PromotionStore.createVoucher ctx (Voucher.issue now p c g) :
      SandboxM (Except Failure Int)).run { w with codes := rest } = _ :=
    inTx_of_step hstorage' (Tx.createVoucher_of_taken htaken') _
  -- the refused insert leaves the storage as it was
  rw [← hstorage] at hcreate
  rw [issueVoucher.go, run_bind_ok (liftWithin_run (nextCode_of_some hcodes) _)]
  dsimp only
  rw [run_bind_ok (tryStore_run hcreate)]
  rfl

theorem go_of_free (k : Nat) {g : String} {q : Participation} (hcodes : w.codes = some g :: rest)
    (hstorage : w.storage = .memory ⟨s, some t⟩) (hfree : ¬ s.CodeTaken g)
    (hp : Tx.participation s t p.id = some q) :
    (issueVoucher.go attempts now ctx p c (k + 1) : ExceptT Failure SandboxM Voucher).run.run w =
      (.ok { Voucher.issue now p c g with id := s.nextVoucherId + 1 },
        { w with codes := rest,
                 storage := .memory (issuedBackend s t (Voucher.issue now p c g) q now) }) := by
  have hstorage' : ({ w with codes := rest } : World).storage = .memory ⟨s, some t⟩ := hstorage
  have hfree' : ¬((Voucher.issue now p c g).code ∈ s.voucherCodes ∨
      (Voucher.issue now p c g).code ∈ s.reservedCodes) := hfree
  have hcreate : (PromotionStore.createVoucher ctx (Voucher.issue now p c g) :
      SandboxM (Except Failure Int)).run { w with codes := rest } = _ :=
    inTx_of_step hstorage' (Tx.createVoucher_of_free hfree') _
  rw [issueVoucher.go, run_bind_ok (liftWithin_run (nextCode_of_some hcodes) _)]
  dsimp only
  rw [run_bind_ok (tryStore_run hcreate)]
  -- the staged voucher leaves the participation as the transaction saw it
  have hp' : Tx.participation
      { s with reservedCodes := s.reservedCodes ++ [g], nextVoucherId := s.nextVoucherId + 1 }
      { t with vouchers := upsertBy (·.id) t.vouchers
                 { Voucher.issue now p c g with id := s.nextVoucherId + 1 },
               newCodes := t.newCodes ++ [(g, s.nextVoucherId + 1)] } p.id = some q := hp
  exact run_bind_ok (liftWithin_run
    (inTx_of_step rfl (Tx.updateParticipationStatus_of_row hp') _) _)

end Draw

/-! ## The whole loop -/

section Loop

variable (attempts : Nat) (now : Instant) (p : Participation) (c : Campaign) (s : Store) (t : Tx)
  (q : Participation)

/-- How the issue loop with `k` draws left ends, run from sandbox `w` on store `s` and
transaction `t`, in which `q` is the participation it marks: its answer and the sandbox it
leaves. Each way names the draws it made, `pre` before the last one, and the queue `rest` it
leaves. -/
inductive IssueEnd (k : Nat) (w : World) : Except Failure Voucher × World → Prop
  /-- The first code the store does not refuse, drawn within the first `k` draws, is issued. -/
  | issued {pre rest : List (Option String)} {g : String} (hcodes : w.codes = pre ++ some g :: rest)
      (hlen : pre.length < k) (htaken : s.AllTaken pre) (hfree : ¬ s.CodeTaken g) :
      IssueEnd k w (.ok { Voucher.issue now p c g with id := s.nextVoucherId + 1 },
        { w with codes := rest,
                 storage := .memory (issuedBackend s t (Voucher.issue now p c g) q now) })
  /-- A draw fails within the first `k`, every earlier code taken: the loop stops there. -/
  | failed {pre rest : List (Option String)} (hcodes : w.codes = pre ++ none :: rest)
      (hlen : pre.length < k) (htaken : s.AllTaken pre) :
      IssueEnd k w (.error (.within "failed to generate voucher code"
        (.plain "entropy source failed")), { w with codes := rest })
  /-- All `k` draws give taken codes: the loop gives up, the storage as it was. -/
  | exhausted {pre rest : List (Option String)} (hcodes : w.codes = pre ++ rest)
      (hlen : pre.length = k) (htaken : s.AllTaken pre) :
      IssueEnd k w (.error (exhaustedFailure attempts), { w with codes := rest })

variable {attempts now p c s t q}

theorem IssueEnd.cons {k : Nat} {w : World} {g : String} {rest : List (Option String)}
    {r : Except Failure Voucher × World} (hcodes : w.codes = some g :: rest)
    (htaken : s.CodeTaken g) (h : IssueEnd attempts now p c s t q k { w with codes := rest } r) :
    IssueEnd attempts now p c s t q (k + 1) w r := by
  -- the taken code joins the draws in front of the end
  have hpre : ∀ pre, s.AllTaken pre → s.AllTaken (some g :: pre) :=
    fun _ hall => Store.allTaken_cons.2 ⟨⟨g, rfl, htaken⟩, hall⟩
  cases h with
  | @issued pre rest' g' hcodes' hlen htaken' hfree =>
    have hall : w.codes = (some g :: pre) ++ some g' :: rest' := by
      rw [hcodes]
      exact congrArg (some g :: ·) hcodes'
    exact .issued hall (by simp only [List.length_cons]; omega) (hpre pre htaken') hfree
  | @failed pre rest' hcodes' hlen htaken' =>
    have hall : w.codes = (some g :: pre) ++ none :: rest' := by
      rw [hcodes]
      exact congrArg (some g :: ·) hcodes'
    exact .failed hall (by simp only [List.length_cons]; omega) (hpre pre htaken')
  | @exhausted pre rest' hcodes' hlen htaken' =>
    have hall : w.codes = (some g :: pre) ++ rest' := by
      rw [hcodes]
      exact congrArg (some g :: ·) hcodes'
    exact .exhausted hall (by simp only [List.length_cons]; omega) (hpre pre htaken')

theorem go_ends (ctx : Ctx) (k : Nat) {w : World} (hstorage : w.storage = .memory ⟨s, some t⟩)
    (hlen : k ≤ w.codes.length) (hp : Tx.participation s t p.id = some q) :
    IssueEnd attempts now p c s t q k w
      ((issueVoucher.go attempts now ctx p c k : ExceptT Failure SandboxM Voucher).run.run w) := by
  induction k generalizing w with
  | zero =>
    rw [go_zero]
    exact .exhausted (show w.codes = [] ++ w.codes from rfl) rfl (Store.allTaken_nil s)
  | succ k ih =>
    -- the draw takes the head of the queue
    obtain ⟨x, rest, hcodes⟩ : ∃ x rest, w.codes = x :: rest :=
      List.exists_cons_of_length_pos (by omega)
    have hrest : k ≤ rest.length := by
      rw [hcodes, List.length_cons] at hlen
      omega
    cases x with
    | none =>
      rw [go_of_none attempts now ctx p c k hcodes]
      exact .failed (show w.codes = [] ++ none :: rest from hcodes) (Nat.succ_pos k)
        (Store.allTaken_nil s)
    | some g =>
      by_cases htaken : s.CodeTaken g
      · rw [go_of_taken attempts now ctx p c k hcodes hstorage htaken]
        exact IssueEnd.cons hcodes htaken (ih hstorage hrest)
      · rw [go_of_free attempts now ctx p c k hcodes hstorage htaken hp]
        exact .issued (show w.codes = [] ++ some g :: rest from hcodes) (Nat.succ_pos k)
          (Store.allTaken_nil s) htaken

theorem mem_take_of_length_lt {pre rest : List (Option String)} {x : Option String} {k : Nat}
    (hlen : pre.length < k) : x ∈ (pre ++ x :: rest).take k := by
  obtain ⟨m, hm⟩ : ∃ m, k - pre.length = m + 1 := ⟨k - pre.length - 1, by omega⟩
  rw [List.take_append, List.take_of_length_le hlen.le, hm, List.take_succ_cons]
  exact List.mem_append_right _ List.mem_cons_self

theorem IssueEnd.exhausted_iff {k : Nat} {w : World} {r : Except Failure Voucher × World}
    (h : IssueEnd attempts now p c s t q k w r) :
    r.1 = .error (exhaustedFailure attempts) ↔ s.AllTaken (w.codes.take k) := by
  cases h with
  | @issued pre rest g hcodes hlen htaken hfree =>
    refine ⟨(fun h => by cases h), fun hall => ?_⟩
    -- the free code is among the first `k` draws
    have hdrawn : some g ∈ w.codes.take k := by
      rw [hcodes]
      exact mem_take_of_length_lt hlen
    obtain ⟨g', hg', htaken'⟩ := hall (some g) hdrawn
    cases hg'
    exact absurd htaken' hfree
  | @failed pre rest hcodes hlen htaken =>
    refine ⟨(fun h => by cases h), fun hall => ?_⟩
    -- the failed draw is among the first `k`, and it gave no code
    obtain ⟨g', hg', -⟩ := hall none (by rw [hcodes]; exact mem_take_of_length_lt hlen)
    cases hg'
  | @exhausted pre rest hcodes hlen htaken =>
    refine ⟨fun _ => ?_, fun _ => rfl⟩
    rw [hcodes, List.take_left' hlen]
    exact htaken

end Loop

/-- Run in a sandbox over the memory store with a transaction open, on a queue of `attempts`
codes at least, the issue loop issues the voucher of the first code the store does not refuse,
reserving the code and staging the voucher and the participation's move to `voucherIssued`;
or stops at the first failed draw; or, when all `attempts` codes are taken, gives up with
`voucherCodeExhausted`, the storage as it was. It draws each code once, in order, and no more
than `attempts` of them; it gives up exactly when the first `attempts` codes are all taken. -/
theorem issueVoucher_takes_first_free_code {attempts : Nat} {now : Instant} {ctx : Ctx}
    {p q : Participation} {c : Campaign} {w : World} {s : Store} {t : Tx}
    (hstorage : w.storage = .memory ⟨s, some t⟩) (hlen : attempts ≤ w.codes.length)
    (hp : Tx.participation s t p.id = some q) :
    let r := (issueVoucher attempts now ctx p c : ExceptT Failure SandboxM Voucher).run.run w
    IssueEnd attempts now p c s t q attempts w r ∧
      (r.1 = .error (exhaustedFailure attempts) ↔ s.AllTaken (w.codes.take attempts)) := by
  intro r
  have hend : IssueEnd attempts now p c s t q attempts w r := go_ends ctx attempts hstorage hlen hp
  exact ⟨hend, hend.exhausted_iff⟩

def memorySandbox (s : Store) (t : Tx) (gs : List (Option String)) : World :=
  { storage := .memory ⟨s, some t⟩, now := Instant.epoch, wallClock := Instant.epoch,
    codePrefix := "CAKE-", codes := gs, gateway := ⟨.approve, 0⟩, publisher := .ok }

/-- With code `A` reserved and `A`, `B` queued, two attempts do not give up. -/
theorem issueVoucher_past_a_reserved_code :
    Tx.participation { reservedCodes := ["A"] } { owner := 0, participations := [default] }
        (default : Participation).id = some default ∧
      ((((issueVoucher 2 Instant.epoch .live default default :
          ExceptT Failure SandboxM Voucher).run.run
          (memorySandbox { reservedCodes := ["A"] } { owner := 0, participations := [default] }
            [some "A", some "B"])).1 = .error (exhaustedFailure 2)) ↔
        Store.AllTaken { reservedCodes := ["A"] } ([some "A", some "B"].take 2)) := by
  have hp : Tx.participation { reservedCodes := ["A"] } { owner := 0, participations := [default] }
      (default : Participation).id = some default := rfl
  exact ⟨hp, (issueVoucher_takes_first_free_code rfl (by decide) hp).2⟩

end Sandbox
end TopUpPromo
