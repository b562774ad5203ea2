import TopUpPromo.Proofs.Memory.Updates
import TopUpPromo.Proofs.Redemption.Stages

/-!
# The phases of a voucher transaction

A top-up that names a voucher, and a check of a voucher found past its expiry, open a
transaction that finds the voucher by its code, locks the code and reads the voucher under the
lock; a voucher found active and past its expiry then has its expiry and its participation's
staged. The phases here say what the thread knows, between these calls, of the store and of its
own transaction, and each call lemma says that the call touches the store as `Touch` allows and
leads to the next phase, or to an abort with a guarded transaction.

What a phase knows of the store is `Store.RowOf`: the committed row its code names. It stays
true while the thread holds the code's lock, whatever the other transactions commit
(`Store.RowOf.of_overwrites`), and so does every phase (the `of_overwrites` lemmas).
-/

namespace TopUpPromo
namespace Memory

/-- The transaction of owner `o` that holds the lock of code `c`, with the vouchers `vs` and the
participations `ps` staged. -/
def voucherTx (o : Nat) (c : String) (vs : List Voucher) (ps : List Participation) : Tx :=
  { owner := o, held := [.voucher c], vouchers := vs, participations := ps }

namespace Store

variable {s s' : Store} {c : String} {v0 v1 : Voucher}

theorem joinVoucher_with (s : Store) (staged : List Participation) (v : Voucher) :
    ∃ u, s.joinVoucher staged v = { v with userId := u } := by
  unfold joinVoucher
  split
  · exact ⟨_, rfl⟩
  · split
    · exact ⟨_, rfl⟩
    · exact ⟨v.userId, rfl⟩

/-- `v0` is the committed voucher that code `c` names. -/
structure RowOf (s : Store) (c : String) (v0 : Voucher) : Prop where
  row : findBy (·.id) s.vouchers v0.id = some v0
  code : v0.code = c
  named : s.voucherId c = some v0.id

theorem RowOf.unique (h : s.RowOf c v0) (h' : s.RowOf c v1) : v0 = v1 := by
  have hid : v0.id = v1.id := Option.some.inj (h.named.symm.trans h'.named)
  have hrow := h'.row
  rw [← hid, h.row] at hrow
  exact Option.some.inj hrow

theorem rowOf_of_named {vid : Int} (hids : (s.vouchers.map (·.id)).Nodup)
    (hnamed : s.voucherId c = some vid) (hrow : findBy (·.id) s.vouchers vid = some v0) :
    s.RowOf c v0 := by
  have hnamed' := hnamed
  simp only [voucherId, Option.map_eq_some_iff] at hnamed'
  obtain ⟨x, hx, hxid⟩ := hnamed'
  have hxv : x = v0 := by
    have hxrow : findBy (·.id) s.vouchers x.id = some x :=
      findBy_of_mem _ hids (List.mem_of_find?_eq_some hx)
    rw [hxid, hrow] at hxrow
    exact (Option.some.inj hxrow).symm
  subst hxv
  have hcode : x.code = c := by simpa using List.find?_some hx
  exact ⟨hxid ▸ hrow, hcode, hxid ▸ hnamed⟩

/-- The row a code names stays so over a store where another transaction overwrote only rows of
codes it holds, when the row is not active or its code is not one of them. -/
theorem RowOf.of_overwrites {held : List LockKey} (h : s.RowOf c v0)
    (hov : s.Overwrites held s') (hkept : v0.status = .active → LockKey.voucher c ∉ held) :
    s'.RowOf c v0 where
  row := by
    rcases hov.rows v0.id with hsame | ⟨v1, hrow1, hactive, hheld⟩
    · exact hsame.trans h.row
    · rw [h.row] at hrow1
      cases hrow1
      exact absurd (h.code ▸ hheld) (hkept hactive)
  code := h.code
  named := (voucherId_of_keys hov.keys c).trans h.named

theorem RowOf.find?_eq (h : s.RowOf c v0) (hids : (s.vouchers.map (·.id)).Nodup) :
    s.vouchers.find? (·.code == c) = some v0 := by
  have hnamed := h.named
  simp only [voucherId, Option.map_eq_some_iff] at hnamed
  obtain ⟨x, hx, hxid⟩ := hnamed
  have hxrow : findBy (·.id) s.vouchers x.id = some x :=
    findBy_of_mem _ hids (List.mem_of_find?_eq_some hx)
  rw [hxid, h.row] at hxrow
  cases hxrow
  exact hx

theorem RowOf.getVoucherByCode (h : s.RowOf c v0) (hids : (s.vouchers.map (·.id)).Nodup) :
    s.getVoucherByCode c = .ok (s.joinVoucher [] v0) := by
  simp only [Store.getVoucherByCode, h.find?_eq hids]

end Store

/-! ## The calls of a voucher transaction -/

namespace Tx

variable {s : Store} {t : Tx}

theorem findVoucher_of_unstaged {c : String} (h : t.newCodes = []) :
    findVoucher c s t =
      match s.voucherId c with
      | some id => (.ok id, s, t)
      | none => (.error (.cause .storeNotFound), s, t) := by
  unfold findVoucher
  simp only [h, List.find?_nil]
  cases hv : s.voucherId c <;>
  · unfold Store.voucherId at hv
    rw [hv]

theorem voucher_of_unstaged {id : Int} (h : t.vouchers = []) :
    voucher s t id = findBy (·.id) s.vouchers id := by
  simp [voucher, findBy, h]

theorem participation_of_unstaged {id : Int} (h : t.participations = []) :
    participation s t id = findBy (·.id) s.participations id := by
  simp [participation, findBy, h]

theorem readVoucher_eq {id : Int} :
    readVoucher id s t =
      ((match voucher s t id with
        | some v => .ok (s.joinVoucher t.participations v)
        | none => .error (.cause .storeNotFound)), s, t) := by
  unfold readVoucher
  cases voucher s t id <;> rfl

theorem markVoucherExpired_cases {id : Int} :
    (∃ v, voucher s t id = some v ∧ v.status = .active ∧
      markVoucherExpired id s t =
        (.ok (), s, { t with vouchers := upsertBy (·.id) t.vouchers { v with status := .expired } })) ∨
      ∃ e, markVoucherExpired id s t = (.error e, s, t) := by
  unfold markVoucherExpired
  cases voucher s t id with
  | none => exact .inr ⟨_, rfl⟩
  | some v =>
    by_cases hactive : v.status = .active
    · exact .inl ⟨v, rfl, hactive, by simp [hactive]⟩
    · exact .inr ⟨.cause .storeStale, by simp [hactive]⟩

theorem markVoucherUsed_cases {id : Int} {u : Usage} :
    (∃ v, voucher s t id = some v ∧ v.status = .active ∧
      markVoucherUsed id u s t =
        (.ok (), s, { t with vouchers := upsertBy (·.id) t.vouchers (v.markUsed u) })) ∨
      ∃ e, markVoucherUsed id u s t = (.error e, s, t) := by
  unfold markVoucherUsed
  cases voucher s t id with
  | none => exact .inr ⟨_, rfl⟩
  | some v =>
    by_cases hactive : v.status = .active
    · exact .inl ⟨v, rfl, hactive, by simp [hactive]⟩
    · exact .inr ⟨.cause .storeStale, by simp [hactive]⟩

theorem updateParticipationStatus_cases {id : Int} {status : ParticipationStatus}
    {stamp : Instant} :
    (∃ p, participation s t id = some p ∧
      updateParticipationStatus id status stamp s t =
        (.ok (), s,
          { t with participations := upsertBy (·.id) t.participations (p.withStatus status stamp) })) ∨
      ∃ e, updateParticipationStatus id status stamp s t = (.error e, s, t) := by
  unfold updateParticipationStatus
  cases participation s t id with
  | none => exact .inr ⟨_, rfl⟩
  | some p => exact .inl ⟨p, rfl, rfl⟩

theorem findBy_commit_single {x : Voucher} (hvs : t.vouchers = [x]) (id : Int) :
    findBy (·.id) (t.commit s).vouchers id =
      if id = x.id then some x else findBy (·.id) s.vouchers id := by
  simp only [commit_vouchers, hvs, List.foldl_cons, List.foldl_nil]
  split
  · rename_i hid
    subst hid
    exact findBy_upsertBy_self (fun v : Voucher => v.id) s.vouchers x
  · rename_i hid
    exact findBy_upsertBy_of_ne (fun v : Voucher => v.id) hid

end Tx

theorem voucherTx_guard {s : Store} {o : Nat} {c : String} {vs : List Voucher}
    {ps : List Participation}
    (hvs : ∀ v ∈ vs, ∃ v0, s.RowOf c v0 ∧ v0.status = .active ∧ v.id = v0.id ∧ v.code = c)
    (hps : ∀ p ∈ ps, p.owner ∈ s.participations.map Participation.owner) :
    (voucherTx o c vs ps).Guard s where
  campaigns := rfl
  keys := rfl
  codes := rfl
  vouchers v hv := by
    obtain ⟨v0, hrow, hactive, hid, hcode⟩ := hvs v hv
    refine ⟨by simp [voucherTx, hcode], v0, hid ▸ hrow.row, hrow.code.trans hcode.symm, hactive⟩
  participations := hps

end Memory

namespace Concurrent

open Memory

namespace Phase

def Read (s : Store) (c : String) (v0 v : Voucher) : Prop :=
  s.RowOf c v0 ∧ v = s.joinVoucher [] v0

def Lapsed (now : Instant) (v : Voucher) : Prop :=
  v.status = .active ∧ v.isExpired now = true

def Expiry (s : Store) (now : Instant) (c : String) (vs : List Voucher) : Prop :=
  vs = [] ∨ ∃ v0, vs = [{ v0 with status := .expired }] ∧ s.RowOf c v0 ∧ Lapsed now v0

def Staged (s : Store) (ps : List Participation) : Prop :=
  ∀ p ∈ ps, p.owner ∈ s.participations.map Participation.owner

def Opened (tx : Option Tx) : Prop := ∃ o, tx = some { owner := o }

def Found (s : Store) (c : String) (vid : Int) (tx : Option Tx) : Prop :=
  Opened tx ∧ s.voucherId c = some vid

def Locked (s : Store) (c : String) (vid : Int) (tx : Option Tx) : Prop :=
  ∃ o, tx = some (voucherTx o c [] []) ∧ s.voucherId c = some vid

def Expiring (s : Store) (now : Instant) (c : String) (v : Voucher) (tx : Option Tx) : Prop :=
  ∃ o v0, tx = some (voucherTx o c [] []) ∧ Read s c v0 v ∧ Lapsed now v0

def Closing (s : Store) (now : Instant) (c : String) (v : Voucher) (tx : Option Tx) : Prop :=
  ∃ o v0, tx = some (voucherTx o c [{ v0 with status := .expired }] []) ∧ Read s c v0 v ∧
    Lapsed now v0

def Ending (s : Store) (now : Instant) (c : String) (tx : Option Tx) : Prop :=
  ∃ o vs ps, tx = some (voucherTx o c vs ps) ∧ Expiry s now c vs ∧ Staged s ps

def Aborting (s : Store) (tx : Option Tx) : Prop :=
  ∃ t, tx = some t ∧ t.Guard s

def Expires (s s' : Store) (now : Instant) (c : String) : Prop :=
  ∀ id v v', findBy (·.id) s.vouchers id = some v → findBy (·.id) s'.vouchers id = some v' →
    v' ≠ v → v.code = c ∧ Lapsed now v ∧ v' = { v with status := .expired }

theorem expires_of_vouchers {s s' : Store} {now : Instant} {c : String}
    (h : s'.vouchers = s.vouchers) : Expires s s' now c := by
  intro id v v' hv hv' hne
  rw [h, hv] at hv'
  cases hv'
  exact absurd rfl hne

def Moves (s : Store) (tx : Option Tx) (c : Call) (P : c.Answer → Store → Option Tx → Prop) :
    Prop :=
  ∀ o, Touch s tx (c.perform o ⟨s, tx⟩).2.store (c.perform o ⟨s, tx⟩).2.current ∧
    P (c.perform o ⟨s, tx⟩).1 (c.perform o ⟨s, tx⟩).2.store (c.perform o ⟨s, tx⟩).2.current

variable {s : Store} {tx : Option Tx} {now : Instant} {c : String} {ctx : Ctx}

/-! ### Phases are guarded -/

theorem Read.id_eq {v0 v : Voucher} (h : Read s c v0 v) : v.id = v0.id := by
  obtain ⟨u, hu⟩ := s.joinVoucher_with [] v0
  rw [h.2, hu]

theorem Read.lapsed {v0 v : Voucher} (h : Read s c v0 v)
    (hkeep : ¬(v.status != .active || !v.isExpired now) = true) : Lapsed now v0 := by
  obtain ⟨u, hu⟩ := s.joinVoucher_with [] v0
  rw [h.2, hu] at hkeep
  simpa [Voucher.isExpired, Lapsed] using hkeep

theorem rowOf_staged {v0 x : Voucher} (h : s.RowOf c v0) (hactive : v0.status = .active)
    (hid : x.id = v0.id) (hcode : x.code = v0.code) :
    ∀ v ∈ [x], ∃ v1, s.RowOf c v1 ∧ v1.status = .active ∧ v.id = v1.id ∧ v.code = c := by
  intro v hv
  rw [List.mem_singleton] at hv
  subst hv
  exact ⟨v0, h, hactive, hid, hcode.trans h.code⟩

theorem Opened.aborting (h : Opened tx) : Aborting s tx := by
  obtain ⟨o, rfl⟩ := h
  exact ⟨_, rfl, Tx.Guard.owner o⟩

theorem Locked.aborting {vid : Int} (h : Locked s c vid tx) : Aborting s tx := by
  obtain ⟨o, rfl, -⟩ := h
  exact ⟨_, rfl, voucherTx_guard (fun _ hv => by cases hv) fun _ hp => by cases hp⟩

theorem Expiring.aborting {v : Voucher} (h : Expiring s now c v tx) : Aborting s tx := by
  obtain ⟨o, v0, rfl, -⟩ := h
  exact ⟨_, rfl, voucherTx_guard (fun _ hv => by cases hv) fun _ hp => by cases hp⟩

theorem Closing.aborting {v : Voucher} (h : Closing s now c v tx) : Aborting s tx := by
  obtain ⟨o, v0, rfl, hread, hlapsed⟩ := h
  exact ⟨_, rfl, voucherTx_guard (rowOf_staged hread.1 hlapsed.1 rfl rfl)
    fun _ hp => by cases hp⟩

theorem Ending.aborting (h : Ending s now c tx) : Aborting s tx := by
  obtain ⟨o, vs, ps, rfl, hexpiry, hps⟩ := h
  refine ⟨_, rfl, voucherTx_guard ?_ hps⟩
  rcases hexpiry with rfl | ⟨v0, rfl, hrow, hlapsed⟩
  · intro _ hv
    cases hv
  · exact rowOf_staged hrow hlapsed.1 rfl rfl

/-! ### Phases against the other transactions' commits -/

section Frame

variable {s' : Store} {held : List LockKey}

def Apart (held : List LockKey) (tx : Option Tx) : Prop :=
  ∀ t, tx = some t → ∀ k ∈ t.held, k ∉ held

theorem Apart.voucher {o : Nat} {vs : List Voucher} {ps : List Participation}
    (h : Apart held tx) (htx : tx = some (voucherTx o c vs ps)) : LockKey.voucher c ∉ held :=
  h _ htx _ List.mem_cons_self

theorem Read.of_overwrites {v0 v : Voucher} (h : Read s c v0 v) (hov : s.Overwrites held s')
    (hfree : LockKey.voucher c ∉ held) : Read s' c v0 v :=
  ⟨h.1.of_overwrites hov fun _ => hfree, by rw [h.2, Store.joinVoucher_of_owners hov.owners]⟩

theorem Staged.of_overwrites {ps : List Participation} (h : Staged s ps)
    (hov : s.Overwrites held s') : Staged s' ps :=
  fun p hp => hov.owners ▸ h p hp

theorem Found.of_overwrites {vid : Int} (h : Found s c vid tx) (hov : s.Overwrites held s') :
    Found s' c vid tx :=
  ⟨h.1, (Store.voucherId_of_keys hov.keys c).trans h.2⟩

theorem Locked.of_overwrites {vid : Int} (h : Locked s c vid tx) (hov : s.Overwrites held s') :
    Locked s' c vid tx := by
  obtain ⟨o, htx, hnamed⟩ := h
  exact ⟨o, htx, (Store.voucherId_of_keys hov.keys c).trans hnamed⟩

theorem Expiring.of_overwrites {v : Voucher} (h : Expiring s now c v tx)
    (hov : s.Overwrites held s') (hfree : Apart held tx) : Expiring s' now c v tx := by
  obtain ⟨o, v0, htx, hread, hlapsed⟩ := h
  exact ⟨o, v0, htx, hread.of_overwrites hov (hfree.voucher htx), hlapsed⟩

theorem Closing.of_overwrites {v : Voucher} (h : Closing s now c v tx)
    (hov : s.Overwrites held s') (hfree : Apart held tx) : Closing s' now c v tx := by
  obtain ⟨o, v0, htx, hread, hlapsed⟩ := h
  exact ⟨o, v0, htx, hread.of_overwrites hov (hfree.voucher htx), hlapsed⟩

theorem Ending.of_overwrites (h : Ending s now c tx) (hov : s.Overwrites held s')
    (hfree : Apart held tx) : Ending s' now c tx := by
  obtain ⟨o, vs, ps, htx, hexpiry, hps⟩ := h
  refine ⟨o, vs, ps, htx, ?_, hps.of_overwrites hov⟩
  rcases hexpiry with rfl | ⟨v0, rfl, hrow, hlapsed⟩
  · exact .inl rfl
  · exact .inr ⟨v0, rfl, hrow.of_overwrites hov fun _ => hfree.voucher htx, hlapsed⟩

theorem Aborting.of_overwrites (h : Aborting s tx) (hov : s.Overwrites held s')
    (hfree : Apart held tx) : Aborting s' tx := by
  obtain ⟨t, rfl, hg⟩ := h
  exact ⟨t, rfl, hg.of_overwrites hov (hfree t rfl)⟩

end Frame

/-! ### The calls -/

theorem moves_begin (h : tx = none) : Moves s tx .begin fun _ _ tx' => Opened tx' := by
  subst h
  intro o
  exact ⟨.begin, s.nextOwner, rfl⟩

theorem Opened.findVoucher (h : Opened tx) :
    Moves s tx (.findVoucher c) fun a s' tx' => match a with
      | .ok vid => Found s' c vid tx'
      | .error _ => Aborting s' tx' := by
  obtain ⟨o, rfl⟩ := h
  intro oracle
  simp only [Call.perform, Backend.step]
  rw [Tx.findVoucher_of_unstaged rfl]
  cases hid : s.voucherId c with
  | none => exact ⟨.read, Opened.aborting ⟨o, rfl⟩⟩
  | some vid => exact ⟨.read, ⟨o, rfl⟩, hid⟩

theorem Found.lock {others : List Tx} {vid : Int} (hlocks : LocksAgree s (tx.toList ++ others))
    (h : Found s c vid tx) :
    Moves s tx (.lock ctx (.voucher c)) fun a s' tx' => match a with
      | .ok () => Locked s' c vid tx'
      | .error _ => Aborting s' tx' := by
  obtain ⟨⟨o, rfl⟩, hnamed⟩ := h
  intro oracle
  simp only [Call.perform, Backend.step]
  have hmine : LockKey.voucher c ∉ ({ owner := o } : Tx).held := List.not_mem_nil
  cases hfree : s.holderOf (.voucher c) with
  | none =>
    rw [Tx.lock_of_free hmine hfree]
    exact ⟨.lock hfree, o, rfl, hnamed⟩
  | some holder =>
    -- another transaction holds the lock and keeps it: the wait fails and changes nothing
    obtain ⟨e, he⟩ := Tx.lock_of_held hmine hfree (hlocks.kept_of_holderOf hfree)
    rw [he]
    exact ⟨.read, Opened.aborting ⟨o, rfl⟩⟩

theorem Locked.readVoucher {vid : Int} (hids : (s.vouchers.map (·.id)).Nodup)
    (h : Locked s c vid tx) :
    Moves s tx (.readVoucher vid) fun a s' tx' => match a with
      | .ok v => ∃ o v0, tx' = some (voucherTx o c [] []) ∧ Read s' c v0 v
      | .error _ => Aborting s' tx' := by
  obtain ⟨o, rfl, hnamed⟩ := h
  intro oracle
  simp only [Call.perform, Backend.step, Tx.readVoucher_eq]
  rw [Tx.voucher_of_unstaged rfl]
  cases hrow : findBy (·.id) s.vouchers vid with
  | none => exact ⟨.read, Locked.aborting ⟨o, rfl, hnamed⟩⟩
  | some v0 => exact ⟨.read, o, v0, rfl, Store.rowOf_of_named hids hnamed hrow, rfl⟩

theorem Expiring.markVoucherExpired {v : Voucher} (h : Expiring s now c v tx) :
    Moves s tx (.markVoucherExpired v.id) fun a s' tx' => match a with
      | .ok () => Closing s' now c v tx'
      | .error _ => Aborting s' tx' := by
  have habort : Aborting s tx := h.aborting
  obtain ⟨o, v0, rfl, hread, hlapsed⟩ := h
  intro oracle
  simp only [Call.perform, Backend.step]
  rcases @Tx.markVoucherExpired_cases s (voucherTx o c [] []) v.id with
    ⟨x, hx, -, hstaged⟩ | ⟨e, he⟩
  · -- the row seen is the one read, staged expired
    rw [Tx.voucher_of_unstaged rfl, hread.id_eq, hread.1.row] at hx
    cases hx
    rw [hstaged]
    exact ⟨.stage rfl rfl, o, v0, by simp [voucherTx], hread, hlapsed⟩
  · rw [he]
    exact ⟨.read, habort⟩

theorem Closing.updateParticipationStatus {v : Voucher} (h : Closing s now c v tx) :
    Moves s tx (.updateParticipationStatus v.participationId .expired now)
      fun a s' tx' => match a with
      | .ok () => Ending s' now c tx'
      | .error _ => Aborting s' tx' := by
  have habort : Aborting s tx := h.aborting
  obtain ⟨o, v0, rfl, hread, hlapsed⟩ := h
  intro oracle
  simp only [Call.perform, Backend.step]
  rcases @Tx.updateParticipationStatus_cases s (voucherTx o c [{ v0 with status := .expired }] [])
      v.participationId .expired now with ⟨p, hp, hstaged⟩ | ⟨e, he⟩
  · rw [hstaged]
    rw [Tx.participation_of_unstaged rfl] at hp
    have hmem : p ∈ s.participations := (findBy_eq_some _ hp).1
    refine ⟨.stage rfl rfl, o, [{ v0 with status := .expired }],
      [p.withStatus .expired now], by simp [voucherTx], .inr ⟨v0, rfl, hread.1, hlapsed⟩, ?_⟩
    intro q hq
    rw [List.mem_singleton] at hq
    subst hq
    rw [Participation.owner_withStatus]
    exact List.mem_map_of_mem hmem
  · rw [he]
    exact ⟨.read, habort⟩

theorem Ending.expires {o : Nat} {vs : List Voucher} {ps : List Participation}
    (hexpiry : Expiry s now c vs) : Expires s ((voucherTx o c vs ps).commit s) now c := by
  intro id v v' hv hv' hne
  rcases hexpiry with rfl | ⟨v0, rfl, hrow, hlapsed⟩
  · simp [voucherTx, hv] at hv'
    exact absurd hv'.symm hne
  · rw [Tx.findBy_commit_single rfl] at hv'
    split at hv'
    · -- the row written is the expiry of the row the code names
      rename_i hid
      rw [hid, hrow.row] at hv
      cases hv
      cases hv'
      exact ⟨hrow.code, hlapsed, rfl⟩
    · rw [hv] at hv'
      cases hv'
      exact absurd rfl hne

theorem Ending.finish (h : Ending s now c tx) :
    Moves s tx (.finish ctx (.ok ())) fun _ s' tx' => tx' = none ∧ Expires s s' now c := by
  obtain ⟨o, vs, ps, rfl, hexpiry, -⟩ := h
  intro oracle
  simp only [Call.perform, Backend.finish]
  cases ctx.failure? with
  | some f =>
    refine ⟨.rollback, rfl, ?_⟩
    intro id v v' hv hv' hne
    rw [Tx.rollback_vouchers, hv] at hv'
    cases hv'
    exact absurd rfl hne
  | none => exact ⟨.commit, rfl, Ending.expires hexpiry⟩

theorem Aborting.finish {f : Failure} (h : Aborting s tx) :
    Moves s tx (.finish ctx (.error f)) fun _ s' tx' => tx' = none ∧ s'.vouchers = s.vouchers := by
  obtain ⟨t, rfl, -⟩ := h
  intro oracle
  exact ⟨.rollback, rfl, rfl⟩

end Phase

end Concurrent
end TopUpPromo
