import TopUpPromo.Proofs.Standing.Views
import TopUpPromo.Proofs.Isolated.Check
import TopUpPromo.Proofs.Isolated.TopUp
import TopUpPromo.Api.Response

/-!
# Expiry as the readers see it

A voucher is valid up to its expiry instant, included, and past it from the next nanosecond on.
Every path reads this one boundary: the validity the service shows, the status the listing of
vouchers shows, the status a participation reads as over its listed vouchers, the check, which
writes down the expiry of an active voucher past it, and the top-up, which writes it down in
place of a charge.

Writing an expiry down changes nothing a reader sees from then on. The listings already read the
voucher as expired, and its participation, which was issued this one voucher, as expired with
it; the service never shows the participation's stored status. A store reached from the empty one
and the store after a check, or after a top-up refused for the voucher's expiry, read alike
(`ReadAlike`) at every later instant.

## Main results

- `Memory.Store.listed_vouchers_of_expired`, `Memory.Store.shown_participations_of_expired`: the
  listings of a user over a store and over the store with a lapsed voucher's expiry committed.
- `lazy_expiry_invisible`: in every run, a check and a top-up refused for expiry leave the
  readers' view as it was; a check is idempotent; and every path shares the boundary.
-/

namespace TopUpPromo

/-! ## The boundary -/

namespace Voucher

variable {v : Voucher} {now later : Instant}

theorem isExpired_iff : v.isExpired now = true ↔ v.expiresAt.totalNanos < now.totalNanos := by
  simp [isExpired, Instant.after]

theorem isExpired_eq_false_iff :
    v.isExpired now = false ↔ now.totalNanos ≤ v.expiresAt.totalNanos := by
  simp [isExpired, Instant.after]

theorem isExpired_of_le (h : v.isExpired now = true) (hle : now.totalNanos ≤ later.totalNanos) :
    v.isExpired later = true := by
  rw [isExpired_iff] at h ⊢
  omega

theorem isValid_of_active (hv : v.status = .active) :
    v.isValid now = decide (now.totalNanos ≤ v.expiresAt.totalNanos) := by
  by_cases hle : now.totalNanos ≤ v.expiresAt.totalNanos
  · simp [isValid, hv, isExpired_eq_false_iff.2 hle, hle]
  · have hexp : v.isExpired now = true := isExpired_iff.2 (by omega)
    simp [isValid, hv, hexp, hle]

theorem effectiveStatus_of_active (hv : v.status = .active) :
    v.effectiveStatus now =
      if now.totalNanos ≤ v.expiresAt.totalNanos then .active else .expired := by
  by_cases hle : now.totalNanos ≤ v.expiresAt.totalNanos
  · simp [effectiveStatus, hv, isExpired_eq_false_iff.2 hle, hle]
  · have hexp : v.isExpired now = true := isExpired_iff.2 (by omega)
    simp [effectiveStatus, hv, hexp, hle]

end Voucher

theorem effectiveStatus_issued {jp : JoinedParticipation} (hjp : jp.row.status = .voucherIssued)
    {v : Voucher} (hv : v.status = .active) (u : Int) (now : Instant) :
    effectiveStatus jp now [{ v with userId := u, status := v.effectiveStatus now }] =
      if now.totalNanos ≤ v.expiresAt.totalNanos then .voucherIssued else .expired := by
  unfold effectiveStatus
  rw [hjp, Voucher.effectiveStatus_of_active hv]
  by_cases hle : now.totalNanos ≤ v.expiresAt.totalNanos
  · have hnot : ¬v.expiresAt.totalNanos < now.totalNanos := by omega
    simp [hle, Voucher.isExpired, Instant.after, hnot]
  · simp [hle]

namespace Participation.Configured

theorem issued_of_active {p : Participation} {vs : List Voucher} {v : Voucher}
    (h : p.Configured vs) (hv : v ∈ vs) (hactive : v.status = .active) :
    p.status = .voucherIssued ∧ vs = [v] := by
  unfold Configured at h
  cases hs : p.status with
  | eligible =>
    rw [hs] at h
    rw [h.1] at hv
    cases hv
  | voucherIssued =>
    rw [hs] at h
    obtain ⟨w, rfl, -⟩ := h
    rw [List.mem_singleton.1 hv]
    exact ⟨rfl, rfl⟩
  | voucherUsed =>
    rw [hs] at h
    obtain ⟨w, rfl, hw, -⟩ := h
    rw [← List.mem_singleton.1 hv, hactive] at hw
    cases hw
  | expired =>
    rw [hs] at h
    obtain ⟨w, rfl, hw⟩ := h
    rw [← List.mem_singleton.1 hv, hactive] at hw
    cases hw
  | other word =>
    rw [hs] at h
    exact h.elim

end Participation.Configured

namespace Concurrent

open Memory

theorem Phase.Lapsed.effectiveStatus {v : Voucher} {now later : Instant} (h : Phase.Lapsed now v)
    (hle : now.totalNanos ≤ later.totalNanos) : v.effectiveStatus later = .expired := by
  simp [Voucher.effectiveStatus, h.1, Voucher.isExpired_of_le h.2 hle]

theorem Phase.lapsed_iff {v : Voucher} {now : Instant} :
    Phase.Lapsed now v ↔ v.status = .active ∧ v.expiresAt.totalNanos < now.totalNanos := by
  rw [Phase.Lapsed, Voucher.isExpired_iff]

theorem TopUpStage.afterRead_of_active {now : Instant} {req : TopUpRequest} {txId : String}
    {v : Voucher} (hv : v.status = .active) (hown : v.userId = req.userId) :
    TopUpStage.afterRead now req txId v =
      if now.totalNanos ≤ v.expiresAt.totalNanos then
        (if req.amount < v.minTopup then .aborting txId (.belowMinimum v.minTopup)
        else .charging txId v)
      else .expiring txId v := by
  by_cases hle : now.totalNanos ≤ v.expiresAt.totalNanos
  · simp [TopUpStage.afterRead, hown, Voucher.isValid_of_active hv, hle]
  · have hexp : v.isExpired now = true := Voucher.isExpired_iff.2 (by omega)
    simp [TopUpStage.afterRead, hown, Voucher.isValid_of_active hv, hle, hv, hexp]

theorem CheckStage.Checked.of_active {s0 s : Store} {now : Instant} {c : String} {v w : Voucher}
    (h : CheckStage.Checked s0 now c w s) (hnames : s0.Names c v) (hv : v.status = .active) :
    (now.totalNanos ≤ v.expiresAt.totalNanos → w = s0.joinVoucher [] v ∧ Kept s0 s) ∧
      (v.expiresAt.totalNanos < now.totalNanos →
        w = { s0.joinVoucher [] v with status := .expired } ∧ Phase.Expired s0 now c s) := by
  obtain ⟨v0, hnames0, ⟨hfresh, rfl, hkept⟩ | ⟨hlapsed, rfl, -, hexpired⟩⟩ := h
  · obtain rfl := hnames0.unique hnames
    refine ⟨fun _ => ⟨rfl, hkept⟩, fun hlt => absurd (Phase.lapsed_iff.2 ⟨hv, hlt⟩) hfresh⟩
  · obtain rfl := hnames0.unique hnames
    have hlt := (Phase.lapsed_iff.1 hlapsed).2
    exact ⟨fun hle => absurd hlt (not_lt.2 hle), fun _ => ⟨rfl, hexpired⟩⟩

end Concurrent

/-! ## The listings after an expiry -/

namespace Memory

open Concurrent

section Rows

variable {α β : Type} (idOf : α → Int)

theorem map_reverse_filter_upsertBy {f : α → β} {P : α → Bool} {rows : List α} {r row : α}
    (hnd : (rows.map idOf).Nodup) (hr : r ∈ rows) (hid : idOf r = idOf row) (hP : P row = P r)
    (hf : P r = true → f row = f r) :
    (((upsertBy idOf rows row).filter P).reverse).map f = ((rows.filter P).reverse).map f := by
  -- the row replaced is `r` alone
  have honly : ∀ x ∈ rows, idOf x = idOf row → x = r := fun x hx hxid =>
    List.inj_on_of_nodup_map hnd hx hr (hxid.trans hid.symm)
  have hfilter :
      rows.filter (P ∘ fun x => if idOf x = idOf row then row else x) = rows.filter P := by
    apply List.filter_congr
    intro x hx
    by_cases hxid : idOf x = idOf row
    · obtain rfl := honly x hx hxid
      simp [hxid, hP]
    · simp [hxid]
  rw [upsertBy_of_exists idOf ⟨r, hr, hid⟩, List.filter_map, hfilter, ← List.map_reverse,
    List.map_map]
  apply List.map_congr_left
  intro x hx
  obtain ⟨hxrows, hxP⟩ := List.mem_filter.1 (List.mem_reverse.1 hx)
  by_cases hxid : idOf x = idOf row
  · obtain rfl := honly x hxrows hxid
    simp [hxid, hf hxP]
  · simp [hxid]

end Rows

namespace Store

variable {s0 s : Store} {now later : Instant} {c : String}

theorem listed_vouchers_eq (hnd : (s.participations.map (·.id)).Nodup) (u : Int)
    (later : Instant) :
    (s.listVouchersByUser u).map (fun v => { v with status := v.effectiveStatus later }) =
      (((s.vouchers.map fun v => { v with status := v.effectiveStatus later }).filter
        (s.ownedBy u)).reverse).map fun v => { v with userId := u } := by
  rw [listVouchersByUser_eq hnd, List.map_map, List.filter_map, ← List.map_reverse, List.map_map]
  rfl

theorem ownedBy_of_owners
    (h : s.participations.map Participation.owner = s0.participations.map Participation.owner)
    (u : Int) : s.ownedBy u = s0.ownedBy u := by
  have hany : ∀ s' : Store, s'.ownedBy u = fun v =>
      (s'.participations.map Participation.owner).any fun x => x.1 == v.participationId && x.2 == u := by
    intro s'
    funext v
    simp [ownedBy, List.any_map, Function.comp_def, Participation.owner]
  rw [hany s, hany s0, h]

/-- Committing a lapsed voucher's expiry changes no voucher a user lists from then on: the voucher
already read as expired. -/
theorem listed_vouchers_of_expired (hk : s0.Keyed) (h : Phase.Expired s0 now c s)
    (hle : now.totalNanos ≤ later.totalNanos) (u : Int) :
    (s.listVouchersByUser u).map (fun v => { v with status := v.effectiveStatus later }) =
      (s0.listVouchersByUser u).map (fun v => { v with status := v.effectiveStatus later }) := by
  rw [listed_vouchers_eq (h.participationIds_nodup hk), listed_vouchers_eq hk.participations.nodup,
    ownedBy_of_owners (h.owners hk)]
  obtain ⟨v0, p, hnames, hlapsed, -, hvouchers, -⟩ := h
  have hread : (s.vouchers.map fun v => { v with status := v.effectiveStatus later }) =
      s0.vouchers.map fun v => { v with status := v.effectiveStatus later } := by
    rw [hvouchers]
    refine map_upsertBy_of_mem _ (fun a b hab => congrArg Voucher.id hab) hk.vouchers.nodup ?_
    refine List.mem_map.2 ⟨v0, (findBy_eq_some _ hnames.2).1, ?_⟩
    rw [hlapsed.effectiveStatus hle]
    simp [Voucher.effectiveStatus]
  rw [hread]

theorem joinParticipation_of_campaigns (h : s.campaigns = s0.campaigns) :
    s.joinParticipation = s0.joinParticipation := by
  funext p
  simp only [joinParticipation, h]

theorem joinParticipation_withStatus (s : Store) (p : Participation)
    (status : ParticipationStatus) (t : Instant) :
    s.joinParticipation (p.withStatus status t) =
      { s.joinParticipation p with row := p.withStatus status t } := by
  have hcid : (p.withStatus status t).campaignId = p.campaignId := by cases status <;> rfl
  unfold joinParticipation
  rw [hcid]
  cases findBy (·.id) s.campaigns p.campaignId <;> rfl

/-- Committing a lapsed voucher's expiry changes no participation a user lists from then on, as
the service shows it over the vouchers `listed`: the participation the voucher was issued to
read as expired over that voucher, and now reads so by its status. -/
theorem shown_participations_of_expired (hk : s0.Keyed) (hs : Standing s0) (hl : Leaves s0 s)
    (h : Phase.Expired s0 now c s) (hle : now.totalNanos ≤ later.totalNanos) (T : Int32) (u : Int)
    (listed : List Voucher)
    (hlisted : listed =
      (s0.listVouchersByUser u).map fun v => { v with status := v.effectiveStatus later }) :
    (s.listParticipationsByUser u).map (fun jp => Api.participationJson
        ⟨jp, effectiveStatus jp later (listed.filter (·.participationId == jp.row.id)),
          jp.row.withinThreshold T, listed.filter (·.participationId == jp.row.id)⟩ later) =
      (s0.listParticipationsByUser u).map (fun jp => Api.participationJson
        ⟨jp, effectiveStatus jp later (listed.filter (·.participationId == jp.row.id)),
          jp.row.withinThreshold T, listed.filter (·.participationId == jp.row.id)⟩ later) := by
  obtain ⟨v0, p, hnames, hlapsed, hp, -, hparts⟩ := h
  obtain ⟨hpmem, hpid⟩ := findBy_eq_some _ hp
  simp only [listParticipationsByUser, joinParticipation_of_campaigns hl.campaigns, List.map_map,
    hparts]
  refine map_reverse_filter_upsertBy _ hk.participations.nodup hpmem rfl rfl ?_
  intro hu
  -- the participation was issued `v0` alone, which it lists as expired
  have hv0 : v0 ∈ s0.vouchersFor p.id :=
    List.mem_filter.2 ⟨(findBy_eq_some _ hnames.2).1, by simp [hpid]⟩
  obtain ⟨hissued, hfor⟩ := (hs.configured p hpmem).issued_of_active hv0 hlapsed.1
  have hown : listed.filter (·.participationId == p.id) =
      [{ v0 with userId := u, status := .expired }] := by
    rw [hlisted, listed_vouchers_of hk hpmem (by simpa using hu) later]
    rw [show s0.vouchers.filter (·.participationId == p.id) = [v0] from hfor]
    simp [hlapsed.effectiveStatus hle]
  have hbefore : effectiveStatus (s0.joinParticipation p) later
      [{ v0 with userId := u, status := .expired }] = .expired := by
    simp [effectiveStatus, hissued]
  simp only [Function.comp_apply, joinParticipation_withStatus, Participation.id_withStatus,
    row_joinParticipation, hown, hbefore]
  -- the two views differ in the stored status alone, which the service does not show
  have hrow := row_joinParticipation s0 p
  generalize s0.joinParticipation p = jp at hrow ⊢
  obtain ⟨row, name, campaignEnd⟩ := jp
  dsimp only at hrow
  subst hrow
  rfl

end Store

end Memory

/-! ## Readers from then on -/

namespace Concurrent

open Memory

/-- From `now` on, every reader of a user's vouchers and participations answers alike over `s0`
and over `s`: the same vouchers with the same statuses, and the same participations as the
service shows them, each with its vouchers and their validity. -/
def ReadAlike (now : Instant) (s0 s : Store) : Prop :=
  ∀ later : Instant, now.totalNanos ≤ later.totalNanos →
    ∀ (o : Oracle) (T : Int32) (ctx : Ctx) (u : Int),
      ((listVouchers later ctx u : Program _).runOn o ⟨s, none⟩).1 =
          ((listVouchers later ctx u : Program _).runOn o ⟨s0, none⟩).1 ∧
        ((listParticipations T later ctx u : Program _).runOn o ⟨s, none⟩).1.map
            (·.map (Api.participationJson · later)) =
          ((listParticipations T later ctx u : Program _).runOn o ⟨s0, none⟩).1.map
            (·.map (Api.participationJson · later))

theorem listVouchers_runOn (o : Oracle) (s : Store) (now : Instant) (ctx : Ctx) (u : Int) :
    ((listVouchers now ctx u : Program _).runOn o ⟨s, none⟩).1 =
      .ok ((s.listVouchersByUser u).map fun v => { v with status := v.effectiveStatus now }) :=
  rfl

variable {s0 s : Store} {now : Instant} {c : String}

theorem readAlike_of_kept (h : Kept s0 s) (now : Instant) : ReadAlike now s0 s := by
  intro later _ o T ctx u
  have hv : s.listVouchersByUser u = s0.listVouchersByUser u := by
    simp only [Store.listVouchersByUser, h.vouchers, h.participations,
      funext (Store.joinVoucher_of_participations h.participations [])]
  have hp : s.listParticipationsByUser u = s0.listParticipationsByUser u := by
    simp only [Store.listParticipationsByUser, h.participations,
      Store.joinParticipation_of_campaigns h.campaigns]
  rw [listVouchers_runOn, listVouchers_runOn, listParticipations_runOn, listParticipations_runOn,
    hv, hp]
  exact ⟨rfl, rfl⟩

theorem readAlike_of_expired (hk : s0.Keyed) (hs : Standing s0) (hl : Leaves s0 s)
    (h : Phase.Expired s0 now c s) : ReadAlike now s0 s := by
  intro later hle o T ctx u
  rw [listVouchers_runOn, listVouchers_runOn, listParticipations_runOn, listParticipations_runOn,
    Store.listed_vouchers_of_expired hk h hle u]
  refine ⟨rfl, ?_⟩
  simp only [Except.map, List.map_map]
  exact congrArg Except.ok (Store.shown_participations_of_expired hk hs hl h hle T u _ rfl)

theorem readAlike_of_committed (hk : s0.Keyed) (hs : Standing s0)
    (h : Kept s0 s ∨ (Leaves s0 s ∧ Phase.Expired s0 now c s)) : ReadAlike now s0 s := by
  rcases h with hkept | ⟨hl, hexpired⟩
  · exact readAlike_of_kept hkept now
  · exact readAlike_of_expired hk hs hl hexpired

/-- Lazy expiry is invisible to readers. Let `S` be the store any run reaches from the empty
store, whatever requests ran and however their calls interleaved. A voucher check of any code at
any `now`, run alone from `S`, and a top-up refused because the voucher it names is invalid or
expired, leave a store that every reader of vouchers and participations reads as `S` from `now`
on. A check is idempotent: one that failed wrote nothing, and once one answered a voucher,
checking the code again at `now` answers that voucher and writes nothing. And every path treats
an active voucher as valid up to its expiry instant, included, and as expired after: its
validity, the status it is listed with, the status of the participation issued it, where a
top-up of its user goes with it, and what a check answers of it. -/
theorem lazy_expiry_invisible (lockTimeoutMs : Nat) (requests : List Request) (es0 : List Event) :
    let S := ((World.start { lockTimeoutMs := lockTimeoutMs } requests).run es0).store
    (∀ (now : Instant) (ctx : Ctx) (code : String) (es : List Event),
      ∀ th ∈ ((World.start S [.validateVoucher now ctx code]).run es).threads, ∀ r,
        th.reply? = some (.validated r) →
          let S' := ((World.start S [.validateVoucher now ctx code]).run es).store
          ReadAlike now S S' ∧ (∀ e, r = .error e → Kept S S') ∧
            ∀ v, r = .ok v → ∀ (ctx' : Ctx) (es' : List Event),
              ∀ th' ∈ ((World.start S' [.validateVoucher now ctx' code]).run es').threads, ∀ r',
                th'.reply? = some (.validated r') →
                  r' = .ok v ∧
                    Kept S' ((World.start S' [.validateVoucher now ctx' code]).run es').store) ∧
    (∀ (now : Instant) (ctx : Ctx) (req : TopUpRequest) (named : Bool) (es : List Event),
      ∀ th ∈ ((World.start S [(Redemption.topUp now ctx req named).request]).run es).threads,
        th.reply? = some (.toppedUp (.error (.cause .voucherInvalidOrExpired))) →
          ReadAlike now S
            ((World.start S [(Redemption.topUp now ctx req named).request]).run es).store) ∧
    (∀ (v : Voucher) (now : Instant), v.status = .active →
      (v.isValid now = true ↔ now.totalNanos ≤ v.expiresAt.totalNanos) ∧
      v.effectiveStatus now =
        (if now.totalNanos ≤ v.expiresAt.totalNanos then .active else .expired) ∧
      (∀ (jp : JoinedParticipation) (u : Int), jp.row.status = .voucherIssued →
        effectiveStatus jp now [{ v with userId := u, status := v.effectiveStatus now }] =
          if now.totalNanos ≤ v.expiresAt.totalNanos then .voucherIssued else .expired) ∧
      (∀ (req : TopUpRequest) (txId : String), v.userId = req.userId →
        TopUpStage.afterRead now req txId v =
          if now.totalNanos ≤ v.expiresAt.totalNanos then
            (if req.amount < v.minTopup then .aborting txId (.belowMinimum v.minTopup)
            else .charging txId v)
          else .expiring txId v) ∧
      ∀ (ctx : Ctx) (code : String) (es : List Event), S.Names code v →
        ∀ th ∈ ((World.start S [.validateVoucher now ctx code]).run es).threads, ∀ w,
          th.reply? = some (.validated (.ok w)) →
            let S' := ((World.start S [.validateVoucher now ctx code]).run es).store
            (now.totalNanos ≤ v.expiresAt.totalNanos → w = S.joinVoucher [] v ∧ Kept S S') ∧
            (v.expiresAt.totalNanos < now.totalNanos →
              w = { S.joinVoucher [] v with status := .expired } ∧ Phase.Expired S now code S')) := by
  intro S
  have hreach := World.reachable_run (World.start { lockTimeoutMs := lockTimeoutMs } requests) es0
  have hs : Standing S := (promo_reachable (Promo.empty lockTimeoutMs requests) hreach).standing
  have hk : S.Keyed := Store.Keyed.reachable (Store.Keyed.empty lockTimeoutMs) hreach
  refine ⟨?check, ?topUp, ?boundary⟩
  case check =>
    intro now ctx code es th hth r hreply
    obtain ⟨st, hM, hi⟩ := reply_alone (CheckStage.alone_keeps S)
      CheckStage.follows_validateVoucher ⟨rfl, Kept.refl S⟩ es th hth _ hreply
    obtain ⟨hfailed, hchecked⟩ := CheckStage.check_answers hk ctx es th hth r hreply
    refine ⟨readAlike_of_committed hk hs (hi.stop hM), hfailed, ?_⟩
    intro v hv ctx' es'
    exact (hchecked v hv).again hk ctx' es'
  case topUp =>
    intro now ctx req named es th hth hreply
    obtain ⟨st, hM, hi⟩ := reply_alone (TopUpStage.alone_keeps S)
      (TopUpStage.follows_request named) ⟨rfl, rfl, Kept.refl S⟩ es th hth _ hreply
    exact readAlike_of_committed hk hs (((hi.stop hM).1 _ rfl).imp_right fun h => h.2)
  case boundary =>
    intro v now hv
    refine ⟨?_, Voucher.effectiveStatus_of_active hv,
      fun jp u hjp => effectiveStatus_issued hjp hv u now,
      fun req txId hown => TopUpStage.afterRead_of_active hv hown, ?_⟩
    · rw [Voucher.isValid_of_active hv, decide_eq_true_iff]
    · intro ctx code es hnames th hth w hreply
      exact ((CheckStage.check_answers hk ctx es th hth _ hreply).2 w rfl).of_active hnames hv

end Concurrent

end TopUpPromo
