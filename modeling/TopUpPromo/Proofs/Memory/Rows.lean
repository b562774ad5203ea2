import Mathlib.Data.List.Find
import Mathlib.Data.List.Nodup
import TopUpPromo.Store.Memory

/-!
# Rows kept by id

The in-memory store keeps each table as a list of rows and writes a row with `upsertBy`: a row
whose id is already there replaces the rows of that id, and a row of a new id is put in its
place by id. Reads look a row up with `findBy`, the first row of the id.

The lemmas here say what a write does to the rows and to the reads: a write of a new id adds
one row (`upsertBy_perm_of_forall_ne`), a write of an existing id keeps the list of ids
(`map_upsertBy_of_exists`), and a read after a write sees the row written at its id and the old
row at every other id (`findBy_upsertBy_self`, `findBy_upsertBy_of_ne`).
-/

namespace TopUpPromo
namespace Memory

open scoped List

variable {α : Type} (idOf : α → Int)

/-! ## Writes -/

@[simp] theorem upsertBy_nil (row : α) : upsertBy idOf [] row = [row] := by
  simp [upsertBy]

theorem upsertBy_of_exists {rows : List α} {row : α} (h : ∃ r ∈ rows, idOf r = idOf row) :
    upsertBy idOf rows row = rows.map fun r => if idOf r = idOf row then row else r := by
  have hany : rows.any (fun r => idOf r == idOf row) = true := by
    rw [List.any_eq_true]
    obtain ⟨r, hr, hid⟩ := h
    exact ⟨r, hr, by simp [hid]⟩
  simp only [upsertBy, hany, if_true, beq_iff_eq]

theorem upsertBy_of_forall_ne {rows : List α} {row : α} (h : ∀ r ∈ rows, idOf r ≠ idOf row) :
    upsertBy idOf rows row =
      rows.filter (fun r => idOf r < idOf row) ++ [row] ++
        rows.filter (fun r => idOf row < idOf r) := by
  have hany : rows.any (fun r => idOf r == idOf row) = false := by
    rw [List.any_eq_false]
    intro r hr
    simpa using h r hr
  simp only [upsertBy, hany, Bool.false_eq_true, if_false]

/-- A row of a new id is one row more. -/
theorem upsertBy_perm_of_forall_ne {rows : List α} {row : α}
    (h : ∀ r ∈ rows, idOf r ≠ idOf row) : upsertBy idOf rows row ~ rows ++ [row] := by
  rw [upsertBy_of_forall_ne idOf h]
  -- the rows of other ids split into the smaller and the larger ones
  have hsplit : rows.filter (fun r => idOf row < idOf r) =
      rows.filter (fun r => !decide (idOf r < idOf row)) := by
    apply List.filter_congr
    intro r hr
    have hne := h r hr
    by_cases hlt : idOf r < idOf row
    · simp only [hlt, decide_true, Bool.not_true, decide_eq_false_iff_not]
      omega
    · simp only [hlt, decide_false, Bool.not_false, decide_eq_true_eq]
      omega
  calc rows.filter (fun r => idOf r < idOf row) ++ [row] ++
        rows.filter (fun r => idOf row < idOf r)
      ~ rows.filter (fun r => idOf r < idOf row) ++
          rows.filter (fun r => idOf row < idOf r) ++ [row] := by
        rw [List.append_assoc, List.append_assoc]
        exact List.Perm.append_left _ List.perm_append_comm
    _ ~ rows ++ [row] := by
        rw [hsplit]
        exact List.Perm.append_right _ (List.filter_append_perm _ rows)

theorem upsertBy_singleton_of_eq {r row : α} (h : idOf r = idOf row) :
    upsertBy idOf [r] row = [row] := by
  rw [upsertBy_of_exists idOf ⟨r, List.mem_singleton_self r, h⟩]
  simp [h]

theorem mem_upsertBy {rows : List α} {row x : α} :
    x ∈ upsertBy idOf rows row ↔ x = row ∨ (x ∈ rows ∧ idOf x ≠ idOf row) := by
  by_cases h : ∃ r ∈ rows, idOf r = idOf row
  · rw [upsertBy_of_exists idOf h, List.mem_map]
    obtain ⟨r0, hr0, hid0⟩ := h
    constructor
    · rintro ⟨r, hr, rfl⟩
      by_cases hid : idOf r = idOf row
      · simp [hid]
      · simp [hid, hr]
    · rintro (rfl | ⟨hx, hid⟩)
      · exact ⟨r0, hr0, by simp [hid0]⟩
      · exact ⟨x, hx, by simp [hid]⟩
  · simp only [not_exists, not_and] at h
    rw [(upsertBy_perm_of_forall_ne idOf h).mem_iff]
    simp only [List.mem_append, List.mem_singleton]
    constructor
    · rintro (hx | rfl)
      · exact Or.inr ⟨hx, h x hx⟩
      · exact Or.inl rfl
    · rintro (rfl | ⟨hx, -⟩)
      · exact Or.inr rfl
      · exact Or.inl hx

/-- A write of an existing id keeps the ids. -/
theorem map_upsertBy_of_exists {rows : List α} {row : α} (h : ∃ r ∈ rows, idOf r = idOf row) :
    (upsertBy idOf rows row).map idOf = rows.map idOf := by
  rw [upsertBy_of_exists idOf h, List.map_map]
  apply List.map_congr_left
  intro r _
  by_cases hid : idOf r = idOf row <;> simp [hid]

/-! ## Reads -/

theorem findBy_eq_some {rows : List α} {id : Int} {r : α} (h : findBy idOf rows id = some r) :
    r ∈ rows ∧ idOf r = id :=
  ⟨List.mem_of_find?_eq_some h, by simpa using List.find?_some h⟩

theorem findBy_eq_none_iff {rows : List α} {id : Int} :
    findBy idOf rows id = none ↔ ∀ r ∈ rows, idOf r ≠ id := by
  simp [findBy, List.find?_eq_none]

theorem findBy_of_mem {rows : List α} {r : α} (hnd : (rows.map idOf).Nodup) (hr : r ∈ rows) :
    findBy idOf rows (idOf r) = some r := by
  induction rows with
  | nil => cases hr
  | cons a rest ih =>
    rw [List.map_cons, List.nodup_cons] at hnd
    rcases List.mem_cons.1 hr with rfl | hrest
    · simp [findBy]
    · have hne : idOf a ≠ idOf r := by
        intro heq
        exact hnd.1 (heq ▸ List.mem_map_of_mem hrest)
      have hrec := ih hnd.2 hrest
      simp only [findBy] at hrec ⊢
      simp [hne, hrec]

theorem findBy_upsertBy_self (rows : List α) (row : α) :
    findBy idOf (upsertBy idOf rows row) (idOf row) = some row := by
  by_cases h : ∃ r ∈ rows, idOf r = idOf row
  · rw [upsertBy_of_exists idOf h]
    simp only [findBy, List.find?_map]
    have hsome : (rows.find? ((fun r => idOf r == idOf row) ∘
        fun r => if idOf r = idOf row then row else r)).isSome := by
      rw [List.find?_isSome]
      obtain ⟨r, hr, hid⟩ := h
      exact ⟨r, hr, by simp [hid]⟩
    obtain ⟨r, hr⟩ := Option.isSome_iff_exists.1 hsome
    have hid : idOf r = idOf row := by
      have := List.find?_some hr
      by_cases hr' : idOf r = idOf row
      · exact hr'
      · simp [hr'] at this
    rw [hr]
    simp [hid]
  · simp only [not_exists, not_and] at h
    rw [upsertBy_of_forall_ne idOf h]
    have hbefore : findBy idOf (rows.filter (fun r => idOf r < idOf row)) (idOf row) = none := by
      rw [findBy_eq_none_iff]
      intro r hr
      have := (List.mem_filter.1 hr).2
      simp only [decide_eq_true_eq] at this
      omega
    simp only [findBy] at hbefore ⊢
    simp [List.find?_append, hbefore]

theorem findBy_upsertBy_of_ne {rows : List α} {row : α} {id : Int} (hne : id ≠ idOf row) :
    findBy idOf (upsertBy idOf rows row) id = findBy idOf rows id := by
  by_cases h : ∃ r ∈ rows, idOf r = idOf row
  · rw [upsertBy_of_exists idOf h]
    simp only [findBy, List.find?_map]
    -- a replaced row has the written id, which is not the id looked for
    have hpred : ∀ r ∈ rows, ((fun r => idOf r == id) ∘
        fun r => if idOf r = idOf row then row else r) r = (idOf r == id) := by
      intro r _
      by_cases hid : idOf r = idOf row
      · simp [hid]
      · simp [hid]
    rw [List.find?_congr hpred]
    cases hfind : rows.find? (fun r => idOf r == id) with
    | none => rfl
    | some r =>
      have hid : idOf r = id := by simpa using List.find?_some hfind
      simp [hid, hne]
  · simp only [not_exists, not_and] at h
    rw [upsertBy_of_forall_ne idOf h]
    simp only [findBy, List.find?_append, List.find?_filter]
    have hrow : [row].find? (fun r => idOf r == id) = none := by
      simp [Ne.symm hne]
    rw [hrow, Option.or_none]
    rcases lt_or_gt_of_ne hne with hlt | hgt
    · -- the rows of the id are all among the smaller ones
      have hsmall : rows.find? (fun r => decide (decide (idOf r < idOf row) = true ∧ (idOf r == id) = true)) =
          rows.find? (fun r => idOf r == id) := by
        apply List.find?_congr
        intro r _
        by_cases hr : idOf r = id <;> simp [hr, hlt]
      have hlarge : rows.find? (fun r => decide (decide (idOf row < idOf r) = true ∧ (idOf r == id) = true)) =
          none := by
        rw [List.find?_eq_none]
        intro r _
        simp only [beq_iff_eq, decide_eq_true_eq, not_and]
        omega
      rw [hsmall, hlarge, Option.or_none]
    · -- the rows of the id are all among the larger ones
      have hsmall : rows.find? (fun r => decide (decide (idOf r < idOf row) = true ∧ (idOf r == id) = true)) =
          none := by
        rw [List.find?_eq_none]
        intro r _
        simp only [beq_iff_eq, decide_eq_true_eq, not_and]
        omega
      have hlarge : rows.find? (fun r => decide (decide (idOf row < idOf r) = true ∧ (idOf r == id) = true)) =
          rows.find? (fun r => idOf r == id) := by
        apply List.find?_congr
        intro r _
        by_cases hr : idOf r = id <;> simp [hr, hgt]
      rw [hsmall, hlarge, Option.none_or]

/-! ## Writes of several rows

A commit writes the rows a transaction staged, one after the other.
-/

theorem foldl_upsertBy_perm {rows : List α} {new : List α}
    (hnd : (rows.map idOf ++ new.map idOf).Nodup) : new.foldl (upsertBy idOf) rows ~ rows ++ new := by
  induction new generalizing rows with
  | nil => simp
  | cons r rest ih =>
    have hfresh : ∀ x ∈ rows, idOf x ≠ idOf r := by
      intro x hx
      exact (List.nodup_append.1 hnd).2.2 _ (List.mem_map_of_mem hx) _
        (List.mem_map_of_mem List.mem_cons_self)
    have hone := upsertBy_perm_of_forall_ne idOf hfresh
    have hnd' : ((upsertBy idOf rows r).map idOf ++ rest.map idOf).Nodup := by
      refine List.Nodup.perm hnd ?_
      calc rows.map idOf ++ (r :: rest).map idOf
          = (rows ++ [r]).map idOf ++ rest.map idOf := by simp
        _ ~ (upsertBy idOf rows r).map idOf ++ rest.map idOf :=
          List.Perm.append_right _ (hone.symm.map idOf)
    calc (r :: rest).foldl (upsertBy idOf) rows
        = rest.foldl (upsertBy idOf) (upsertBy idOf rows r) := rfl
      _ ~ upsertBy idOf rows r ++ rest := ih hnd'
      _ ~ rows ++ [r] ++ rest := List.Perm.append_right _ hone
      _ = rows ++ r :: rest := by simp

theorem mem_foldl_upsertBy {rows new : List α} {x : α}
    (hx : x ∈ new.foldl (upsertBy idOf) rows) : x ∈ rows ∨ x ∈ new := by
  induction new generalizing rows with
  | nil => exact .inl hx
  | cons r rest ih =>
    rcases ih hx with hx | hx
    · rcases (mem_upsertBy idOf).1 hx with rfl | ⟨hx, -⟩
      · exact .inr List.mem_cons_self
      · exact .inl hx
    · exact .inr (List.mem_cons_of_mem r hx)

theorem findBy_foldl_upsertBy_of_forall_ne {rows : List α} {new : List α} {id : Int}
    (hne : ∀ r ∈ new, id ≠ idOf r) :
    findBy idOf (new.foldl (upsertBy idOf) rows) id = findBy idOf rows id := by
  induction new generalizing rows with
  | nil => rfl
  | cons r rest ih =>
    have hrest : ∀ x ∈ rest, id ≠ idOf x := fun x hx => hne x (List.mem_cons_of_mem r hx)
    calc findBy idOf ((r :: rest).foldl (upsertBy idOf) rows) id
        = findBy idOf (upsertBy idOf rows r) id := ih hrest
      _ = findBy idOf rows id := findBy_upsertBy_of_ne idOf (hne r List.mem_cons_self)


theorem map_upsertBy_of_mem {β : Type} {f : α → β} (hid : ∀ a b, f a = f b → idOf a = idOf b)
    {rows : List α} {row : α} (hnd : (rows.map idOf).Nodup) (hrow : f row ∈ rows.map f) :
    (upsertBy idOf rows row).map f = rows.map f := by
  obtain ⟨r, hr, hfr⟩ := List.mem_map.1 hrow
  have hidr : idOf r = idOf row := hid r row hfr
  rw [upsertBy_of_exists idOf ⟨r, hr, hidr⟩, List.map_map]
  apply List.map_congr_left
  intro x hx
  by_cases hxid : idOf x = idOf row
  · -- the only row of that id is `r`, which has the written row's name
    have hxr : x = r := List.inj_on_of_nodup_map hnd hx hr (hxid.trans hidr.symm)
    subst hxr
    simp [hxid, hfr]
  · simp [hxid]

theorem map_foldl_upsertBy_of_mem {β : Type} {f : α → β}
    (hid : ∀ a b, f a = f b → idOf a = idOf b) {rows new : List α} (hnd : (rows.map idOf).Nodup)
    (hnew : ∀ x ∈ new, f x ∈ rows.map f) : (new.foldl (upsertBy idOf) rows).map f = rows.map f := by
  induction new generalizing rows with
  | nil => rfl
  | cons r rest ih =>
    have hone := map_upsertBy_of_mem idOf hid hnd (hnew r List.mem_cons_self)
    have hids : (upsertBy idOf rows r).map idOf = rows.map idOf := by
      obtain ⟨x, hx, hfx⟩ := List.mem_map.1 (hnew r List.mem_cons_self)
      exact map_upsertBy_of_exists idOf ⟨x, hx, hid x r hfx⟩
    have hrest : ∀ x ∈ rest, f x ∈ (upsertBy idOf rows r).map f := by
      intro x hx
      rw [hone]
      exact hnew x (List.mem_cons_of_mem r hx)
    calc ((r :: rest).foldl (upsertBy idOf) rows).map f
        = (rest.foldl (upsertBy idOf) (upsertBy idOf rows r)).map f := rfl
      _ = (upsertBy idOf rows r).map f := ih (hids ▸ hnd) hrest
      _ = rows.map f := hone

end Memory
end TopUpPromo
