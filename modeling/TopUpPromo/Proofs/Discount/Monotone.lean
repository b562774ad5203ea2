import TopUpPromo.Proofs.Discount.Rounding

/-!
# A larger top-up never costs less

Under a fixed voucher policy with a percentage in `[0, 100]` and any cap, the discount grows with
the amount, and so does what is charged. Both stages of rounding matter for the second half:
rounding to sixteen places and then to cents commutes with adding whole cents to a quotient that
is not negative, and a cap only ever flattens the discount, so from one accepted amount to a
larger one the discount grows by at most the difference of the amounts.

A negative cap applies to every quotient, since quotients are not negative; the discount is then
the same for every amount.

## Main results

- `roundAway_add_intCast`: rounding commutes with adding an integer, away from zero.
- `Discount.compute_monotone`: the discount and the charge are monotone in the amount.
-/

namespace TopUpPromo

theorem roundAway_add_intCast {x : ℚ} (hx : 0 ≤ x) {n : ℤ} (hn : 0 ≤ n) :
    roundAway (x + n) = roundAway x + n := by
  have hxn : 0 ≤ x + n := add_nonneg hx (by exact_mod_cast hn)
  rw [roundAway_of_nonneg hxn, roundAway_of_nonneg hx, add_right_comm, Int.floor_add_intCast]

namespace Discount

theorem roundSixteen_nonneg {q : ℚ} (hq : 0 ≤ q) : 0 ≤ roundSixteen q :=
  div_nonneg (by exact_mod_cast roundAway_nonneg (by positivity)) (by positivity)

theorem roundSixteen_mono {x y : ℚ} (h : x ≤ y) : roundSixteen x ≤ roundSixteen y := by
  have hpow : (0 : ℚ) < 10 ^ 16 := by positivity
  have hround := roundAway_mono (mul_le_mul_of_nonneg_right h hpow.le)
  exact div_le_div_of_nonneg_right (by exact_mod_cast hround) hpow.le

theorem roundSixteen_add_cents {q : ℚ} (hq : 0 ≤ q) {c : ℤ} (hc : 0 ≤ c) :
    roundSixteen (q + c / 100) = roundSixteen q + c / 100 := by
  have hscale : (q + c / 100) * 10 ^ 16 = q * 10 ^ 16 + ((c * 10 ^ 14 : ℤ) : ℚ) := by
    push_cast
    ring
  rw [roundSixteen, roundSixteen, hscale, roundAway_add_intCast (by positivity) (by positivity)]
  push_cast
  ring

section Capped

variable {x y : ℚ} {cap : Option Decimal}

theorem exactCapped_some_of_zero {c : Decimal} (hc : c.value = 0) :
    exactCapped x (some c) = x := by
  simp [exactCapped, hc]

theorem exactCapped_some_of_ne {c : Decimal} (hc : c.value ≠ 0) :
    exactCapped x (some c) = min x c.value := by
  simp only [exactCapped, ne_eq, hc, not_false_eq_true, true_and]
  split_ifs with h
  · exact (min_eq_right h.le).symm
  · exact (min_eq_left (not_lt.1 h)).symm

theorem exactCapped_mono (h : x ≤ y) : exactCapped x cap ≤ exactCapped y cap := by
  cases cap with
  | none => exact h
  | some c =>
    by_cases hc : c.value = 0
    · rw [exactCapped_some_of_zero hc, exactCapped_some_of_zero hc]
      exact h
    · rw [exactCapped_some_of_ne hc, exactCapped_some_of_ne hc]
      exact min_le_min_right _ h

theorem exactCapped_le_add (h : x ≤ y) : exactCapped y cap ≤ exactCapped x cap + (y - x) := by
  cases cap with
  | none => simp [exactCapped]
  | some c =>
    by_cases hc : c.value = 0
    · rw [exactCapped_some_of_zero hc, exactCapped_some_of_zero hc]
      linarith
    rw [exactCapped_some_of_ne hc, exactCapped_some_of_ne hc]
    rcases le_total x c.value with hxc | hcx
    · rw [min_eq_left hxc]
      linarith [min_le_left y c.value]
    · rw [min_eq_right hcx]
      linarith [min_le_right y c.value]

theorem exactCapped_eq_of_neg (hx : 0 ≤ x) (hneg : exactCapped x cap < 0) (h : x ≤ y) :
    exactCapped y cap = exactCapped x cap := by
  cases cap with
  | none => exact absurd hneg (not_lt.2 hx)
  | some c =>
    by_cases hc : c.value = 0
    · rw [exactCapped_some_of_zero hc] at hneg
      exact absurd hneg (not_lt.2 hx)
    rw [exactCapped_some_of_ne hc] at hneg
    rw [exactCapped_some_of_ne hc, exactCapped_some_of_ne hc]
    have hcneg : c.value < 0 := by
      rcases min_lt_iff.1 hneg with hxneg | hcneg
      · exact absurd hxneg (not_lt.2 hx)
      · exact hcneg
    rw [min_eq_right (by linarith), min_eq_right (by linarith)]

end Capped

/-- Under a percentage in `[0, 100]` and any cap, a larger accepted amount gets at least the
discount of a smaller one, and is charged at least as much. -/
theorem compute_monotone {a b percentage : Decimal} (ha : validAmount a = true)
    (hb : validAmount b = true) (hab : a ≤ b) (hpct : 0 ≤ percentage) (hpct100 : percentage ≤ 100)
    (cap : Option Decimal) :
    (compute a percentage cap).discount ≤ (compute b percentage cap).discount ∧
      (compute a percentage cap).final ≤ (compute b percentage cap).final := by
  obtain ⟨hapos, -, A, hA⟩ := validAmount_iff.1 ha
  obtain ⟨-, -, B, hB⟩ := validAmount_iff.1 hb
  have hab' : a.value ≤ b.value := Decimal.le_iff_value_le.1 hab
  have hp0 : 0 ≤ percentage.value := by
    simpa using Decimal.le_iff_value_le.1 hpct
  have hp100 : percentage.value ≤ 100 := by
    simpa using Decimal.le_iff_value_le.1 hpct100
  have hAB : A ≤ B := by exact_mod_cast (show (A : ℚ) ≤ B by rw [← hA, ← hB]; linarith)
  have hgap : b.value = a.value + ((B - A : ℤ) : ℚ) / 100 := by
    push_cast
    rw [← hA, ← hB]
    ring
  -- the quotients of the two amounts are at most the difference of the amounts apart
  set qa := a.value * percentage.value / 100 with hqa
  set qb := b.value * percentage.value / 100 with hqb
  have hqa0 : 0 ≤ qa := by positivity
  have hq : qa ≤ qb := by
    rw [hqa, hqb]
    gcongr
  have hqgap : qb ≤ qa + ((B - A : ℤ) : ℚ) / 100 := by
    have hspread : qb - qa ≤ b.value - a.value := by
      have hdiff : qb - qa = (b.value - a.value) * (percentage.value / 100) := by
        rw [hqa, hqb]
        ring
      rw [hdiff]
      exact mul_le_of_le_one_right (sub_nonneg.2 hab') (by linarith)
    linarith
  -- so are the sixteen-place quotients and the capped ones
  set ra := roundSixteen qa with hra
  set rb := roundSixteen qb with hrb
  have hr : ra ≤ rb := roundSixteen_mono hq
  have hrgap : rb ≤ ra + ((B - A : ℤ) : ℚ) / 100 := by
    have h := roundSixteen_mono hqgap
    rwa [roundSixteen_add_cents hqa0 (by omega)] at h
  set xa := exactCapped ra cap with hxa
  set xb := exactCapped rb cap with hxb
  have hx : xa ≤ xb := exactCapped_mono hr
  have hxgap : xb ≤ xa + ((B - A : ℤ) : ℚ) / 100 := by
    have hflat : xb ≤ xa + (rb - ra) := exactCapped_le_add hr
    linarith
  have hDa : (compute a percentage cap).discount.value = roundAway (xa * 100) / 100 :=
    value_discount a percentage cap
  have hDb : (compute b percentage cap).discount.value = roundAway (xb * 100) / 100 :=
    value_discount b percentage cap
  -- the cents of the larger capped quotient exceed those of the smaller by at most `B - A`
  have hcents : roundAway (xb * 100) ≤ roundAway (xa * 100) + (B - A) := by
    by_cases hxa0 : 0 ≤ xa
    · have hmono := roundAway_mono (show xb * 100 ≤ xa * 100 + ((B - A : ℤ) : ℚ) by linarith)
      rwa [roundAway_add_intCast (by positivity) (by omega)] at hmono
    · have hsame : xb = xa :=
        exactCapped_eq_of_neg (roundSixteen_nonneg hqa0) (not_le.1 hxa0) hr
      rw [hsame]
      omega
  refine ⟨Decimal.le_iff_value_le.2 ?_, Decimal.le_iff_value_le.2 ?_⟩
  · rw [hDa, hDb]
    exact div_le_div_of_nonneg_right (by exact_mod_cast roundAway_mono (by linarith))
      (by norm_num)
  · rw [value_final, value_final, hDa, hDb, hgap]
    have hcents' : (roundAway (xb * 100) : ℚ) ≤ roundAway (xa * 100) + ((B - A : ℤ) : ℚ) := by
      exact_mod_cast hcents
    linarith

/-- Thirty percent of one hundred and of two hundred, under a cap of fifty. -/
theorem compute_monotone_thirty_percent :
    validAmount 100 = true ∧ validAmount 200 = true ∧ (100 : Decimal) ≤ 200 ∧
      (0 : Decimal) ≤ 30 ∧ (30 : Decimal) ≤ 100 ∧
      ((compute 100 30 (some 50)).discount ≤ (compute 200 30 (some 50)).discount ∧
        (compute 100 30 (some 50)).final ≤ (compute 200 30 (some 50)).final) :=
  ⟨by decide, by decide, by decide, by decide, by decide,
    compute_monotone (by decide) (by decide) (by decide) (by decide) (by decide) (some 50)⟩

end Discount

end TopUpPromo
