import TopUpPromo.Proofs.Discount.Rounding

/-!
# Bounds of a discount

Under a percentage in `[0, 100]` and a cap that is absent or not negative, the discount of an
amount a top-up accepts is neither negative nor above the amount, and neither is what is
charged; both are in whole cents below `10 ^ 8`, so that they fit the `NUMERIC(10, 2)` columns
that record them. A cap that is present and not zero bounds the discount once rounded to
cents, not as it is: the discount is rounded after capping, so a cap below half a cent, or
with three decimals, lets a discount above it through.

The seed checks give percentages in `(0, 100]` but leave the cap free: a negative cap is not
refused, and would make the discount negative.

## Main definitions

- `Decimal.FitsCents`: whole cents and fewer than nine integer digits.
- `Discount.Within`: the bounds of a discount.
- `SeedOptions.Grants`: the terms a voucher of seeded options carries.

## Main results

- `SeedOptions.problem?_eq_none_iff`: the options that pass the seed checks.
- `Discount.compute_within`: the bounds hold of every discount of an accepted amount.
-/

namespace TopUpPromo

namespace Decimal

/-- An amount a `NUMERIC(10, 2)` column holds: whole cents and fewer than nine integer digits. -/
structure FitsCents (d : Decimal) : Prop where
  cents : d.HasPlaces 2
  lt : |d.value| < 10 ^ 8

theorem fitsCents_of_cents {d : Decimal} {n : ℤ} (hd : d.value = n / 100) (h0 : 0 ≤ n)
    (hmax : n ≤ 9999999999) : d.FitsCents where
  cents := hasPlaces_iff.2 ⟨n, by rw [hd]; norm_num⟩
  lt := by
    have hn : (0 : ℚ) ≤ n := by exact_mod_cast h0
    have hn' : (n : ℚ) ≤ 9999999999 := by exact_mod_cast hmax
    rw [hd, abs_of_nonneg (by positivity)]
    linarith

end Decimal

/-! ## Seeded terms -/

namespace SeedOptions

/-- The options pass the seed checks just when each check holds: a name, a positive capacity, a
percentage in `(0, 100]`, a minimum top-up that is not negative, a validity of at least a day and
a positive span. -/
theorem problem?_eq_none_iff {o : SeedOptions} :
    o.problem? = none ↔ o.name ≠ "" ∧ 1 ≤ o.maxParticipants ∧
      0 < o.discountPercentage.value ∧ o.discountPercentage.value ≤ 100 ∧
      0 ≤ o.minTopup.value ∧ 1 ≤ o.voucherValidityDays ∧ 0 < o.duration := by
  have hpct : ((!decide (0 < o.discountPercentage.sign)) || decide (o.discountPercentage > 100)) =
      true ↔ ¬(0 < o.discountPercentage.value ∧ o.discountPercentage.value ≤ 100) := by
    simp only [Bool.or_eq_true, Bool.not_eq_true', decide_eq_false_iff_not, decide_eq_true_eq,
      gt_iff_lt, Decimal.sign_pos_iff, Decimal.lt_iff_value_lt, Decimal.value_ofNat]
    push_cast
    constructor
    · rintro (h | h) ⟨h1, h2⟩
      · exact h h1
      · linarith
    · intro h
      by_cases h1 : 0 < o.discountPercentage.value
      · exact .inr (lt_of_not_ge fun h2 => h ⟨h1, h2⟩)
      · exact .inl h1
  have hmin : o.minTopup.sign < 0 ↔ o.minTopup.value < 0 := by
    rw [← not_le, Decimal.sign_nonneg_iff, not_le]
  unfold problem?
  split_ifs <;> simp_all [String.isEmpty_iff, Int32.not_lt]

/-- The terms a voucher of options `o` carries, where `o` passes the seed checks and its cap is
not negative: `o`'s percentage and cap. -/
def Grants (o : SeedOptions) (v : Voucher) : Prop :=
  o.problem? = none ∧ (∀ c, o.maxDiscount = some c → 0 ≤ c.value) ∧
    v.discountPercentage = o.discountPercentage ∧ v.maxDiscount = o.maxDiscount

end SeedOptions

/-! ## The bounds -/

namespace Discount

/-- What a top-up may charge and record for `amount` under `cap`: neither the discount nor what
is charged is negative or above the amount, a cap that is present and not zero bounds the
discount once rounded to cents, and both amounts fit the columns that record them. -/
structure Within (amount : Decimal) (cap : Option Decimal) (d : Discount) : Prop where
  discount_nonneg : 0 ≤ d.discount.value
  discount_le : d.discount.value ≤ amount.value
  final_nonneg : 0 ≤ d.final.value
  final_le : d.final.value ≤ amount.value
  discount_le_cap : ∀ c, cap = some c → c.value ≠ 0 → d.discount.value ≤ (c.round 2).value
  discount_fits : d.discount.FitsCents
  final_fits : d.final.FitsCents

variable {q : ℚ} {cap : Option Decimal}

theorem roundSixteen_mem {A : ℚ} {a : ℤ} (hA : A * 100 = a) (hq : 0 ≤ q) (hqA : q ≤ A) :
    0 ≤ roundSixteen q ∧ roundSixteen q ≤ A := by
  -- `A` is on the grid of the sixteenth place, where rounding leaves it
  have hgrid : A * 10 ^ 16 = ((a * 10 ^ 14 : ℤ) : ℚ) := by
    push_cast
    rw [← hA]
    ring
  have hup : roundAway (q * 10 ^ 16) ≤ a * 10 ^ 14 := by
    have := roundAway_mono (mul_le_mul_of_nonneg_right hqA (by positivity : (0 : ℚ) ≤ 10 ^ 16))
    rwa [hgrid, roundAway_intCast] at this
  have hdown : 0 ≤ roundAway (q * 10 ^ 16) := roundAway_nonneg (by positivity)
  have hup' : (roundAway (q * 10 ^ 16) : ℚ) ≤ A * 10 ^ 16 := by
    rw [hgrid]
    exact_mod_cast hup
  constructor
  · exact div_nonneg (by exact_mod_cast hdown) (by positivity)
  · rw [roundSixteen, div_le_iff₀ (by positivity)]
    exact hup'

theorem exactCapped_mem (hq : 0 ≤ q) (hcap : ∀ c, cap = some c → 0 ≤ c.value) :
    0 ≤ exactCapped q cap ∧ exactCapped q cap ≤ q := by
  cases cap with
  | none => exact ⟨hq, le_rfl⟩
  | some c =>
    simp only [exactCapped]
    split_ifs with h
    · exact ⟨hcap c rfl, h.2.le⟩
    · exact ⟨hq, le_rfl⟩

theorem exactCapped_le_cap {c : Decimal} (hc : cap = some c) (hc0 : c.value ≠ 0) :
    exactCapped q cap ≤ c.value := by
  subst hc
  simp only [exactCapped]
  split_ifs with h
  · exact le_rfl
  · exact le_of_not_gt fun hlt => h ⟨hc0, hlt⟩

/-- Under a percentage in `[0, 100]` and a cap that is absent or not negative, the discount of
an amount a top-up accepts, and what is charged, are within the amount, in whole cents and
below `10 ^ 8`, and a cap that is present and not zero bounds the discount once rounded to
cents. -/
theorem compute_within {amount percentage : Decimal} (hamount : validAmount amount = true)
    (hpct : 0 ≤ percentage.value) (hpct100 : percentage.value ≤ 100)
    (hcap : ∀ c, cap = some c → 0 ≤ c.value) :
    (compute amount percentage cap).Within amount cap := by
  obtain ⟨hpos, hmax, a, ha⟩ := validAmount_iff.1 hamount
  have hq0 : 0 ≤ amount.value * percentage.value / 100 := by positivity
  have hqA : amount.value * percentage.value / 100 ≤ amount.value := by
    rw [div_le_iff₀ (by norm_num)]
    exact mul_le_mul_of_nonneg_left hpct100 hpos.le
  -- each stage stays within `[0, amount]`: the sixteen places, the cap, the cents
  obtain ⟨h16, h16A⟩ := roundSixteen_mem ha hq0 hqA
  set x := exactCapped (roundSixteen (amount.value * percentage.value / 100)) cap with hx
  obtain ⟨hx0, hx16⟩ := exactCapped_mem h16 hcap
  set n := roundAway (x * 100) with hn
  have hn0 : 0 ≤ n := roundAway_nonneg (by positivity)
  have hna : n ≤ a := by
    have := roundAway_mono (mul_le_mul_of_nonneg_right (hx16.trans h16A) (by norm_num : (0 : ℚ) ≤ 100))
    rwa [ha, roundAway_intCast] at this
  have ha' : (a : ℚ) ≤ 9999999999 := by rw [← ha]; linarith
  have hamax : a ≤ 9999999999 := by exact_mod_cast ha'
  have hnq : (n : ℚ) ≤ a := by exact_mod_cast hna
  have hn0q : (0 : ℚ) ≤ n := by exact_mod_cast hn0
  have hD : (compute amount percentage cap).discount.value = n / 100 := value_discount _ _ _
  have hF : (compute amount percentage cap).final.value = ((a - n : ℤ) : ℚ) / 100 := by
    rw [value_final, hD]
    push_cast
    rw [← ha]
    ring
  have hA : amount.value = a / 100 := by rw [← ha]; ring
  refine ⟨?_, ?_, ?_, ?_, fun c hc hc0 => ?_, Decimal.fitsCents_of_cents hD hn0 (hna.trans hamax),
    Decimal.fitsCents_of_cents hF (by omega) (by omega)⟩
  · rw [hD]; positivity
  · rw [hD, hA]; linarith
  · rw [hF]; push_cast; linarith
  · rw [hF, hA]; push_cast; linarith
  · -- capped at most at the cap, hence at most its cents
    have hxc : x * 100 ≤ c.value * 100 := by
      have := exactCapped_le_cap (q := roundSixteen (amount.value * percentage.value / 100)) hc hc0
      linarith
    rw [hD, Decimal.value_round_two]
    exact div_le_div_of_nonneg_right (by exact_mod_cast roundAway_mono hxc) (by norm_num)

theorem Within.discount_le_cents_cap {amount c : Decimal} {d : Discount} (h : d.Within amount cap)
    (hc : cap = some c) (hc0 : c.value ≠ 0) (hcents : c.HasPlaces 2) :
    d.discount.value ≤ c.value := by
  obtain ⟨z, hz⟩ := Decimal.hasPlaces_iff.1 hcents
  have hz' : c.value * 100 = z := by rw [← hz]; norm_num
  have hround : (c.round 2).value = c.value := by
    rw [Decimal.value_round_two, hz', roundAway_intCast, ← hz']
    ring
  exact hround ▸ h.discount_le_cap c hc hc0

end Discount

end TopUpPromo
