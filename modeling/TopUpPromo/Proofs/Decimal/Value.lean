import Mathlib.Algebra.Order.Round
import Mathlib.Data.Rat.Floor
import Mathlib.Tactic.FieldSimp
import Mathlib.Tactic.Linarith
import TopUpPromo.Decimal.Basic

/-!
# The number a decimal denotes

A decimal `⟨c, e⟩` denotes the rational `c · 10 ^ e` (`Decimal.value`). Sums, differences and
products denote the sums, differences and products of the numbers, and comparison compares the
numbers. A quotient to some places, and `Decimal.round`, denote the number rounded half away from
zero at that many places (`roundAway`).

## Main results

- `roundQuotient_eq_roundAway`: the integer rounding of a quotient.
- `Decimal.value_add`, `Decimal.value_sub`, `Decimal.value_mul`, `Decimal.cmp_eq`.
- `Decimal.value_divRound`, `Decimal.value_round`.
- `Decimal.hasPlaces_iff`: at most `p` fractional digits when the number times `10 ^ p` is an
  integer.
-/

namespace TopUpPromo

/-! ## Rounding a rational half away from zero -/

/-- `x` rounded to an integer, a half going away from zero. -/
def roundAway (x : ℚ) : ℤ := if x < 0 then -round (-x) else round x

theorem roundAway_of_nonneg {x : ℚ} (hx : 0 ≤ x) : roundAway x = ⌊x + 1 / 2⌋ := by
  simp [roundAway, not_lt.2 hx, round_eq]

theorem roundAway_neg (x : ℚ) : roundAway (-x) = -roundAway x := by
  rcases lt_trichotomy x 0 with hx | rfl | hx
  · have hnx : ¬-x < 0 := not_lt.2 (neg_nonneg.2 hx.le)
    simp [roundAway, hx, hnx]
  · simp [roundAway]
  · have hnx : -x < 0 := neg_lt_zero.2 hx
    simp [roundAway, hnx, not_lt.2 hx.le]

@[simp] theorem roundAway_intCast (n : ℤ) : roundAway n = n := by
  rcases lt_or_ge n 0 with hn | hn
  · have hq : (n : ℚ) < 0 := by exact_mod_cast hn
    simp only [roundAway, hq, if_true]
    rw [← Int.cast_neg, round_intCast, neg_neg]
  · have hq : ¬(n : ℚ) < 0 := by exact_mod_cast not_lt.2 hn
    simp only [roundAway, hq, if_false, round_intCast]

theorem roundAway_nonneg {x : ℚ} (hx : 0 ≤ x) : 0 ≤ roundAway x := by
  rw [roundAway_of_nonneg hx]
  exact Int.floor_nonneg.2 (by linarith)

theorem roundAway_mono_of_nonneg {x y : ℚ} (hx : 0 ≤ x) (h : x ≤ y) :
    roundAway x ≤ roundAway y := by
  rw [roundAway_of_nonneg hx, roundAway_of_nonneg (hx.trans h)]
  exact Int.floor_mono (by linarith)

theorem roundAway_mono {x y : ℚ} (h : x ≤ y) : roundAway x ≤ roundAway y := by
  by_cases hx : 0 ≤ x
  · exact roundAway_mono_of_nonneg hx h
  have hx' : roundAway x = -roundAway (-x) := by rw [roundAway_neg, neg_neg]
  by_cases hy : 0 ≤ y
  · -- a negative number rounds to at most zero, a nonnegative one to at least zero
    have hnx := roundAway_nonneg (x := -x) (by linarith)
    linarith [roundAway_nonneg hy]
  · have hy' : roundAway y = -roundAway (-y) := by rw [roundAway_neg, neg_neg]
    have hneg := roundAway_mono_of_nonneg (x := -y) (y := -x) (by linarith) (by linarith)
    linarith

theorem roundAway_div_of_nonneg {n d : ℤ} (hn : 0 ≤ n) (hd : 0 < d) :
    roundAway ((n : ℚ) / d) = n / d + if d ≤ 2 * (n % d) then 1 else 0 := by
  have hdq : (0 : ℚ) < d := by exact_mod_cast hd
  have hr0 : 0 ≤ n % d := Int.emod_nonneg n hd.ne'
  have hrd : n % d < d := Int.emod_lt_of_pos n hd
  have hsplit : (n : ℚ) / d + 1 / 2 = ((n / d : ℤ) : ℚ) + ((n % d : ℤ) / d + 1 / 2) := by
    have hnd : (n : ℚ) = d * (n / d : ℤ) + (n % d : ℤ) := by exact_mod_cast (Int.mul_ediv_add_emod n d).symm
    rw [hnd]
    field_simp
    ring
  rw [roundAway_of_nonneg (div_nonneg (by exact_mod_cast hn) hdq.le), hsplit,
    Int.floor_intCast_add]
  congr 1
  rw [Int.floor_eq_iff]
  have hr0q : (0 : ℚ) ≤ (n % d : ℤ) := by exact_mod_cast hr0
  have hrdq : ((n % d : ℤ) : ℚ) < d := by exact_mod_cast hrd
  split
  · next hhalf =>
    have hhalfq : (d : ℚ) ≤ 2 * (n % d : ℤ) := by exact_mod_cast hhalf
    constructor
    · rw [Int.cast_one, ← sub_le_iff_le_add, le_div_iff₀ hdq]
      linarith
    · rw [Int.cast_one, div_add' _ _ _ hdq.ne', div_lt_iff₀ hdq]
      linarith
  · next hhalf =>
    have hhalfq : 2 * ((n % d : ℤ) : ℚ) < d := by exact_mod_cast not_le.1 hhalf
    constructor
    · rw [Int.cast_zero]
      positivity
    · rw [Int.cast_zero, zero_add, div_add' _ _ _ hdq.ne', div_lt_iff₀ hdq]
      linarith

/-! ## The integer rounding of a quotient -/

theorem roundQuotient_neg_left (n d : ℤ) : roundQuotient (-n) d = -roundQuotient n d := by
  simp only [roundQuotient, Int.neg_tdiv, Int.neg_tmod, Int.natAbs_neg, Int.sign_neg]
  split <;> ring

theorem roundQuotient_neg_right (n d : ℤ) : roundQuotient n (-d) = -roundQuotient n d := by
  simp only [roundQuotient, Int.tdiv_neg, Int.tmod_neg, Int.natAbs_neg, Int.sign_neg]
  split <;> ring

theorem roundQuotient_of_nonneg {n d : ℤ} (hn : 0 ≤ n) (hd : 0 < d) :
    roundQuotient n d = n / d + if d ≤ 2 * (n % d) then 1 else 0 := by
  have hq : n.tdiv d = n / d := by simp [Int.tdiv_eq_ediv, hn]
  have hr : n.tmod d = n % d := by simp [Int.tmod_eq_emod, hn]
  have hr0 : 0 ≤ n % d := Int.emod_nonneg n hd.ne'
  have hdabs : (d.natAbs : ℤ) = d := Int.natAbs_of_nonneg hd.le
  have hrabs : ((n % d).natAbs : ℤ) = n % d := Int.natAbs_of_nonneg hr0
  simp only [roundQuotient, hq, hr, Int.sign_eq_one_of_pos hd, mul_one]
  rcases hn.lt_or_eq with hpos | rfl
  · rw [Int.sign_eq_one_of_pos hpos]
    by_cases hhalf : d ≤ 2 * (n % d)
    · rw [if_pos (by omega), if_pos hhalf]
    · rw [if_neg (by omega), if_neg hhalf, add_zero]
  · -- a zero quotient has a zero remainder
    simp [hd.ne', not_le.2 hd]

/-- `roundQuotient` rounds the exact quotient half away from zero. -/
theorem roundQuotient_eq_roundAway {n d : ℤ} (hd : d ≠ 0) :
    roundQuotient n d = roundAway ((n : ℚ) / d) := by
  -- reduce to a nonnegative numerator and a positive divisor
  have hbase : ∀ {n d : ℤ}, 0 ≤ n → 0 < d → roundQuotient n d = roundAway ((n : ℚ) / d) :=
    fun hn hd => by rw [roundQuotient_of_nonneg hn hd, roundAway_div_of_nonneg hn hd]
  have hpos : ∀ {n : ℤ}, 0 ≤ n → roundQuotient n d = roundAway ((n : ℚ) / d) := by
    intro n hn
    rcases lt_or_gt_of_ne hd with hneg | hpos
    · have h := hbase hn (neg_pos.2 hneg)
      rw [roundQuotient_neg_right, neg_eq_iff_eq_neg] at h
      rw [h, Int.cast_neg, div_neg, roundAway_neg, neg_neg]
    · exact hbase hn hpos
  rcases le_or_gt 0 n with hn | hn
  · exact hpos hn
  · have h := hpos (neg_nonneg.2 hn.le)
    rw [roundQuotient_neg_left, neg_eq_iff_eq_neg] at h
    rw [h, Int.cast_neg, neg_div, roundAway_neg, neg_neg]

namespace Decimal

/-! ## The value of a decimal -/

/-- The number a decimal denotes. -/
def value (d : Decimal) : ℚ := d.coeff * 10 ^ d.exp

@[simp] theorem value_mk (c e : ℤ) : (⟨c, e⟩ : Decimal).value = c * 10 ^ e := rfl

theorem intPow_ten (k : ℕ) : ((Int.pow 10 k : ℤ) : ℚ) = 10 ^ k := by
  change ((10 ^ k : ℤ) : ℚ) = 10 ^ k
  push_cast
  rfl

theorem value_coeffAt {d : Decimal} {e : ℤ} (he : e ≤ d.exp) :
    (d.coeffAt e : ℚ) * 10 ^ e = d.value := by
  have hk : ((d.exp - e).toNat : ℤ) = d.exp - e := Int.toNat_of_nonneg (by omega)
  simp only [coeffAt, if_pos he, Int.cast_mul, intPow_ten, value]
  rw [mul_assoc, ← zpow_natCast, ← zpow_add₀ (by norm_num), hk, sub_add_cancel]

theorem value_rescale {d : Decimal} {e : ℤ} (he : e ≤ d.exp) : (d.rescale e).value = d.value :=
  value_coeffAt he

@[simp] theorem value_ofInt (n : ℤ) : (ofInt n).value = n := by simp [ofInt, value]

@[simp] theorem value_ofNat (n : ℕ) : (no_index (OfNat.ofNat n : Decimal)).value = n := by
  change (ofInt n).value = n
  simp

theorem value_zero : (0 : Decimal).value = 0 := by
  change (ofInt 0).value = 0
  simp

theorem value_add (a b : Decimal) : (a + b).value = a.value + b.value := by
  change (add a b).value = _
  simp only [add, value_mk, Int.cast_add, add_mul]
  rw [value_coeffAt (min_le_left _ _), value_coeffAt (min_le_right _ _)]

theorem value_neg (a : Decimal) : (-a).value = -a.value := by
  change (neg a).value = _
  simp [neg, value]

theorem value_sub (a b : Decimal) : (a - b).value = a.value - b.value := by
  change (add a (neg b)).value = _
  rw [show add a (neg b) = a + -b from rfl, value_add, value_neg, sub_eq_add_neg]

theorem value_mul (a b : Decimal) : (a * b).value = a.value * b.value := by
  change (mul a b).value = _
  simp only [mul, Int.cast_mul, value]
  rw [zpow_add₀ (by norm_num)]
  ring

/-! ## Comparison -/

/-- Comparing two decimals compares the numbers they denote. -/
theorem cmp_eq (a b : Decimal) : a.cmp b = compare a.value b.value := by
  have ha := value_coeffAt (d := a) (min_le_left a.exp b.exp)
  have hb := value_coeffAt (d := b) (min_le_right a.exp b.exp)
  have hpos : (0 : ℚ) < 10 ^ min a.exp b.exp := zpow_pos (by norm_num) _
  simp only [cmp]
  rw [← ha, ← hb]
  rcases lt_trichotomy (a.coeffAt (min a.exp b.exp)) (b.coeffAt (min a.exp b.exp)) with h | h | h
  · have hq : (a.coeffAt (min a.exp b.exp) : ℚ) * 10 ^ min a.exp b.exp <
        (b.coeffAt (min a.exp b.exp) : ℚ) * 10 ^ min a.exp b.exp :=
      mul_lt_mul_of_pos_right (by exact_mod_cast h) hpos
    rw [compare_lt_iff_lt.2 h, compare_lt_iff_lt.2 hq]
  · rw [h, compare_eq_iff_eq.2 rfl, compare_eq_iff_eq.2 rfl]
  · have hq : (b.coeffAt (min a.exp b.exp) : ℚ) * 10 ^ min a.exp b.exp <
        (a.coeffAt (min a.exp b.exp) : ℚ) * 10 ^ min a.exp b.exp :=
      mul_lt_mul_of_pos_right (by exact_mod_cast h) hpos
    rw [compare_gt_iff_gt.2 h, compare_gt_iff_gt.2 hq]

theorem lt_iff_value_lt {a b : Decimal} : a < b ↔ a.value < b.value := by
  change a.cmp b = .lt ↔ _
  rw [cmp_eq, compare_lt_iff_lt]

theorem le_iff_value_le {a b : Decimal} : a ≤ b ↔ a.value ≤ b.value := by
  change a.cmp b ≠ .gt ↔ _
  rw [cmp_eq, ne_eq, compare_gt_iff_gt, not_lt]

theorem equiv_iff {a b : Decimal} : a.equiv b = true ↔ a.value = b.value := by
  simp only [equiv, beq_iff_eq, cmp_eq, compare_eq_iff_eq]

theorem isZero_iff {a : Decimal} : a.isZero = true ↔ a.value = 0 := by
  have hpow : (10 : ℚ) ^ a.exp ≠ 0 := zpow_ne_zero _ (by norm_num)
  simp [isZero, value, hpow]

theorem sign_pos_iff {a : Decimal} : 0 < a.sign ↔ 0 < a.value := by
  have hpow : (0 : ℚ) < 10 ^ a.exp := zpow_pos (by norm_num) _
  simp only [sign, Int.sign_pos_iff, value]
  constructor
  · intro h
    exact mul_pos (by exact_mod_cast h) hpow
  · intro h
    exact_mod_cast pos_of_mul_pos_left h hpow.le

theorem sign_nonneg_iff {a : Decimal} : 0 ≤ a.sign ↔ 0 ≤ a.value := by
  have hpow : (0 : ℚ) < 10 ^ a.exp := zpow_pos (by norm_num) _
  simp only [sign, Int.sign_nonneg_iff, value]
  constructor
  · intro h
    exact mul_nonneg (by exact_mod_cast h) hpow.le
  · intro h
    exact_mod_cast nonneg_of_mul_nonneg_left h hpow

/-! ## Rounding -/

/-- A quotient to `places` digits denotes the exact quotient rounded half away from zero at that
many places. -/
theorem value_divRound (a b : Decimal) (places : ℕ) (hb : b.coeff ≠ 0) :
    (a.divRound b places).value = roundAway (a.value / b.value * 10 ^ places) / 10 ^ places := by
  have hbq : (b.coeff : ℚ) ≠ 0 := by exact_mod_cast hb
  have hten : (10 : ℚ) ≠ 0 := by norm_num
  simp only [divRound]
  split
  · next hk =>
    have hk' : ((a.exp - b.exp + places).toNat : ℤ) = a.exp - b.exp + places := Int.toNat_of_nonneg hk
    have harg : (((a.coeff * Int.pow 10 (a.exp - b.exp + places).toNat : ℤ) : ℚ) / b.coeff) =
        a.value / b.value * 10 ^ places := by
      simp only [Int.cast_mul, intPow_ten, value]
      rw [← zpow_natCast, hk', zpow_add₀ hten, zpow_sub₀ hten, zpow_natCast]
      field_simp
    rw [value_mk, roundQuotient_eq_roundAway hb, harg, zpow_neg, zpow_natCast, ← div_eq_mul_inv]
  · next hk =>
    have hk' : ((-(a.exp - b.exp + places)).toNat : ℤ) = -(a.exp - b.exp + places) :=
      Int.toNat_of_nonneg (by omega)
    have hden : b.coeff * Int.pow 10 (-(a.exp - b.exp + places)).toNat ≠ 0 :=
      mul_ne_zero hb (by simp [Int.pow_eq])
    have harg : ((a.coeff : ℚ) / ((b.coeff * Int.pow 10 (-(a.exp - b.exp + places)).toNat : ℤ) : ℚ)) =
        a.value / b.value * 10 ^ places := by
      simp only [Int.cast_mul, intPow_ten, value]
      rw [← zpow_natCast, hk', zpow_neg, zpow_add₀ hten, zpow_sub₀ hten, zpow_natCast]
      field_simp
    rw [value_mk, roundQuotient_eq_roundAway hden, harg, zpow_neg, zpow_natCast,
      ← div_eq_mul_inv]

/-- A decimal rounded to `places` digits denotes its number rounded half away from zero at that
many places. -/
theorem value_round (d : Decimal) (places : ℕ) :
    (d.round places).value = roundAway (d.value * 10 ^ places) / 10 ^ places := by
  have hten : (10 : ℚ) ≠ 0 := by norm_num
  have hpow : (10 : ℚ) ^ places ≠ 0 := pow_ne_zero _ hten
  simp only [round]
  split
  · next he =>
    -- already at `places` digits: the number times `10 ^ places` is the coefficient
    have hint : d.value * 10 ^ places = d.coeff := by
      rw [value, he, mul_assoc, ← zpow_natCast, ← zpow_add₀ hten, neg_add_cancel, zpow_zero,
        mul_one]
    rw [hint, roundAway_intCast, ← hint, mul_div_cancel_right₀ _ hpow]
  split
  · next _ hlt =>
    have hle : -(places : ℤ) ≤ d.exp := hlt.le
    have hint : d.value * 10 ^ places = d.coeffAt (-(places : ℤ)) := by
      rw [← value_coeffAt hle, mul_assoc, ← zpow_natCast, ← zpow_add₀ hten, neg_add_cancel,
        zpow_zero, mul_one]
    rw [value_rescale hle, hint, roundAway_intCast, ← hint, mul_div_cancel_right₀ _ hpow]
  · next hne hge =>
    have hk : ((-(places : ℤ) - d.exp).toNat : ℤ) = -(places : ℤ) - d.exp :=
      Int.toNat_of_nonneg (by omega)
    have hden : Int.pow 10 (-(places : ℤ) - d.exp).toNat ≠ 0 := by simp [Int.pow_eq]
    have harg : (d.coeff : ℚ) / ((Int.pow 10 (-(places : ℤ) - d.exp).toNat : ℤ) : ℚ) =
        d.value * 10 ^ places := by
      rw [intPow_ten, ← zpow_natCast, hk, value, zpow_sub₀ hten, zpow_neg, zpow_natCast]
      field_simp
    rw [value_mk, roundQuotient_eq_roundAway hden, harg, zpow_neg, zpow_natCast,
      ← div_eq_mul_inv]

theorem value_round_two (d : Decimal) : (d.round 2).value = roundAway (d.value * 100) / 100 := by
  have h := value_round d 2
  norm_num at h
  exact h

/-- A decimal has at most `places` fractional digits when its number times `10 ^ places` is an
integer. -/
theorem hasPlaces_iff {d : Decimal} {places : ℕ} :
    d.HasPlaces places ↔ ∃ z : ℤ, d.value * 10 ^ places = z := by
  have hten : (10 : ℚ) ≠ 0 := by norm_num
  simp only [HasPlaces, cmp_eq, compare_eq_iff_eq, truncate]
  split
  · next hgt =>
    have hle : d.exp ≤ -(places : ℤ) := hgt.le
    have hk : ((-(places : ℤ) - d.exp).toNat : ℤ) = -(places : ℤ) - d.exp :=
      Int.toNat_of_nonneg (by omega)
    set m : ℤ := Int.pow 10 (-(places : ℤ) - d.exp).toNat with hm
    have hmq : (m : ℚ) = 10 ^ (-(places : ℤ) - d.exp) := by
      rw [hm, intPow_ten, ← zpow_natCast, hk]
    have hm0 : (m : ℚ) ≠ 0 := by rw [hmq]; exact zpow_ne_zero _ hten
    -- both sides say that `m` divides the coefficient
    have hval : d.value * 10 ^ places = (d.coeff : ℚ) / m := by
      rw [hmq, value, zpow_sub₀ hten, zpow_neg, ← zpow_natCast]
      field_simp
    have htrunc : (d.rescale (-(places : ℤ))).value * 10 ^ places = (d.coeff.tdiv m : ℤ) := by
      simp only [rescale, coeffAt, if_neg (not_le.2 hgt), value_mk, ← hm]
      rw [mul_assoc, ← zpow_natCast, ← zpow_add₀ hten, neg_add_cancel, zpow_zero, mul_one]
    constructor
    · intro heq
      exact ⟨d.coeff.tdiv m, by rw [← heq, htrunc]⟩
    · rintro ⟨z, hz⟩
      -- the number times `10 ^ places` is an integer just when `m` divides the coefficient
      have hdvd : m ∣ d.coeff := by
        rw [hval, div_eq_iff hm0] at hz
        exact ⟨z, by exact_mod_cast hz.trans (mul_comm _ _)⟩
      have hcancel : ((d.coeff.tdiv m : ℤ) : ℚ) = d.coeff / m := by
        rw [eq_div_iff hm0]
        exact_mod_cast Int.tdiv_mul_cancel hdvd
      apply mul_right_cancel₀ (pow_ne_zero places hten)
      rw [htrunc, hval, hcancel]
  · next hle =>
    simp only [true_iff]
    refine ⟨d.coeff * Int.pow 10 (d.exp + places).toNat, ?_⟩
    have hk : ((d.exp + places).toNat : ℤ) = d.exp + places := Int.toNat_of_nonneg (by omega)
    have hpow : (10 : ℚ) ^ (d.exp + places).toNat = 10 ^ (d.exp + places) := by
      rw [← zpow_natCast, hk]
    rw [Int.cast_mul, intPow_ten, hpow, value, mul_assoc, ← zpow_natCast, ← zpow_add₀ hten]

end Decimal

end TopUpPromo
