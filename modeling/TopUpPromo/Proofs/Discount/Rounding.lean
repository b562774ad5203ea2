import TopUpPromo.Proofs.Decimal.Value
import TopUpPromo.Discount
import TopUpPromo.Seed
import TopUpPromo.Service.Redemption

/-!
# The discount against the exact discount

A discount is rounded twice: the quotient `amount * percentage / 100` is kept to sixteen places,
and the capped quotient is then rounded to cents. Rounding twice is not rounding once: where the
sixteen-place quotient lands exactly on a half cent that the exact quotient lies just below, the
discount is one cent more than the exact quotient rounded to cents. The cap is compared with the
sixteen-place quotient, not the exact one, but that never changes the cents.

The discount is the exact one for every amount the top-ups accept and every percentage with at
most twelve decimals, since the exact quotient then has at most sixteen.

## Main definitions

- `Discount.exactCapped`: the exact quotient replaced by a cap that applies to it.
- `Discount.RoundsUp`: where the two roundings add a cent.

## Main results

- `roundAway_twice`: rounding to an integer after rounding to a multiple of `1 / m`.
- `Discount.roundAway_capped_quotient`: the cents of the capped sixteen-place quotient.
- `Discount.discount_exact_but_at_half_cents`: the discount of every accepted amount and
  percentage, against the exact quotient.
-/

namespace TopUpPromo

/-! ## Rounding twice -/

theorem cast_add_one_le_of_cast_lt {a b : ℤ} (h : (a : ℚ) < b) : (a : ℚ) + 1 ≤ b := by
  exact_mod_cast Int.add_one_le_of_lt (Int.cast_lt.1 h)

section Twice

variable {y : ℚ} {m : ℕ}

/-- Rounding `y ≥ 0` to an integer after rounding it to a multiple of `1 / m` gives the integer
that rounding it once gives, but one more when the first rounding lands on a half above `y`. -/
theorem roundAway_twice (hy : 0 ≤ y) (hm : 0 < m) :
    let Y : ℚ := roundAway (y * m) / m
    ((∃ k : ℤ, Y = k + 1 / 2) ∧ y < Y → roundAway Y = roundAway y + 1) ∧
      (¬((∃ k : ℤ, Y = k + 1 / 2) ∧ y < Y) → roundAway Y = roundAway y) := by
  intro Y
  have hmq : (0 : ℚ) < m := by exact_mod_cast hm
  have hm1 : (1 : ℚ) ≤ m := by exact_mod_cast hm
  -- `N / m` with `N - 1 / 2 ≤ y * m < N + 1 / 2` is the first rounding
  set N := roundAway (y * m) with hN
  have hfloor : N = ⌊y * m + 1 / 2⌋ := roundAway_of_nonneg (mul_nonneg hy hmq.le)
  have hN1 : (N : ℚ) ≤ y * m + 1 / 2 := hfloor ▸ Int.floor_le _
  have hN2 : y * m + 1 / 2 < N + 1 := hfloor ▸ Int.lt_floor_add_one _
  have hYm : Y * m = N := div_mul_cancel₀ _ hmq.ne'
  have hY0 : 0 ≤ Y := div_nonneg (by exact_mod_cast roundAway_nonneg (mul_nonneg hy hmq.le))
    hmq.le
  rw [roundAway_of_nonneg hY0, roundAway_of_nonneg hy]
  constructor
  · rintro ⟨⟨k, hk⟩, hlt⟩
    have hup : ⌊Y + 1 / 2⌋ = k + 1 := by
      rw [Int.floor_eq_iff]; push_cast; constructor <;> linarith
    have hdown : ⌊y + 1 / 2⌋ = k := by
      rw [Int.floor_eq_iff]
      constructor
      · -- `y` is within `1 / (2m)` of the half `k + 1 / 2`, so at least `k`
        have : (k : ℚ) * m ≤ (y + 1 / 2) * m := by nlinarith
        exact le_of_mul_le_mul_right this hmq
      · linarith
    rw [hup, hdown]
  · intro hnot
    set c := ⌊Y + 1 / 2⌋ with hc
    apply le_antisymm
    · apply Int.le_floor.2
      by_cases hyY : Y ≤ y
      · linarith [Int.floor_le (Y + 1 / 2)]
      · -- below `Y`, and `Y` no half: `c` is below `Y + 1 / 2` by at least `1 / (2m)`
        have hlt : (c : ℚ) < Y + 1 / 2 := lt_of_le_of_ne (Int.floor_le _) fun h =>
          hnot ⟨⟨c - 1, by push_cast; linarith⟩, lt_of_not_ge hyY⟩
        have hint : ((2 * m * c : ℤ) : ℚ) + 1 ≤ ((2 * N + m : ℤ) : ℚ) :=
          cast_add_one_le_of_cast_lt (by push_cast; nlinarith)
        push_cast at hint
        have : (c : ℚ) * m ≤ (y + 1 / 2) * m := by nlinarith
        exact le_of_mul_le_mul_right this hmq
    · rw [Int.floor_le_iff]
      by_cases hyY : y ≤ Y
      · linarith [Int.lt_floor_add_one (Y + 1 / 2)]
      · -- above `Y`: `y + 1 / 2` stays below `N / m + 1 / 2 + 1 / (2m) ≤ c + 1`
        have hint : ((2 * N + m : ℤ) : ℚ) + 1 ≤ ((2 * m * (c + 1) : ℤ) : ℚ) :=
          cast_add_one_le_of_cast_lt (by push_cast; nlinarith [Int.lt_floor_add_one (Y + 1 / 2)])
        push_cast at hint
        have : (y + 1 / 2) * m < (c + 1) * m := by nlinarith
        exact lt_of_mul_lt_mul_right this hmq.le

end Twice

/-! ## Accepted amounts -/

theorem validAmount_iff {a : Decimal} :
    validAmount a = true ↔ 0 < a.value ∧ a.value ≤ 9999999999 / 100 ∧ ∃ z : ℤ, a.value * 100 = z := by
  have hmax : maxTopupAmount.value = 9999999999 / 100 := by norm_num [maxTopupAmount]
  have hcents : a.equiv (a.truncate 2) = true ↔ ∃ z : ℤ, a.value * 100 = z := by
    have h := @Decimal.hasPlaces_iff a 2
    rw [Decimal.HasPlaces, Decimal.cmp_eq, compare_eq_iff_eq, eq_comm] at h
    rw [Decimal.equiv_iff, h]
    norm_num
  simp only [validAmount, Bool.and_eq_true, decide_eq_true_eq, Decimal.sign_pos_iff,
    Decimal.le_iff_value_le, hmax, hcents, and_assoc]

namespace Discount

/-! ## The exact discount -/

def roundSixteen (q : ℚ) : ℚ := roundAway (q * 10 ^ 16) / 10 ^ 16

def halfCent (k : ℤ) : ℚ := (2 * k + 1) / 200

/-- The exact discount before rounding: the quotient `q`, or a cap that is present, not zero and
below it. -/
def exactCapped (q : ℚ) : Option Decimal → ℚ
  | some c => if c.value ≠ 0 ∧ c.value < q then c.value else q
  | none => q

/-- Where rounding to sixteen places first adds a cent: `q` lies below a half cent by at most half
a unit of the sixteenth place, so that it is rounded onto the half cent, and a cap that is present
and not zero does not lie below that half cent. -/
def RoundsUp (q : ℚ) (cap : Option Decimal) : Prop :=
  ∃ k : ℤ, halfCent k - 1 / (2 * 10 ^ 16) ≤ q ∧ q < halfCent k ∧
    ∀ c, cap = some c → c.value ≠ 0 → halfCent k ≤ c.value

/-- The discount rounded once: the exact quotient `amount * percentage / 100`, capped, rounded half
away from zero to cents. -/
def exactDiscount (amount percentage : Decimal) (cap : Option Decimal) : ℚ :=
  roundAway (exactCapped (amount.value * percentage.value / 100) cap * 100) / 100

theorem value_raw (amount percentage : Decimal) :
    (raw amount percentage).value = roundSixteen (amount.value * percentage.value / 100) := by
  have h100 : (100 : Decimal).value = 100 := Decimal.value_ofNat 100
  rw [raw, Decimal.div, Decimal.value_divRound _ _ _ (by decide), Decimal.value_mul, h100]
  simp [roundSixteen, Decimal.divisionPlaces]

theorem value_capped (q : Decimal) (cap : Option Decimal) :
    (capped q cap).value = exactCapped q.value cap := by
  cases cap with
  | none => rfl
  | some c =>
    have hcond : ((!c.isZero) = true ∧ c < q) ↔ (c.value ≠ 0 ∧ c.value < q.value) := by
      rw [Bool.not_eq_true', ← Bool.not_eq_true, Decimal.isZero_iff, Decimal.lt_iff_value_lt]
    by_cases h : c.value ≠ 0 ∧ c.value < q.value
    · rw [capped, if_pos (hcond.2 h), exactCapped, if_pos h]
    · rw [capped, if_neg (mt hcond.1 h), exactCapped, if_neg h]

theorem value_discount (amount percentage : Decimal) (cap : Option Decimal) :
    (compute amount percentage cap).discount.value =
      roundAway (exactCapped (roundSixteen (amount.value * percentage.value / 100)) cap * 100) /
        100 := by
  have h := Decimal.value_round_two (capped (raw amount percentage) cap)
  rw [value_capped, value_raw] at h
  exact h

theorem value_final (amount percentage : Decimal) (cap : Option Decimal) :
    (compute amount percentage cap).final.value =
      amount.value - (compute amount percentage cap).discount.value :=
  Decimal.value_sub _ _

/-! ## Cents of the two roundings -/

section Cents

variable {q : ℚ}

theorem roundAway_halfCent {k : ℤ} (hk : 0 ≤ k) : roundAway (halfCent k * 100) = k + 1 := by
  have hnonneg : 0 ≤ halfCent k * 100 := by
    simp only [halfCent]; positivity
  rw [roundAway_of_nonneg hnonneg, Int.floor_eq_iff]
  simp only [halfCent]; push_cast
  constructor <;> linarith

theorem roundAway_le_of_lt_halfCent {x : ℚ} {k : ℤ} (hx : 0 ≤ x) (h : x < halfCent k * 100) :
    roundAway x ≤ k := by
  rw [roundAway_of_nonneg hx, Int.floor_le_iff]
  simp only [halfCent] at h
  linarith

theorem roundAway_roundSixteen (hq : 0 ≤ q) :
    ((∃ k : ℤ, roundSixteen q = halfCent k) ∧ q < roundSixteen q →
        roundAway (roundSixteen q * 100) = roundAway (q * 100) + 1) ∧
      (¬((∃ k : ℤ, roundSixteen q = halfCent k) ∧ q < roundSixteen q) →
        roundAway (roundSixteen q * 100) = roundAway (q * 100)) := by
  have htwice := roundAway_twice (y := q * 100) (m := 10 ^ 14) (by positivity) (by positivity)
  -- sixteen places of `q` are fourteen places of `100 q`
  have hY : (roundAway (q * 100 * ((10 ^ 14 : ℕ) : ℚ)) : ℚ) / ((10 ^ 14 : ℕ) : ℚ) =
      roundSixteen q * 100 := by
    have hscale : q * 100 * ((10 ^ 14 : ℕ) : ℚ) = q * 10 ^ 16 := by push_cast; ring
    rw [hscale, roundSixteen]
    push_cast
    ring
  have hhalf : (∃ k : ℤ, roundSixteen q * 100 = k + 1 / 2) ↔
      ∃ k : ℤ, roundSixteen q = halfCent k := by
    simp only [halfCent]
    constructor <;> rintro ⟨k, hk⟩ <;> exact ⟨k, by linarith⟩
  have hlt : q * 100 < roundSixteen q * 100 ↔ q < roundSixteen q := by
    constructor <;> intro h <;> linarith
  simp only [hY, hhalf, hlt] at htwice
  exact htwice

theorem roundSixteen_eq_halfCent_iff (hq : 0 ≤ q) (k : ℤ) :
    roundSixteen q = halfCent k ∧ q < halfCent k ↔
      halfCent k - 1 / (2 * 10 ^ 16) ≤ q ∧ q < halfCent k := by
  have hfloor := roundAway_of_nonneg (x := q * 10 ^ 16) (by positivity)
  constructor
  · rintro ⟨heq, hlt⟩
    refine ⟨?_, hlt⟩
    have hN : (roundAway (q * 10 ^ 16) : ℚ) = halfCent k * 10 ^ 16 := by
      rw [roundSixteen, div_eq_iff (by norm_num)] at heq
      exact heq
    have hle : (roundAway (q * 10 ^ 16) : ℚ) ≤ q * 10 ^ 16 + 1 / 2 := hfloor ▸ Int.floor_le _
    simp only [halfCent] at hN ⊢
    linarith
  · rintro ⟨hlo, hlt⟩
    refine ⟨?_, hlt⟩
    -- the half cent is a whole number of units of the sixteenth place
    have hN : roundAway (q * 10 ^ 16) = (2 * k + 1) * 50000000000000 := by
      rw [hfloor, Int.floor_eq_iff]
      simp only [halfCent] at hlo hlt
      push_cast
      constructor <;> linarith
    rw [roundSixteen, hN, halfCent]
    push_cast
    ring

theorem roundsUp_iff (hq : 0 ≤ q) (cap : Option Decimal) :
    RoundsUp q cap ↔ ((∃ k : ℤ, roundSixteen q = halfCent k) ∧ q < roundSixteen q) ∧
      ∀ c, cap = some c → c.value ≠ 0 → roundSixteen q ≤ c.value := by
  constructor
  · rintro ⟨k, hlo, hlt, hcap⟩
    obtain ⟨heq, -⟩ := (roundSixteen_eq_halfCent_iff hq k).2 ⟨hlo, hlt⟩
    rw [heq]
    exact ⟨⟨⟨k, rfl⟩, hlt⟩, hcap⟩
  · rintro ⟨⟨⟨k, heq⟩, hlt⟩, hcap⟩
    rw [heq] at hlt hcap
    obtain ⟨hlo, -⟩ := (roundSixteen_eq_halfCent_iff hq k).1 ⟨heq, hlt⟩
    exact ⟨k, hlo, hlt, hcap⟩

theorem not_roundsUp_of_grid {z : ℤ} (hz : q * 10 ^ 16 = z) (cap : Option Decimal) :
    ¬RoundsUp q cap := by
  rintro ⟨k, hlo, hlt, -⟩
  simp only [halfCent] at hlo hlt
  have hbelow : (z : ℚ) < ((2 * k + 1) * 50000000000000 : ℤ) := by
    push_cast
    linarith
  have hstep := cast_add_one_le_of_cast_lt hbelow
  push_cast at hstep
  linarith

/-- The cents of the capped sixteen-place quotient are the cents of the capped exact quotient,
but one more where the two roundings add a cent. -/
theorem roundAway_capped_quotient (hq : 0 ≤ q) (cap : Option Decimal) :
    (RoundsUp q cap → roundAway (exactCapped (roundSixteen q) cap * 100) =
        roundAway (exactCapped q cap * 100) + 1) ∧
      (¬RoundsUp q cap → roundAway (exactCapped (roundSixteen q) cap * 100) =
        roundAway (exactCapped q cap * 100)) := by
  obtain ⟨hup, hsame⟩ := roundAway_roundSixteen hq
  rw [roundsUp_iff hq]
  cases cap with
  | none => simpa [exactCapped] using And.intro hup hsame
  | some c =>
    by_cases hc0 : c.value = 0
    · simpa [exactCapped, hc0] using And.intro hup hsame
    -- a cap that is not zero applies to each quotient it lies below
    have hcap : ∀ x, exactCapped x (some c) = if c.value < x then c.value else x := by
      intro x
      simp [exactCapped, hc0]
    have hok : (∀ c', some c = some c' → c'.value ≠ 0 → roundSixteen q ≤ c'.value) ↔
        roundSixteen q ≤ c.value := by
      simp [hc0]
    rw [hcap, hcap, hok]
    have hq16 : 0 ≤ roundSixteen q := by
      simp only [roundSixteen]
      exact div_nonneg (by exact_mod_cast roundAway_nonneg (by positivity)) (by positivity)
    by_cases h16 : c.value < roundSixteen q <;> by_cases hlt : c.value < q
    · -- the cap applies to both quotients
      rw [if_pos h16, if_pos hlt]
      exact ⟨fun h => absurd h.2 (not_le.2 h16), fun _ => rfl⟩
    · -- the cap lies between the quotients: its cents are those of the exact quotient
      rw [if_pos h16, if_neg hlt]
      refine ⟨fun h => absurd h.2 (not_le.2 h16), fun _ => ?_⟩
      have hlow : roundAway (q * 100) ≤ roundAway (c.value * 100) :=
        roundAway_mono (by linarith [not_lt.1 hlt])
      have hhigh : roundAway (c.value * 100) ≤ roundAway (roundSixteen q * 100) :=
        roundAway_mono (by linarith)
      by_cases hb : (∃ k : ℤ, roundSixteen q = halfCent k) ∧ q < roundSixteen q
      · have hR := hup hb
        obtain ⟨⟨k, hk⟩, -⟩ := hb
        have hk0 : 0 ≤ k := by
          rw [hk] at hq16
          simp only [halfCent] at hq16
          have h2k : (0 : ℚ) ≤ 2 * k + 1 := by linarith
          have h2k' : (0 : ℤ) ≤ 2 * k + 1 := by exact_mod_cast h2k
          omega
        rw [hk, roundAway_halfCent hk0] at hR
        have hC : roundAway (c.value * 100) ≤ k :=
          roundAway_le_of_lt_halfCent (by linarith [not_lt.1 hlt]) (by rw [← hk]; linarith)
        omega
      · have := hsame hb
        omega
    · -- the cap lies between the quotients the other way: no rounding up, and equal cents
      rw [if_neg h16, if_pos hlt]
      have hnb : ¬((∃ k : ℤ, roundSixteen q = halfCent k) ∧ q < roundSixteen q) := fun h => by
        linarith [h.2, not_lt.1 h16]
      refine ⟨fun h => absurd h.1 hnb, fun _ => ?_⟩
      have hR := hsame hnb
      have hlow : roundAway (roundSixteen q * 100) ≤ roundAway (c.value * 100) :=
        roundAway_mono (by linarith [not_lt.1 h16])
      have hhigh : roundAway (c.value * 100) ≤ roundAway (q * 100) :=
        roundAway_mono (by linarith)
      omega
    · -- the cap applies to neither quotient
      rw [if_neg h16, if_neg hlt]
      exact ⟨fun h => hup h.1, fun h => hsame fun hb => h ⟨hb, not_lt.1 h16⟩⟩

end Cents

/-! ## The discount -/

/-- For every amount a top-up accepts, every percentage that is not negative and every cap, the
discount is the exact discount, but a cent more where the two roundings add a cent, which no
percentage of at most twelve decimals does; what is charged is the amount less the discount. -/
theorem discount_exact_but_at_half_cents {amount percentage : Decimal}
    (hamount : validAmount amount = true) (hpct : 0 ≤ percentage.value) (cap : Option Decimal) :
    (RoundsUp (amount.value * percentage.value / 100) cap →
        (compute amount percentage cap).discount.value =
          exactDiscount amount percentage cap + 1 / 100) ∧
      (¬RoundsUp (amount.value * percentage.value / 100) cap →
        (compute amount percentage cap).discount.value = exactDiscount amount percentage cap) ∧
      (percentage.HasPlaces 12 → ¬RoundsUp (amount.value * percentage.value / 100) cap) ∧
      (compute amount percentage cap).final.value =
        amount.value - (compute amount percentage cap).discount.value := by
  obtain ⟨hpos, -, a, ha⟩ := validAmount_iff.1 hamount
  have hq : 0 ≤ amount.value * percentage.value / 100 :=
    div_nonneg (mul_nonneg hpos.le hpct) (by norm_num)
  obtain ⟨hup, hsame⟩ := roundAway_capped_quotient hq cap
  refine ⟨fun h => ?_, fun h => ?_, fun hplaces => ?_, value_final _ _ _⟩
  · rw [value_discount, hup h, exactDiscount]
    push_cast
    ring
  · rw [value_discount, hsame h, exactDiscount]
  · obtain ⟨z, hz⟩ := Decimal.hasPlaces_iff.1 hplaces
    -- two decimals of the amount and twelve of the percentage, over a hundred: sixteen
    refine not_roundsUp_of_grid (z := a * z) ?_ cap
    rw [Int.cast_mul, ← ha, ← hz]
    ring

/-- Thirty percent of a hundred under a cap of fifty is the exact discount. -/
theorem discount_exact_at_thirty_percent :
    validAmount 100 = true ∧ (0 : ℚ) ≤ (30 : Decimal).value ∧
      (compute 100 30 (some 50)).discount.value = exactDiscount 100 30 (some 50) := by
  have h := @discount_exact_but_at_half_cents 100 30 (by decide) (by norm_num) (some 50)
  exact ⟨by decide, by norm_num, h.2.1 (h.2.2.1 (by decide))⟩

/-- Eighteen decimals just below a half percent: on one unit the exact quotient lies just below a
half cent and rounds to no cents, while the sixteen-place quotient is the half cent and the
discount is a cent. -/
theorem discount_one_cent_above_exact :
    validAmount 1 = true ∧
      { SeedOptions.defaults with discountPercentage := ⟨499999999999999999, -18⟩ }.problem? =
        none ∧
      (compute 1 ⟨499999999999999999, -18⟩ none).discount = ⟨1, -2⟩ ∧
      exactDiscount 1 ⟨499999999999999999, -18⟩ none = 0 := by
  refine ⟨by decide, by decide, by decide, ?_⟩
  have hfloor : ⌊(1 : ℚ) * (499999999999999999 * 10 ^ (-18 : ℤ)) / 100 * 100 + 1 / 2⌋ = 0 := by
    rw [Int.floor_eq_iff]
    norm_num
  have hexact : (1 : Decimal).value * (⟨499999999999999999, -18⟩ : Decimal).value / 100 * 100 =
      1 * (499999999999999999 * 10 ^ (-18 : ℤ)) / 100 * 100 := by
    simp
  rw [exactDiscount, exactCapped, hexact, roundAway_of_nonneg (by norm_num), hfloor]
  norm_num

end Discount

end TopUpPromo
