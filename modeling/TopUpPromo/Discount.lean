import TopUpPromo.Decimal.Basic

/-!
# Top-up discounts

A voucher takes a percentage off a top-up amount. The discount is the amount times the
percentage over one hundred (a quotient kept to sixteen places); a cap that is present and not
zero replaces a larger discount, and the discount is then rounded half away from zero to cents.
What is charged is the amount less that discount, unrounded.

## Main definitions

- `Discount`: the discount and the charged amount of one top-up.
- `Discount.compute`: the rule above.
-/

namespace TopUpPromo

/-- What a voucher takes off a top-up, and what remains to be charged. -/
structure Discount where
  discount : Decimal
  final : Decimal
  deriving Repr, DecidableEq

namespace Discount

/-- The uncapped discount before rounding: `amount * percentage / 100`, to sixteen places. -/
def raw (amount percentage : Decimal) : Decimal :=
  (amount * percentage).div 100

/-- A cap applies when it is present, not zero, and below the discount. -/
def capped (q : Decimal) : Option Decimal → Decimal
  | some c => if !c.isZero ∧ c < q then c else q
  | none => q

/-- The discount of `amount` under `percentage` and an optional `cap`, and the amount left to
charge. -/
def compute (amount percentage : Decimal) (cap : Option Decimal) : Discount :=
  let d := (capped (raw amount percentage) cap).round 2
  ⟨d, amount - d⟩

end Discount

end TopUpPromo
