/-!
# Exact decimals

A decimal is an integer coefficient scaled by a power of ten. Sums, differences and products
are exact; a quotient is rounded half away from zero to a fixed number of places, and so is
`Decimal.round`. Two decimals with different exponents may denote one number (`10 × 10⁰` and
`1 × 10¹`); comparison and the printers depend on the number only.

## Main definitions

- `TopUpPromo.roundQuotient`: the nearest integer to `n / d`, halves away from zero.
- `Decimal.divRound`, `Decimal.div`: a quotient rounded to a number of places (16 by default).
- `Decimal.round`: rounding to a number of places.
- `Decimal.HasPlaces`: the number has at most the given number of fractional digits.
-/

namespace TopUpPromo

/-- The nearest integer to `n / d`; a quotient exactly halfway between two integers goes to the
one farther from zero. For `d = 0` the answer is `0`. -/
def roundQuotient (n d : Int) : Int :=
  let q := n.tdiv d
  let r := n.tmod d
  if 2 * r.natAbs ≥ d.natAbs then q + n.sign * d.sign else q

/-- A decimal number `coeff × 10 ^ exp`. -/
structure Decimal where
  coeff : Int
  exp : Int
  deriving Repr, Inhabited, DecidableEq

namespace Decimal

def ofInt (n : Int) : Decimal := ⟨n, 0⟩

instance : OfNat Decimal n := ⟨ofInt n⟩

def coeffAt (d : Decimal) (e : Int) : Int :=
  if e ≤ d.exp then d.coeff * Int.pow 10 (d.exp - e).toNat
  else d.coeff.tdiv (Int.pow 10 (e - d.exp).toNat)

def rescale (d : Decimal) (e : Int) : Decimal := ⟨d.coeffAt e, e⟩

def add (a b : Decimal) : Decimal :=
  let e := min a.exp b.exp
  ⟨a.coeffAt e + b.coeffAt e, e⟩

def neg (d : Decimal) : Decimal := ⟨-d.coeff, d.exp⟩

def sub (a b : Decimal) : Decimal := add a (neg b)

def mul (a b : Decimal) : Decimal := ⟨a.coeff * b.coeff, a.exp + b.exp⟩

instance : Add Decimal := ⟨add⟩
instance : Sub Decimal := ⟨sub⟩
instance : Mul Decimal := ⟨mul⟩
instance : Neg Decimal := ⟨neg⟩

def sign (d : Decimal) : Int := d.coeff.sign

def isZero (d : Decimal) : Bool := d.coeff == 0

def abs (d : Decimal) : Decimal := ⟨d.coeff.natAbs, d.exp⟩

def cmp (a b : Decimal) : Ordering :=
  let e := min a.exp b.exp
  compare (a.coeffAt e) (b.coeffAt e)

instance : LT Decimal := ⟨fun a b => a.cmp b = .lt⟩
instance : LE Decimal := ⟨fun a b => a.cmp b ≠ .gt⟩

instance (a b : Decimal) : Decidable (a < b) :=
  inferInstanceAs (Decidable (a.cmp b = .lt))

instance (a b : Decimal) : Decidable (a ≤ b) :=
  inferInstanceAs (Decidable (a.cmp b ≠ .gt))

def equiv (a b : Decimal) : Bool := a.cmp b == .eq

/-- `a / b` rounded half away from zero to `places` fractional digits; the result has exponent
`-places`. -/
def divRound (a b : Decimal) (places : Nat) : Decimal :=
  let k := a.exp - b.exp + places
  if 0 ≤ k then ⟨roundQuotient (a.coeff * Int.pow 10 k.toNat) b.coeff, -(places : Int)⟩
  else ⟨roundQuotient a.coeff (b.coeff * Int.pow 10 (-k).toNat), -(places : Int)⟩

def divisionPlaces : Nat := 16

/-- `a / b` to `divisionPlaces` digits. -/
def div (a b : Decimal) : Decimal := divRound a b divisionPlaces

/-- `d` rounded half away from zero to `places` fractional digits. A decimal that already has
exponent `-places` is returned as it is; otherwise the result has exponent `-places`. -/
def round (d : Decimal) (places : Int) : Decimal :=
  if d.exp = -places then d
  else if -places < d.exp then d.rescale (-places)
  else ⟨roundQuotient d.coeff (Int.pow 10 (-places - d.exp).toNat), -places⟩

def truncate (d : Decimal) (places : Nat) : Decimal :=
  if -(places : Int) > d.exp then d.rescale (-(places : Int)) else d

/-- The number has at most `places` fractional digits. -/
def HasPlaces (d : Decimal) (places : Nat) : Prop :=
  (d.truncate places).cmp d = .eq

instance (d : Decimal) (places : Nat) : Decidable (d.HasPlaces places) :=
  inferInstanceAs (Decidable ((d.truncate places).cmp d = .eq))

end Decimal

end TopUpPromo
