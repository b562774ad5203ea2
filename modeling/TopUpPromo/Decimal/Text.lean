import TopUpPromo.Decimal.Basic
import TopUpPromo.Text.Integer

/-!
# Decimal text

The plain text of a decimal has no exponent and no trailing fractional zeros, and zero has no
sign (`10.500` is written `10.5`, `1e2` is written `100`, `-0` is written `0`). The fixed text
rounds half away from zero to a number of places and writes exactly that many.

A decimal is read from an optional sign, digits with at most one point, and an optional exponent
after `e` or `E`. The exponent and the final scale must fit a signed 32-bit word.

## Main definitions

- `Decimal.toText`, `Decimal.toFixed`: the two printers.
- `Decimal.read?`: the reader, with `Decimal.ReadError` saying why a text is no decimal.
-/

namespace TopUpPromo
namespace Decimal

def digitsOf (n : Nat) : List Char := (Nat.toDigits 10 n)

/-- The plain text of the number: no exponent, no trailing fractional zeros, no sign on zero. -/
def toText (d : Decimal) : String :=
  if 0 ≤ d.exp then toString (d.coeff * Int.pow 10 d.exp.toNat)
  else
    let places := (-d.exp).toNat
    let ds := digitsOf d.coeff.natAbs
    let padded := List.replicate (places + 1 - ds.length) '0' ++ ds
    let intPart := padded.take (padded.length - places)
    let frac := (padded.drop (padded.length - places)).reverse.dropWhile (· = '0') |>.reverse
    let body := String.ofList intPart ++ (if frac.isEmpty then "" else "." ++ String.ofList frac)
    if d.coeff < 0 then "-" ++ body else body

/-- The text of the number rounded half away from zero to `places` digits, written with exactly
that many fractional digits. -/
def toFixed (d : Decimal) (places : Nat) : String :=
  let r := d.round places
  let c := r.coeffAt (-(places : Int))
  let ds := digitsOf c.natAbs
  let padded := List.replicate (places + 1 - ds.length) '0' ++ ds
  let intPart := padded.take (padded.length - places)
  let frac := padded.drop (padded.length - places)
  let body := String.ofList intPart ++ (if places = 0 then "" else "." ++ String.ofList frac)
  if c < 0 then "-" ++ body else body

/-- Why a text is no decimal. -/
inductive ReadFault where
  /-- The part after `e` is no 32-bit integer. -/
  | exponentNotNumeric
  /-- The exponent or the resulting scale is outside a 32-bit word. -/
  | scaleTooLarge
  /-- Two points. -/
  | tooManyPoints
  /-- The digits are no integer. -/
  | notANumber
  deriving DecidableEq, Repr

/-- A failed read: the cause, and the text that the message quotes. -/
structure ReadError where
  fault : ReadFault
  text : String
  deriving DecidableEq, Repr

def ReadError.message (e : ReadError) : String :=
  let head := "can't convert " ++ e.text ++ " to decimal"
  match e.fault with
  | .exponentNotNumeric => head ++ ": exponent is not numeric"
  | .scaleTooLarge => head ++ ": fractional part too long"
  | .tooManyPoints => head ++ ": too many .s"
  | .notANumber => head

def signedDigits? (cs : List Char) : Option Int :=
  let (neg, body) := match cs with
    | '+' :: r => (false, r)
    | '-' :: r => (true, r)
    | r => (false, r)
  if body.isEmpty ∨ body.any (fun c => !c.isDigit) then none
  else
    let n := body.foldl (fun acc c => acc * 10 + (c.toNat - '0'.toNat)) 0
    some (if neg then -(n : Int) else n)

def scaleFits (e : Int) : Bool := -2147483648 ≤ e ∧ e ≤ 2147483647

/-- Reads a decimal: `[sign] digits [. digits] [(e|E) [sign] digits]`, with digits on at least
one side of the point. -/
def read? (s : String) : Except ReadError Decimal :=
  let cs := s.toList
  let split := cs.findIdx? (fun c => c = 'e' ∨ c = 'E')
  let expPart : Except ReadError (List Char × Int) :=
    match split with
    | none => .ok (cs, 0)
    | some i =>
      match Text.readInt (String.ofList (cs.drop (i + 1))) false 32 with
      | .ok e => .ok (cs.take i, e)
      | .error .range => .error ⟨.scaleTooLarge, s⟩
      | .error .malformed => .error ⟨.exponentNotNumeric, s⟩
  match expPart with
  | .error e => .error e
  | .ok (mant, e0) =>
    let mantText := String.ofList mant
    if mant.count '.' > 1 then .error ⟨.tooManyPoints, mantText⟩
    else
      let (digits, e1) :=
        match mant.findIdx? (· = '.') with
        | none => (mant, e0)
        | some p =>
          let frac := mant.drop (p + 1)
          (mant.take p ++ frac, e0 - (String.ofList frac).utf8ByteSize)
      match signedDigits? digits with
      | none => .error ⟨.notANumber, mantText⟩
      | some c => if scaleFits e1 then .ok ⟨c, e1⟩ else .error ⟨.scaleTooLarge, s⟩

end Decimal
end TopUpPromo
