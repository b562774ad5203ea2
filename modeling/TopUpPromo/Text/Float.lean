import TopUpPromo.Text.Integer

/-!
# Binary floating point from and to text

A 64-bit binary floating-point number is `NaN`, an infinity, or a finite value
`± mantissa · 2 ^ exponent` with a mantissa below `2 ^ 53` and an exponent of at least `-1074`.
Text is read exactly, as a rational number, and then rounded to the nearest such value, ties to
an even mantissa; a value too large for the format is a range failure and reads as an infinity.

The accepted text is a sign, then `inf`, `infinity` or (unsigned) `nan` in any case, or a
decimal number with optional point and `e` exponent, or a hexadecimal number after `0x` with a
required `p` exponent of two. Underscores may separate digits.

A finite value is written with the fewest significant digits that read back as the same value.

## Main definitions

- `Binary64`, `Binary64.ofRatio`, `readFloat`.
- `Binary64.shortest`: the shortest digits of a finite value.
- `Binary64.general`: the text of the `%v` verb; `Binary64.jsonText`: the text of a JSON number.
-/

namespace TopUpPromo
namespace Text

/-- A 64-bit binary floating-point value. -/
inductive Binary64 where
  | nan
  | infinite (negative : Bool)
  /-- `± mantissa · 2 ^ exponent`. -/
  | finite (negative : Bool) (mantissa : Nat) (exponent : Int)
  deriving DecidableEq, Repr

def roundHalfEven (n d : Nat) : Nat :=
  let q := n / d
  let r := n % d
  if 2 * r < d then q else if 2 * r > d then q + 1 else if q % 2 = 0 then q else q + 1

def scaledByTwo (n : Nat) (e : Int) : Nat × Nat :=
  if 0 ≤ e then (n * Nat.pow 2 e.toNat, 1) else (n, Nat.pow 2 (-e).toNat)

def floorLog2 (n d : Nat) : Int :=
  let k : Int := (Nat.log2 n : Int) - (Nat.log2 d : Int)
  -- `n / d` lies in `[2 ^ (k - 1), 2 ^ (k + 1))`
  let (a, b) := scaledByTwo d k
  if n * b ≥ a then k else k - 1

namespace Binary64

/-- The nearest value to `n / d` (with `d > 0`), or `none` when it is too large. -/
def ofRatio (negative : Bool) (n d : Nat) : Option Binary64 :=
  if n = 0 then some (.finite negative 0 0)
  else
    let e := max (floorLog2 n d - 52) (-1074)
    let (a, b) := scaledByTwo 1 e
    -- the mantissa is `n / (d · 2 ^ e)`, rounded
    let m := roundHalfEven (n * b) (d * a)
    let (m, e) := if m = Nat.pow 2 53 then (m / 2, e + 1) else (m, e)
    if e > 971 then none else some (.finite negative m e)

def magnitude : Binary64 → Nat × Nat
  | .finite _ m e => scaledByTwo m e
  | _ => (0, 1)

end Binary64

def floorLog10 (n d : Nat) : Int :=
  let k : Int := ((Nat.toDigits 10 n).length : Int) - ((Nat.toDigits 10 d).length : Int)
  -- `n / d` lies in `[10 ^ (k - 1), 10 ^ (k + 1))`
  let lhs := if 0 ≤ k then d * Nat.pow 10 k.toNat else d
  let rhs := if 0 ≤ k then n else n * Nat.pow 10 (-k).toNat
  if rhs ≥ lhs then k else k - 1

def scaledByTen (n : Nat) (e : Int) : Nat × Nat :=
  if 0 ≤ e then (n * Nat.pow 10 e.toNat, 1) else (n, Nat.pow 10 (-e).toNat)

def ofDecimal (negative : Bool) (c : Nat) (e : Int) : Option Binary64 :=
  if c = 0 then some (.finite negative 0 0)
  else
    let digits : Int := (Nat.toDigits 10 c).length
    if e ≥ 310 then none
    else if e + digits < -330 then some (.finite negative 0 0)
    else
      let (n, d) := scaledByTen c e
      Binary64.ofRatio negative n d

def ofBinary (negative : Bool) (c : Nat) (e : Int) : Option Binary64 :=
  if c = 0 then some (.finite negative 0 0)
  else
    let bits : Int := Nat.log2 c
    if e + bits ≥ 1025 then none
    else if e + bits < -1080 then some (.finite negative 0 0)
    else
      let (n, d) := scaledByTwo c e
      Binary64.ofRatio negative n d

def prefixIgnoringCase (cs : List Char) (word : List Char) : Nat :=
  match cs, word with
  | c :: cs', w :: ws => if c.toLower = w then prefixIgnoringCase cs' ws + 1 else 0
  | _, _ => 0

def hexDigitValue (c : Char) : Option Nat :=
  if '0' ≤ c ∧ c ≤ '9' then some (c.toNat - '0'.toNat)
  else if 'a' ≤ c.toLower ∧ c.toLower ≤ 'f' then some (c.toLower.toNat - 'a'.toNat + 10)
  else none

def mantissaDigits (hex : Bool) : List Char → Nat → Nat → Bool → Bool → Option (Nat × Nat × Bool × List Char)
  | [], acc, frac, _, seen => if seen then some (acc, frac, false, []) else none
  | c :: cs, acc, frac, dot, seen =>
    if c = '_' then mantissaDigits hex cs acc frac dot seen
    else if c = '.' then
      if dot then (if seen then some (acc, frac, true, c :: cs) else none)
      else mantissaDigits hex cs acc frac true seen
    else
      let v := if hex then hexDigitValue c else if c.isDigit then some (c.toNat - '0'.toNat) else none
      match v with
      | some d =>
        mantissaDigits hex cs (acc * (if hex then 16 else 10) + d) (if dot then frac + 1 else frac) dot true
      | none => if seen then some (acc, frac, false, c :: cs) else none

def exponentDigits (cs : List Char) : Option Int :=
  let (neg, body) := match cs with
    | '+' :: r => (false, r)
    | '-' :: r => (true, r)
    | r => (false, r)
  match body with
  | c :: _ =>
    if c.isDigit ∧ body.all (fun x => x.isDigit ∨ x = '_') then
      let n := (body.filter Char.isDigit).foldl (fun acc x => acc * 10 + (x.toNat - '0'.toNat)) 0
      some (if neg then -(n : Int) else n)
    else none
  | [] => none

/-- Why a text is no float, or the float it reads as; a value too large reads as an
infinity with a range failure. -/
def readFloat (s : String) : Except NumberFault Binary64 :=
  let cs := s.toList
  let (negative, body) := match cs with
    | '+' :: r => (false, r)
    | '-' :: r => (true, r)
    | r => (false, r)
  let signed := cs.length != body.length
  let infLen := prefixIgnoringCase body "infinity".toList
  if (infLen = 3 ∧ body.length = 3) ∨ (infLen = 8 ∧ body.length = 8) then
    .ok (.infinite negative)
  else if !signed ∧ body.length = 3 ∧ prefixIgnoringCase body "nan".toList = 3 then .ok .nan
  else
    let (hex, digits) := match body with
      | '0' :: x :: r => if x = 'x' ∨ x = 'X' then (true, r) else (false, body)
      | _ => (false, body)
    let expChar := if hex then 'p' else 'e'
    let parsed : Option (Nat × Int) := do
      let (m, frac, _, rest) ← mantissaDigits hex digits 0 0 false false
      let e ← match rest with
        | [] => if hex then none else some 0
        | c :: r => if c.toLower = expChar then exponentDigits r else none
      pure (m, e - (if hex then 4 * (frac : Int) else frac))
    match parsed with
    | none => .error .malformed
    | some (m, e) =>
      if cs.contains '_' ∧ !underscoresPlaced cs then
        .error .malformed
      else
        match (if hex then ofBinary negative m e else ofDecimal negative m e) with
        | some v => .ok v
        | none => .error .range

namespace Binary64

/-- The shortest decimal digits that read back as a finite positive value, and the position
of the decimal point relative to them: the value is `0.d₁d₂… · 10 ^ point`. -/
def shortest (m : Nat) (e : Int) : List Nat × Int :=
  let (n, d) := scaledByTwo m e
  let k := floorLog10 n d
  let target := ofRatio false n d
  let candidate (p : Nat) : Nat × Int :=
    -- the value rounded to `p` significant digits, as `D · 10 ^ (k - p + 1)`
    let shift : Int := (p : Int) - 1 - k
    let (a, b) := scaledByTen 1 shift
    let digits := roundHalfEven (n * a) (d * b)
    if digits = Nat.pow 10 p then (Nat.pow 10 (p - 1), k + 1) else (digits, k)
  let found := (List.range 17).findSome? fun i =>
    let (ds, top) := candidate (i + 1)
    let back := ofDecimal false ds (top - i)
    if back = target then some (ds, top) else none
  let (ds, top) := found.getD (candidate 17)
  let ds := (Nat.toDigits 10 ds).map (fun c => c.toNat - '0'.toNat)
  let trimmed := (ds.reverse.dropWhile (· = 0)).reverse
  (trimmed, top + 1)

def digitText (ds : List Nat) : String := String.ofList (ds.map fun d => Char.ofNat (d + 48))

def expText (ds : List Nat) (point : Int) : String :=
  let x := point - 1
  let mant := match ds with
    | [] => "0"
    | [d] => digitText [d]
    | d :: rest => digitText [d] ++ "." ++ digitText rest
  let ex := toString x.natAbs
  mant ++ "e" ++ (if x < 0 then "-" else "+") ++ (if ex.length < 2 then "0" ++ ex else ex)

def plainText (ds : List Nat) (point : Int) : String :=
  if point ≤ 0 then
    "0." ++ String.ofList (List.replicate (-point).toNat '0') ++ digitText ds
  else
    let p := point.toNat
    let intPart := ds.take p ++ List.replicate (p - min p ds.length) 0
    let frac := ds.drop p
    digitText intPart ++ (if frac.isEmpty then "" else "." ++ digitText frac)

/-- The text of the `%v` verb: shortest digits, in exponent notation when the exponent is
below `-4` or at least 6. -/
def general : Binary64 → String
  | .nan => "NaN"
  | .infinite neg => if neg then "-Inf" else "+Inf"
  | .finite neg m e =>
    let sign := if neg then "-" else ""
    if m = 0 then sign ++ "0"
    else
      let (ds, point) := shortest m e
      let x := point - 1
      sign ++ (if x < -4 ∨ x ≥ 6 then expText ds point else plainText ds point)

/-- The text of a JSON number: shortest digits, in exponent notation below `1e-6` and from
`1e21` on. -/
def jsonText : Binary64 → String
  | .finite neg m e =>
    let sign := if neg then "-" else ""
    if m = 0 then sign ++ "0"
    else
      let (ds, point) := shortest m e
      let x := point - 1
      if x < -6 ∨ x ≥ 21 then
        let t := expText ds point
        -- one exponent digit is enough below the point: `1e-07` is written `1e-7`
        let t := if (t.splitOn "e-0").length = 2 then t.replace "e-0" "e-" else t
        sign ++ t
      else sign ++ plainText ds point
  | v => general v

def isNegative : Binary64 → Bool
  | .finite neg m _ => neg && m != 0
  | .infinite neg => neg
  | .nan => false

def atMostZero : Binary64 → Bool
  | .finite neg m _ => neg || m == 0
  | .infinite neg => neg
  | .nan => false

def atLeastOne : Binary64 → Bool
  | .finite neg m e =>
    let (n, d) := scaledByTwo m e
    !neg && n ≥ d
  | .infinite neg => !neg
  | .nan => false

def exceedsOne : Binary64 → Bool
  | .finite neg m e =>
    let (n, d) := scaledByTwo m e
    !neg && n > d
  | .infinite neg => !neg
  | .nan => false

end Binary64

end Text
end TopUpPromo
