import TopUpPromo.Time.Instant
import TopUpPromo.Text.Float

/-!
# Written instants

The RFC 3339 text of an instant is `YYYY-MM-DDTHH:MM:SS`, then a point and the nanoseconds
without trailing zeros (nothing when they are zero), then `Z` for a zero offset or `±hh:mm`.
Years are written with at least four digits, and a sign when negative. The database text is
the same with a blank for the `T`; a year before 1 is written as a positive year of the era
before Christ, with the suffix ` BC`.

Reading follows the layout `2006-01-02T15:04:05Z07:00` element by element: four-digit year,
two-digit month and day, an hour of one or two digits, two-digit minute and second with an
optional fraction after a point or comma, and `Z` or `±hh:mm`. A failure names the value, the
layout element and what was left of the value, or says which field is out of range.

## Main definitions

- `Instant.rfc3339`, `Instant.databaseText`: the two printers.
- `Instant.readRFC3339`: the reader, with `TimeParseError`.
-/

namespace TopUpPromo

def padNat (n width : Nat) : String :=
  let s := toString n
  String.ofList (List.replicate (width - s.length) '0') ++ s

def yearText (y : Int) : String :=
  if y < 0 then "-" ++ padNat y.natAbs 4 else padNat y.toNat 4

def fractionText (nanos : Nat) : String :=
  if nanos = 0 then ""
  else
    let ds := (padNat nanos 9).toList.reverse.dropWhile (· = '0') |>.reverse
    "." ++ String.ofList ds

def offsetText (offset : Int) : String :=
  if offset = 0 then "Z"
  else
    let a := offset.natAbs
    (if offset < 0 then "-" else "+") ++ padNat (a / 3600) 2 ++ ":" ++ padNat (a % 3600 / 60) 2

namespace Instant

def clockText (t : Instant) (sep : String) : String :=
  let c := t.civil
  yearText c.year ++ "-" ++ padNat c.month 2 ++ "-" ++ padNat c.day 2 ++ sep ++
    padNat c.hour 2 ++ ":" ++ padNat c.minute 2 ++ ":" ++ padNat c.second 2 ++
    fractionText t.nanos

/-- The RFC 3339 text of an instant, with nanoseconds. -/
def rfc3339 (t : Instant) : String := t.clockText "T" ++ offsetText t.offset

def hasFourDigitYear (t : Instant) : Bool := 0 ≤ t.civil.year ∧ t.civil.year ≤ 9999

def jsonFault? (t : Instant) : Option String :=
  if !t.hasFourDigitYear then some "year outside of range [0,9999]"
  else if t.offset.natAbs / 3600 ≥ 24 then some "timezone hour outside of range [0,23]"
  else none

def addYears (t : Instant) (years : Int) : Instant :=
  let c := t.civil
  let y := c.year + years
  let (m, d) := if c.month = 2 ∧ c.day = 29 ∧ !isLeapYear y then (3, 1) else (c.month, c.day)
  ofCivil { c with year := y, month := m, day := d } t.nanos t.offset

/-- The database text of an instant: a blank between date and clock, and the era before
Christ as a positive year with ` BC`. A part-minute offset adds its seconds. -/
def databaseText (t : Instant) : String :=
  let y := t.civil.year
  let (u, bc) := if y ≤ 0 then (t.addYears (-y * 2 + 1), true) else (t, false)
  let secs := u.offset.natAbs % 60
  u.clockText " " ++ offsetText u.offset ++ (if secs = 0 then "" else ":" ++ padNat secs 2) ++
    (if bc then " BC" else "")

end Instant

def timeEncodingFailure (reason : String) : String :=
  "json: error calling MarshalJSON for type *time.Time: " ++ reason

def timeQuote (s : String) : String :=
  let bytes (c : Char) : List Nat := (String.singleton c).toUTF8.toList.map (·.toNat)
  let body := s.toList.flatMap fun c =>
    if c.toNat ≥ 0x80 ∨ c.toNat < 0x20 then
      (bytes c).flatMap fun b => ['\\', 'x', hexLower (b / 16), hexLower (b % 16)]
    else if c = '"' ∨ c = '\\' then ['\\', c]
    else [c]
  "\"" ++ String.ofList body ++ "\""
where
  hexLower (n : Nat) : Char :=
    if n < 10 then Char.ofNat ('0'.toNat + n) else Char.ofNat ('a'.toNat + n - 10)

def rfc3339Layout : String := "2006-01-02T15:04:05Z07:00"

/-- Why a text is no RFC 3339 time. -/
inductive TimeFault where
  /-- The value could not be read as the layout element. -/
  | cannotParse (valueElem layoutElem : String)
  /-- A field is outside its range. -/
  | outOfRange (field : String)
  /-- Text remains after the layout ends. -/
  | extraText (rest : String)
  deriving DecidableEq, Repr

/-- A failed read of a time: the text read, and the fault. -/
structure TimeParseError where
  value : String
  fault : TimeFault
  deriving DecidableEq, Repr

def TimeParseError.message (e : TimeParseError) : String :=
  let head := "parsing time " ++ timeQuote e.value
  match e.fault with
  | .cannotParse v l =>
    head ++ " as " ++ timeQuote rfc3339Layout ++ ": cannot parse " ++ timeQuote v ++ " as " ++
      timeQuote l
  | .outOfRange f => head ++ ": " ++ f ++ " out of range"
  | .extraText r => head ++ ": extra text: " ++ timeQuote r

def twoDigits (cs : List Char) (fixed : Bool) : Option (Nat × List Char) :=
  match cs with
  | a :: b :: r =>
    if a.isDigit then
      if b.isDigit then some ((a.toNat - 48) * 10 + (b.toNat - 48), r)
      else if fixed then none else some (a.toNat - 48, b :: r)
    else none
  | [a] => if a.isDigit ∧ !fixed then some (a.toNat - 48, []) else none
  | [] => none

def digitsValue (cs : List Char) : Nat := cs.foldl (fun acc c => acc * 10 + (c.toNat - 48)) 0

namespace Instant

/-- Reads an RFC 3339 time (see the module note). -/
def readRFC3339 (s : String) : Except TimeParseError Instant :=
  let fail (f : TimeFault) : Except TimeParseError Instant := .error ⟨s, f⟩
  let cannot (v : List Char) (l : String) := fail (.cannotParse (String.ofList v) l)
  let cs := s.toList
  -- year: four characters, the first a digit, all digits
  match cs with
  | y1 :: y2 :: y3 :: y4 :: r0 =>
    if !(y1.isDigit ∧ y2.isDigit ∧ y3.isDigit ∧ y4.isDigit) then cannot cs "2006"
    else
    let year := digitsValue [y1, y2, y3, y4]
    match r0 with
    | '-' :: r1 =>
      match twoDigits r1 true with
      | none => cannot r1 "01"
      | some (month, r2) =>
        if month < 1 ∨ 12 < month then fail (.outOfRange "month") else
        match r2 with
        | '-' :: r3 =>
          match twoDigits r3 true with
          | none => cannot r3 "02"
          | some (day, r4) =>
            match r4 with
            | 'T' :: r5 =>
              match twoDigits r5 false with
              | none => cannot r5 "15"
              | some (hour, r6) =>
                if 24 ≤ hour then fail (.outOfRange "hour") else
                match r6 with
                | ':' :: r7 =>
                  match twoDigits r7 true with
                  | none => cannot r7 "04"
                  | some (minute, r8) =>
                    if 60 ≤ minute then fail (.outOfRange "minute") else
                    match r8 with
                    | ':' :: r9 =>
                      match twoDigits r9 true with
                      | none => cannot r9 "05"
                      | some (second, r10) =>
                        if 60 ≤ second then fail (.outOfRange "second") else
                        -- an optional fraction after a point or comma
                        let (nanos, r11) := match r10 with
                          | p :: d :: rest =>
                            if (p = '.' ∨ p = ',') ∧ d.isDigit then
                              let ds := d :: rest.takeWhile Char.isDigit
                              let used := (ds.take 9)
                              (digitsValue used * Nat.pow 10 (9 - used.length),
                                rest.dropWhile Char.isDigit)
                            else (0, r10)
                          | _ => (0, r10)
                        let offset : Except TimeParseError Int :=
                          match r11 with
                          | 'Z' :: _ => .ok 0
                          | sign :: h1 :: h2 :: colon :: m1 :: m2 :: _ =>
                            if colon ≠ ':' then .error ⟨s, .cannotParse (String.ofList r11) "Z07:00"⟩
                            else
                            match twoDigits [h1, h2] true, twoDigits [m1, m2] true with
                            | some (hh, _), some (mm, _) =>
                              if hh > 24 then .error ⟨s, .outOfRange "time zone offset hour"⟩
                              else if mm > 60 then .error ⟨s, .outOfRange "time zone offset minute"⟩
                              else if sign = '+' then .ok ((hh * 60 + mm) * 60)
                              else if sign = '-' then .ok (-(((hh * 60 + mm) * 60 : Nat) : Int))
                              else .error ⟨s, .cannotParse (String.ofList r11) "Z07:00"⟩
                            | _, _ => .error ⟨s, .cannotParse (String.ofList r11) "Z07:00"⟩
                          | _ => .error ⟨s, .cannotParse (String.ofList r11) "Z07:00"⟩
                        match offset with
                        | .error e => .error e
                        | .ok off =>
                          let rest := match r11 with
                            | 'Z' :: r => r
                            | r => r.drop 6
                          if !rest.isEmpty then fail (.extraText (String.ofList rest))
                          else if day < 1 ∨ daysInMonth year month < day then
                            fail (.outOfRange "day")
                          else .ok (ofCivil ⟨year, month, day, hour, minute, second⟩ nanos off)
                    | _ => cannot r8 ":"
                | _ => cannot r6 ":"
            | _ => cannot r4 "T"
        | _ => cannot r2 "-"
    | _ => cannot r0 "-"
  | _ => cannot cs "2006"

end Instant

def durationText (n : Int) : String :=
  let u := n.natAbs
  let sign := if n < 0 then "-" else ""
  -- the fraction of `v` below `10 ^ prec`, without trailing zeros
  let frac (v prec : Nat) : String :=
    let f := v % Nat.pow 10 prec
    if f = 0 then "" else
      let ds := (padNat f prec).toList.reverse.dropWhile (· = '0') |>.reverse
      "." ++ String.ofList ds
  if u = 0 then "0s"
  else if u < 1000 then sign ++ toString u ++ "ns"
  else if u < 1000000 then sign ++ toString (u / 1000) ++ frac u 3 ++ "µs"
  else if u < 1000000000 then sign ++ toString (u / 1000000) ++ frac u 6 ++ "ms"
  else
    let secs := u / 1000000000
    let s := toString (secs % 60) ++ frac u 9 ++ "s"
    let mins := secs / 60
    if mins = 0 then sign ++ s
    else
      let m := toString (mins % 60) ++ "m" ++ s
      let hours := mins / 60
      if hours = 0 then sign ++ m else sign ++ toString hours ++ "h" ++ m

def durationUnit (u : String) : Option Nat :=
  match u with
  | "ns" => some 1
  | "us" => some 1000
  | "µs" => some 1000
  | "μs" => some 1000
  | "ms" => some 1000000
  | "s" => some 1000000000
  | "m" => some 60000000000
  | "h" => some 3600000000000
  | _ => none

def fractionDigits : List Char → Nat × Nat → Nat × Nat
  | [], acc => acc
  | c :: cs, (x, scale) =>
    let y := x * 10 + (c.toNat - '0'.toNat)
    if x > (Nat.pow 2 63 - 1) / 10 ∨ y > Nat.pow 2 63 then (x, scale)
    else fractionDigits cs (y, scale * 10)

def nearestDouble (n d : Nat) : Nat × Nat :=
  ((Text.Binary64.ofRatio false n d).map Text.Binary64.magnitude).getD (0, 1)

def fractionNanos (f unit scale : Nat) : Nat :=
  let (fa, fb) := nearestDouble f 1
  let (ua, ub) := nearestDouble unit scale
  let (pa, pb) := nearestDouble (fa * ua) (fb * ub)
  pa / pb

def readDuration (s : String) : Option Int :=
  let cs := s.toList
  let (neg, body) := match cs with
    | '-' :: r => (true, r)
    | '+' :: r => (false, r)
    | r => (false, r)
  let limit : Nat := Nat.pow 2 63
  if body = ['0'] then some 0
  else if body.isEmpty then none
  else
    let isUnitChar (c : Char) : Bool := !(c.isDigit ∨ c = '.')
    -- each step consumes a number and its unit; `fuel` bounds the number of steps
    let rec go : Nat → List Char → Nat → Option Nat
      | 0, _, _ => none
      | _ + 1, [], acc => some acc
      | fuel + 1, r, acc =>
        let intDigits := r.takeWhile Char.isDigit
        let r1 := r.dropWhile Char.isDigit
        let (fracDigits, r2) := match r1 with
          | '.' :: r' => (r'.takeWhile Char.isDigit, r'.dropWhile Char.isDigit)
          | _ => ([], r1)
        if intDigits.isEmpty ∧ fracDigits.isEmpty then none
        else
          let unitText := r2.takeWhile isUnitChar
          let r3 := r2.dropWhile isUnitChar
          match durationUnit (String.ofList unitText) with
          | none => none
          | some unit =>
            let whole := digitsValue intDigits
            if whole > limit ∨ whole > limit / unit then none
            else
              let (f, scale) := fractionDigits fracDigits (0, 1)
              let v := whole * unit + (if f > 0 then fractionNanos f unit scale else 0)
              if v > limit ∨ acc + v > limit then none else go fuel r3 (acc + v)
    match go (body.length + 1) body 0 with
    | some v => if neg then some (-(v : Int)) else if v ≥ limit then none else some v
    | none => none

end TopUpPromo
