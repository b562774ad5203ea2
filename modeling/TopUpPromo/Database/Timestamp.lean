import TopUpPromo.Text.Integer
import TopUpPromo.Time.Instant

/-!
# Timestamps as the database writes them

The database writes a timestamp as `yyyy-mm-dd hh:mm:ss`, then an optional fraction, an optional
zone (`+hh`, `+hh:mm`, `+hh:mm:ss` or `Z`) and ` BC` for a year before the era. The reader takes
every field at the byte position this layout gives it, counted from the first `-` of the text,
so a text laid out otherwise has its fields read from the wrong places, and fails or reads as
another instant. Fields past their range (a 13th month, a 25th hour) carry into the next larger
unit, as calendar arithmetic does. Without a clock the text is a date at midnight.

The first failure met is the one reported, except that text left after the last field is
reported instead of any failure met before it.

## Main definitions

- `readTimestamp`: the instant of a database timestamp text, or why it is none.
-/

namespace TopUpPromo
namespace Database

def invalidTimestamp : String := "invalid timestamp"

def bytesText (bs : List Nat) : String :=
  match String.fromUTF8? (ByteArray.mk (bs.map (·.toUInt8)).toArray) with
  | some s => s
  | none => String.ofList (bs.map Char.ofNat)

def numberAt (bs : List Nat) (pending : Option String) (b e : Int) : Int × Option String :=
  match pending with
  | some _ => (0, pending)
  | none =>
    if b < 0 ∨ e < 0 ∨ b > e ∨ e > bs.length then (0, some invalidTimestamp)
    else
      let t := bytesText ((bs.drop b.toNat).take (e - b).toNat)
      match Text.readInt t false 64 with
      | .ok n => (n, none)
      | .error _ => (0, some ("expected number; got '" ++ t ++ "'"))

def expectAt (bs : List Nat) (pending : Option String) (c : Char) (pos : Int) : Option String :=
  match pending with
  | some _ => pending
  | none =>
    if pos + 1 > bs.length then some invalidTimestamp
    else match bs[pos.toNat]? with
      | some b =>
        if b = c.toNat then none
        else some ("expected '" ++ toString c.toNat ++ "' at position " ++ toString pos ++
          "; got '" ++ toString b ++ "'")
      | none => some invalidTimestamp

def byteIs (bs : List Nat) (pos : Int) (c : Char) : Bool :=
  0 ≤ pos && bs[pos.toNat]? == some c.toNat

def clockAt (bs : List Nat) (pending : Option String) (timeSep : Int) :
    Int × Int × Int × Option String :=
  let p := expectAt bs pending ' ' timeSep
  let minSep := timeSep + 3
  let p := expectAt bs p ':' minSep
  let (hour, p) := numberAt bs p (timeSep + 1) minSep
  let secSep := minSep + 3
  let p := expectAt bs p ':' secSep
  let (minute, p) := numberAt bs p (minSep + 1) secSep
  let (second, p) := numberAt bs p (secSep + 1) (secSep + 3)
  (hour, minute, second, p)

def fractionAt (bs : List Nat) (pending : Option String) (pos : Int) :
    Nat × Int × Option String :=
  if byteIs bs pos '.' then
    let start := pos + 1
    let tail := bs.drop start.toNat
    let len := (tail.findIdx? fun b => b = 45 ∨ b = 43 ∨ b = 90 ∨ b = 32).getD tail.length
    let (digits, p) := numberAt bs pending start (start + len)
    let nanos := if len ≤ 9 then digits.toNat * Nat.pow 10 (9 - len) else 0
    (nanos, pos + len + 1, p)
  else (0, pos, pending)

def zonePartAt (bs : List Nat) (pending : Option String) (pos : Int) : Int × Int × Option String :=
  if pos < bs.length && byteIs bs pos ':' then
    let (n, p) := numberAt bs pending (pos + 1) (pos + 3)
    (n, pos + 3, p)
  else (0, pos, pending)

def zoneAt (bs : List Nat) (pending : Option String) (pos : Int) : Int × Int × Option String :=
  if byteIs bs pos '-' || byteIs bs pos '+' then
    let sign : Int := if byteIs bs pos '-' then -1 else 1
    let (hours, p) := numberAt bs pending (pos + 1) (pos + 3)
    let (minutes, next, p) := zonePartAt bs p (pos + 3)
    let (seconds, next, p) := zonePartAt bs p next
    (sign * (hours * 3600 + minutes * 60 + seconds), next, p)
  else if byteIs bs pos 'Z' then (0, pos + 1, pending)
  else (0, pos, pending)

/-- The instant of a database timestamp text, shown in the text's own zone, or the first failure
of the text. -/
def readTimestamp (s : String) : Except String Instant :=
  let bs := s.toUTF8.toList.map (·.toNat)
  let len : Int := bs.length
  let monSep : Int := match bs.idxOf? 45 with
    | some i => i
    | none => -1
  let (year, p) := numberAt bs none 0 monSep
  let daySep := monSep + 3
  let (month, p) := numberAt bs p (monSep + 1) daySep
  let p := expectAt bs p '-' daySep
  let timeSep := daySep + 3
  let (day, p) := numberAt bs p (daySep + 1) timeSep
  let bc := s.endsWith " BC"
  let minLen := monSep + 6 + (if bc then 3 else 0)
  let (hour, minute, second, p) := if len > minLen then clockAt bs p timeSep else (0, 0, 0, p)
  let (nanos, pos, p) := fractionAt bs p (monSep + 15)
  let (offset, pos, p) := zoneAt bs p pos
  let pos := if bc then pos + 3 else pos
  if pos < len then .error ("expected end of input, got " ++ bytesText (bs.drop pos.toNat))
  else match p with
    | some e => .error e
    | none =>
      .ok (Instant.ofFields (if bc then 1 - year else year) month day hour minute second nanos
        offset)

end Database
end TopUpPromo
