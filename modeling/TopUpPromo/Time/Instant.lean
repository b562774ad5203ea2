/-!
# Instants and their calendar

An instant is a count of seconds and nanoseconds from 1970-01-01T00:00:00Z, together with the
UTC offset in which it was written. The offset changes only how the instant is shown: two
instants are the same moment when their seconds and nanoseconds agree, whatever their offsets.

Calendar dates use the proleptic Gregorian calendar with astronomical years (year 0 exists).
Adding days to an instant keeps its clock time in its offset, which with a fixed offset is the
same as adding whole days of 86400 seconds.

The clock this models counts whole seconds from 0001-01-01T00:00:00Z in a signed 64-bit word,
and that bounds its arithmetic:

- adding a duration stops at the ends of the word's range;
- adding calendar days wraps around the word, as the machine's integers do;
- the calendar reads a date from an unsigned 64-bit count of seconds that starts on 1 January
  of year -292277022399, so an instant further out wraps around to the other end of that
  calendar.

Inside the range these rules never act, and the arithmetic is that of the integers.

## Main definitions

- `Instant`, `Instant.before`, `Instant.after`, `Instant.sameMoment`.
- `daysFromCivil`, `civilFromDays`: the day count of a calendar date and back.
- `Instant.civil`: the date and clock time an instant shows in its offset.
- `Instant.addDuration`, `Instant.addDays`.
-/

namespace TopUpPromo

/-- A moment in time, with the UTC offset in which it is shown. -/
structure Instant where
  /-- Whole seconds since 1970-01-01T00:00:00Z. -/
  seconds : Int
  /-- Nanoseconds past `seconds`, below one second. -/
  nanos : Nat
  /-- Seconds east of UTC in which the instant is shown. -/
  offset : Int
  deriving Repr, Inhabited, DecidableEq

def wrapInt64 (n : Int) : Int :=
  let m := n % 18446744073709551616
  if m ≥ 9223372036854775808 then m - 18446744073709551616 else m

/-- Nanoseconds in one second. -/
def nanosPerSecond : Nat := 1000000000

def secondsPerDay : Int := 86400

/-- The number of days from 1970-01-01 to the given date (negative before it). -/
def daysFromCivil (year : Int) (month day : Nat) : Int :=
  let y := if month ≤ 2 then year - 1 else year
  let era := y / 400
  let yoe := y - era * 400
  let m : Int := month
  let doy := (153 * (if m > 2 then m - 3 else m + 9) + 2) / 5 + (day : Int) - 1
  let doe := yoe * 365 + yoe / 4 - yoe / 100 + doy
  era * 146097 + doe - 719468

/-- The date of a day count: year, month (1–12) and day of month (1–31). -/
def civilFromDays (z : Int) : Int × Nat × Nat :=
  let z := z + 719468
  let era := z / 146097
  let doe := z - era * 146097
  let yoe := (doe - doe / 1460 + doe / 36524 - doe / 146096) / 365
  let y := yoe + era * 400
  let doy := doe - (365 * yoe + yoe / 4 - yoe / 100)
  let mp := (5 * doy + 2) / 153
  let d := doy - (153 * mp + 2) / 5 + 1
  let m := if mp < 10 then mp + 3 else mp - 9
  (if m ≤ 2 then y + 1 else y, m.toNat, d.toNat)

def isLeapYear (y : Int) : Bool := y % 4 == 0 && (y % 100 != 0 || y % 400 == 0)

def daysInMonth (year : Int) (month : Nat) : Nat :=
  match month with
  | 2 => if isLeapYear year then 29 else 28
  | 4 | 6 | 9 | 11 => 30
  | _ => 31

/-- A date and a clock time. -/
structure Civil where
  year : Int
  month : Nat
  day : Nat
  hour : Nat
  minute : Nat
  second : Nat
  deriving Repr, DecidableEq

namespace Instant

def epoch : Instant := ⟨0, 0, 0⟩

/-- Seconds from 0001-01-01T00:00:00Z to the epoch: the clock's own count of seconds starts
there. -/
def yearOneSeconds : Int := 62135596800

def calendarSpan : Int := 9223371966579724800

/-- The largest count of seconds of the clock. -/
def maxClockSeconds : Int := 9223372036854775807

def calendarSeconds (wall : Int) : Int :=
  (wall + yearOneSeconds + calendarSpan) % 18446744073709551616 - calendarSpan - yearOneSeconds

def ofCivil (c : Civil) (nanos : Nat) (offset : Int) : Instant :=
  let wall := daysFromCivil c.year c.month c.day * secondsPerDay
    + c.hour * 3600 + c.minute * 60 + c.second
  ⟨wall - offset, nanos, offset⟩

/-- The date and clock time the instant shows in its offset. -/
def civil (t : Instant) : Civil :=
  let wall := calendarSeconds (t.seconds + t.offset)
  let days := wall / secondsPerDay
  let secs := (wall % secondsPerDay).toNat
  let (y, m, d) := civilFromDays days
  ⟨y, m, d, secs / 3600, secs % 3600 / 60, secs % 60⟩

def totalNanos (t : Instant) : Int := t.seconds * nanosPerSecond + t.nanos

def ofTotalNanos (n : Int) (offset : Int) : Instant :=
  ⟨n / nanosPerSecond, (n % nanosPerSecond).toNat, offset⟩

def ofFields (year month day hour minute second : Int) (nanos : Nat) (offset : Int) : Instant :=
  let m := month - 1
  let days := daysFromCivil (year + m / 12) ((m % 12).toNat + 1) 1 + (day - 1)
  let wall := days * secondsPerDay + hour * 3600 + minute * 60 + second
  ofTotalNanos ((wall - offset) * nanosPerSecond + nanos) offset

/-- `t` is strictly earlier than `u`. -/
def before (t u : Instant) : Bool := t.totalNanos < u.totalNanos

/-- `t` is strictly later than `u`. -/
def after (t u : Instant) : Bool := u.totalNanos < t.totalNanos

/-- `t` and `u` are the same moment. -/
def sameMoment (t u : Instant) : Bool := t.totalNanos == u.totalNanos

/-- The instant `d` nanoseconds later (earlier when `d` is negative), in the same offset. The
whole seconds of `d` move the clock's count of seconds, which stops at the ends of its range
(the lower end is one above the word's least value); the nanoseconds carry into a second. -/
def addDuration (t : Instant) (d : Int) : Instant :=
  let whole := d.tdiv nanosPerSecond
  let n := (t.nanos : Int) + d.tmod nanosPerSecond
  let (whole, n) :=
    if n ≥ nanosPerSecond then (whole + 1, n - nanosPerSecond)
    else if n < 0 then (whole - 1, n + nanosPerSecond)
    else (whole, n)
  let sum := t.seconds + yearOneSeconds + whole
  let count :=
    if sum > maxClockSeconds then maxClockSeconds
    else if sum < -maxClockSeconds - 1 then -maxClockSeconds
    else sum
  ⟨count - yearOneSeconds, n.toNat, t.offset⟩

/-- The same clock time `n` calendar days later in the instant's offset. The clock's count of
seconds wraps around its signed 64-bit word. -/
def addDays (t : Instant) (n : Int) : Instant :=
  { t with seconds := wrapInt64 (t.seconds + yearOneSeconds + n * secondsPerDay) - yearOneSeconds }

def toUTC (t : Instant) : Instant := { t with offset := 0 }

def unixSeconds (t : Instant) : Int := t.seconds

def unixMillis (t : Instant) : Int :=
  wrapInt64 (wrapInt64 t.seconds * 1000 + (t.nanos / 1000000 : Nat))

def zero : Instant := ofCivil ⟨1, 1, 1, 0, 0, 0⟩ 0 0

def isZero (t : Instant) : Bool := t.sameMoment zero

end Instant

end TopUpPromo
