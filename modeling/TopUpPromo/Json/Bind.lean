import TopUpPromo.Json.Basic
import TopUpPromo.Decimal.Text
import TopUpPromo.Time.Text

/-!
# Binding JSON objects to records

A record with named fields is read from a JSON object the way the services' wire format reads
it. A member binds to the field whose name it spells exactly, or else to the first field whose
name it spells up to case; members are taken in order, so a later member overrides an earlier
one, and members that bind to no field are ignored. A `null` leaves a field as it was, except
an optional field, which it clears. A value of the wrong kind makes the whole reading fail.
The whole value may also be `null`, which leaves every field as it was.

Case is compared after folding: two letters are the same up to case when simple case folding
takes one to the other. The fields' names are ASCII, so a member name matches one only through
ASCII letters and the two letters outside ASCII that fold to ASCII ones: the Kelvin sign to `k`
and the long s to `s`. The dotted capital I and the dotless small i fold to no ASCII letter (they
have only a full or a Turkic folding), so they match no `i`.

## Main definitions

- `foldKeyChar`, `sameFolded`: the case folding of member names.
- `Json.boundTo`: the values bound to one field.
- `Json.bindField`, `Json.bindOptional`: the value a field ends with.
- The field readers `intLiteral?`, `textValue?`, `decimalText?`, `timeText?`.
-/

namespace TopUpPromo

/-- The folded form of a character of a member name. -/
def foldKeyChar (c : Char) : Char :=
  if 'a' ≤ c ∧ c ≤ 'z' then Char.ofNat (c.toNat - 32)
  else if c.toNat = 0x212A then 'K'
  else if c.toNat = 0x17F then 'S'
  else c

/-- Two names are the same up to case. -/
def sameFolded (a b : String) : Bool := a.toList.map foldKeyChar == b.toList.map foldKeyChar

namespace Json

def bindingOf (fields : List String) (key : String) : Option String :=
  if fields.contains key then some key else fields.find? (sameFolded key)

/-- The values of the members of `j` that bind to `field`, in order. -/
def boundTo (j : Json) (fields : List String) (field : String) : List Json :=
  (j.members.filter (fun m => bindingOf fields m.1 == some field)).map (·.2)

/-- The value a field ends with: `init`, then each bound value in turn, a `null` keeping the
value. `none` when a bound value is of the wrong kind. -/
def bindField {α : Type} (j : Json) (fields : List String) (field : String) (init : α)
    (read : Json → Option α) : Option α :=
  (j.boundTo fields field).foldl
    (fun acc v => acc.bind fun a => match v with
      | .null => some a
      | _ => read v)
    (some init)

/-- The value an optional field ends with: absent at first, cleared by a `null`. -/
def bindOptional {α : Type} (j : Json) (fields : List String) (field : String)
    (read : Json → Option α) : Option (Option α) :=
  (j.boundTo fields field).foldl
    (fun acc v => acc.bind fun _ => match v with
      | .null => some none
      | _ => (read v).map some)
    (some none)

def isRecord : Json → Bool
  | .obj _ => true
  | .null => true
  | _ => false

end Json

/-- An integer field: a number literal without fraction or exponent that fits a signed word of
`bits` bits. -/
def intLiteral? (bits : Nat) : Json → Option Int
  | .num n => (Text.readInt n false bits).toOption
  | _ => none

/-- A text field. -/
def textValue? : Json → Option String
  | .str s _ => some s
  | _ => none

/-- A decimal field: the text of a string as written (escapes included), or the literal of any
other value, read as a decimal. -/
def decimalText? : Json → Option Decimal
  | .str s raw => (Decimal.read? (raw.getD s)).toOption
  | .num n => (Decimal.read? n).toOption
  | _ => none

/-- A time field: a string holding an RFC 3339 time as written (escapes included). -/
def timeText? : Json → Option Instant
  | .str s raw => (Instant.readRFC3339 (raw.getD s)).toOption
  | _ => none

end TopUpPromo
