/-!
# Reading integers and booleans from text

Integers are read as an optional sign followed by digits. A reader either takes decimal digits
only, or (`prefixed`) also accepts the prefixes `0b`, `0o`, `0x` and a bare leading `0` for
octal, with `_` allowed between digits. A value outside a signed word of the given width is a
range failure; the first character that is no digit of the base is a syntax failure, and an
overflow met before such a character wins.

## Main definitions

- `readInt`: the integer of a text, or why it is none.
- `readBool`: the spellings of true and false.
-/

namespace TopUpPromo
namespace Text

/-- Why a text is no number of the kind asked for. -/
inductive NumberFault where
  | malformed
  | range
  deriving DecidableEq, Repr

def NumberFault.text : NumberFault → String
  | .malformed => "invalid syntax"
  | .range => "value out of range"

def digitValue (c : Char) : Option Nat :=
  if '0' ≤ c ∧ c ≤ '9' then some (c.toNat - '0'.toNat)
  else if 'a' ≤ c ∧ c ≤ 'z' then some (c.toNat - 'a'.toNat + 10)
  else if 'A' ≤ c ∧ c ≤ 'Z' then some (c.toNat - 'A'.toNat + 10)
  else none

def readDigits (base max : Nat) (underscores : Bool) : List Char → Nat → Except NumberFault Nat
  | [], acc => .ok acc
  | c :: cs, acc =>
    if underscores ∧ c = '_' then readDigits base max underscores cs acc
    else match digitValue c with
      | some d =>
        if d < base then
          let acc' := acc * base + d
          if acc' > max then .error .range else readDigits base max underscores cs acc'
        else .error .malformed
      | none => .error .malformed

def underscoresPlaced (cs : List Char) : Bool :=
  let body := match cs with
    | '+' :: r => r
    | '-' :: r => r
    | r => r
  let (start, hex, rest) := match body with
    | '0' :: p :: r =>
      if p = 'b' ∨ p = 'B' ∨ p = 'o' ∨ p = 'O' then ('0', false, r)
      else if p = 'x' ∨ p = 'X' then ('0', true, r)
      else ('^', false, body)
    | _ => ('^', false, body)
  let isDigit (c : Char) : Bool :=
    ('0' ≤ c ∧ c ≤ '9') ∨ (hex ∧ (('a' ≤ c ∧ c ≤ 'f') ∨ ('A' ≤ c ∧ c ≤ 'F')))
  let last := rest.foldl (fun (saw : Option Char) c =>
    match saw with
    | none => none
    | some s =>
      if isDigit c then some '0'
      else if c = '_' then (if s = '0' then some '_' else none)
      else if s = '_' then none
      else some '!') (some start)
  match last with
  | some s => s ≠ '_'
  | none => false

def readNatural (cs : List Char) (prefixed : Bool) (max : Nat) : Except NumberFault Nat :=
  if cs.isEmpty then .error .malformed
  else
    let (base, digits) :=
      if prefixed then
        match cs with
        | '0' :: p :: r =>
          if r.isEmpty then (8, p :: r)
          else if p = 'b' ∨ p = 'B' then (2, r)
          else if p = 'o' ∨ p = 'O' then (8, r)
          else if p = 'x' ∨ p = 'X' then (16, r)
          else (8, p :: r)
        | '0' :: r => (8, r)
        | r => (10, r)
      else (10, cs)
    match readDigits base max prefixed digits 0 with
    | .error e => .error e
    | .ok n =>
      if prefixed ∧ cs.contains '_' ∧ !underscoresPlaced cs then .error .malformed else .ok n

/-- The integer of a text as a signed word of `bits` bits: an optional `+` or `-`, then digits
(see `readNatural`). -/
def readInt (s : String) (prefixed : Bool) (bits : Nat) : Except NumberFault Int :=
  let cs := s.toList
  if cs.isEmpty then .error .malformed
  else
    let (neg, body) := match cs with
      | '+' :: r => (false, r)
      | '-' :: r => (true, r)
      | r => (false, r)
    let half := Nat.pow 2 (bits - 1)
    match readNatural body prefixed (Nat.pow 2 bits - 1) with
    | .error e => .error e
    | .ok n =>
      if neg then (if n > half then .error .range else .ok (-(n : Int)))
      else if n ≥ half then .error .range else .ok n

/-- `1`, `t`, `T`, `TRUE`, `true`, `True` are true; `0`, `f`, `F`, `FALSE`, `false`, `False`
are false; every other text is a syntax failure. -/
def readBool (s : String) : Except NumberFault Bool :=
  if s ∈ ["1", "t", "T", "TRUE", "true", "True"] then .ok true
  else if s ∈ ["0", "f", "F", "FALSE", "false", "False"] then .ok false
  else .error .malformed

end Text
end TopUpPromo
