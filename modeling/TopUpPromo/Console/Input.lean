import TopUpPromo.Json.Basic
import TopUpPromo.Decimal.Text
import TopUpPromo.Time.Text
import TopUpPromo.Text.Integer

/-!
# Reading request fields

The console reads each request as a JSON object. A field that cannot be read rejects the whole
request with a message naming the field: it is required, it is not a decimal, it has the wrong
type, or it is not an RFC 3339 time. An absent field and a `null` field are told apart where
the request gives them different meanings.

## Main definitions

- `Console.Decode`: a reading that may reject the request with a message.
- `Console.decimalOf`, `Console.intOf`, `Console.timeOf`: readers of single values.
- `Console.optField`, `Console.reqField`: readers of object members.
-/

namespace TopUpPromo
namespace Console

/-- A reading that may reject the request, with the message saying why. -/
abbrev Decode := Except String

def badInput (message : String) : Json :=
  .obj [("error", .str "bad_input"), ("message", .str message)]

def defaultNow : Instant := Instant.ofCivil ⟨2026, 3, 1, 12, 0, 0⟩ 0 0

def decimalValue? : Json → Option Decimal
  | .str s raw => (Decimal.read? (raw.getD s)).toOption
  | .num n => (Decimal.read? n).toOption
  | _ => none

def intValue? (bits : Nat) : Json → Option Int
  | .num n => (Text.readInt n false bits).toOption
  | _ => none

def decimalOf (name : String) (j : Json) : Decode Decimal :=
  match decimalValue? j with
  | some d => .ok d
  | none => .error ("field " ++ name ++ " is not a decimal")

def intOf (name : String) (bits : Nat) (j : Json) : Decode Int :=
  match intValue? bits j with
  | some n => .ok n
  | none => .error ("field " ++ name ++ " has the wrong type")

def stringOf (name : String) : Json → Decode String
  | .str s _ => .ok s
  | _ => .error ("field " ++ name ++ " has the wrong type")

def boolOf (name : String) : Json → Decode Bool
  | .bool b => .ok b
  | _ => .error ("field " ++ name ++ " has the wrong type")

def timeOf (name : String) : Json → Decode Instant
  | .str s raw =>
    match Instant.readRFC3339 (raw.getD s) with
    | .ok t => .ok t
    | .error _ => .error ("field " ++ name ++ " is not an RFC 3339 time")
  | _ => .error ("field " ++ name ++ " is not an RFC 3339 time")

/-- The value of an optional member: absent and `null` both give none. -/
def optField {α : Type} (j : Json) (name : String) (read : String → Json → Decode α) :
    Decode (Option α) :=
  match j.field? name with
  | none => .ok none
  | some .null => .ok none
  | some v => (read name v).map some

/-- The value of a required member. -/
def reqField {α : Type} (j : Json) (name : String) (read : String → Json → Decode α) :
    Decode α :=
  match j.field? name with
  | none => .error ("field " ++ name ++ " is required")
  | some .null => .error ("field " ++ name ++ " is required")
  | some v => read name v

def fieldOr {α : Type} (j : Json) (name : String) (read : String → Json → Decode α)
    (default : α) : Decode α :=
  (optField j name read).map (·.getD default)

def boundedInt (j : Json) (name : String) (lo hi default : Int) : Decode Int := do
  let v ← fieldOr j name (fun n => intOf n 64) default
  if lo ≤ v ∧ v ≤ hi then pure v
  else .error (name ++ " must be within [" ++ toString lo ++ ", " ++ toString hi ++ "]")

end Console
end TopUpPromo
