/-!
# JSON values

A JSON value as written: object members keep their order (and any repeated key), a number
keeps the literal that wrote it, so that readers of different numeric types can each decide
whether the literal suits them (`1.0` is a number but no integer literal), and a string written
with escapes keeps that written form beside its text (a decimal or a time is read from what is
written, so `"\u0031"` is no decimal).

## Main definitions

- `Json`: the value type.
- `Json.field?`: the last member of an object with a given key, as a decoder of objects reads
  it.
- `Json.ofInt`, `Json.ofStrings`, `Json.optional`: small builders used by the views.
-/

namespace TopUpPromo

/-- A JSON value. -/
inductive Json where
  | null
  | bool (b : Bool)
  /-- A number, by its literal text. -/
  | num (literal : String)
  /-- A string: its text, and the text as written between the quotes when that differs, that is
  when it was written with escapes (readers of some types take the written form). -/
  | str (s : String) (raw : Option String := none)
  | arr (items : List Json)
  /-- An object: its members in order. -/
  | obj (members : List (String × Json))
  deriving Repr, Inhabited

namespace Json

def ofInt (n : Int) : Json := .num (toString n)

def ofNat (n : Nat) : Json := .num (toString n)

def ofStrings (xs : List String) : Json := .arr (xs.map .str)

/-- `null` for an absent value. -/
def optional {α : Type} (f : α → Json) : Option α → Json
  | some a => f a
  | none => .null

/-- The value of the last member named `k`, when `j` is an object that has one. -/
def field? (j : Json) (k : String) : Option Json :=
  match j with
  | .obj ms => (ms.reverse.find? (·.1 == k)).map (·.2)
  | _ => none

def has (j : Json) (k : String) : Bool := (j.field? k).isSome

def members : Json → List (String × Json)
  | .obj ms => ms
  | _ => []

def str? : Json → Option String
  | .str s _ => some s
  | _ => none

def insert (j : Json) (k : String) (v : Json) : Json :=
  .obj ((j.members.filter (·.1 != k)) ++ [(k, v)])

def erase (j : Json) (k : String) : Json :=
  .obj (j.members.filter (·.1 != k))

end Json

end TopUpPromo
