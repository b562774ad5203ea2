import TopUpPromo.Console.Input
import TopUpPromo.Database.Script

/-!
# Database scripts on the console

A request that runs against a scripted database gives the script as a list of entries:
`{match?, columns?: [[name, type]], rows?: [[value | null, …]], rows_affected?, empty?,
error?: {code?, message}}`. A value is sent as text: a string as it is, `true` and `false` as
`t` and `f`, a number in its shortest form. An error without a code has the code `XX000`.

## Main definitions

- `Console.entryOf`, `Console.entriesOf`.
-/

namespace TopUpPromo
namespace Console

open Database

def columnOf : Json → Decode Column
  | .arr [.str name _, .str type _] =>
    match ColumnType.ofName? type with
    | some t => .ok ⟨name, t⟩
    | none => .error ("unknown column type " ++ type)
  | _ => .error "a column must be [name, type]"

def cellOf : Json → Decode (Option String)
  | .null => .ok none
  | .str s _ => .ok (some s)
  | .bool b => .ok (some (if b then "t" else "f"))
  | .num n =>
    match Text.readFloat n with
    | .ok f => .ok (some f.jsonText)
    | .error _ => .error ("bad number " ++ n)
  | _ => .error "a row value must be a string, number, boolean or null"

def listOf {α : Type} (read : Json → Decode α) (name : String) : Json → Decode (List α)
  | .arr items => items.mapM read
  | _ => .error ("field " ++ name ++ " has the wrong type")

/-- A script entry. -/
def entryOf (j : Json) : Decode Entry := do
  match j with
  | .obj _ => pure ()
  | _ => throw "a db entry must be an object"
  let error ← match j.field? "error" with
    | none => pure none
    | some .null => pure none
    | some e => do
      let code ← fieldOr e "code" stringOf "XX000"
      pure (some ⟨if code.isEmpty then "XX000" else code, ← fieldOr e "message" stringOf ""⟩)
  return {
    pattern := ← optField j "match" stringOf
    columns := ← fieldOr j "columns" (listOf columnOf) []
    rows := ← fieldOr j "rows" (listOf fun r => listOf cellOf "rows" r) []
    rowsAffected := ← optField j "rows_affected" (fun k => intOf k 64)
    empty := ← fieldOr j "empty" boolOf false
    error := error }

/-- The entries of a script member. -/
def entriesOf (name : String) : Json → Decode (List Entry) := listOf entryOf name

end Console
end TopUpPromo
