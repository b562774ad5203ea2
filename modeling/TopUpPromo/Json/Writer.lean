import TopUpPromo.Json.Basic
import TopUpPromo.Text.Quote
import TopUpPromo.Text.Float

/-!
# Writing JSON text

Values are written compactly: no blanks, members in their order, numbers by their literal.
Inside strings the quote and the backslash are escaped, the controls `\b \f \n \r \t` use their
letter escapes and other controls `\u00hh`; the characters `<`, `>` and `&` are written as
`\u003c`, `\u003e` and `\u0026`, and the line and paragraph separators U+2028 and U+2029 as
`\u2028` and `\u2029`, so that the text can stand inside a web page.

A reader of untyped values takes a number in as a double and an object as a map from names to
values, so writing such a value back changes it: every number is written as its double, an
object keeps the last value of each name and lists its members in the order of the names, and a
string is written with the escapes above. A number too large for a double cannot be taken in.

## Main definitions

- `Json.escape`: the body of a string literal.
- `Json.render`: the text of a value.
- `Json.throughUntyped`: a value as it is written back after an untyped reading.
-/

namespace TopUpPromo
namespace Json

def escapeChar (c : Char) : List Char :=
  match c with
  | '"' => ['\\', '"']
  | '\\' => ['\\', '\\']
  | '\x08' => ['\\', 'b']
  | '\x0c' => ['\\', 'f']
  | '\n' => ['\\', 'n']
  | '\r' => ['\\', 'r']
  | '\t' => ['\\', 't']
  | '<' => ['\\', 'u', '0', '0', '3', 'c']
  | '>' => ['\\', 'u', '0', '0', '3', 'e']
  | '&' => ['\\', 'u', '0', '0', '2', '6']
  | _ =>
    let n := c.toNat
    if n < 0x20 ∨ n = 0x2028 ∨ n = 0x2029 then ['\\', 'u'] ++ Text.hexDigits n 4 else [c]

/-- The string literal of a text, quotes included. -/
def escape (s : String) : String :=
  String.ofList ('"' :: s.toList.flatMap escapeChar ++ ['"'])

mutual

def render : Json → String
  | .null => "null"
  | .bool true => "true"
  | .bool false => "false"
  | .num n => n
  | .str s _ => escape s
  | .arr items => "[" ++ renderItems items ++ "]"
  | .obj ms => "\x7b" ++ renderMembers ms ++ "\x7d"

def renderItems : List Json → String
  | [] => ""
  | [j] => render j
  | j :: rest => render j ++ "," ++ renderItems rest

def renderMembers : List (String × Json) → String
  | [] => ""
  | [(k, v)] => escape k ++ ":" ++ render v
  | (k, v) :: rest => escape k ++ ":" ++ render v ++ "," ++ renderMembers rest

end

def writtenString (s : String) : Json :=
  let body := String.ofList (s.toList.flatMap escapeChar)
  if body == s then .str s else .str s (some body)

def byName (ms : List (String × Json)) : List (String × Json) :=
  let last := ms.foldl (fun acc m => acc.filter (·.1 != m.1) ++ [m]) []
  last.mergeSort fun a b => decide (a.1 ≤ b.1)

mutual

/-- The value written back after an untyped reading; none when a number is too large for a
double. -/
def throughUntyped : Json → Option Json
  | .num n =>
    match Text.readFloat n with
    | .ok v => some (.num v.jsonText)
    | .error _ => none
  | .str s _ => some (writtenString s)
  | .arr items => (throughUntypedItems items).map .arr
  | .obj ms => (throughUntypedMembers ms).map fun ms => .obj (byName ms)
  | j => some j

def throughUntypedItems : List Json → Option (List Json)
  | [] => some []
  | j :: rest => do return (← throughUntyped j) :: (← throughUntypedItems rest)

def throughUntypedMembers : List (String × Json) → Option (List (String × Json))
  | [] => some []
  | (k, v) :: rest => do return (k, ← throughUntyped v) :: (← throughUntypedMembers rest)

end

end Json
end TopUpPromo
