import TopUpPromo.Text.Printable

/-!
# Quoted text

A quoted text stands between double quotes. The quote and the backslash are escaped, the seven
control characters with a letter escape (`\a \b \f \n \r \t \v`) use it, other ASCII controls
and DEL are written `\xhh`, printable characters stand as they are, and every other character is
written `\uhhhh` (or `\Uhhhhhhhh` above the basic plane), all in lower-case hex.

Which characters are printable is the Unicode table of `Text.isPrintable`.

## Main definitions

- `Text.quote`: the quoted form of a text.
-/

namespace TopUpPromo
namespace Text

def hexDigit (n : Nat) : Char :=
  if n < 10 then Char.ofNat ('0'.toNat + n) else Char.ofNat ('a'.toNat + n - 10)

def hexDigits (n width : Nat) : List Char :=
  (List.range width).reverse.map fun i => hexDigit (n / Nat.pow 16 i % 16)

def escapeChar (q : Char) (c : Char) : List Char :=
  if c = q ∨ c = '\\' then ['\\', c]
  else if isPrintable c then [c]
  else match c with
    | '\x07' => ['\\', 'a']
    | '\x08' => ['\\', 'b']
    | '\x0c' => ['\\', 'f']
    | '\n' => ['\\', 'n']
    | '\r' => ['\\', 'r']
    | '\t' => ['\\', 't']
    | '\x0b' => ['\\', 'v']
    | _ =>
      let n := c.toNat
      if n < 0x20 ∨ n = 0x7F then ['\\', 'x'] ++ hexDigits n 2
      else if n < 0x10000 then ['\\', 'u'] ++ hexDigits n 4
      else ['\\', 'U'] ++ hexDigits n 8

/-- The text between double quotes, escaped as the module says. -/
def quote (s : String) : String :=
  String.ofList ('"' :: (s.toList.flatMap (escapeChar '"')) ++ ['"'])

def quoteChar (c : Char) : String :=
  if c = '\'' then "'\\''"
  else if c = '"' then "'\"'"
  else String.ofList ('\'' :: escapeChar '"' c ++ ['\''])

end Text
end TopUpPromo
