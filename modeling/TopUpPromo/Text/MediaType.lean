import TopUpPromo.Text.Printable

/-!
# Media types

A media type such as `application/json; charset=utf-8` is a type and subtype followed by
parameters. Reading one follows the MIME rules:

- the type, up to the first `;`, is a token or two tokens joined by `/`, compared without case
  and with white space around it ignored; a token is a run of visible ASCII characters other
  than the separators;
- each parameter is `; name = value`, with white space allowed around the separators; the name
  is a token compared without case, and the value is a token or a quoted text in which a
  backslash keeps a following separator as it is;
- a final `;` is allowed, and a parameter given twice must have the same value both times.

Parameters whose names hold `*` belong to the extended syntax of continued and encoded values;
they are left out of what is read.

The canonical form of a media type writes its type in lower case, then each parameter as
`; name=value` in the order of the names. A value that is no token is quoted, and one with
characters outside printable ASCII is percent-encoded as UTF-8. A charset names an encoding
without regard to case, so its value is written in lower case. A text that is no media type is
its own canonical form: two texts then name the same type exactly when their canonical forms
agree.

## Main definitions

- `MediaType`, `MediaType.read?`, `MediaType.canonical`.
- `canonicalMediaType`: the canonical form of any text.
-/

namespace TopUpPromo
namespace Text

def isSeparator (c : Char) : Bool := "()<>@,;:\\\"/[]?=".contains c

def isTokenChar (c : Char) : Bool := 0x20 < c.toNat && c.toNat < 0x7F && !isSeparator c

def lowerForName (c : Char) : Char :=
  if c.toNat = 0x130 then 'i' else if c.toNat = 0x212A then 'k' else c.toLower

def token (cs : List Char) : List Char × List Char :=
  (cs.takeWhile isTokenChar, cs.dropWhile isTokenChar)

def dropWhiteSpace (cs : List Char) : List Char := cs.dropWhile isWhiteSpace

def trimWhiteSpace (cs : List Char) : List Char :=
  ((dropWhiteSpace cs).reverse.dropWhile isWhiteSpace).reverse

def quotedValue : List Char → List Char → Option (List Char × List Char)
  | [], _ => none
  | '"' :: rest, acc => some (acc.reverse, rest)
  | '\\' :: tail@(c :: rest), acc =>
    if isSeparator c then quotedValue rest (c :: acc) else quotedValue tail ('\\' :: acc)
  | c :: rest, acc =>
    if c = '\r' ∨ c = '\n' then none else quotedValue rest (c :: acc)

def paramValue (cs : List Char) : Option (List Char × List Char) :=
  match cs with
  | '"' :: rest => quotedValue rest []
  | _ =>
    let (v, rest) := token cs
    if v.isEmpty then none else some (v, rest)

def mediaParam (cs : List Char) : Option (String × String × List Char) := do
  let afterSemicolon ← match dropWhiteSpace cs with
    | ';' :: rest => some rest
    | _ => none
  let (name, rest) := token (dropWhiteSpace afterSemicolon)
  if name.isEmpty then none
  let afterEquals ← match dropWhiteSpace rest with
    | '=' :: rest => some rest
    | _ => none
  let (value, rest) ← paramValue (dropWhiteSpace afterEquals)
  return (String.ofList (name.map lowerForName), String.ofList value, rest)

def mediaParams : Nat → List Char → List (String × String) → Option (List (String × String))
  | 0, _, _ => none
  | fuel + 1, cs, acc =>
    match dropWhiteSpace cs with
    | [] => some acc
    | rest =>
      match mediaParam rest with
      | none => if trimWhiteSpace rest = [';'] then some acc else none
      | some (name, value, after) =>
        if name.contains '*' then mediaParams fuel after acc
        else match acc.lookup name with
          | some v => if v = value then mediaParams fuel after acc else none
          | none => mediaParams fuel after (acc ++ [(name, value)])

def isTypeText (cs : List Char) : Bool :=
  let (kind, rest) := token cs
  !kind.isEmpty &&
    match rest with
    | [] => true
    | '/' :: sub => let (s, after) := token sub; !s.isEmpty && after.isEmpty
    | _ => false

/-- A media type read from a text. -/
structure MediaType where
  /-- The type and subtype in lower case, such as `application/json`. -/
  essence : String
  /-- The parameters by name in lower case, each named once. -/
  params : List (String × String)
  deriving Repr, DecidableEq

namespace MediaType

/-- The media type a text reads as, if it is one. -/
def read? (s : String) : Option MediaType :=
  let cs := s.toList
  let base := cs.takeWhile (· ≠ ';')
  let essence := trimWhiteSpace (base.map lowerForName)
  if !isTypeText essence then none
  else (mediaParams (cs.length + 1) (cs.drop base.length) []).map
    fun ps => ⟨String.ofList essence, ps⟩

def valueText (v : String) : String :=
  let cs := v.toList
  if cs.any (fun c => (c.toNat < 0x20 || c.toNat > 0x7E) && c ≠ '\t') then
    let plain (b : Nat) : Bool :=
      b > 0x20 && b < 0x7F && b ≠ 0x2A && b ≠ 0x27 && b ≠ 0x25 && !isSeparator (Char.ofNat b)
    let hex (n : Nat) : Char := "0123456789ABCDEF".toList.getD n '0'
    "*=utf-8''" ++ String.ofList (v.toUTF8.toList.flatMap fun byte =>
      let b := byte.toNat
      if plain b then [Char.ofNat b] else ['%', hex (b / 16), hex (b % 16)])
  else if !cs.isEmpty && cs.all isTokenChar then "=" ++ v
  else
    "=\"" ++ String.ofList (cs.flatMap fun c => if c = '"' ∨ c = '\\' then ['\\', c] else [c])
      ++ "\""

/-- The canonical form: the type, then the parameters in the order of their names, with a
charset in lower case. -/
def canonical (m : MediaType) : String :=
  let params := m.params.map fun (k, v) =>
    (k, if k = "charset" then String.ofList (v.toList.map lowerForName) else v)
  let sorted := params.mergeSort (fun a b => decide (a.1 ≤ b.1))
  m.essence ++ String.join (sorted.map fun (k, v) => "; " ++ k ++ valueText v)

end MediaType

/-- The canonical form of a content type; a text that is no media type stays as it is. -/
def canonicalMediaType (s : String) : String :=
  match MediaType.read? s with
  | some m => m.canonical
  | none => s

end Text
end TopUpPromo
