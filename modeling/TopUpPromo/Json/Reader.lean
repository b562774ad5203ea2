import TopUpPromo.Json.Basic
import TopUpPromo.Text.Quote

/-!
# Reading JSON text

The reader takes one JSON value surrounded by optional blanks (space, tab, line feed, carriage
return) and fails at the first character that cannot continue the text, saying what it was
looking for there, or at an early end of the input. Strings decode their escapes; a `\u` escape
of a UTF-16 surrogate pair gives the character of the pair, and a surrogate without its partner
gives U+FFFD.

## Main definitions

- `Json.SyntaxError` and its `message`.
- `Json.parse`: the value of a text.
-/

namespace TopUpPromo
namespace Json

/-- What the reader was looking for when it met a character it cannot take. -/
inductive Expecting where
  | valueStart
  | keyStart
  | afterKey
  | afterMember
  | afterElement
  | stringBody
  | escape
  | unicodeEscape
  | number
  | afterTop
  /-- Inside the literal `word`, where `next` should have come. -/
  | literal (word : String) (next : Char)
  deriving DecidableEq, Repr

/-- Why a text is no JSON value. -/
inductive SyntaxError where
  | unexpectedEnd
  | invalid (c : Char) (place : Expecting)
  deriving DecidableEq, Repr

def Expecting.text : Expecting → String
  | .valueStart => "looking for beginning of value"
  | .keyStart => "looking for beginning of object key string"
  | .afterKey => "after object key"
  | .afterMember => "after object key:value pair"
  | .afterElement => "after array element"
  | .stringBody => "in string literal"
  | .escape => "in string escape code"
  | .unicodeEscape => "in \\u hexadecimal character escape"
  | .number => "in numeric literal"
  | .afterTop => "after top-level value"
  | .literal w n => "in literal " ++ w ++ " (expecting " ++ Text.quoteChar n ++ ")"

def shownChar (c : Char) : Char :=
  let n := c.toNat
  if n < 0x80 then c
  else if n < 0x800 then Char.ofNat (0xC0 + n / 64)
  else if n < 0x10000 then Char.ofNat (0xE0 + n / 4096)
  else Char.ofNat (0xF0 + n / 262144)

def SyntaxError.message : SyntaxError → String
  | .unexpectedEnd => "unexpected end of JSON input"
  | .invalid c e => "invalid character " ++ Text.quoteChar (shownChar c) ++ " " ++ e.text

def isBlank (c : Char) : Bool := c = ' ' ∨ c = '\t' ∨ c = '\n' ∨ c = '\r'

def hexValue (c : Char) : Option Nat :=
  if '0' ≤ c ∧ c ≤ '9' then some (c.toNat - '0'.toNat)
  else if 'a' ≤ c ∧ c ≤ 'f' then some (c.toNat - 'a'.toNat + 10)
  else if 'A' ≤ c ∧ c ≤ 'F' then some (c.toNat - 'A'.toNat + 10)
  else none

/-- A piece of a string body: a character as written, or the code of a `\u` escape. -/
inductive Piece where
  | char (c : Char)
  | unit (code : Nat)

def isHighSurrogate (n : Nat) : Bool := 0xD800 ≤ n ∧ n < 0xDC00

def isLowSurrogate (n : Nat) : Bool := 0xDC00 ≤ n ∧ n < 0xE000

def unitChar (n : Nat) : Char :=
  if isHighSurrogate n ∨ isLowSurrogate n then Char.ofNat 0xFFFD else Char.ofNat n

def Piece.decode : List Piece → List Char
  | [] => []
  | .char c :: r => c :: decode r
  | .unit hi :: rest@(.unit lo :: r) =>
    if isHighSurrogate hi ∧ isLowSurrogate lo then
      Char.ofNat (0x10000 + (hi - 0xD800) * 0x400 + (lo - 0xDC00)) :: decode r
    else unitChar hi :: decode rest
  | .unit n :: r => unitChar n :: decode r

def checkHex4 : Nat → List Char → Option SyntaxError
  | 0, _ => none
  | _ + 1, [] => some .unexpectedEnd
  | k + 1, c :: r => if (hexValue c).isSome then checkHex4 k r else some (.invalid c .unicodeEscape)

def hexNumber (cs : List Char) : Nat :=
  cs.foldl (fun acc c => acc * 16 + ((hexValue c).getD 0)) 0

def readPieces : List Char → List Piece → Except SyntaxError (List Piece × List Char)
  | [], _ => .error .unexpectedEnd
  | '"' :: r, acc => .ok (acc.reverse, r)
  | '\\' :: 'u' :: a :: b :: c :: d :: r, acc =>
    match checkHex4 4 [a, b, c, d] with
    | some e => .error e
    | none => readPieces r (.unit (hexNumber [a, b, c, d]) :: acc)
  | '\\' :: 'u' :: r, _ =>
    match checkHex4 4 r with
    | some e => .error e
    | none => .error .unexpectedEnd
  | '\\' :: e :: r, acc =>
    match e with
    | '"' => readPieces r (.char '"' :: acc)
    | '\\' => readPieces r (.char '\\' :: acc)
    | '/' => readPieces r (.char '/' :: acc)
    | 'b' => readPieces r (.char '\x08' :: acc)
    | 'f' => readPieces r (.char '\x0c' :: acc)
    | 'n' => readPieces r (.char '\n' :: acc)
    | 'r' => readPieces r (.char '\r' :: acc)
    | 't' => readPieces r (.char '\t' :: acc)
    | _ => .error (.invalid e .escape)
  | ['\\'], _ => .error .unexpectedEnd
  | c :: r, acc =>
    if c.toNat < 0x20 then .error (.invalid c .stringBody) else readPieces r (.char c :: acc)

def readString (cs : List Char) : Except SyntaxError (String × List Char) :=
  (readPieces cs []).map fun (ps, r) => (String.ofList (Piece.decode ps), r)

def stringValue (s : String) (written : List Char) : Json :=
  if written.contains '\\' then .str s (some (String.ofList written)) else .str s

def takeDigits (cs : List Char) : List Char × List Char :=
  (cs.takeWhile Char.isDigit, cs.dropWhile Char.isDigit)

def readSomeDigits (cs : List Char) : Except SyntaxError (List Char × List Char) :=
  match cs with
  | [] => .error .unexpectedEnd
  | c :: _ =>
    if c.isDigit then .ok (takeDigits cs) else .error (.invalid c .number)

def readNumberTail (cs : List Char) : Except SyntaxError (List Char × List Char) := do
  let (frac, r1) ← match cs with
    | '.' :: r => do
      let (ds, r') ← readSomeDigits r
      pure ('.' :: ds, r')
    | _ => pure ([], cs)
  let (ex, r2) ← match r1 with
    | e :: r =>
      if e = 'e' ∨ e = 'E' then do
        let (sign, r') := match r with
          | '+' :: r'' => (['+'], r'')
          | '-' :: r'' => (['-'], r'')
          | _ => ([], r)
        let (ds, r'') ← readSomeDigits r'
        pure (e :: sign ++ ds, r'')
      else pure ([], r1)
    | [] => pure ([], r1)
  pure (frac ++ ex, r2)

def readNumber (cs : List Char) : Except SyntaxError (String × List Char) := do
  let (sign, r) := match cs with
    | '-' :: r => (['-'], r)
    | _ => ([], cs)
  let (intPart, r1) ← match r with
    | [] => .error .unexpectedEnd
    | '0' :: r' => pure (['0'], r')
    | c :: _ => if c.isDigit then pure (takeDigits r) else .error (.invalid c .number)
  let (tail, r2) ← readNumberTail r1
  pure (String.ofList (sign ++ intPart ++ tail), r2)

def readWord (word : String) : List Char → List Char → Except SyntaxError (List Char)
  | [], r => .ok r
  | _ :: _, [] => .error .unexpectedEnd
  | w :: ws, c :: r => if c = w then readWord word ws r else .error (.invalid c (.literal word w))

mutual

def readValue : Nat → List Char → Except SyntaxError (Json × List Char)
  | 0, _ => .error .unexpectedEnd
  | fuel + 1, cs =>
    match cs.dropWhile isBlank with
    | [] => .error .unexpectedEnd
    | c :: r =>
      match c with
      | '{' =>
        match r.dropWhile isBlank with
        | '}' :: r' => .ok (.obj [], r')
        | '"' :: r' => readMembers fuel r' []
        | [] => .error .unexpectedEnd
        | d :: _ => .error (.invalid d .keyStart)
      | '[' =>
        match r.dropWhile isBlank with
        | ']' :: r' => .ok (.arr [], r')
        | _ => readElements fuel r []
      | '"' => (readString r).map fun (s, r') =>
        (stringValue s (r.take (r.length - r'.length - 1)), r')
      | 't' => (readWord "true" ['r', 'u', 'e'] r).map fun r' => (.bool true, r')
      | 'f' => (readWord "false" ['a', 'l', 's', 'e'] r).map fun r' => (.bool false, r')
      | 'n' => (readWord "null" ['u', 'l', 'l'] r).map fun r' => (.null, r')
      | _ =>
        if c = '-' ∨ c.isDigit then
          (readNumber (c :: r)).map fun (n, r') => (.num n, r')
        else .error (.invalid c .valueStart)

def readElements : Nat → List Char → List Json → Except SyntaxError (Json × List Char)
  | 0, _, _ => .error .unexpectedEnd
  | fuel + 1, cs, acc =>
    match readValue fuel cs with
    | .error e => .error e
    | .ok (v, r) =>
      match r.dropWhile isBlank with
      | ',' :: r' => readElements fuel r' (v :: acc)
      | ']' :: r' => .ok (.arr (v :: acc).reverse, r')
      | [] => .error .unexpectedEnd
      | d :: _ => .error (.invalid d .afterElement)

def readMembers : Nat → List Char → List (String × Json) → Except SyntaxError (Json × List Char)
  | 0, _, _ => .error .unexpectedEnd
  | fuel + 1, cs, acc =>
    match readString cs with
    | .error e => .error e
    | .ok (k, r) =>
      match r.dropWhile isBlank with
      | ':' :: r' =>
        match readValue fuel r' with
        | .error e => .error e
        | .ok (v, r'') =>
          match r''.dropWhile isBlank with
          | ',' :: r3 =>
            match r3.dropWhile isBlank with
            | '"' :: r4 => readMembers fuel r4 ((k, v) :: acc)
            | [] => .error .unexpectedEnd
            | d :: _ => .error (.invalid d .keyStart)
          | '}' :: r3 => .ok (.obj ((k, v) :: acc).reverse, r3)
          | [] => .error .unexpectedEnd
          | d :: _ => .error (.invalid d .afterMember)
      | [] => .error .unexpectedEnd
      | d :: _ => .error (.invalid d .afterKey)

end

/-- The value of a whole text: one value, then blanks only. -/
def parse (s : String) : Except SyntaxError Json :=
  let cs := s.toList
  match readValue (cs.length + 1) cs with
  | .error e => .error e
  | .ok (v, r) =>
    match r.dropWhile isBlank with
    | [] => .ok v
    | d :: _ => .error (.invalid d .afterTop)

end Json
end TopUpPromo
