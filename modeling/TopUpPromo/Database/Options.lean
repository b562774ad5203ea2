import TopUpPromo.Text.Quote

/-!
# Connection strings

A connection string is a list of `key=value` pairs. Blanks separate the pairs and may stand
around `=`. A value is either a run of non-blank characters, in which a backslash takes the
next character as it is, or a text in single quotes, in which a backslash also takes the next
character. A key given twice keeps its last value; a key at the end of the text with nothing
after `=` gets the empty value.

The options start from the host `localhost` and the port `5432`. The client speaks UTF-8 and
the `ISO, MDY` date style only, and refuses a string that asks for others. A host that starts
with `/` names the directory of a local socket, whose name ends in the port; any other host is
reached over the network.

## Main definitions

- `readOptions`: the pairs of a connection string, or why it is malformed.
- `Options`, `Options.ofString`, `Endpoint`, `Options.endpoint`.
-/

namespace TopUpPromo
namespace Database

def isBlank (c : Char) : Bool := Text.isWhiteSpace c

def bareValue : List Char → Except String (List Char × List Char)
  | [] => .ok ([], [])
  | c :: rest =>
    if isBlank c then .ok ([], c :: rest)
    else if c = '\\' then
      match rest with
      | [] => .error "missing character after backslash"
      | d :: more => (bareValue more).map fun (v, r) => (d :: v, r)
    else (bareValue rest).map fun (v, r) => (c :: v, r)

def quotedValue : List Char → Except String (List Char × List Char)
  | [] => .error "unterminated quoted string literal in connection string"
  | c :: rest =>
    if c = '\'' then .ok ([], rest)
    else if c = '\\' then
      match rest with
      | [] => .error "unterminated quoted string literal in connection string"
      | d :: more => (quotedValue more).map fun (v, r) => (d :: v, r)
    else (quotedValue rest).map fun (v, r) => (c :: v, r)

def readPairs : Nat → List Char → Except String (List (String × String))
  | 0, _ => .ok []
  | fuel + 1, cs =>
    match cs.dropWhile isBlank with
    | [] => .ok []
    | start =>
      let key := start.takeWhile fun c => !isBlank c && c != '='
      let after := start.drop key.length
      let after := if after.head? == some '=' then after else after.dropWhile isBlank
      let keyText := String.ofList key
      match after with
      | '=' :: rest =>
        match rest.dropWhile isBlank with
        | [] => .ok [(keyText, "")]
        | v :: more => do
          let (value, remaining) ← if v = '\'' then quotedValue more else bareValue (v :: more)
          let pairs ← readPairs fuel remaining
          return (keyText, String.ofList value) :: pairs
      | _ =>
        .error ("missing \"=\" after " ++ Text.quote keyText ++ " in connection info string\"")

/-- The pairs of a connection string, in order, or why it is malformed. -/
def readOptions (s : String) : Except String (List (String × String)) :=
  readPairs (s.length + 1) s.toList

/-- Connection options, a later setting of a key winning. -/
structure Options where
  pairs : List (String × String)
  deriving Repr

namespace Options

def get? (o : Options) (k : String) : Option String :=
  (o.pairs.reverse.find? (·.1 == k)).map (·.2)

def namesUTF8 (s : String) : Bool :=
  let t := String.ofList ((s.toList.filter Char.isAlphanum).map Char.toLower)
  t == "utf8" || t == "unicode"

/-- The options of a connection string, over the defaults. -/
def ofString (s : String) : Except String Options := do
  let pairs ← readOptions s
  let o : Options := ⟨[("host", "localhost"), ("port", "5432")] ++ pairs⟩
  if let some enc := o.get? "client_encoding" then
    if !namesUTF8 enc then throw "client_encoding must be absent or 'UTF8'"
  if let some style := o.get? "datestyle" then
    if style != "ISO, MDY" then
      throw ("setting datestyle must be absent or ISO, MDY; got " ++ style)
  return o

end Options

/-- Where a connection goes: a local socket file, or a host and port on the network. -/
inductive Endpoint where
  | socket (path : String)
  | network (address : String)
  deriving DecidableEq, Repr

def cleanPath (p : String) : String :=
  let rooted := p.startsWith "/"
  let parts := (p.splitOn "/").foldl (fun (acc : List String) part =>
    if part.isEmpty || part == "." then acc
    else if part == ".." then
      match acc with
      | a :: rest => if a == ".." then part :: acc else rest
      | [] => if rooted then [] else [part]
    else part :: acc) []
  let body := "/".intercalate parts.reverse
  if rooted then "/" ++ body else if body.isEmpty then "." else body

def joinHostPort (host port : String) : String :=
  if host.contains ':' then "[" ++ host ++ "]:" ++ port else host ++ ":" ++ port

/-- Where the options point. -/
def Options.endpoint (o : Options) : Endpoint :=
  let host := (o.get? "host").getD "localhost"
  let port := (o.get? "port").getD "5432"
  if host.startsWith "/" then .socket (cleanPath (host ++ "/.s.PGSQL." ++ port))
  else .network (joinHostPort host port)

end Database
end TopUpPromo
