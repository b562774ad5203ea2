import TopUpPromo.Json.Basic
import TopUpPromo.Deployment.Site

/-!
# Masking answers

Some values in an answer differ from run to run: the port a loopback server listens on, how long
a request took, the id a request was given, the voucher codes drawn at random. The console
writes them as fixed placeholders, so that answers can be compared.

- The directory of the database's socket is `<pg-socket-dir>`.
- A loopback address `127.0.0.1:<digits>` keeps its host and has its port written `<port>`.
- The value of a `duration` member is `<duration>`, of a `request_id` member `<request-id>`.
- A string equal to a drawn voucher code is `<code>`; so is, within any text, a code of the
  standard prefix: `CAKE-` and eight capital letters or digits.

## Main definitions

- `maskPorts`, `maskRunValues`, `maskCodes`, `maskStandardCodes`.
-/

namespace TopUpPromo
namespace Console

def loopbackHost : List Char := "127.0.0.1:".toList

def maskPortsIn : Nat → List Char → List Char
  | 0, cs => cs
  | _ + 1, [] => []
  | fuel + 1, c :: cs =>
    if loopbackHost.isPrefixOf (c :: cs) then
      let rest := (c :: cs).drop loopbackHost.length
      let digits := rest.takeWhile Char.isDigit
      if digits.isEmpty then c :: maskPortsIn fuel cs
      else loopbackHost ++ "<port>".toList ++ maskPortsIn fuel (rest.drop digits.length)
    else c :: maskPortsIn fuel cs

/-- A text with the port of every loopback address written `<port>`. -/
def maskPorts (s : String) : String :=
  String.ofList (maskPortsIn (s.length + 1) s.toList)

def mapStrings (f : String → String) (fixed : List (String × String)) : Json → Json
  | .str s _ => .str (f s)
  | .arr items => .arr (mapItems items)
  | .obj ms => .obj (mapMembers ms)
  | j => j
where
  mapItems : List Json → List Json
    | [] => []
    | j :: rest => mapStrings f fixed j :: mapItems rest
  mapMembers : List (String × Json) → List (String × Json)
    | [] => []
    | (k, v) :: rest =>
      match fixed.lookup k with
      | some t => (k, .str t) :: mapMembers rest
      | none => (k, mapStrings f fixed v) :: mapMembers rest

/-- An answer with the values of one run masked: the socket directory, loopback ports,
durations and request ids. -/
def maskRunValues (j : Json) : Json :=
  mapStrings (fun s => maskPorts (s.replace Deployment.socketDir "<pg-socket-dir>"))
    [("duration", "<duration>"), ("request_id", "<request-id>")] j

/-- An answer with every string equal to one of the drawn codes written `<code>`. -/
def maskCodes (codes : List String) (j : Json) : Json :=
  mapStrings (fun s => if codes.contains s then "<code>" else s) [] j

def isCodeChar (c : Char) : Bool := ('A' ≤ c && c ≤ 'Z') || c.isDigit

def maskStandardCodesIn : Nat → List Char → List Char
  | 0, cs => cs
  | _ + 1, [] => []
  | fuel + 1, c :: cs =>
    let all := c :: cs
    let code := (all.drop 5).take 8
    if "CAKE-".toList.isPrefixOf all && code.length == 8 && code.all isCodeChar then
      "<code>".toList ++ maskStandardCodesIn fuel (all.drop 13)
    else c :: maskStandardCodesIn fuel cs

/-- An answer with every code of the standard prefix, within any string, written `<code>`. -/
def maskStandardCodes (j : Json) : Json :=
  mapStrings (fun s => String.ofList (maskStandardCodesIn (s.length + 1) s.toList)) [] j

end Console
end TopUpPromo
