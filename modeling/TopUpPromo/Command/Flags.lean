import TopUpPromo.Text.Integer
import TopUpPromo.Text.Quote
import TopUpPromo.Time.Text

/-!
# Command-line flags

The commands read their options as flags: `-name value`, `-name=value`, or the same with two
dashes; a boolean flag alone means true, and takes a value only after `=`. Reading stops at the
first argument that is no flag (a lone `-` included) and after `--`; the arguments left are
ignored by the commands.

A flag the command does not define is an error, except `-h` and `-help`, which ask for the
usage text. A value that does not read is an error too: integers in any base Go literals use
(`0x1F`, `0o17`, `017`, `0b101`, with `_` between digits), booleans as `1`, `t`, `true`, …,
spans as `1h30m`. An error prints one line (then the usage text) and ends the command with code
2; asking for the usage ends it with code 0.

## Main definitions

- `FlagKind`, `FlagValue`, `FlagSpec`, `Assignment`.
- `FlagOutcome`, `readFlags`.
-/

namespace TopUpPromo
namespace Command

/-- What a flag holds. -/
inductive FlagKind where
  | text
  | int
  | bool
  | span
  deriving DecidableEq, Repr

/-- A flag's value. -/
inductive FlagValue where
  | text (s : String)
  | int (n : Int)
  | bool (b : Bool)
  /-- A span of nanoseconds. -/
  | span (ns : Int)
  deriving DecidableEq, Repr

/-- A flag a command defines. -/
structure FlagSpec where
  name : String
  kind : FlagKind
  deriving Repr

/-- The flags set on a command line, a later setting winning. -/
abbrev Assignment := List (String × FlagValue)

/-- The outcome of reading a command line. -/
inductive FlagOutcome where
  /-- The flags were read; the arguments after them remain. -/
  | parsed (set : Assignment) (rest : List String)
  /-- The usage text was asked for. -/
  | help
  /-- A flag is wrong: the line that says how. -/
  | failed (line : String)
  deriving Repr

def valueFault : Text.NumberFault → String
  | .malformed => "parse error"
  | .range => "value out of range"

def readValue (kind : FlagKind) (s : String) : Except String FlagValue :=
  match kind with
  | .text => .ok (.text s)
  | .int => (Text.readInt s true 64).map FlagValue.int |>.mapError valueFault
  | .bool => (Text.readBool s).map FlagValue.bool |>.mapError valueFault
  | .span =>
    match readDuration s with
    | some n => .ok (.span n)
    | none => .error "parse error"

def readFlagsFrom (specs : List FlagSpec) : Nat → List String → Assignment → FlagOutcome
  | 0, args, set => .parsed set args
  | fuel + 1, args, set =>
    match args with
    | [] => .parsed set []
    | s :: rest =>
      let cs := s.toList
      if cs.length < 2 || cs.head? != some '-' then .parsed set args
      else if s == "--" then .parsed set rest
      else
        let dashes := if (cs.drop 1).head? == some '-' then 2 else 1
        let body := cs.drop dashes
        if body.isEmpty || body.head? == some '-' || body.head? == some '=' then
          .failed ("bad flag syntax: " ++ s)
        else
          let nameChars := body.takeWhile (· != '=')
          let name := String.ofList nameChars
          let given : Option String :=
            if nameChars.length < body.length then some (String.ofList (body.drop (nameChars.length + 1)))
            else none
          match specs.find? (·.name == name) with
          | none =>
            if name == "help" || name == "h" then .help
            else .failed ("flag provided but not defined: -" ++ name)
          | some spec =>
            if spec.kind == .bool then
              match readValue .bool (given.getD "true") with
              | .ok v => readFlagsFrom specs fuel rest (set ++ [(name, v)])
              | .error e =>
                .failed ("invalid boolean value " ++ Text.quote (given.getD "true") ++ " for -" ++
                  name ++ ": " ++ e)
            else
              let taken : Option (String × List String) := match given, rest with
                | some v, _ => some (v, rest)
                | none, v :: more => some (v, more)
                | none, [] => none
              match taken with
              | none => .failed ("flag needs an argument: -" ++ name)
              | some (v, more) =>
                match readValue spec.kind v with
                | .ok x => readFlagsFrom specs fuel more (set ++ [(name, x)])
                | .error e =>
                  .failed ("invalid value " ++ Text.quote v ++ " for flag -" ++ name ++ ": " ++ e)

/-- Reads the flags of a command line. -/
def readFlags (specs : List FlagSpec) (args : List String) : FlagOutcome :=
  readFlagsFrom specs (args.length + 1) args []

namespace Assignment

def get? (set : Assignment) (name : String) : Option FlagValue :=
  (set.reverse.find? (·.1 == name)).map (·.2)

def text (set : Assignment) (name default : String) : String :=
  match set.get? name with
  | some (.text s) => s
  | _ => default

def int (set : Assignment) (name : String) (default : Int) : Int :=
  match set.get? name with
  | some (.int n) => n
  | _ => default

def bool (set : Assignment) (name : String) (default : Bool) : Bool :=
  match set.get? name with
  | some (.bool b) => b
  | _ => default

def span (set : Assignment) (name : String) (default : Int) : Int :=
  match set.get? name with
  | some (.span n) => n
  | _ => default

end Assignment

end Command
end TopUpPromo
