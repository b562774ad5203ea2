import TopUpPromo.Database.Timestamp
import TopUpPromo.Text.Float
import TopUpPromo.Text.Quote

/-!
# Column types and the values of a row

A database answers a query with typed columns and rows of texts, a missing text standing for
NULL. The client turns each text into a value by its column's type: integers (which the server
sends as binary words of the column's width), booleans (true when the text starts with `t`),
floats, instants, and texts. Numeric, binary and UUID columns reach the caller as raw bytes, and
so do the infinite timestamps `infinity` and `-infinity`.

A row is turned into values as a whole before any column is used, so the first column whose
text cannot be read fails the row.

## Main definitions

- `ColumnType`, `Column`.
- `Cell`: a value of a row as the client hands it on.
- `Cell.decode`, `decodeRow`.
-/

namespace TopUpPromo
namespace Database

/-- The column types of an answer. -/
inductive ColumnType where
  | bool
  | bytea
  | int2
  | int4
  | int8
  | text
  | float8
  | varchar
  | timestamp
  | timestamptz
  | numeric
  | uuid
  deriving DecidableEq, Repr

namespace ColumnType

def all : List ColumnType :=
  [.bool, .bytea, .int2, .int4, .int8, .text, .float8, .varchar, .timestamp, .timestamptz,
   .numeric, .uuid]

def name : ColumnType → String
  | .bool => "bool"
  | .bytea => "bytea"
  | .int2 => "int2"
  | .int4 => "int4"
  | .int8 => "int8"
  | .text => "text"
  | .float8 => "float8"
  | .varchar => "varchar"
  | .timestamp => "timestamp"
  | .timestamptz => "timestamptz"
  | .numeric => "numeric"
  | .uuid => "uuid"

def ofName? (s : String) : Option ColumnType := all.find? (·.name == s)

end ColumnType

/-- A column of an answer. -/
structure Column where
  name : String
  type : ColumnType
  deriving Repr

/-- A value of a row as the client hands it on. -/
inductive Cell where
  | null
  | bool (b : Bool)
  /-- A signed 64-bit integer. -/
  | int (n : Int)
  | float (f : Text.Binary64)
  | text (s : String)
  /-- Raw bytes, kept as the text they spell. -/
  | bytes (s : String)
  | time (t : Instant)
  deriving Repr

def wrapSigned (n : Int) (bits : Nat) : Int :=
  let m := n % (Nat.pow 2 bits : Nat)
  if m ≥ (Nat.pow 2 (bits - 1) : Nat) then m - (Nat.pow 2 bits : Nat) else m

def numberFailure (reader text : String) (fault : Text.NumberFault) : String :=
  "pq: strconv." ++ reader ++ ": parsing " ++ Text.quote text ++ ": " ++ fault.text

def integerCell (bits : Nat) (s : String) : Except String Cell :=
  match Text.readInt s false 64 with
  | .ok n => .ok (.int (wrapSigned n bits))
  | .error e => .error (numberFailure "ParseInt" s e)

/-- The value of a column's text, or why the text does not read as the column's type. -/
def Cell.decode : ColumnType → String → Except String Cell
  | .bool, s => .ok (.bool (s.toList.head? == some 't'))
  | .bytea, s => .ok (.bytes s)
  | .int2, s => integerCell 16 s
  | .int4, s => integerCell 32 s
  | .int8, s => integerCell 64 s
  | .text, s => .ok (.text s)
  | .varchar, s => .ok (.text s)
  | .float8, s =>
    match Text.readFloat s with
    | .ok f => .ok (.float f)
    | .error e => .error (numberFailure "ParseFloat" s e)
  | .timestamp, s => timeCell s
  | .timestamptz, s => timeCell s
  | .numeric, s => .ok (.bytes s)
  | .uuid, s => .ok (.bytes s.toLower)
where
  timeCell (s : String) : Except String Cell :=
    if s = "infinity" ∨ s = "-infinity" then .ok (.bytes s)
    else (readTimestamp s).map Cell.time

/-- The values of a row, one per column (NULL where the row is short), or the failure of its
first column that does not read. -/
def decodeRow (columns : List Column) (texts : List (Option String)) : Except String (List Cell) :=
  columns.zipIdx.mapM fun (c, i) =>
    match texts[i]?.join with
    | none => .ok .null
    | some s => Cell.decode c.type s

end Database
end TopUpPromo
