import TopUpPromo.Database.Value
import TopUpPromo.Decimal.Text
import TopUpPromo.Failure
import TopUpPromo.Time.Text

/-!
# Reading rows into records

A query's answer is read into records field by field: each column goes to the field of its
name, and each value is converted to the field's type. The conversions are those of the
client library:

- an integer field takes an integer of its width, or any text, float or boolean whose text is
  one in decimal;
- a text field takes any value, an instant written in RFC 3339;
- a field of a named text type takes only texts and bytes;
- an instant field takes only instants;
- a decimal field takes an integer, the shortest decimal of a float, or a decimal text,
  optionally in double quotes;
- a boolean field takes a boolean, a spelling of a boolean, or the integers 0 and 1;
- an optional field takes NULL as absent and otherwise converts as its type does.

Before any row is read, every column must name a field of the record. A query that should give
one row gives `noRows` when it gives none and ignores the rows after the first.

## Main definitions

- `Cell.toInt`, `Cell.toText`, `Cell.toNamed`, `Cell.toTime`, `Cell.toDecimal`, `Cell.toBool`.
- `Rows`, `RowShape`, `Rows.one`, `Rows.all`, `Rows.scalar`.
-/

namespace TopUpPromo
namespace Database

def Cell.typeName : Cell → String
  | .null => "<nil>"
  | .bool _ => "bool"
  | .int _ => "int64"
  | .float _ => "float64"
  | .text _ => "string"
  | .bytes _ => "[]uint8"
  | .time _ => "time.Time"

def zoneDigits (offset : Int) : String :=
  let a := offset.natAbs / 60
  (if offset < 0 then "-" else "+") ++ padNat (a / 60) 2 ++ padNat (a % 60) 2

def instantText (t : Instant) : String :=
  let z := zoneDigits t.offset
  t.clockText " " ++ " " ++ z ++ " " ++ (if t.offset = 0 then "UTC" else z)

def Cell.display : Cell → String
  | .null => "<nil>"
  | .bool b => if b then "true" else "false"
  | .int n => toString n
  | .float f => f.general
  | .text s => s
  | .bytes s => s
  | .time t => instantText t

def unsupported (c : Cell) (dest : String) : String :=
  "unsupported Scan, storing driver.Value type " ++ c.typeName ++ " into type " ++ dest

/-- The value as an integer field of the given kind and width takes it. -/
def Cell.toInt (kind : String) (bits : Nat) (c : Cell) : Except String Int :=
  match c with
  | .null => .error ("converting NULL to " ++ kind ++ " is unsupported")
  | .int n => if bits = 64 then .ok n else parse (toString n)
  | _ => parse c.display
where
  parse (s : String) : Except String Int :=
    match Text.readInt s false bits with
    | .ok n => .ok n
    | .error e =>
      .error ("converting driver.Value type " ++ c.typeName ++ " (" ++ Text.quote s ++ ") to a " ++
        kind ++ ": " ++ e.text)

/-- The value as a text field takes it. -/
def Cell.toText : Cell → Except String String
  | .null => .error "converting NULL to string is unsupported"
  | .time t => .ok t.rfc3339
  | c => .ok c.display

/-- The value as a field of the named text type `dest` takes it. -/
def Cell.toNamed (dest : String) : Cell → Except String String
  | .text s => .ok s
  | .bytes s => .ok s
  | .null => .error "converting NULL to string is unsupported"
  | c => .error (unsupported c dest)

/-- The value as an instant field takes it. -/
def Cell.toTime : Cell → Except String Instant
  | .time t => .ok t
  | c => .error (unsupported c "*time.Time")

def decimalOfFloat? : Text.Binary64 → Option Decimal
  | .finite neg m e =>
    if m = 0 then some 0
    else
      let (ds, point) := Text.Binary64.shortest m e
      let c : Nat := ds.foldl (fun a d => a * 10 + d) 0
      some ⟨if neg then -(c : Int) else c, point - ds.length⟩
  | _ => none

def unquoted (s : String) : String :=
  let cs := s.toList
  if cs.length > 2 ∧ cs.head? = some '"' ∧ cs.getLast? = some '"' then
    String.ofList ((cs.drop 1).dropLast)
  else s

/-- The value as a decimal field takes it. -/
def Cell.toDecimal (c : Cell) : Except String Decimal :=
  match c with
  | .float f =>
    match decimalOfFloat? f with
    | some d => .ok d
    | none => .error ("Cannot create a Decimal from " ++ f.general)
  | .int n => .ok (.ofInt n)
  | .text s => read s
  | .bytes s => read s
  | _ =>
    .error ("could not convert value '" ++ c.display ++ "' to byte array of type '" ++
      c.typeName ++ "'")
where
  read (s : String) : Except String Decimal :=
    match Decimal.read? (unquoted s) with
    | .ok d => .ok d
    | .error e => .error e.message

/-- The value as a boolean field takes it. -/
def Cell.toBool (c : Cell) : Except String Bool :=
  match c with
  | .bool b => .ok b
  | .text s => spelled s
  | .bytes s => spelled s
  | .int n =>
    if n = 1 then .ok true
    else if n = 0 then .ok false
    else .error ("sql/driver: couldn't convert " ++ toString n ++ " into type bool")
  | _ =>
    .error ("sql/driver: couldn't convert " ++ c.display ++ " (" ++ c.typeName ++ ") into type bool")
where
  spelled (s : String) : Except String Bool :=
    match Text.readBool s with
    | .ok b => .ok b
    | .error _ => .error ("sql/driver: couldn't convert " ++ Text.quote s ++ " into type bool")

def Cell.optional {α : Type} (f : Cell → Except String α) : Cell → Except String (Option α)
  | .null => .ok none
  | c => some <$> f c

/-- The columns and rows of an answer, each row a text or NULL per column. -/
structure Rows where
  columns : List Column
  rows : List (List (Option String))
  deriving Repr

/-- How rows fill records of type `α`: the record type's name, the empty record, and how a
named column sets its field (`none` for a column that no field takes). -/
structure RowShape (α : Type) where
  typeName : String
  empty : α
  set : α → String → Cell → Option (Except String α)

namespace RowShape

def takes {α : Type} (shape : RowShape α) (name : String) : Bool :=
  (shape.set shape.empty name .null).isSome

def stray? {α : Type} (shape : RowShape α) (columns : List Column) : Option String :=
  (columns.find? (!shape.takes ·.name)).map (·.name)

def scanFailure (index : Nat) (name : String) (e : String) : String :=
  "sql: Scan error on column index " ++ toString index ++ ", name " ++ Text.quote name ++ ": " ++ e

def fill {α : Type} (shape : RowShape α) (columns : List Column) (texts : List (Option String)) :
    Except String α := do
  let cells ← decodeRow columns texts
  (columns.zip cells).zipIdx.foldlM (fun acc ((col, cell), i) =>
    match shape.set acc col.name cell with
    | some (.ok a) => .ok a
    | some (.error e) => .error (scanFailure i col.name e)
    | none => .ok acc) shape.empty

end RowShape

namespace Rows

/-- The record of the first row, when the answer should have one. -/
def one {α : Type} (shape : RowShape α) (r : Rows) : Except Failure α :=
  match shape.stray? r.columns with
  | some name => .error (.plain ("missing destination name " ++ name ++ " in *" ++ shape.typeName))
  | none =>
    match r.rows with
    | [] => .error (.cause .noRows)
    | row :: _ => (shape.fill r.columns row).mapError .plain

/-- The records of all rows, or the failure of the first row that does not read. -/
def all {α : Type} (shape : RowShape α) (r : Rows) : Except Failure (List α) :=
  match shape.stray? r.columns with
  | some name =>
    .error (.plain ("missing destination name " ++ name ++ " in *[]*" ++ shape.typeName))
  | none => (r.rows.mapM (shape.fill r.columns)).mapError .plain

/-- The single value of the first row, read into a field of the named kind. -/
def scalar {α : Type} (kind : String) (convert : Cell → Except String α) (r : Rows) :
    Except Failure α :=
  if r.columns.length > 1 then
    .error (.plain ("scannable dest type " ++ kind ++ " with >1 columns (" ++
      toString r.columns.length ++ ") in result"))
  else
    match r.rows, r.columns with
    | [], _ => .error (.cause .noRows)
    | _ :: _, [] => .error (.plain "sql: expected 0 destination arguments in Scan, not 1")
    | row :: _, col :: _ =>
      match decodeRow r.columns row with
      | .error e => .error (.plain e)
      | .ok cells =>
        (convert (cells.head?.getD .null)).mapError (.plain ∘ RowShape.scanFailure 0 col.name)

end Rows

end Database
end TopUpPromo
