import TopUpPromo.Database.Script
import TopUpPromo.Database.Scan

/-!
# Talking to the database

The client's side of a connection: statements with or without parameters, statements that
touch rows and report how many, queries that give rows, the transaction statements, and the
check that the connection is alive. An error answer becomes a database failure with its
SQLSTATE code.

A transaction opens with `BEGIN READ WRITE`. Committing a transaction in which a statement
failed sends `ROLLBACK` instead of `COMMIT` and fails; a tag other than the expected one fails
as unexpected.

## Main definitions

- `Connection`: the state monad over a scripted database.
- `exec`, `query`, `beginTx`, `commitTx`, `rollbackTx`, `checkAlive`.
-/

namespace TopUpPromo
namespace Database

/-- A connection to a scripted database. -/
abbrev Connection := StateM Server

def ServerError.failure (e : ServerError) : Failure := .database e.code e.message

def send (text : String) (params : Option (List Param)) : Connection Reply :=
  modifyGet (·.receive ⟨text, params⟩)

/-- Runs a statement that gives no rows: the count of rows it touched, or none after an empty
statement, which tells no count. -/
def exec (text : String) (params : Option (List Param)) : Connection (Except Failure (Option Int)) := do
  match ← send text params with
  | .error e => return .error e.failure
  | .rows _ _ n => return .ok (some n)
  | .empty => return .ok none
  | .command _ => return .ok (some 0)

/-- Runs a query with parameters: its columns and rows. -/
def query (text : String) (params : List Param) : Connection (Except Failure Rows) := do
  match ← send text (some params) with
  | .error e => return .error e.failure
  | .rows cs rs _ => return .ok ⟨cs, rs⟩
  | _ => return .ok ⟨[], []⟩

def expectTag (expected : String) : Reply → Except Failure Unit
  | .error e => .error e.failure
  | .command t => if t == expected then .ok () else .error (.plain ("unexpected command tag " ++ t))
  | _ => .error (.plain "unexpected command tag ")

/-- Opens a transaction. -/
def beginTx : Connection (Except Failure Unit) := do
  return expectTag "BEGIN" (← send "BEGIN READ WRITE" none)

def failedTransaction : Failure := .plain "pq: Could not complete operation in a failed transaction"

/-- Commits the open transaction; one in which a statement failed is rolled back instead, and
the commit fails. -/
def commitTx : Connection (Except Failure Unit) := do
  if (← get).status == .failed then
    match ← send "ROLLBACK" none with
    | .error e => return .error e.failure
    | _ => return .error failedTransaction
  else
    return expectTag "COMMIT" (← send "COMMIT" none)

/-- Rolls the open transaction back. -/
def rollbackTx : Connection (Except Failure Unit) := do
  return expectTag "ROLLBACK" (← send "ROLLBACK" none)

/-- Checks that the connection is alive. -/
def checkAlive : Connection (Except Failure Unit) := do
  if ← modifyGet (·.check) then return .ok ()
  else return .error (.plain "driver: bad connection")

end Database
end TopUpPromo
