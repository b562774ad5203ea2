import TopUpPromo.Database.Value

/-!
# A database that answers from a script

A scripted database answers statements from a queue of prepared answers and logs every
statement it receives. Only the head of the queue is looked at. An entry with a pattern is
taken by the first statement whose text contains the pattern, and the statements before it get
the default answer; an entry without one is taken by the next statement that does not open or
end a transaction. A taken entry answers with its error, with an empty-statement answer, or
with its rows and a count of touched rows (given, or the number of rows). The default answer
has no rows and touches none.

Transactions behave as in the database itself: after an error inside a transaction every
statement but `COMMIT` and `ROLLBACK` fails with `25P02`, and a `COMMIT` then rolls back. The
empty statement `;` checks that the connection is alive: it takes an entry only if the entry's
pattern lies inside `;`, fails only if that entry has an error, and is logged only when it
fails.

## Main definitions

- `ServerError`, `Entry`, `Param`, `Statement`, `Reply`.
- `Server`, `Server.receive`, `Server.check`.
-/

namespace TopUpPromo
namespace Database

/-- An error the database answers: its SQLSTATE code and message. -/
structure ServerError where
  code : String
  message : String
  deriving Repr

/-- A prepared answer. -/
structure Entry where
  /-- The text that a statement must contain to take the entry. -/
  pattern : Option String
  columns : List Column
  rows : List (List (Option String))
  rowsAffected : Option Int
  /-- Answer as to an empty statement. -/
  empty : Bool
  error : Option ServerError
  deriving Repr

/-- A parameter value sent with a statement. -/
inductive Param where
  | null
  | text (s : String)
  | time (t : Instant)
  /-- The machine's clock at the moment of sending. -/
  | wallClock
  deriving Repr

/-- A statement as the database receives it: its text with every run of blanks made one blank,
and its parameters when it was sent with them. -/
structure Statement where
  text : String
  params : Option (List Param)
  deriving Repr

/-- What the database answers to a statement. -/
inductive Reply where
  | error (e : ServerError)
  /-- Rows, and the count of rows the statement touched. -/
  | rows (columns : List Column) (rows : List (List (Option String))) (touched : Int)
  /-- The answer to an empty statement, which tells no count. -/
  | empty
  /-- The answer to a statement that opens or ends a transaction, by its tag. -/
  | command (tag : String)
  deriving Repr

/-- Where a connection stands with respect to transactions. -/
inductive TxnStatus where
  | idle
  | open
  /-- Inside a transaction in which a statement failed. -/
  | failed
  deriving DecidableEq, Repr

/-- The kinds of statements that the script treats apart. -/
inductive StatementKind where
  | begin
  | commit
  | rollback
  | other
  deriving DecidableEq, Repr

def StatementKind.of (text : String) : StatementKind :=
  if text.startsWith "BEGIN" then .begin
  else if text.startsWith "COMMIT" then .commit
  else if text.startsWith "ROLLBACK" then .rollback
  else .other

def abortedError : ServerError :=
  ⟨"25P02", "current transaction is aborted, commands ignored until end of transaction block"⟩

/-- A scripted database: the entries still queued, the statements received, and the state of
the connection's transaction. -/
structure Server where
  queue : List Entry := []
  log : Array Statement := #[]
  status : TxnStatus := .idle
  deriving Repr

namespace Server

def occursIn (p : List Char) : List Char → Bool
  | [] => p.isEmpty
  | c :: cs => p.isPrefixOf (c :: cs) || occursIn p cs

def take? (s : Server) (text : String) (kind : StatementKind) : Option (Entry × List Entry) :=
  match s.queue with
  | e :: rest =>
    let takes : Bool := match e.pattern with
      | some p => occursIn p.toList text.toList
      | none => kind == .other
    if takes then some (e, rest) else none
  | [] => none

def control (status : TxnStatus) : StatementKind → Reply × TxnStatus
  | .begin => (.command "BEGIN", .open)
  | .commit => (.command (if status == .failed then "ROLLBACK" else "COMMIT"), .idle)
  | .rollback => (.command "ROLLBACK", .idle)
  | .other => (.rows [] [] 0, status)

def afterError (status : TxnStatus) : StatementKind → TxnStatus
  | .other => if status == .idle then .idle else .failed
  | _ => .idle

/-- Logs a statement and answers it. -/
def receive (st : Statement) (s : Server) : Reply × Server :=
  let s := { s with log := s.log.push st }
  let kind := StatementKind.of st.text
  if s.status == .failed && kind == .other then (.error abortedError, s)
  else
    match s.take? st.text kind with
    | none =>
      let (r, status) := control s.status kind
      (r, { s with status := status })
    | some (e, rest) =>
      let s := { s with queue := rest }
      match e.error with
      | some err => (.error err, { s with status := afterError s.status kind })
      | none =>
        if kind != .other then
          let (r, status) := control s.status kind
          (r, { s with status := status })
        else if e.empty then (.empty, s)
        else (.rows e.columns e.rows (e.rowsAffected.getD e.rows.length), s)

/-- Answers the empty statement that checks a connection: whether the check passed. -/
def check (s : Server) : Bool × Server :=
  match s.queue with
  | e :: rest =>
    match e.pattern with
    | some p =>
      if p.isEmpty || p == ";" then
        match e.error with
        | some _ => (false, { s with queue := rest, log := s.log.push ⟨";", none⟩ })
        | none => (true, { s with queue := rest })
      else (true, s)
    | none => (true, s)
  | [] => (true, s)

end Server

end Database
end TopUpPromo
