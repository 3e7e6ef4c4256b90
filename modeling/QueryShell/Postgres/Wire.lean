import QueryShell.Failure

/-!
The exchange with a server: a request is one SQL text, and its answer is the rows it gives, an error
of the server, or the loss of the connection.
-/

namespace QueryShell.Postgres

abbrev Row := List (Option String)

def Row.line (row : Row) : String := "\t".intercalate (row.map fun column => column.getD "NULL")

inductive Fault where
  | refused (sqlState message : String)
  | lost (reason : String)
deriving DecidableEq, Repr

/-- The response code of an error: the class of its SQL state, the first two characters, read as a
number with an optional sign. A class that is no number or is zero gives 1. -/
def sqlStateCode (sqlState : String) : Int :=
  match sqlState.toList with
  | first :: second :: _ =>
      if second.isDigit then
        let units : Int := second.toNat - 48
        let value : Int :=
          if first.isDigit then ((first.toNat - 48 : Nat) : Int) * 10 + units
          else if first = '+' then units
          else if first = '-' then -units
          else 0
        if value = 0 then 1 else value
      else 1
  | _ => 1

namespace Fault

def failure : Fault → Failure
  | refused sqlState message => .server (sqlStateCode sqlState) message
  | lost reason => .transport reason

def text : Fault → String
  | refused _ message => "error returned from database: " ++ message
  | lost reason => reason

end Fault

def cursorName : String := "qsh_cursor"

inductive Request where
  | statement (text : String)
  | openTransaction
  | openCursor (query : String)
  | fetch (count : Nat)
  | closeCursor
  | closeTransaction
deriving DecidableEq, Repr

namespace Request

def sql : Request → String
  | statement text => text
  | openTransaction => "BEGIN"
  | openCursor query => "DECLARE " ++ cursorName ++ " NO SCROLL CURSOR FOR " ++ query
  | fetch count => "FETCH FORWARD " ++ toString count ++ " FROM " ++ cursorName
  | closeCursor => "CLOSE " ++ cursorName
  | closeTransaction => "COMMIT"

end Request

abbrev Reply := Except Fault (List Row)

/-- A connection to a server. What a cursor gives is finite: full pages leave less to fetch. -/
structure Wire (Store : Type) where
  send : Request → Store → Reply × Store
  backlog : Store → Nat
  backlog_send : ∀ {count : Nat} {store after : Store} {rows : List Row},
    send (.fetch count) store = (.ok rows, after) → 0 < count → count ≤ rows.length →
      backlog after < backlog store

def Fault.absent : Fault := .lost "No network is available"

def Wire.absent : Wire Unit where
  send _ store := (.error .absent, store)
  backlog _ := 0
  backlog_send := by
    intro count store after rows sent
    simp at sent

end QueryShell.Postgres
