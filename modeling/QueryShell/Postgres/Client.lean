import QueryShell.Backend
import QueryShell.Postgres.Wire
import QueryShell.Sql.Kind

/-!
A session on a server. The result of a query is paged through a cursor, inside the transaction of
the user or inside one opened for it. The rows of every other statement are kept and handed out from
memory. What kind of statement a text is, a classifier says.
-/

namespace QueryShell.Postgres

inductive Pending where
  | idle
  | cursor (ownsTransaction : Bool)
  | kept (lines : List String)
deriving DecidableEq, Repr

structure Client (Store : Type) where
  store : Store
  pending : Pending := .idle
  inTransaction : Bool := false

namespace Client

variable {Store : Type}

def send (wire : Wire Store) (request : Request) (client : Client Store) :
    Reply × Client Store :=
  let (reply, store) := wire.send request client.store
  (reply, { client with store })

def order (wire : Wire Store) (request : Request) (client : Client Store) :
    Except Failure Unit × Client Store :=
  match client.send wire request with
  | (.ok _, client) => (.ok (), client)
  | (.error fault, client) => (.error fault.failure, client)

/-- Gives up what is pending: ends the transaction that was opened for the cursor, or closes the
cursor in a transaction of the user. -/
def clean (wire : Wire Store) (client : Client Store) : Except Failure Unit × Client Store :=
  let settled := { client with pending := .idle }
  match client.pending with
  | .cursor true => settled.order wire .closeTransaction
  | .cursor false => settled.order wire .closeCursor
  | .idle => (.ok (), settled)
  | .kept _ => (.ok (), settled)

/-- Declares the cursor on a query. It counts as open even if the server refuses it. -/
def declare (wire : Wire Store) (query : String) (ownsTransaction : Bool)
    (client : Client Store) : Except Failure Unit × Client Store :=
  { client with pending := .cursor ownsTransaction }.order wire (.openCursor query)

def openCursor (wire : Wire Store) (query : String) (client : Client Store) :
    Except Failure Unit × Client Store :=
  if client.inTransaction then client.declare wire query false
  else match client.order wire .openTransaction with
    | (.ok (), client) => client.declare wire query true
    | (.error failure, client) => (.error failure, client)

def inTransactionAfter (kind : Sql.Kind) (before : Bool) : Bool :=
  match kind with
  | .opening => true
  | .ending => false
  | .query => before
  | .other => before

def perform (wire : Wire Store) (kind : Sql.Kind) (statement : String) (client : Client Store) :
    Except Failure Unit × Client Store :=
  match client.send wire (.statement statement) with
  | (.error fault, client) => (.error fault.failure, client)
  | (.ok rows, client) =>
      (.ok (), { client with
        pending := .kept (rows.map Row.line)
        inTransaction := inTransactionAfter kind client.inTransaction })

def execute (wire : Wire Store) (statement : String) (client : Client Store)
    (classify : String → Sql.Kind := Sql.Kind.ofText) : Except Failure Unit × Client Store :=
  match client.clean wire with
  | (.error failure, client) => (.error failure, client)
  | (.ok (), client) =>
      match classify statement with
      | .query => client.openCursor wire statement
      | kind => client.perform wire kind statement

def fetch (wire : Wire Store) (count : Nat) (client : Client Store) :
    Except Failure (List String) × Client Store :=
  match client.pending with
  | .idle => (.ok [], client)
  | .kept lines => (.ok (lines.take count), { client with pending := .kept (lines.drop count) })
  | .cursor _ =>
      match client.send wire (.fetch count) with
      | (.ok rows, client) => (.ok (rows.map Row.line), client)
      | (.error fault, client) => (.error fault.failure, client)

def backlog (wire : Wire Store) (client : Client Store) : Nat :=
  match client.pending with
  | .idle => 0
  | .kept lines => lines.length
  | .cursor _ => wire.backlog client.store

theorem backlog_fetch (wire : Wire Store) {count : Nat} {client after : Client Store}
    {lines : List String} (fetched : client.fetch wire count = (.ok lines, after))
    (positive : 0 < count) (full : count ≤ lines.length) :
    after.backlog wire < client.backlog wire := by
  obtain ⟨store, pending, inTransaction⟩ := client
  cases pending with
  | idle =>
      obtain ⟨answer, _⟩ := Prod.mk.inj fetched
      obtain rfl := Except.ok.inj answer
      simp at full
      omega
  | kept held =>
      obtain ⟨answer, rfl⟩ := Prod.mk.inj fetched
      obtain rfl := Except.ok.inj answer
      simp only [backlog, List.length_drop]
      rw [List.length_take] at full
      omega
  | cursor owns =>
      simp only [fetch, send] at fetched
      split at fetched
      next rows client' sent =>
        obtain ⟨answer, rfl⟩ := Prod.mk.inj fetched
        obtain rfl := Except.ok.inj answer
        obtain ⟨reply, rfl⟩ := Prod.mk.inj sent
        rw [List.length_map] at full
        exact wire.backlog_send (Prod.ext reply rfl) positive full
      next => simp at fetched

def remote (wire : Wire Store) (classify : String → Sql.Kind := Sql.Kind.ofText) :
    Remote (Client Store) where
  execute statement client := client.execute wire statement classify
  fetch := fetch wire
  clean := clean wire
  backlog := backlog wire
  backlog_fetch := backlog_fetch wire

end Client

end QueryShell.Postgres
