import QueryShell.Number.Decimal
import QueryShell.Postgres.Dial
import QueryShell.Postgres.Login
import QueryShell.Text.Search

/-!
A server that answers from a script. It knows the requests that open and read a cursor, and answers
every other one by its exact text; a text without a script succeeds with no rows.
-/

namespace QueryShell.Scripted

open Postgres

inductive ServerAnswer where
  | rows (rows : List Row)
  | refused (sqlState message : String)
  | hangsUp
deriving DecidableEq, Repr

structure ServerScript where
  answer : ServerAnswer := .rows []
  afterRows : Option ServerAnswer := none
deriving DecidableEq, Repr

structure ServerState where
  scripts : List (String × ServerScript) := []
  received : List String := []
  isClosed : Bool := false
  rows : List Row := []
  afterRows : Option ServerAnswer := none
deriving DecidableEq, Repr

namespace ServerState

def closedFault : Fault := .lost "connection closed by the server"

def understand (text : String) : Request :=
  let opening := (Request.openCursor "").sql.toList
  let fetching := "FETCH FORWARD ".toList
  let chars := text.toList
  if opening.isPrefixOf chars then
    .openCursor (String.ofList (chars.drop opening.length))
  else if fetching.isPrefixOf chars then
    match Text.cutAt? " FROM ".toList (chars.drop fetching.length) with
    | some (count, _) =>
        match Decimal.natOfText? count with
        | some count => .fetch count
        | none => .statement text
    | none => .statement text
  else .statement text

def script (text : String) (state : ServerState) : ServerScript :=
  (state.scripts.lookup text).getD {}

def give (answer : ServerAnswer) (state : ServerState) : Reply × ServerState :=
  match answer with
  | .rows rows => (.ok rows, state)
  | .refused sqlState message => (.error (.refused sqlState message), state)
  | .hangsUp => (.error closedFault, { state with isClosed := true })

def openCursor (query : String) (state : ServerState) : Reply × ServerState :=
  let script := state.script query
  match script.answer with
  | .rows rows => (.ok [], { state with rows, afterRows := script.afterRows })
  | answer => state.give answer

def fetch (count : Nat) (state : ServerState) : Reply × ServerState :=
  match state.rows, state.afterRows with
  | [], some answer => { state with afterRows := none }.give answer
  | rows, _ => (.ok (rows.take count), { state with rows := rows.drop count })

def respond (request : Request) (state : ServerState) : Reply × ServerState :=
  match request with
  | .openCursor query => state.openCursor query
  | .fetch count => state.fetch count
  | .statement text =>
      match understand text with
      | .openCursor query => state.openCursor query
      | .fetch count => state.fetch count
      | _ => state.give (state.script text).answer
  | other => state.give (state.script other.sql).answer

def send (request : Request) (state : ServerState) : Reply × ServerState :=
  if state.isClosed then (.error closedFault, state)
  else { state with received := state.received ++ [request.sql] }.respond request

def backlog (state : ServerState) : Nat :=
  state.rows.length + (if state.afterRows.isSome then 1 else 0)

theorem backlog_fetch {count : Nat} {state after : ServerState} {rows : List Row}
    (fetched : state.fetch count = (.ok rows, after)) (positive : 0 < count)
    (full : count ≤ rows.length) : after.backlog < state.backlog := by
  obtain ⟨scripts, received, isClosed, held, afterRows⟩ := state
  simp only [fetch] at fetched
  split at fetched
  next answer =>
    cases answer <;> simp [give] at fetched
    obtain ⟨_, rfl⟩ := fetched
    simp [backlog]
  next =>
    obtain ⟨reply, rfl⟩ := Prod.mk.inj fetched
    obtain rfl := Except.ok.inj reply
    rw [List.length_take] at full
    simp only [backlog, List.length_drop]
    omega

theorem backlog_send {count : Nat} {state after : ServerState} {rows : List Row}
    (sent : state.send (.fetch count) = (.ok rows, after)) (positive : 0 < count)
    (full : count ≤ rows.length) : after.backlog < state.backlog := by
  simp only [send] at sent
  split at sent
  · simp at sent
  · have smaller : after.backlog < ServerState.backlog { state with received := _ } :=
      backlog_fetch sent positive full
    exact smaller

end ServerState

def wire : Wire ServerState where
  send := ServerState.send
  backlog := ServerState.backlog
  backlog_send := ServerState.backlog_send

inductive Listening where
  | answers (faults : List Fault)
  | unreachable (fault : Fault)
deriving DecidableEq, Repr

structure Network where
  host : String := ""
  port : Nat := Connection.defaultPort
  listening : Listening := .answers []
  server : ServerState := {}
  attempts : Nat := 0
  login : Option Login := none
  waited : Nat := 0
deriving DecidableEq, Repr

namespace Network

def refusedFault : Fault := .lost "Connection refused (os error 111)"

def missingFault : Fault := .lost "No such file or directory (os error 2)"

def dial (login : Login) (network : Network) : Except Fault ServerState × Network :=
  if login.host ≠ network.host then (.error refusedFault, network)
  else if login.port ≠ network.port then (.error missingFault, network)
  else
    let reached := { network with attempts := network.attempts + 1, login := some login }
    match network.listening with
    | .unreachable fault => (.error fault, network)
    | .answers [] => (.ok network.server, reached)
    | .answers (fault :: rest) => (.error fault, { reached with listening := .answers rest })

def dialer (login : Login) : Dialer Network ServerState where
  dial := dial login
  pause delay network := { network with waited := network.waited + delay }

end Network

end QueryShell.Scripted
