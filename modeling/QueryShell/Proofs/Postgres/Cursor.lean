import QueryShell.Proofs.Postgres.Exchange
import QueryShell.Scripted.Server

/-!
The cursor protocol. Whatever a server answers, a session sends one block of requests for each
statement and has nothing pending between them. The rows of a cursor are fetched in as many pages
as they need and printed in order.
-/

namespace QueryShell.Postgres

variable {World Store : Type} {wire : Wire Store} {classify : String → Sql.Kind}

inductive Wire.Holds (wire : Wire Store) : Store → List Row → Prop
  | fetch {server after : Store} {rows : List Row}
      (sent : wire.send (.fetch Remote.pageSize) server = (.ok (rows.take Remote.pageSize), after))
      (rest : Remote.pageSize ≤ rows.length → Holds wire after (rows.drop Remote.pageSize)) :
      Holds wire server rows

inductive Wire.Delivers (wire : Wire Store) (query : String) (rows : List Row) :
    Bool → Store → Prop
  | owned {server middle last : Store} {opening declaring : List Row}
      (opened : wire.send .openTransaction server = (.ok opening, middle))
      (declared : wire.send (.openCursor query) middle = (.ok declaring, last))
      (holds : wire.Holds last rows) : Delivers wire query rows false server
  | borrowed {server last : Store} {declaring : List Row}
      (declared : wire.send (.openCursor query) server = (.ok declaring, last))
      (holds : wire.Holds last rows) : Delivers wire query rows true server

def Recorded.requests (record : Recorded Store) : List Request :=
  record.exchanges.map fun exchange => exchange.request

theorem Recorded.requests_after (request : Request) (record : Recorded Store) :
    (record.after wire request).requests = record.requests ++ [request] := by
  simp [requests, after, Wire.exchange]

def cursorRequests (inTransaction : Bool) (query : String) (fetches : Nat) : List Request :=
  (if inTransaction then [] else [.openTransaction]) ++
    (.openCursor query :: List.replicate fetches (.fetch Remote.pageSize)) ++
    [if inTransaction then .closeCursor else .closeTransaction]

section Sql

abbrev Sent := String × Reply

def Exchange.sent (exchange : Exchange Store) : Sent := (exchange.request.sql, exchange.reply)

def declareSql (query : String) : String := "DECLARE qsh_cursor NO SCROLL CURSOR FOR " ++ query

def fetchSql : String := "FETCH FORWARD 40 FROM qsh_cursor"

theorem sql_openCursor (query : String) : (Request.openCursor query).sql = declareSql query := rfl

theorem sql_fetch : (Request.fetch Remote.pageSize).sql = fetchSql := rfl

theorem sql_closeCursor : Request.closeCursor.sql = "CLOSE qsh_cursor" := rfl

inductive FetchesSql : List Sent → Prop
  | last (reply : Reply) : FetchesSql [(fetchSql, reply)]
  | more {rows : List Row} {rest : List Sent} (full : 40 ≤ rows.length)
      (later : FetchesSql rest) : FetchesSql ((fetchSql, .ok rows) :: rest)

inductive CursorSql (query : String) : List Sent → Prop
  | refused (fault : Fault) : CursorSql query [(declareSql query, .error fault)]
  | opened (rows : List Row) {fetches : List Sent} (fetched : FetchesSql fetches) :
      CursorSql query ((declareSql query, .ok rows) :: fetches)

/-- The SQL that is sent for one statement, without a transaction of the user or inside one: the
statement itself if it is no query; else BEGIN alone if that fails, or BEGIN, the cursor and one
COMMIT; inside a transaction of the user the cursor and one CLOSE. Of the cursor there is DECLARE
alone if that fails, or DECLARE and FETCH, again after every full page. -/
inductive BlockSql (classify : String → Sql.Kind) (statement : String) :
    Bool → List Sent → Prop
  | direct (inTransaction : Bool) (reply : Reply) (other : classify statement ≠ .query) :
      BlockSql classify statement inTransaction [(statement, reply)]
  | unopened (fault : Fault) (asks : classify statement = .query) :
      BlockSql classify statement false [("BEGIN", .error fault)]
  | owned {cursor : List Sent} (rows : List Row) (reply : Reply)
      (asks : classify statement = .query) (used : CursorSql statement cursor) :
      BlockSql classify statement false (("BEGIN", .ok rows) :: (cursor ++ [("COMMIT", reply)]))
  | borrowed {cursor : List Sent} (reply : Reply) (asks : classify statement = .query)
      (used : CursorSql statement cursor) :
      BlockSql classify statement true (cursor ++ [("CLOSE qsh_cursor", reply)])

theorem Fetches.sql {fetches : List (Exchange Store)} (fetched : Fetches fetches) :
    FetchesSql (fetches.map Exchange.sent) := by
  induction fetched with
  | last reply server =>
      rw [List.map_singleton, Exchange.sent, sql_fetch]
      exact .last reply
  | more server full later ih =>
      rw [List.map_cons, Exchange.sent, sql_fetch]
      exact .more full ih

theorem CursorUse.sql {query : String} {use : List (Exchange Store)} (used : CursorUse query use) :
    CursorSql query (use.map Exchange.sent) := by
  cases used with
  | refused fault server =>
      rw [List.map_singleton, Exchange.sent, sql_openCursor]
      exact .refused fault
  | opened rows server fetched =>
      rw [List.map_cons, Exchange.sent, sql_openCursor]
      exact .opened rows fetched.sql

theorem Block.sql {classify : String → Sql.Kind} {statement : String} {inTransaction : Bool}
    {block : List (Exchange Store)} (protocol : Block classify statement inTransaction block) :
    BlockSql classify statement inTransaction (block.map Exchange.sent) := by
  cases protocol with
  | direct _ reply server other => exact .direct inTransaction reply other
  | unopened fault server asks => exact .unopened fault asks
  | owned rows reply server last asks used =>
      rw [List.map_cons, List.map_append]
      exact .owned rows reply asks used.sql
  | borrowed reply last asks used =>
      rw [List.map_append, List.map_singleton, Exchange.sent, sql_closeCursor]
      exact .borrowed reply asks used.sql

def cursorSql (inTransaction : Bool) (query : String) (fetches : Nat) : List String :=
  (if inTransaction then [] else ["BEGIN"]) ++
    (declareSql query :: List.replicate fetches fetchSql) ++
    [if inTransaction then "CLOSE qsh_cursor" else "COMMIT"]

theorem sql_cursorRequests (inTransaction : Bool) (query : String) (fetches : Nat) :
    (cursorRequests inTransaction query fetches).map Request.sql =
      cursorSql inTransaction query fetches := by
  rw [cursorRequests, cursorSql, List.map_append, List.map_append, List.map_cons,
    List.map_replicate, sql_openCursor, sql_fetch]
  cases inTransaction with
  | true => rw [if_pos rfl, if_pos rfl, List.map_singleton, sql_closeCursor]; rfl
  | false => rfl

end Sql

/-- A scripted server holds the rows of its cursor, unless an answer is scripted for the fetch after
them. -/
theorem holds_rows (state : Scripted.ServerState) (connected : state.isClosed = false)
    (quiet : state.afterRows = none) : Scripted.wire.Holds state state.rows := by
  generalize size : state.rows.length = bound
  induction bound using Nat.strongRecOn generalizing state with
  | ind bound ih =>
      have sent : Scripted.wire.send (.fetch Remote.pageSize) state =
          (.ok (state.rows.take Remote.pageSize), { state with
            received := state.received ++ [(Request.fetch Remote.pageSize).sql]
            rows := state.rows.drop Remote.pageSize }) := by
        obtain ⟨scripts, received, isClosed, rows, afterRows⟩ := state
        obtain rfl := connected
        obtain rfl := quiet
        cases rows with
        | nil => rfl
        | cons row rest => rfl
      refine .fetch sent ?_
      intro full
      refine ih (state.rows.drop Remote.pageSize).length ?_ _ connected quiet rfl
      have positive : 0 < Remote.pageSize := by decide
      rw [List.length_drop]
      omega

namespace Client

variable {client : Client (Recorded Store)} {owns : Bool} {session : Session} {rows : List Row}

theorem requests_of_pages {last : Client (Recorded Store)} {pages : List (List String)}
    {result : Except Failure Unit} (cursor : client.pending = .cursor owns)
    (paged : Remote.Pages (remote wire.recorded classify) client pages result last)
    (succeeded : result = .ok ()) :
    last = { client with store := last.store } ∧
      last.store.requests =
        client.store.requests ++ List.replicate pages.length (.fetch Remote.pageSize) := by
  induction paged with
  | failed => cases succeeded
  | short fetched _ =>
      have read := after_fetch cursor fetched
      rw [read]
      exact ⟨rfl, Recorded.requests_after _ _⟩
  | full fetched _ _ ih =>
      have read := after_fetch cursor fetched
      obtain ⟨kept, requests⟩ := ih (by rw [read, cursor]) succeeded
      rw [read] at kept requests
      refine ⟨kept, ?_⟩
      rw [requests, Recorded.requests_after, List.append_assoc, List.length_cons,
        List.replicate_succ, List.singleton_append]

theorem printPages_held (takes : session.out.Open) (cursor : client.pending = .cursor owns)
    (holds : wire.Holds client.store.server rows) :
    ∃ last, Remote.printPages (remote wire.recorded classify) session client =
        (.ok (), session.withOutput (rows.map Row.line), { client with store := last }) ∧
      last.requests = client.store.requests ++
        List.replicate (rows.length / Remote.pageSize + 1) (.fetch Remote.pageSize) := by
  let Held (lines : List String) (held : Client (Recorded Store)) : Prop :=
    ∃ rows, lines = rows.map Row.line ∧ held.pending = .cursor owns ∧
      wire.Holds held.store.server rows
  have hands : ∀ lines held, Held lines held → ∃ after,
      (remote wire.recorded classify).fetch Remote.pageSize held =
        (.ok (lines.take Remote.pageSize), after) ∧
      (Remote.pageSize ≤ lines.length → Held (lines.drop Remote.pageSize) after) := by
    rintro lines held ⟨rows, rfl, pending, holds⟩
    obtain ⟨sent, rest⟩ := holds
    have fetched := fetch_of_ok pending (congrArg Prod.fst sent)
    rw [List.map_take] at fetched
    refine ⟨_, fetched, ?_⟩
    intro full
    rw [List.length_map] at full
    refine ⟨rows.drop Remote.pageSize, List.map_drop.symm, pending, ?_⟩
    simpa only [Recorded.after, sent] using rest full
  obtain ⟨pages, last, paged, joined, number⟩ :=
    Remote.exists_pages hands ⟨rows, rfl, cursor, holds⟩
  obtain ⟨kept, requests⟩ := requests_of_pages cursor paged rfl
  have printed := paged.printPages takes
  rw [joined, kept] at printed
  rw [number, List.length_map] at requests
  exact ⟨last.store, printed, requests⟩

/-- Rows that are kept in memory are printed as those of a cursor are. -/
theorem printPages_kept (wire : Wire Store) (takes : session.out.Open) (client : Client Store)
    (lines : List String) :
    (Remote.printPages (remote wire classify) session { client with pending := .kept lines }).2.1 =
      session.withOutput lines := by
  let Held (lines : List String) (held : Client Store) : Prop :=
    held = { client with pending := .kept lines }
  have hands : ∀ lines held, Held lines held → ∃ after,
      (remote wire classify).fetch Remote.pageSize held = (.ok (lines.take Remote.pageSize), after) ∧
      (Remote.pageSize ≤ lines.length → Held (lines.drop Remote.pageSize) after) := by
    rintro lines held rfl
    exact ⟨_, rfl, fun _ => rfl⟩
  obtain ⟨pages, last, paged, joined, -⟩ :=
    Remote.exists_pages hands (show Held lines { client with pending := .kept lines } from rfl)
  rw [paged.printPages takes, joined]

theorem readCursor_delivered (owns : Bool) (client : Client (Recorded Store)) {query : String}
    {declaring : List Row} {server : Store}
    (takes : session.out.Open)
    (declared : wire.send (.openCursor query) client.store.server = (.ok declaring, server))
    (holds : wire.Holds server rows) :
    ∃ last, client.readCursor wire.recorded classify query owns session =
        (.ok (), session.withOutput (rows.map Row.line), ⟨last, .cursor owns, client.inTransaction⟩) ∧
      last.requests = client.store.requests ++ .openCursor query ::
        List.replicate (rows.length / Remote.pageSize + 1) (.fetch Remote.pageSize) := by
  let opened : Client (Recorded Store) :=
    ⟨client.store.after wire (.openCursor query), .cursor owns, client.inTransaction⟩
  have server_after : opened.store.server = server := congrArg Prod.snd declared
  have given : { client with pending := .cursor owns }.order wire.recorded (.openCursor query) =
      (.ok (), opened) := order_of_ok (congrArg Prod.fst declared)
  rw [← server_after] at holds
  have cursor : opened.pending = .cursor owns := rfl
  obtain ⟨last, printed, requests⟩ := printPages_held takes cursor holds
  refine ⟨last, ?_, ?_⟩
  · simp only [readCursor, declare]
    rw [given]
    exact printed
  · rw [requests, Recorded.requests_after, List.append_assoc, List.singleton_append]

theorem run_delivered {query : String} (takes : session.out.Open)
    (rested : client.pending = .idle) (asks : classify query = .query)
    (delivers : wire.Delivers query rows client.inTransaction client.store.server) :
    ∃ last, Remote.run (remote wire.recorded classify) query session client =
        (.ok (), session.withOutput (rows.map Row.line),
          ⟨last, .cursor (!client.inTransaction), client.inTransaction⟩) ∧
      last.requests ++ [if client.inTransaction then .closeCursor else .closeTransaction] =
        client.store.requests ++
          cursorRequests client.inTransaction query (rows.length / Remote.pageSize + 1) := by
  rw [run_query wire.recorded rested asks]
  cases inside : client.inTransaction with
  | true =>
      rw [inside] at delivers
      cases delivers with
      | borrowed declared holds =>
          obtain ⟨last, read, requests⟩ :=
            readCursor_delivered false client takes declared holds
          rw [inside] at read
          refine ⟨last, read, ?_⟩
          simp [requests, cursorRequests]
  | false =>
      rw [inside] at delivers
      cases delivers with
      | @owned _ middle _ _ _ opened declared holds =>
          let opening : Client (Recorded Store) :=
            { client with store := client.store.after wire .openTransaction }
          have server_after : opening.store.server = middle := congrArg Prod.snd opened
          rw [← server_after] at declared
          obtain ⟨last, read, requests⟩ :=
            readCursor_delivered true opening takes declared holds
          rw [order_of_ok (congrArg Prod.fst opened)]
          refine ⟨last, ?_, ?_⟩
          · rw [show opening.inTransaction = false from inside] at read
            exact read
          · rw [requests, Recorded.requests_after]
            simp [cursorRequests]

end Client

open Client

/-- One statement on a session that keeps a record. The SQL of its exchanges is a block, and nothing
is pending afterwards. If the server delivers rows and the sink is open, they are fetched page by
page and printed as if they had been kept in memory. -/
structure Turn (wire : Wire Store) (classify : String → Sql.Kind) (statement : String)
    (before after : Shell World (Client (Recorded Store))) (block : List (Exchange Store)) :
    Prop where
  ran : after = (Remote.executeOn (remote wire.recorded classify) statement before).2
  recorded : before.store.store.Grew wire after.store.store block
  protocol : BlockSql classify statement before.store.inTransaction (block.map Exchange.sent)
  rested : after.store.pending = .idle
  delivered : ∀ rows, classify statement = .query → before.session.out.Open →
    wire.Delivers statement rows before.store.inTransaction before.store.store.server →
      (block.map fun exchange => exchange.request.sql) =
          cursorSql before.store.inTransaction statement (rows.length / 40 + 1) ∧
        after.session.out = before.session.out.extend (Sink.bytesOf (rows.map Row.line)) ∧
        after.session.out = (Remote.printPages (remote wire.recorded classify) before.session
          { before.store with pending := .kept (rows.map Row.line) }).2.1.out

inductive Turns (wire : Wire Store) (classify : String → Sql.Kind) :
    Shell World (Client (Recorded Store)) → List String → List (List (Exchange Store)) →
      Shell World (Client (Recorded Store)) → Prop
  | nil (shell) : Turns wire classify shell [] [] shell
  | cons {before middle after statement rest block blocks}
      (turn : Turn wire classify statement before middle block)
      (later : Turns wire classify middle rest blocks after) :
      Turns wire classify before (statement :: rest) (block :: blocks) after

theorem exists_turn (wire : Wire Store) (classify : String → Sql.Kind) (statement : String)
    (before : Shell World (Client (Recorded Store))) (rested : before.store.pending = .idle) :
    ∃ block, Turn wire classify statement before
      (Remote.executeOn (remote wire.recorded classify) statement before).2 block := by
  obtain ⟨block, last, protocol, grew, result⟩ := executeOn_block wire statement before rested
  refine ⟨block, rfl, by rw [result]; exact grew, protocol.sql, by rw [result], ?_⟩
  intro rows asks takes delivers
  obtain ⟨read, ran, requests⟩ := run_delivered takes rested asks delivers
  have printed : (Remote.executeOn (remote wire.recorded classify) statement before).2.session.out =
      before.session.out.extend (Sink.bytesOf (rows.map Row.line)) := by
    rw [Remote.executeOn_out, ran]
    rfl
  refine ⟨?_, printed, ?_⟩
  · have cleaned := Remote.executeOn_store (remote wire.recorded classify) statement before
    rw [result, ran] at cleaned
    have closed := cleaned.trans (clean_cursor wire read _ _)
    have sent : last.requests = before.store.store.requests ++
        cursorRequests before.store.inTransaction statement
          (rows.length / Remote.pageSize + 1) := by
      rw [(Client.mk.inj closed).1, Recorded.requests_after, ← requests]
      cases before.store.inTransaction with
      | true => rfl
      | false => rfl
    rw [Recorded.requests, grew.record, List.map_append] at sent
    have own := congrArg (List.map Request.sql) (List.append_cancel_left sent)
    rwa [sql_cursorRequests, List.map_map] at own
  · rw [printed, printPages_kept wire.recorded takes]
    rfl

theorem exists_turns (wire : Wire Store) (classify : String → Sql.Kind) (statements : List String)
    (shell : Shell World (Client (Recorded Store))) (rested : shell.store.pending = .idle) :
    let final := Remote.executeAll (remote wire.recorded classify) statements shell
    ∃ blocks, Turns wire classify shell statements blocks final ∧
      final.store.store.exchanges = shell.store.store.exchanges ++ blocks.flatten := by
  intro final
  induction statements generalizing shell with
  | nil => exact ⟨[], .nil shell, by simp [final, Remote.executeAll]⟩
  | cons statement rest ih =>
      obtain ⟨block, turn⟩ := exists_turn wire classify statement shell rested
      obtain ⟨blocks, turns, exchanges⟩ := ih _ turn.rested
      refine ⟨block :: blocks, .cons turn turns, ?_⟩
      rw [turn.recorded.record] at exchanges
      rw [List.flatten_cons, ← List.append_assoc]
      exact exchanges

/-- On a fresh session, whatever the server answers and however statements are classified, every
statement is one turn, and the SQL that is sent is that of their blocks, one after the other. -/
theorem statements_take_turns (wire : Wire Store) (classify : String → Sql.Kind)
    (statements : List String) (session : Session) (world : World) (server : Store) :
    let start : Shell World (Client (Recorded Store)) := ⟨session, world, { store := { server } }⟩
    let final := Remote.executeAll (remote wire.recorded classify) statements start
    ∃ blocks, Turns wire classify start statements blocks final ∧
      final.store.store.exchanges.map Exchange.sent =
        (blocks.map fun block => block.map Exchange.sent).flatten := by
  intro start final
  have begun : start.store.store.exchanges = [] := rfl
  obtain ⟨blocks, turns, exchanges⟩ := exists_turns wire classify statements start rfl
  rw [begun, List.nil_append] at exchanges
  refine ⟨blocks, turns, ?_⟩
  rw [exchanges, List.map_flatten]

theorem statements_take_turns_over_pages :
    let rows : List Row := List.replicate 50 [some "1"]
    let server : Scripted.ServerState := { scripts := [("SELECT a", { answer := .rows rows })] }
    let start : Shell Unit (Client (Recorded Scripted.ServerState)) :=
      ⟨{}, (), { store := { server } }⟩
    let final := Remote.executeAll (remote Scripted.wire.recorded Sql.Kind.ofText) ["SELECT a"] start
    (final.store.store.exchanges.map fun exchange => exchange.request.sql) =
        ["BEGIN", "DECLARE qsh_cursor NO SCROLL CURSOR FOR SELECT a",
          "FETCH FORWARD 40 FROM qsh_cursor", "FETCH FORWARD 40 FROM qsh_cursor", "COMMIT"] ∧
      final.session.out = start.session.out.extend (Sink.bytesOf (rows.map Row.line)) := by
  intro rows server start final
  have asks : Sql.Kind.ofText "SELECT a" = .query := by decide +kernel
  have delivers : Scripted.wire.Delivers "SELECT a" rows false server :=
    .owned rfl rfl (holds_rows _ rfl rfl)
  obtain ⟨blocks, turns, sent⟩ :=
    statements_take_turns Scripted.wire Sql.Kind.ofText ["SELECT a"] {} () server
  cases turns with
  | cons turn later =>
      cases later
      obtain ⟨sql, printed, -⟩ := turn.delivered rows asks (fun _ _ => rfl) delivers
      have own := congrArg (List.map Prod.fst) sent
      simp only [List.map_map, List.map_cons, List.map_nil, List.flatten_singleton] at own
      refine ⟨own.trans (sql.trans ?_), printed⟩
      decide +kernel

end QueryShell.Postgres
