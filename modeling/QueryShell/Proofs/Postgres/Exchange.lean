import QueryShell.Postgres.Client
import QueryShell.Proofs.Remote.Paging

/-!
What a session and its server exchange for one statement. A recorded connection keeps every request
with its answer, and the exchanges of a statement form one block.
-/

namespace QueryShell.Postgres

variable {World Store : Type}

structure Exchange (Store : Type) where
  request : Request
  reply : Reply
  server : Store

structure Recorded (Store : Type) where
  server : Store
  exchanges : List (Exchange Store) := []

def Wire.exchange (wire : Wire Store) (request : Request) (server : Store) : Exchange Store :=
  ⟨request, (wire.send request server).1, server⟩

def Recorded.after (wire : Wire Store) (request : Request) (record : Recorded Store) :
    Recorded Store :=
  ⟨(wire.send request record.server).2, record.exchanges ++ [wire.exchange request record.server]⟩

def Wire.recorded (wire : Wire Store) : Wire (Recorded Store) where
  send request record := ((wire.send request record.server).1, record.after wire request)
  backlog record := wire.backlog record.server
  backlog_send := by
    intro count record after rows sent positive full
    obtain ⟨reply, rfl⟩ := Prod.mk.inj sent
    exact wire.backlog_send (Prod.ext reply rfl) positive full

inductive Wire.Path (wire : Wire Store) : Store → List (Exchange Store) → Store → Prop
  | nil (server : Store) : Path wire server [] server
  | cons {exchanges last} (request : Request) (server : Store)
      (later : Path wire (wire.send request server).2 exchanges last) :
      Path wire server (wire.exchange request server :: exchanges) last

theorem Wire.Path.append {wire : Wire Store} {first middle last : Store}
    {front back : List (Exchange Store)} (before : wire.Path first front middle)
    (after : wire.Path middle back last) : wire.Path first (front ++ back) last := by
  induction before with
  | nil => exact after
  | cons request server _ ih => exact .cons request server (ih after)

structure Recorded.Grew (wire : Wire Store) (before after : Recorded Store)
    (exchanges : List (Exchange Store)) : Prop where
  record : after.exchanges = before.exchanges ++ exchanges
  path : wire.Path before.server exchanges after.server

namespace Recorded.Grew

variable {wire : Wire Store} {before middle after : Recorded Store}
  {front back : List (Exchange Store)}

theorem single (request : Request) (record : Recorded Store) :
    record.Grew wire (record.after wire request) [wire.exchange request record.server] :=
  ⟨rfl, .cons request record.server (.nil _)⟩

theorem append (first : before.Grew wire middle front) (second : middle.Grew wire after back) :
    before.Grew wire after (front ++ back) :=
  ⟨by rw [second.record, first.record, List.append_assoc], first.path.append second.path⟩

theorem cons {request : Request}
    (second : (before.after wire request).Grew wire after back) :
    before.Grew wire after (wire.exchange request before.server :: back) :=
  (single request before).append second

end Recorded.Grew

theorem Wire.exchange_eq {wire : Wire Store} {request : Request} {server : Store} {reply : Reply}
    (replied : (wire.send request server).1 = reply) :
    wire.exchange request server = ⟨request, reply, server⟩ := by
  rw [Wire.exchange, replied]

inductive Fetches : List (Exchange Store) → Prop
  | last (reply : Reply) (server : Store) :
      Fetches [⟨.fetch Remote.pageSize, reply, server⟩]
  | more {rows : List Row} {rest : List (Exchange Store)} (server : Store)
      (full : Remote.pageSize ≤ rows.length) (later : Fetches rest) :
      Fetches (⟨.fetch Remote.pageSize, .ok rows, server⟩ :: rest)

inductive CursorUse (query : String) : List (Exchange Store) → Prop
  | refused (fault : Fault) (server : Store) :
      CursorUse query [⟨.openCursor query, .error fault, server⟩]
  | opened (rows : List Row) (server : Store) {fetches : List (Exchange Store)}
      (fetched : Fetches fetches) :
      CursorUse query (⟨.openCursor query, .ok rows, server⟩ :: fetches)

inductive Block (classify : String → Sql.Kind) (statement : String) :
    Bool → List (Exchange Store) → Prop
  | direct (inTransaction : Bool) (reply : Reply) (server : Store)
      (other : classify statement ≠ .query) :
      Block classify statement inTransaction [⟨.statement statement, reply, server⟩]
  | unopened (fault : Fault) (server : Store) (asks : classify statement = .query) :
      Block classify statement false [⟨.openTransaction, .error fault, server⟩]
  | owned {use : List (Exchange Store)} (rows : List Row) (reply : Reply) (server last : Store)
      (asks : classify statement = .query) (used : CursorUse statement use) :
      Block classify statement false
        (⟨.openTransaction, .ok rows, server⟩ :: (use ++ [⟨.closeTransaction, reply, last⟩]))
  | borrowed {use : List (Exchange Store)} (reply : Reply) (last : Store)
      (asks : classify statement = .query) (used : CursorUse statement use) :
      Block classify statement true (use ++ [⟨.closeCursor, reply, last⟩])

namespace Client

variable {wire : Wire Store} {classify : String → Sql.Kind} {client : Client (Recorded Store)}

theorem order_of_ok {request : Request} {rows : List Row}
    (given : (wire.send request client.store.server).1 = .ok rows) :
    client.order wire.recorded request =
      (.ok (), { client with store := client.store.after wire request }) := by
  simp only [order, send, Wire.recorded, given]

theorem order_of_error {request : Request} {fault : Fault}
    (refused : (wire.send request client.store.server).1 = .error fault) :
    client.order wire.recorded request =
      (.error fault.failure, { client with store := client.store.after wire request }) := by
  simp only [order, send, Wire.recorded, refused]

theorem order_snd (request : Request) :
    (client.order wire.recorded request).2 =
      { client with store := client.store.after wire request } := by
  cases reply : (wire.send request client.store.server).1 with
  | ok rows => rw [order_of_ok reply]
  | error fault => rw [order_of_error reply]

section Cursor

variable {owns : Bool}

theorem fetch_of_ok {count : Nat} {rows : List Row} (cursor : client.pending = .cursor owns)
    (given : (wire.send (.fetch count) client.store.server).1 = .ok rows) :
    client.fetch wire.recorded count =
      (.ok (rows.map Row.line),
        { client with store := client.store.after wire (.fetch count) }) := by
  simp only [fetch, cursor, send, Wire.recorded, given]

theorem fetch_of_error {count : Nat} {fault : Fault} (cursor : client.pending = .cursor owns)
    (refused : (wire.send (.fetch count) client.store.server).1 = .error fault) :
    client.fetch wire.recorded count =
      (.error fault.failure,
        { client with store := client.store.after wire (.fetch count) }) := by
  simp only [fetch, cursor, send, Wire.recorded, refused]

theorem after_fetch {count : Nat} {answer : Except Failure (List String)}
    {after : Client (Recorded Store)} (cursor : client.pending = .cursor owns)
    (fetched : client.fetch wire.recorded count = (answer, after)) :
    after = { client with store := client.store.after wire (.fetch count) } := by
  cases reply : (wire.send (.fetch count) client.store.server).1 with
  | ok rows => exact (Prod.mk.inj (fetched.symm.trans (fetch_of_ok cursor reply))).2
  | error fault => exact (Prod.mk.inj (fetched.symm.trans (fetch_of_error cursor reply))).2

theorem rows_of_fetch {count : Nat} {lines : List String} {after : Client (Recorded Store)}
    (cursor : client.pending = .cursor owns)
    (fetched : client.fetch wire.recorded count = (.ok lines, after)) :
    ∃ rows, (wire.send (.fetch count) client.store.server).1 = .ok rows ∧
      lines = rows.map Row.line := by
  cases reply : (wire.send (.fetch count) client.store.server).1 with
  | ok rows =>
      have answer := (Prod.mk.inj (fetched.symm.trans (fetch_of_ok cursor reply))).1
      exact ⟨rows, rfl, Except.ok.inj answer⟩
  | error fault =>
      have answer := (Prod.mk.inj (fetched.symm.trans (fetch_of_error cursor reply))).1
      cases answer

/-- Reading a cursor sends nothing but requests for pages, and the cursor stays pending. -/
theorem printPages_fetches (wire : Wire Store) (session : Session) (client : Client (Recorded Store))
    (cursor : client.pending = .cursor owns) :
    ∃ fetches last, Fetches fetches ∧ client.store.Grew wire last fetches ∧
      (Remote.printPages (remote wire.recorded classify) session client).2.2 =
        { client with store := last } := by
  induction session, client using Remote.printPages.induct (remote wire.recorded classify) with
  | case1 session client failure after fetched =>
      refine ⟨_, _, .last _ _, .single (.fetch Remote.pageSize) client.store, ?_⟩
      rw [Remote.printPages_eq, fetched]
      exact after_fetch cursor fetched
  | case2 session client lines after fetched printed refused =>
      refine ⟨_, _, .last _ _, .single (.fetch Remote.pageSize) client.store, ?_⟩
      rw [Remote.printPages_eq, fetched]
      simp only [refused]
      exact after_fetch cursor fetched
  | case3 session client lines after fetched printed accepted full ih =>
      obtain ⟨rows, given, rfl⟩ := rows_of_fetch cursor fetched
      have read := after_fetch cursor fetched
      have still : after.pending = .cursor owns := by rw [read, cursor]
      obtain ⟨fetches, last, later, grew, result⟩ := ih still
      rw [List.length_map] at full
      refine ⟨wire.exchange (.fetch Remote.pageSize) client.store.server :: fetches, last, ?_, ?_, ?_⟩
      · rw [Wire.exchange_eq given]
        exact .more _ full later
      · rw [read] at grew
        exact grew.cons
      · rw [Remote.printPages_eq, fetched]
        simp only [accepted, List.length_map, if_pos full]
        rw [result, read]
  | case4 session client lines after fetched printed accepted short =>
      refine ⟨_, _, .last _ _, .single (.fetch Remote.pageSize) client.store, ?_⟩
      rw [Remote.printPages_eq, fetched]
      simp only [accepted, if_neg short]
      exact after_fetch cursor fetched

def readCursor (wire : Wire Store) (classify : String → Sql.Kind) (query : String) (owns : Bool)
    (session : Session) (client : Client Store) : Except Failure Unit × Session × Client Store :=
  match client.declare wire query owns with
  | (.error failure, client) => (.error failure, session, client)
  | (.ok (), client) => Remote.printPages (remote wire classify) session client

theorem readCursor_use (wire : Wire Store) (query : String) (owns : Bool) (session : Session)
    (client : Client (Recorded Store)) :
    ∃ use last, CursorUse query use ∧ client.store.Grew wire last use ∧
      (client.readCursor wire.recorded classify query owns session).2.2 =
        { client with store := last, pending := .cursor owns } := by
  let declaring : Client (Recorded Store) := { client with pending := .cursor owns }
  cases reply : (wire.send (.openCursor query) client.store.server).1 with
  | error fault =>
      have refused : declaring.order wire.recorded (.openCursor query) = _ := order_of_error reply
      refine ⟨_, _, ?_, .single (.openCursor query) client.store, ?_⟩
      · rw [Wire.exchange_eq reply]
        exact .refused fault _
      · simp only [readCursor, declare]
        rw [refused]
  | ok rows =>
      have given : declaring.order wire.recorded (.openCursor query) = _ := order_of_ok reply
      let opened : Client (Recorded Store) :=
        { declaring with store := client.store.after wire (.openCursor query) }
      obtain ⟨fetches, last, fetched, grew, result⟩ :=
        printPages_fetches wire session opened rfl
      refine ⟨wire.exchange (.openCursor query) client.store.server :: fetches, last, ?_,
        grew.cons, ?_⟩
      · rw [Wire.exchange_eq reply]
        exact .opened rows _ fetched
      · simp only [readCursor, declare]
        rw [given]
        exact result

end Cursor

section Statement

variable {statement : String} {session : Session}

theorem clean_of_idle (wire : Wire Store) {client : Client Store}
    (rested : client.pending = .idle) : client.clean wire = (.ok (), client) := by
  obtain ⟨store, pending, inTransaction⟩ := client
  cases rested
  rfl

theorem clean_unheld (wire : Wire Store) (store : Store) {pending : Pending}
    (unheld : ∀ owns, pending ≠ .cursor owns) (inTransaction : Bool) :
    clean wire ⟨store, pending, inTransaction⟩ = (.ok (), ⟨store, .idle, inTransaction⟩) := by
  cases pending with
  | idle => rfl
  | kept lines => rfl
  | cursor owns => exact (unheld owns rfl).elim

theorem clean_cursor (wire : Wire Store) (record : Recorded Store) (owns inTransaction : Bool) :
    (clean wire.recorded ⟨record, .cursor owns, inTransaction⟩).2 =
      ⟨record.after wire (if owns then .closeTransaction else .closeCursor), .idle,
        inTransaction⟩ := by
  cases owns with
  | true => exact order_snd .closeTransaction
  | false => exact order_snd .closeCursor

/-- Lines in memory are read without the server. -/
theorem printPages_unheld (wire : Wire Store) (session : Session) (client : Client Store)
    (unheld : ∀ owns, client.pending ≠ .cursor owns) :
    ∃ pending, (∀ owns, pending ≠ .cursor owns) ∧
      (Remote.printPages (remote wire classify) session client).2.2 = { client with pending } := by
  have fetched := Remote.printPages_fetched (remote wire classify) session client
  generalize (Remote.printPages (remote wire classify) session client).2.2 = last at fetched ⊢
  induction fetched with
  | refl => exact ⟨client.pending, unheld, rfl⟩
  | tail _ page ih =>
      obtain ⟨pending, still, rfl⟩ := ih
      obtain ⟨count, rfl⟩ := page
      cases pending with
      | idle => exact ⟨.idle, still, rfl⟩
      | kept lines => exact ⟨.kept (lines.drop count), fun owns => Pending.noConfusion, rfl⟩
      | cursor owns => exact (still owns rfl).elim

theorem run_other (wire : Wire Store) {client : Client Store} (rested : client.pending = .idle)
    (other : classify statement ≠ .query) :
    Remote.run (remote wire classify) statement session client =
      match client.perform wire (classify statement) statement with
      | (.error failure, client) => (.error failure, session, client)
      | (.ok (), client) => Remote.printPages (remote wire classify) session client := by
  have executed : (remote wire classify).execute statement client =
      client.perform wire (classify statement) statement := by
    simp only [remote, execute, clean_of_idle wire rested]
  rw [Remote.run, executed]
  rcases client.perform wire (classify statement) statement with ⟨failure | _, performed⟩
  · rfl
  · rfl

theorem run_query (wire : Wire Store) {client : Client Store} (rested : client.pending = .idle)
    (asks : classify statement = .query) :
    Remote.run (remote wire classify) statement session client =
      if client.inTransaction then client.readCursor wire classify statement false session
      else match client.order wire .openTransaction with
        | (.error failure, client) => (.error failure, session, client)
        | (.ok (), client) => client.readCursor wire classify statement true session := by
  have executed : (remote wire classify).execute statement client =
      client.openCursor wire statement := by
    simp only [remote, execute, clean_of_idle wire rested, asks]
  rw [Remote.run, executed, openCursor]
  by_cases inside : client.inTransaction
  · rw [if_pos inside, if_pos inside, readCursor]
    rcases client.declare wire statement false with ⟨failure | _, declared⟩
    · rfl
    · rfl
  · rw [if_neg inside, if_neg inside]
    rcases client.order wire .openTransaction with ⟨failure | _, opened⟩
    · rfl
    · simp only [readCursor]
      rcases opened.declare wire statement true with ⟨failure | _, declared⟩
      · rfl
      · rfl

end Statement

section Block

variable {statement : String} {shell : Shell World (Client (Recorded Store))}

theorem perform_of_ok {kind : Sql.Kind} {rows : List Row}
    (given : (wire.send (.statement statement) client.store.server).1 = .ok rows) :
    client.perform wire.recorded kind statement =
      (.ok (), {
        store := client.store.after wire (.statement statement)
        pending := .kept (rows.map Row.line)
        inTransaction := inTransactionAfter kind client.inTransaction }) := by
  simp only [perform, send, Wire.recorded, given]

theorem perform_of_error {kind : Sql.Kind} {fault : Fault}
    (refused : (wire.send (.statement statement) client.store.server).1 = .error fault) :
    client.perform wire.recorded kind statement =
      (.error fault.failure,
        { client with store := client.store.after wire (.statement statement) }) := by
  simp only [perform, send, Wire.recorded, refused]

def believedAfter (wire : Wire Store) (classify : String → Sql.Kind) (statement : String)
    (server : Store) (before : Bool) : Bool :=
  match (wire.send (.statement statement) server).1 with
  | .ok _ => inTransactionAfter (classify statement) before
  | .error _ => before

theorem believedAfter_query (asks : classify statement = .query) (server : Store)
    (before : Bool) : believedAfter wire classify statement server before = before := by
  simp only [believedAfter, asks, inTransactionAfter]
  split
  · rfl
  · rfl

theorem executeOn_other (wire : Wire Store) (rested : shell.store.pending = .idle)
    (other : classify statement ≠ .query) :
    (Remote.executeOn (remote wire.recorded classify) statement shell).2.store =
      ⟨shell.store.store.after wire (.statement statement), .idle,
        believedAfter wire classify statement shell.store.store.server
          shell.store.inTransaction⟩ := by
  rw [Remote.executeOn_store, run_other wire.recorded rested other]
  obtain ⟨session, world, record, pending, inTransaction⟩ := shell
  cases rested
  cases reply : (wire.send (.statement statement) record.server).1 with
  | error fault =>
      rw [perform_of_error reply]
      simp only [believedAfter, reply]
      exact congrArg Prod.snd (clean_unheld wire.recorded _ (fun _ => Pending.noConfusion) _)
  | ok rows =>
      let performed : Client (Recorded Store) :=
        ⟨record.after wire (.statement statement), .kept (rows.map Row.line),
          inTransactionAfter (classify statement) inTransaction⟩
      obtain ⟨pending, unheld, printed⟩ :=
        printPages_unheld wire.recorded session performed (fun _ => Pending.noConfusion)
      rw [perform_of_ok reply]
      simp only [believedAfter, reply]
      rw [printed]
      exact congrArg Prod.snd (clean_unheld wire.recorded _ unheld _)

theorem executeOn_borrowed (wire : Wire Store) (rested : shell.store.pending = .idle)
    (asks : classify statement = .query) (inside : shell.store.inTransaction = true) :
    ∃ use last, CursorUse statement use ∧ shell.store.store.Grew wire last use ∧
      (Remote.executeOn (remote wire.recorded classify) statement shell).2.store =
        ⟨last.after wire .closeCursor, .idle, true⟩ := by
  obtain ⟨use, last, used, grew, read⟩ :=
    readCursor_use wire statement false shell.session shell.store
  refine ⟨use, last, used, grew, ?_⟩
  rw [Remote.executeOn_store, run_query wire.recorded rested asks, if_pos inside, read, inside]
  exact clean_cursor wire last false true

theorem executeOn_unopened {fault : Fault} (rested : shell.store.pending = .idle)
    (asks : classify statement = .query) (outside : shell.store.inTransaction = false)
    (refused : (wire.send .openTransaction shell.store.store.server).1 = .error fault) :
    (Remote.executeOn (remote wire.recorded classify) statement shell).2.store =
      ⟨shell.store.store.after wire .openTransaction, .idle, false⟩ := by
  rw [Remote.executeOn_store, run_query wire.recorded rested asks, outside,
    order_of_error refused, rested, outside]
  exact congrArg Prod.snd (clean_unheld wire.recorded _ (fun _ => Pending.noConfusion) _)

theorem executeOn_owned (wire : Wire Store) {rows : List Row} (rested : shell.store.pending = .idle)
    (asks : classify statement = .query) (outside : shell.store.inTransaction = false)
    (given : (wire.send .openTransaction shell.store.store.server).1 = .ok rows) :
    ∃ use last, CursorUse statement use ∧
      (shell.store.store.after wire .openTransaction).Grew wire last use ∧
      (Remote.executeOn (remote wire.recorded classify) statement shell).2.store =
        ⟨last.after wire .closeTransaction, .idle, false⟩ := by
  let opened : Client (Recorded Store) :=
    { shell.store with store := shell.store.store.after wire .openTransaction }
  obtain ⟨use, last, used, grew, read⟩ :=
    readCursor_use wire statement true shell.session opened
  refine ⟨use, last, used, grew, ?_⟩
  rw [Remote.executeOn_store, run_query wire.recorded rested asks, outside, order_of_ok given]
  change ((remote wire.recorded classify).clean
    (opened.readCursor wire.recorded classify statement true shell.session).2.2).2 = _
  rw [read, show opened.inTransaction = false from outside]
  exact clean_cursor wire last true false

/-- A statement adds one block to the record and leaves nothing pending. -/
theorem executeOn_block (wire : Wire Store) (statement : String)
    (shell : Shell World (Client (Recorded Store))) (rested : shell.store.pending = .idle) :
    ∃ block last, Block classify statement shell.store.inTransaction block ∧
      shell.store.store.Grew wire last block ∧
      (Remote.executeOn (remote wire.recorded classify) statement shell).2.store =
        ⟨last, .idle,
          believedAfter wire classify statement shell.store.store.server
            shell.store.inTransaction⟩ := by
  by_cases asks : classify statement = .query
  · rw [believedAfter_query asks]
    cases inside : shell.store.inTransaction with
    | true =>
        obtain ⟨use, last, used, grew, result⟩ :=
          executeOn_borrowed wire rested asks inside
        exact ⟨_, _, .borrowed _ _ asks used, grew.append (.single .closeCursor last), result⟩
    | false =>
        cases reply : (wire.send .openTransaction shell.store.store.server).1 with
        | error fault =>
            refine ⟨_, _, .unopened fault shell.store.store.server asks, ?_,
              executeOn_unopened rested asks inside reply⟩
            rw [← Wire.exchange_eq reply]
            exact .single .openTransaction _
        | ok rows =>
            obtain ⟨use, last, used, grew, result⟩ :=
              executeOn_owned wire rested asks inside reply
            have closed := (grew.append (.single .closeTransaction last)).cons
            rw [Wire.exchange_eq reply] at closed
            exact ⟨_, _, .owned rows _ _ _ asks used, closed, result⟩
  · exact ⟨_, _, .direct _ _ _ asks, .single (.statement statement) _,
      executeOn_other wire rested asks⟩

end Block

end Client

end QueryShell.Postgres
