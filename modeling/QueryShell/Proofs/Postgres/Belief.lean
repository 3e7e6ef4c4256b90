import QueryShell.Proofs.Postgres.Transaction

/-!
The transaction block of the user, as a session takes it to be and as the server has it. The two
agree after every statement exactly if no statement misleads the session, and while they agree the
session keeps its own transactions out of those of the user.
-/

namespace QueryShell.Postgres

open Client (believedAfter)

variable {World Store : Type} {wire : Wire Store} {classify : String → Sql.Kind}
  {command? : String → Option Sql.Command} {inBlock : Store → Bool}

/-- A statement after which the session and the server differ on the block of the user, if they
agreed before it. The server goes on in a block that the session takes for ended, ends with an error
one that the session takes for open, does not keep its block when it refuses to go on, or disagrees
about a statement that is no such command to it. -/
inductive Misleads (wire : Wire Store) (classify : String → Sql.Kind)
    (command? : String → Option Sql.Command) (inBlock : Store → Bool) (statement : String)
    (server : Store) : Prop
  | keeps {command : Sql.Command} {rows : List Row} (read : command? statement = some command)
      (goesOn : command.goesOn = true) (inside : inBlock server = true)
      (granted : (wire.send (.statement statement) server).1 = .ok rows)
  | fails {command : Sql.Command} {fault : Fault} (read : command? statement = some command)
      (ends : command.ends = true) (inside : inBlock server = true)
      (refused : (wire.send (.statement statement) server).1 = .error fault)
  | drops {command : Sql.Command} {fault : Fault} (read : command? statement = some command)
      (goesOn : command.goesOn = true)
      (refused : (wire.send (.statement statement) server).1 = .error fault)
      (changed : inBlock (wire.send (.statement statement) server).2 ≠ inBlock server)
  | other (unread : command? statement = none)
      (meant : classify statement = .other ∨ classify statement ≠ .query ∧
        ∃ fault, (wire.send (.statement statement) server).1 = .error fault)
      (changed : inBlock (wire.send (.statement statement) server).2 ≠ inBlock server)
  | mistaken {rows : List Row} (unread : command? statement = none)
      (granted : (wire.send (.statement statement) server).1 = .ok rows)
      (meant : classify statement = .opening ∧
          inBlock (wire.send (.statement statement) server).2 = false ∨
        classify statement = .ending ∧ inBlock (wire.send (.statement statement) server).2 = true)

theorem Misleads.ne_query {statement : String} {server : Store}
    (knows : Sql.Knows classify command?)
    (misleads : Misleads wire classify command? inBlock statement server) :
    classify statement ≠ .query := by
  have known {command : Sql.Command} (read : command? statement = some command)
      (ending : command.kind = .ending) : classify statement ≠ .query := by
    rw [knows.kind read, ending]
    exact Sql.Kind.noConfusion
  cases misleads with
  | keeps read goesOn => exact known read (Sql.Command.kind_of_goesOn goesOn)
  | fails read ends => exact known read (Sql.Command.kind_of_ends ends)
  | drops read goesOn => exact known read (Sql.Command.kind_of_goesOn goesOn)
  | other _ meant =>
      rcases meant with plain | ⟨direct, -⟩
      · rw [plain]
        exact Sql.Kind.noConfusion
      · exact direct
  | mistaken _ _ meant =>
      rcases meant with ⟨kind, -⟩ | ⟨kind, -⟩
      · rw [kind]
        exact Sql.Kind.noConfusion
      · rw [kind]
        exact Sql.Kind.noConfusion

namespace Client

variable {statement : String} {server : Store}

theorem believedAfter_of_ok {rows : List Row} (before : Bool)
    (granted : (wire.send (.statement statement) server).1 = .ok rows) :
    believedAfter wire classify statement server before =
      inTransactionAfter (classify statement) before := by
  simp only [believedAfter, granted]

theorem believedAfter_of_error {fault : Fault} (before : Bool)
    (refused : (wire.send (.statement statement) server).1 = .error fault) :
    believedAfter wire classify statement server before = before := by
  simp only [believedAfter, refused]

theorem believedAfter_of_plain (plain : classify statement = .other) (before : Bool) :
    believedAfter wire classify statement server before = before := by
  cases reply : (wire.send (.statement statement) server).1 with
  | ok rows => rw [believedAfter_of_ok _ reply, plain, inTransactionAfter]
  | error fault => rw [believedAfter_of_error _ reply]

theorem believedAfter_misled (laws : wire.KeepsBlocks command? inBlock)
    (knows : Sql.Knows classify command?)
    (misleads : Misleads wire classify command? inBlock statement server) :
    believedAfter wire classify statement server (inBlock server) ≠
      inBlock (wire.send (.statement statement) server).2 := by
  cases misleads with
  | keeps read goesOn inside granted =>
      have ending := (knows.kind read).trans (Sql.Command.kind_of_goesOn goesOn)
      rw [believedAfter_of_ok _ granted, ending, laws.kept read goesOn granted, inside]
      exact Bool.false_ne_true
  | fails read ends inside refused =>
      rw [believedAfter_of_error _ refused, laws.ended server (.user read ends), inside]
      exact Ne.symm Bool.false_ne_true
  | drops read goesOn refused changed =>
      rw [believedAfter_of_error _ refused]
      exact changed.symm
  | other unread meant changed =>
      rcases meant with plain | ⟨-, fault, refused⟩
      · rw [believedAfter_of_plain plain]
        exact changed.symm
      · rw [believedAfter_of_error _ refused]
        exact changed.symm
  | mistaken unread granted meant =>
      rcases meant with ⟨opening, closed⟩ | ⟨ending, opened⟩
      · rw [believedAfter_of_ok _ granted, opening, closed, inTransactionAfter]
        exact Ne.symm Bool.false_ne_true
      · rw [believedAfter_of_ok _ granted, ending, opened, inTransactionAfter]
        exact Bool.false_ne_true

/-- The session takes a command that ends the block for such a one, and is right about it unless the
server has ended the block with an error. -/
theorem believedAfter_of_ends (laws : wire.KeepsBlocks command? inBlock)
    (knows : Sql.Knows classify command?) {command : Sql.Command}
    (read : command? statement = some command) (ends : command.ends = true)
    (honest : ¬ Misleads wire classify command? inBlock statement server) :
    believedAfter wire classify statement server (inBlock server) =
      inBlock (wire.send (.statement statement) server).2 := by
  rw [laws.ended server (.user read ends)]
  cases reply : (wire.send (.statement statement) server).1 with
  | ok rows =>
      rw [believedAfter_of_ok _ reply, knows.kind read, Sql.Command.kind_of_ends ends,
        inTransactionAfter]
  | error fault =>
      rw [believedAfter_of_error _ reply]
      by_contra inside
      exact honest (.fails read ends (Bool.of_not_eq_false inside) reply)

theorem believedAfter_of_goesOn (laws : wire.KeepsBlocks command? inBlock)
    (knows : Sql.Knows classify command?) {command : Sql.Command}
    (read : command? statement = some command) (goesOn : command.goesOn = true)
    (honest : ¬ Misleads wire classify command? inBlock statement server) :
    believedAfter wire classify statement server (inBlock server) =
      inBlock (wire.send (.statement statement) server).2 := by
  cases reply : (wire.send (.statement statement) server).1 with
  | ok rows =>
      rw [believedAfter_of_ok _ reply, knows.kind read, Sql.Command.kind_of_goesOn goesOn,
        laws.kept read goesOn reply, inTransactionAfter]
      by_contra inside
      exact honest (.keeps read goesOn (Bool.of_not_eq_false (Ne.symm inside)) reply)
  | error fault =>
      rw [believedAfter_of_error _ reply]
      by_contra changed
      exact honest (.drops read goesOn reply (Ne.symm changed))

theorem believedAfter_of_unread (unread : command? statement = none)
    (direct : classify statement ≠ .query)
    (honest : ¬ Misleads wire classify command? inBlock statement server) :
    believedAfter wire classify statement server (inBlock server) =
      inBlock (wire.send (.statement statement) server).2 := by
  cases reply : (wire.send (.statement statement) server).1 with
  | error fault =>
      rw [believedAfter_of_error _ reply]
      by_contra changed
      exact honest (.other unread (.inr ⟨direct, fault, reply⟩) (Ne.symm changed))
  | ok rows =>
      rw [believedAfter_of_ok _ reply]
      cases kind : classify statement with
      | query => exact (direct kind).elim
      | other =>
          by_contra changed
          exact honest (.other unread (.inl kind) (Ne.symm changed))
      | opening =>
          by_contra closed
          exact honest (.mistaken unread reply
            (.inl ⟨kind, Bool.of_not_eq_true (Ne.symm closed)⟩))
      | ending =>
          by_contra opened
          exact honest (.mistaken unread reply
            (.inr ⟨kind, Bool.of_not_eq_false (Ne.symm opened)⟩))

/-- A session that knew the block before a statement knows it afterwards exactly if the statement
does not mislead it. -/
theorem believedAfter_eq_iff (laws : wire.KeepsBlocks command? inBlock)
    (knows : Sql.Knows classify command?) (direct : classify statement ≠ .query) (server : Store) :
    believedAfter wire classify statement server (inBlock server) =
        inBlock (wire.send (.statement statement) server).2 ↔
      ¬ Misleads wire classify command? inBlock statement server := by
  constructor
  · intro known misleads
    exact believedAfter_misled laws knows misleads known
  · intro honest
    cases read : command? statement with
    | none => exact believedAfter_of_unread read direct honest
    | some command =>
        rcases command.cases_ends with rfl | ends | goesOn
        · have kind := knows.begin read
          cases reply : (wire.send (.statement statement) server).1 with
          | ok rows =>
              rw [believedAfter_of_ok _ reply, kind, laws.opened (.user read) reply,
                inTransactionAfter]
          | error fault =>
              rw [believedAfter_of_error _ reply, laws.unopened (.user read) reply]
        · exact believedAfter_of_ends laws knows read ends honest
        · exact believedAfter_of_goesOn laws knows read goesOn honest

end Client

structure Rests (wire : Wire Store) (inBlock : Store → Bool) (client : Client (Recorded Store)) :
    Prop where
  rested : client.pending = .idle
  settled : client.store.Settled wire inBlock

/-- The session takes a block of the user to be open exactly if one is. -/
def Agrees (wire : Wire Store) (inBlock : Store → Bool) (client : Client (Recorded Store)) :
    Prop :=
  client.inTransaction = true ↔ client.store.opener wire inBlock = some .user

theorem Rests.agrees_iff {client : Client (Recorded Store)} (rests : Rests wire inBlock client) :
    Agrees wire inBlock client ↔ client.inTransaction = inBlock client.store.server := by
  rw [Agrees, rests.settled.opener]
  cases client.inTransaction with
  | true => cases inBlock client.store.server <;> simp
  | false => cases inBlock client.store.server <;> simp

section Run

variable {statement : String} {shell : Shell World (Client (Recorded Store))}

theorem executeOn_query (laws : wire.KeepsBlocks command? inBlock)
    (rests : Rests wire inBlock shell.store)
    (known : shell.store.inTransaction = inBlock shell.store.store.server)
    (asks : classify statement = .query) :
    ∃ record, (Remote.executeOn (Client.remote wire.recorded classify) statement shell).2.store =
        ⟨record, .idle, inBlock record.server⟩ ∧ record.Settled wire inBlock := by
  cases inside : shell.store.inTransaction with
  | true =>
      obtain ⟨use, last, used, grew, result⟩ :=
        Client.executeOn_borrowed wire rests.rested asks inside
      obtain ⟨still, settled⟩ :=
        rests.settled.borrowed laws (known.symm.trans inside) grew used.forCursor
      exact ⟨_, by rw [result, still], settled⟩
  | false =>
      have outside : inBlock shell.store.store.server = false := known.symm.trans inside
      cases reply : (wire.send .openTransaction shell.store.store.server).1 with
      | error fault =>
          have result := Client.executeOn_unopened rests.rested asks inside reply
          obtain ⟨closed, settled⟩ := rests.settled.unopened laws outside reply
          exact ⟨_, by rw [result, closed], settled⟩
      | ok rows =>
          obtain ⟨use, last, used, grew, result⟩ :=
            Client.executeOn_owned wire rests.rested asks inside reply
          obtain ⟨closed, settled⟩ := rests.settled.owned laws outside reply grew used.forCursor
          exact ⟨_, by rw [result, closed], settled⟩

/-- A session that knew the block before a statement is at rest after it, and knows the block
exactly if the statement did not mislead it. -/
theorem executeOn_agrees (laws : wire.KeepsBlocks command? inBlock)
    (knows : Sql.Knows classify command?) (statement : String)
    (rests : Rests wire inBlock shell.store) (agrees : Agrees wire inBlock shell.store) :
    let after := (Remote.executeOn (Client.remote wire.recorded classify) statement shell).2.store
    Rests wire inBlock after ∧
      (Agrees wire inBlock after ↔
        ¬ Misleads wire classify command? inBlock statement shell.store.store.server) := by
  intro after
  have known := rests.agrees_iff.mp agrees
  by_cases asks : classify statement = .query
  · obtain ⟨record, result, settled⟩ := executeOn_query laws rests known asks
    replace result : after = ⟨record, .idle, inBlock record.server⟩ := result
    have still : Rests wire inBlock after := by
      rw [result]
      exact ⟨rfl, settled⟩
    refine ⟨still, iff_of_true ?_ fun misleads => misleads.ne_query knows asks⟩
    rw [still.agrees_iff, result]
  · have result : after = _ := Client.executeOn_other wire rests.rested asks
    have still : Rests wire inBlock after := by
      rw [result]
      exact ⟨rfl, rests.settled.statement statement⟩
    refine ⟨still, ?_⟩
    rw [still.agrees_iff, result, known]
    exact Client.believedAfter_eq_iff laws knows asks shell.store.store.server

theorem executeAll_agrees_iff (laws : wire.KeepsBlocks command? inBlock)
    (knows : Sql.Knows classify command?) (statements : List String)
    (shell : Shell World (Client (Recorded Store))) (rests : Rests wire inBlock shell.store)
    (agrees : Agrees wire inBlock shell.store) :
    let after done := (Remote.executeAll (Client.remote wire.recorded classify) done shell).store
    (∀ done, done <+: statements → Agrees wire inBlock (after done)) ↔
      ∀ done statement, done ++ [statement] <+: statements →
        ¬ Misleads wire classify command? inBlock statement (after done).store.server := by
  induction statements generalizing shell with
  | nil =>
      intro after
      refine iff_of_true ?_ ?_
      · intro done front
        obtain rfl := List.prefix_nil.mp front
        exact agrees
      · intro done statement front
        simp at front
  | cons first rest ih =>
      intro after
      obtain ⟨still, honest⟩ := executeOn_agrees laws knows first rests agrees
      have begins : [first] <+: first :: rest := ⟨rest, rfl⟩
      have extend : ∀ {done}, done <+: rest → first :: done <+: first :: rest :=
        fun front => List.cons_prefix_cons.mpr ⟨rfl, front⟩
      constructor
      · intro agree done statement front
        have knows := agree [first] begins
        cases done with
        | nil =>
            obtain ⟨rfl, -⟩ := List.cons_prefix_cons.mp front
            exact honest.mp knows
        | cons head done =>
            obtain ⟨rfl, later⟩ := List.cons_prefix_cons.mp front
            exact (ih _ still knows).mp (fun done front => agree (head :: done) (extend front))
              done statement later
      · intro unmisled done front
        cases done with
        | nil => exact agrees
        | cons head done =>
            obtain ⟨rfl, later⟩ := List.cons_prefix_cons.mp front
            have knows := honest.mpr (unmisled [] head begins)
            exact (ih _ still knows).mpr (fun done statement front =>
              unmisled (head :: done) statement (extend front)) done later

theorem executeAll_orderly (laws : wire.KeepsBlocks command? inBlock)
    (knows : Sql.Knows classify command?) (statements : List String)
    (shell : Shell World (Client (Recorded Store))) (rests : Rests wire inBlock shell.store)
    (agrees : ∀ done, done <+: statements →
      Agrees wire inBlock
        (Remote.executeAll (Client.remote wire.recorded classify) done shell).store) :
    Orderly wire inBlock none (Remote.executeAll (Client.remote wire.recorded classify) statements
      shell).store.store.exchanges := by
  induction statements generalizing shell with
  | nil => exact rests.settled.orderly
  | cons first rest ih =>
      obtain ⟨still, -⟩ := executeOn_agrees laws knows first rests (agrees [] List.nil_prefix)
      refine ih _ still ?_
      intro done front
      exact agrees (first :: done) (List.cons_prefix_cons.mpr ⟨rfl, front⟩)

/-- A session that takes a block of the user for ended opens and ends a transaction inside it. -/
theorem executeOn_intrudes (rested : shell.store.pending = .idle)
    (asks : classify statement = .query) (believed : shell.store.inTransaction = false)
    (open_ : shell.store.store.opener wire inBlock = some .user) :
    ¬ Orderly wire inBlock none (Remote.executeOn (Client.remote wire.recorded classify) statement
      shell).2.store.store.exchanges := by
  intro orderly
  obtain ⟨block, last, protocol, grew, result⟩ :=
    Client.executeOn_block wire statement shell rested
  rw [result, grew.record, orderly_append, ← Recorded.opener, open_] at orderly
  rw [believed] at protocol
  cases protocol with
  | direct _ _ _ other => exact other asks
  | unopened => exact orderly.2.1 rfl
  | owned => exact orderly.2.1 rfl

/-- A session that takes a block for open which is none declares its next cursor outside. -/
theorem executeOn_outside (rested : shell.store.pending = .idle)
    (asks : classify statement = .query) (believed : shell.store.inTransaction = true)
    (closed : inBlock shell.store.store.server = false) :
    ¬ Orderly wire inBlock none (Remote.executeOn (Client.remote wire.recorded classify) statement
      shell).2.store.store.exchanges := by
  intro orderly
  obtain ⟨use, last, used, grew, result⟩ :=
    Client.executeOn_borrowed wire rested asks believed
  rw [result, Recorded.after, grew.record, List.append_assoc, orderly_append] at orderly
  obtain ⟨exchange, rest, rfl, asked⟩ := used.head
  have fits := orderly.2.1
  rw [asked, grew.path.head] at fits
  exact Bool.false_ne_true (closed.symm.trans fits)

theorem executeAll_rested (wire : Wire Store) (classify : String → Sql.Kind)
    (statements : List String) (shell : Shell World (Client (Recorded Store)))
    (rested : shell.store.pending = .idle) :
    (Remote.executeAll (Client.remote wire.recorded classify) statements
      shell).store.pending = .idle := by
  induction statements generalizing shell with
  | nil => exact rested
  | cons first rest ih =>
      obtain ⟨block, last, -, -, result⟩ := Client.executeOn_block wire first shell rested
      refine ih _ ?_
      rw [result]

theorem executeAll_direct (wire : Wire Store) (statements : List String)
    (shell : Shell World (Client (Recorded Store))) (rested : shell.store.pending = .idle)
    (direct : ∀ statement ∈ statements, classify statement ≠ .query) :
    (Remote.executeAll (Client.remote wire.recorded classify) statements shell).store =
      statements.foldl (fun client statement =>
        ⟨client.store.after wire (.statement statement), .idle,
          believedAfter wire classify statement client.store.server client.inTransaction⟩)
        shell.store := by
  induction statements generalizing shell with
  | nil => rfl
  | cons first rest ih =>
      have result := Client.executeOn_other wire rested
        (direct first List.mem_cons_self)
      have still : (Remote.executeOn (Client.remote wire.recorded classify) first
          shell).2.store.pending = .idle := by rw [result]
      rw [Remote.executeAll, List.foldl_cons, List.foldl_cons, ← result]
      exact ih _ still fun statement member => direct statement (List.mem_cons_of_mem _ member)

end Run

/-- On a fresh session outside every block, with a classifier that knows the commands of the server,
the session knows the block of the user after every statement exactly if no statement misleads it.
Then every request fits the block it is sent in. -/
theorem block_known_iff_unmisled (laws : wire.KeepsBlocks command? inBlock)
    (knows : Sql.Knows classify command?) (statements : List String) (session : Session)
    (world : World) (server : Store) (outside : inBlock server = false) :
    let start : Shell World (Client (Recorded Store)) := ⟨session, world, { store := { server } }⟩
    let after done := (Remote.executeAll (Client.remote wire.recorded classify) done start).store
    ((∀ done, done <+: statements → Agrees wire inBlock (after done)) ↔
      ∀ done statement, done ++ [statement] <+: statements →
        ¬ Misleads wire classify command? inBlock statement (after done).store.server) ∧
    ((∀ done, done <+: statements → Agrees wire inBlock (after done)) →
      Orderly wire inBlock none (after statements).store.exchanges) := by
  intro start after
  have settled : start.store.store.Settled wire inBlock := .of_closed outside trivial rfl
  have rests : Rests wire inBlock start.store := ⟨rfl, settled⟩
  have agrees : Agrees wire inBlock start.store := rests.agrees_iff.mpr outside.symm
  exact ⟨executeAll_agrees_iff laws knows statements start rests agrees,
    executeAll_orderly laws knows statements start rests⟩

section Runs

def plainCommands : List (String × Sql.Command) :=
  [("BEGIN", .begin), ("START TRANSACTION", .begin), ("COMMIT", .commit false),
    ("END", .commit false), ("ROLLBACK", .rollback false), ("COMMIT AND CHAIN", .commit true),
    ("ROLLBACK AND CHAIN", .rollback true), ("ROLLBACK TO SAVEPOINT a", .rollbackTo "a")]

def plainCommand? (text : String) : Option Sql.Command := plainCommands.lookup text

theorem knows_plainCommand : Sql.Knows Sql.Kind.ofText plainCommand? := by
  have listed : ∀ entry ∈ plainCommands, Sql.Kind.ofText entry.1 = entry.2.kind := by
    decide +kernel
  have known {text : String} {command : Sql.Command} (read : plainCommand? text = some command) :
      Sql.Kind.ofText text = command.kind := by
    obtain ⟨front, back, all, -⟩ := List.lookup_eq_some_iff.mp read
    exact listed (text, command) (by simp [all])
  exact ⟨known, known, known, known⟩

theorem selectOne_asks : Sql.Kind.ofText "SELECT 1" = .query := by
  decide +kernel

def freshOn (wire : Wire Bool) (statements : List String) : Client (Recorded Bool) :=
  (Remote.executeAll (Client.remote wire.recorded Sql.Kind.ofText) statements
    ⟨({} : Session), (), { store := { server := false } }⟩).store

def grantingWire : Wire Bool := .ofBlock plainCommand? fun _ => false

theorem misleads_of_granting {statement : String} {isOpen : Bool}
    (misleads : Misleads grantingWire Sql.Kind.ofText plainCommand? id statement isOpen) :
    (∃ command, plainCommand? statement = some command ∧ command.goesOn = true) ∨
      plainCommand? statement = none ∧ Sql.Kind.ofText statement ≠ .query := by
  have direct := misleads.ne_query knows_plainCommand
  cases misleads with
  | keeps read goesOn => exact .inl ⟨_, read, goesOn⟩
  | fails _ _ _ refused => exact (Bool.false_ne_true (Wire.ofBlock_refused refused)).elim
  | drops _ _ refused => exact (Bool.false_ne_true (Wire.ofBlock_refused refused)).elim
  | other unread => exact .inr ⟨unread, direct⟩
  | mistaken unread => exact .inr ⟨unread, direct⟩

theorem block_known_after_commit :
    grantingWire.KeepsBlocks plainCommand? id ∧ Sql.Knows Sql.Kind.ofText plainCommand? ∧
    id false = false ∧
    (∀ done, done <+: ["BEGIN", "SELECT 1", "COMMIT"] →
      Agrees grantingWire id (freshOn grantingWire done)) ∧
    Orderly grantingWire id none
      (freshOn grantingWire ["BEGIN", "SELECT 1", "COMMIT"]).store.exchanges := by
  have laws : grantingWire.KeepsBlocks plainCommand? id := Wire.ofBlock_keepsBlocks _ _
  have known := block_known_iff_unmisled laws knows_plainCommand ["BEGIN", "SELECT 1", "COMMIT"]
    {} () false rfl
  have agrees := known.1.mpr (by
    intro done statement front misleads
    have member := front.subset (List.mem_append_right done List.mem_cons_self)
    simp only [List.mem_cons, List.not_mem_nil, or_false] at member
    rcases misleads_of_granting misleads with ⟨command, read, goesOn⟩ | ⟨unread, direct⟩
    · rcases member with rfl | rfl | rfl
      · cases read
        cases goesOn
      · cases read
      · cases read
        cases goesOn
    · rcases member with rfl | rfl | rfl
      · cases unread
      · exact direct selectOne_asks
      · cases unread)
  exact ⟨laws, knows_plainCommand, rfl, agrees, known.2 agrees⟩

/-- A block is still open after a session went back to a savepoint, and the session takes it for
ended. The next query opens and ends a transaction inside it. -/
theorem block_unknown_after_savepoint :
    grantingWire.KeepsBlocks plainCommand? id ∧ Sql.Knows Sql.Kind.ofText plainCommand? ∧
    ¬ Agrees grantingWire id
      (freshOn grantingWire ["BEGIN", "SAVEPOINT a", "ROLLBACK TO SAVEPOINT a"]) ∧
    ¬ Orderly grantingWire id none
      (freshOn grantingWire
        ["BEGIN", "SAVEPOINT a", "ROLLBACK TO SAVEPOINT a", "SELECT 1"]).store.exchanges := by
  let statements := ["BEGIN", "SAVEPOINT a", "ROLLBACK TO SAVEPOINT a"]
  have direct : ∀ statement ∈ statements, Sql.Kind.ofText statement ≠ .query := by decide +kernel
  have result : freshOn grantingWire statements = _ := executeAll_direct _ _ _ rfl direct
  have rested : (freshOn grantingWire statements).pending = .idle :=
    executeAll_rested _ _ statements _ rfl
  have believed : (freshOn grantingWire statements).inTransaction = false := by
    rw [result]
    decide +kernel
  have opened : (freshOn grantingWire statements).store.opener grantingWire id = some .user := by
    rw [result]
    decide +kernel
  refine ⟨Wire.ofBlock_keepsBlocks _ _, knows_plainCommand, ?_,
    executeOn_intrudes rested selectOne_asks believed opened⟩
  intro agrees
  exact Bool.false_ne_true (believed.symm.trans (agrees.mpr opened))

/-- A block ends with the commit that fails, and the session takes it for open. The next query
declares its cursor outside every block. -/
theorem block_unknown_after_failed_commit :
    let wire := Wire.ofBlock plainCommand? (· = .statement "COMMIT")
    wire.KeepsBlocks plainCommand? id ∧ Sql.Knows Sql.Kind.ofText plainCommand? ∧
    ¬ Agrees wire id (freshOn wire ["BEGIN", "COMMIT"]) ∧
    ¬ Orderly wire id none (freshOn wire ["BEGIN", "COMMIT", "SELECT 1"]).store.exchanges := by
  intro wire
  let statements := ["BEGIN", "COMMIT"]
  have direct : ∀ statement ∈ statements, Sql.Kind.ofText statement ≠ .query := by decide +kernel
  have result : freshOn wire statements = _ := executeAll_direct _ _ _ rfl direct
  have rested : (freshOn wire statements).pending = .idle :=
    executeAll_rested _ _ statements _ rfl
  have believed : (freshOn wire statements).inTransaction = true := by
    rw [result]
    decide +kernel
  have closed : (freshOn wire statements).store.server = false := by
    rw [result]
    decide +kernel
  have unopened : (freshOn wire statements).store.opener wire id = none := by
    rw [result]
    decide +kernel
  refine ⟨Wire.ofBlock_keepsBlocks _ _, knows_plainCommand, ?_,
    executeOn_outside rested selectOne_asks believed closed⟩
  intro agrees
  cases unopened.symm.trans (agrees.mp believed)

end Runs

end QueryShell.Postgres
