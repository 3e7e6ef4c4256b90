import QueryShell.Proofs.Output.Outcome
import QueryShell.Proofs.Remote.Paging
import QueryShell.Scripted.Remote

/-!
One assignment of verdicts to statements, scripted for an engine and for a server. In either mode a
plain session on open sinks prints the rows of a statement, or reports its failure.
-/

namespace QueryShell

structure Session.Plain (session : Session) : Prop where
  quiet : session.verbose = false
  silent : session.silent = true
  headless : session.printsHeader = false
  unsampled : session.samples = false

namespace Scripted

inductive Verdict where
  | rows (columns lines : List String)
  | failure (code : Int) (message : String) (failing : code ≠ 0)

namespace Verdict

def engineScript : Verdict → EngineScript
  | rows columns lines => { schema := columns, rows := lines }
  | failure code message _ => { rejection := some (code, message) }

def remoteScript : Verdict → RemoteScript
  | rows _ lines => { lines }
  | failure code message _ => { rejection := some (.server code message) }

def message? : Verdict → Option String
  | rows .. => none
  | failure _ message _ => some message

end Verdict

abbrev Assignment := List (String × Verdict)

namespace Assignment

variable {assignment : Assignment} {statement : String}

def verdict (statement : String) (assignment : Assignment) : Verdict :=
  (assignment.lookup statement).getD (.rows [] [])

def engine (assignment : Assignment) : EngineState where
  scripts := assignment.map fun entry => (entry.1, entry.2.engineScript)

def server (assignment : Assignment) : RemoteState where
  scripts := assignment.map fun entry => (entry.1, entry.2.remoteScript)

def messages (statements : List String) (assignment : Assignment) : List String :=
  statements.filterMap fun statement => (assignment.verdict statement).message?

theorem messages_append (first second : List String) :
    assignment.messages (first ++ second) =
      assignment.messages first ++ assignment.messages second :=
  List.filterMap_append

theorem messages_single (statement : String) :
    assignment.messages [statement] = (assignment.verdict statement).message?.toList := by
  rw [messages, List.filterMap_cons]
  cases (assignment.verdict statement).message? with
  | none => rfl
  | some message => rfl

theorem lookup_map {Script : Type} (script : Verdict → Script) (assignment : Assignment)
    (statement : String) :
    (assignment.map fun entry => (entry.1, script entry.2)).lookup statement =
      (assignment.lookup statement).map script := by
  induction assignment with
  | nil => rfl
  | cons entry rest ih =>
      obtain ⟨key, verdict⟩ := entry
      simp only [List.map_cons, List.lookup_cons]
      by_cases same : statement == key
      · simp only [same, Option.map_some]
      · simp only [same, ih]

theorem engine_script (assignment : Assignment) (statement : String) :
    (assignment.engine.scripts.lookup statement).getD {} =
      (assignment.verdict statement).engineScript := by
  rw [engine, lookup_map, verdict]
  cases assignment.lookup statement with
  | none => rfl
  | some verdict => rfl

theorem server_script (assignment : Assignment) (statement : String) :
    (assignment.server.scripts.lookup statement).getD {} =
      (assignment.verdict statement).remoteScript := by
  rw [server, lookup_map, verdict]
  cases assignment.lookup statement with
  | none => rfl
  | some verdict => rfl

end Assignment

end Scripted

namespace Local

variable {World Store : Type} {host : Host World}

theorem execute_plain {engine : Engine Store} {shell : Shell World Store} {statement : String}
    (plain : shell.session.Plain) (query : Directive.ofStatement? statement = none) :
    execute host engine statement shell = runQuery host engine statement none shell := by
  simp only [execute, plain.unsampled, Bool.false_and, Bool.false_eq_true, if_false, runStatement,
    query]

open Scripted

variable {shell : Shell World EngineState} {statement : String}

theorem runQuery_rows {schema rows : List String} (plain : shell.session.Plain)
    (takes : shell.session.out.Open)
    (script : shell.store.scriptOf statement = { schema, rows }) :
    runQuery host engine statement none shell =
      (0, { session := shell.session.withOutput rows
            world := (host.clock (host.clock shell.world).2).2
            store := afterStatement statement shell.store }) := by
  have taken : (shell.store.scriptOf statement).rejection = none := by rw [script]
  have headless : heading statement (engine.start statement shell.store).1 shell.session = [] := by
    simp only [heading, echoLines, columnLines, plain.quiet, plain.headless, Bool.false_and,
      Bool.false_eq_true, if_false, List.append_nil]
  rw [runQuery_taken taken takes plain.silent, headless, script]
  rfl

theorem runQuery_failure {code : Int} {message : String} (plain : shell.session.Plain)
    (failing : code ≠ 0)
    (script : shell.store.scriptOf statement = { rejection := some (code, message) }) :
    runQuery host engine statement none shell =
      (code, { session := shell.session.report (.query message)
               world := (host.clock shell.world).2
               store := afterStatement statement shell.store }) := by
  simp [runQuery, Shell.withWorld, Shell.withStore, plain.quiet, engine, script,
    EngineScript.response, Response.failed, Response.isOk, failing, Shell.report, close,
    afterStatement]

end Local

namespace Scripted.RemoteState

structure Rested (state : RemoteState) : Prop where
  unread : state.lines = []
  unfailing : state.afterLines = none
  cleans : state.failsClean = false

structure Alike (before after : RemoteState) : Prop where
  scripts : after.scripts = before.scripts
  executed : after.executed = before.executed
  failsClean : after.failsClean = before.failsClean

theorem fetch_alike (count : Nat) (state : RemoteState) : Alike state (state.fetch count).2 := by
  simp only [fetch]
  split
  · exact ⟨rfl, rfl, rfl⟩
  · exact ⟨rfl, rfl, rfl⟩

theorem fetch_unfailing (count : Nat) {state : RemoteState} (unfailing : state.afterLines = none) :
    state.fetch count = (.ok (state.lines.take count), { state with
      fetchCalls := state.fetchCalls + 1, lines := state.lines.drop count }) := by
  simp only [fetch]
  split
  · rename_i failing
    rw [unfailing] at failing
    cases failing
  · rfl

theorem fetches_alike {before after : RemoteState}
    (fetched : Relation.ReflTransGen remote.Fetch before after) : Alike before after := by
  induction fetched with
  | refl => exact ⟨rfl, rfl, rfl⟩
  | @tail middle _ _ page ih =>
      obtain ⟨count, rfl⟩ := page
      have kept := fetch_alike count middle
      exact ⟨kept.scripts.trans ih.scripts, kept.executed.trans ih.executed,
        kept.failsClean.trans ih.failsClean⟩

structure After (statement : String) (before after : RemoteState) : Prop where
  scripts : after.scripts = before.scripts
  executed : after.executed = before.executed ++ [statement]
  rested : after.Rested

end Scripted.RemoteState

namespace Remote

open Scripted

variable {World : Type} {shell : Shell World RemoteState} {statement : String}

theorem settle_server {code : Int} (failing : code ≠ 0) (message : String) (session : Session) :
    settle (.error (.server code message)) session =
      (code, session.report (.server code message)) := by
  unfold settle
  split
  · rename_i same
    cases same
  · rename_i same
    cases same
    exact (failing rfl).elim
  · rename_i same
    cases same
    rfl

theorem executeOn_of_run {result : Except Failure Unit} {session : Session} {last : RemoteState}
    (ran : run remote statement shell.session shell.store = (result, session, last))
    (cleans : last.failsClean = false) :
    executeOn remote statement shell =
      ((settle result session).1, { shell with
        session := (settle result session).2
        store := { last with cleanCalls := last.cleanCalls + 1, lines := [], afterLines := none } }) := by
  have cleaned : remote.clean last = (.ok (),
      { last with cleanCalls := last.cleanCalls + 1, lines := [], afterLines := none }) := by
    simp [remote, RemoteState.clean, cleans]
  simp only [executeOn, ran, cleaned]

theorem executeOn_rows {rows : List String} (rested : shell.store.Rested)
    (takes : shell.session.out.Open)
    (script : (shell.store.scripts.lookup statement).getD {} = { lines := rows }) :
    ∃ store, executeOn remote statement shell =
        (0, { shell with session := shell.session.withOutput rows, store }) ∧
      shell.store.After statement store := by
  let begun : RemoteState := { shell.store with
    executed := shell.store.executed ++ [statement], lines := rows, afterLines := none }
  have executed : remote.execute statement shell.store = (.ok (), begun) := by
    simp only [remote, RemoteState.execute, script, begun]
  let Held (lines : List String) (state : RemoteState) : Prop :=
    state.lines = lines ∧ state.afterLines = none
  have hands : ∀ lines state, Held lines state → ∃ after,
      remote.fetch pageSize state = (.ok (lines.take pageSize), after) ∧
      (pageSize ≤ lines.length → Held (lines.drop pageSize) after) := by
    rintro lines state ⟨rfl, unfailing⟩
    exact ⟨_, RemoteState.fetch_unfailing pageSize unfailing, fun _ => ⟨rfl, unfailing⟩⟩
  obtain ⟨pages, last, paged, joined, -⟩ := exists_pages hands (show Held rows begun from ⟨rfl, rfl⟩)
  have printed := paged.printPages takes
  have fetched := printPages_fetched remote shell.session begun
  rw [printed] at fetched
  have kept := RemoteState.fetches_alike fetched
  have ran : run remote statement shell.session shell.store =
      (.ok (), shell.session.withOutput rows, last) := by
    rw [run, executed, ← joined]
    exact printed
  have cleans : last.failsClean = false := kept.failsClean.trans rested.cleans
  exact ⟨_, executeOn_of_run ran cleans, kept.scripts, kept.executed, rfl, rfl, cleans⟩

theorem executeOn_failure {code : Int} {message : String} (rested : shell.store.Rested)
    (failing : code ≠ 0)
    (script : (shell.store.scripts.lookup statement).getD {} =
      { rejection := some (.server code message) }) :
    ∃ store, executeOn remote statement shell =
        (code, { shell with session := shell.session.report (.server code message), store }) ∧
      shell.store.After statement store := by
  let refused : RemoteState :=
    { shell.store with executed := shell.store.executed ++ [statement] }
  have ran : run remote statement shell.session shell.store =
      (.error (.server code message), shell.session, refused) := by
    simp only [run, remote, RemoteState.execute, script, refused]
  have executed := executeOn_of_run ran rested.cleans
  rw [settle_server failing] at executed
  exact ⟨_, executed, rfl, rfl, rfl, rfl, rested.cleans⟩

end Remote

end QueryShell
