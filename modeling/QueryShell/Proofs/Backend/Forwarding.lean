import QueryShell.Machine
import QueryShell.Proofs.Backend.Served
import QueryShell.Proofs.Remote.Paging
import QueryShell.Proofs.Run.Order
import QueryShell.Proofs.Text.Case
import QueryShell.Proofs.Text.Trim
import QueryShell.Scripted.Engine
import QueryShell.Scripted.Remote

/-!
Which statements reach the backend. A query is forwarded as it was split from its text, unless it is
a directive in local mode. A server gets directives too, and no statement then changes the variables
or the resources of the session.
-/

namespace QueryShell

variable {World Store : Type}

open Relation (ReflTransGen)
open Shell (Steady)

def Command.isQuery : Command → Bool
  | .query _ => true
  | _ => false

def Run.reachesServer (statement : String) : Bool := (Command.ofStatement statement).isQuery

def Run.reachesEngine (statement : String) : Bool :=
  reachesServer statement && (Directive.ofStatement? statement).isNone

theorem Command.eq_of_query {statement query : String}
    (asked : ofStatement statement = .query query) : query = Text.trimmed statement := by
  simp only [ofStatement, ofTrimmed] at asked
  split at asked
  · cases asked
  · split at asked
    · cases asked
    · split at asked
      · cases asked
      · split at asked
        · cases asked
        · exact (Command.query.inj asked).symm

namespace Directive

open Text

theorem lower_of_word_append {first : List Char} {directive : Directive}
    (named : lower first = directive.word.toList) (rest : List Char) :
    ∃ later, lower (first ++ rest) = directive.word.toList ++ later := by
  rw [← named]
  refine lower_append ?_ rest
  rw [named]
  cases directive with
  | set | reset | add | delete => decide

theorem reachesServer_of_directive {statement : String}
    (directed : ofStatement? statement ≠ none) : Run.reachesServer statement = true := by
  obtain ⟨⟨directive, arguments⟩, found⟩ := Option.ne_none_iff_exists'.mp directed
  obtain ⟨_, claimed, ⟨⟩⟩ := Option.map_eq_some_iff.mp found
  have named := lower_of_ofWords? claimed
  have cut : (trim statement.toList).takeWhile (fun char => !isBlank char) ++
      (trim statement.toList).dropWhile (fun char => !isBlank char) = trim statement.toList :=
    List.takeWhile_append_dropWhile
  simp only [Run.reachesServer, Command.ofStatement, Command.ofTrimmed, firstWord, trim_trim]
  generalize trim statement.toList = text at *
  generalize text.takeWhile (fun char => !isBlank char) = first at *
  generalize text.dropWhile (fun char => !isBlank char) = rest at *
  obtain ⟨later, lowered⟩ := lower_of_word_append named rest
  rw [cut] at lowered
  have stays : lower text ∉ Command.quitWords := by
    rw [lowered]
    cases directive with
    | set | reset | add | delete => simp [Command.quitWords, word]
  have unsourced : lower first ≠ "source".toList := by
    rw [named]
    cases directive with
    | set | reset | add | delete => decide
  have unlisted : lower first ≠ "list".toList := by
    rw [named]
    cases directive with
    | set | reset | add | delete => decide
  rw [if_neg stays, if_neg unsourced]
  split
  · rename_i line
    obtain ⟨others, escaped⟩ := lower_cons_of_ascii '!' (by decide) line
    rw [lowered] at escaped
    cases directive with
    | set | reset | add | delete => simp [word] at escaped
  · rw [if_neg unlisted]
    rfl

end Directive

structure Engine.Logs (engine : Engine Store) (log : Store → List String) : Prop where
  start : ∀ statement store, log (engine.start statement store).2 = log store ++ [statement]
  close : ∀ execution store, log (engine.close execution store) = log store

structure Remote.Logs (server : Remote Store) (log : Store → List String) : Prop where
  execute : ∀ statement store, log (server.execute statement store).2 = log store ++ [statement]
  fetch : ∀ count store, log (server.fetch count store).2 = log store
  clean : ∀ store, log (server.clean store).2 = log store

theorem Scripted.engine_logs : engine.Logs EngineState.executed := ⟨fun _ _ => rfl, fun _ _ => rfl⟩

theorem Scripted.remote_logs : remote.Logs RemoteState.executed where
  execute statement state := by
    simp only [remote, RemoteState.execute]
    split
    · rfl
    · rfl
  fetch count state := by
    simp only [remote, RemoteState.fetch]
    split
    · rfl
    · rfl
  clean state := rfl

theorem Engine.Logs.serveAll {engine : Engine Store} {log : Store → List String}
    (logs : engine.Logs log) (statements : List String) (store : Store) :
    log (engine.serveAll statements store) = log store ++ statements := by
  induction statements generalizing store with
  | nil => exact (List.append_nil _).symm
  | cons statement rest ih =>
      have first : log (engine.serve statement store) = log store ++ [statement] :=
        (logs.close _ _).trans (logs.start statement store)
      have later := ih (engine.serve statement store)
      rw [first, List.append_assoc, List.singleton_append] at later
      exact later

namespace Remote

variable {server : Remote Store}

theorem printLines_steady (lines : List String) (session : Session) :
    session.Steady (printLines lines session).2 := by
  induction lines generalizing session with
  | nil => exact .refl session
  | cons line rest ih =>
      have printed := Session.Steady.printLine line session
      simp only [printLines]
      split
      · rename_i outcome
        rw [outcome] at printed
        exact printed.trans (ih _)
      · rename_i outcome
        rw [outcome] at printed
        exact printed

theorem printPages_steady (server : Remote Store) (session : Session) (store : Store) :
    session.Steady (printPages server session store).2.1 := by
  induction session, store using printPages.induct server with
  | case1 session store failure left fetched =>
      rw [printPages_eq, fetched]
      exact .refl session
  | case2 session store lines after fetched printed refused =>
      have steady := printLines_steady lines session
      rw [refused] at steady
      rw [printPages_eq, fetched]
      simp only [refused]
      exact steady
  | case3 session store lines after fetched printed accepted full ih =>
      have steady := printLines_steady lines session
      rw [accepted] at steady
      rw [printPages_eq, fetched]
      simp only [accepted, full, if_true]
      exact steady.trans ih
  | case4 session store lines after fetched printed accepted short =>
      have steady := printLines_steady lines session
      rw [accepted] at steady
      rw [printPages_eq, fetched]
      simp only [accepted, short, if_false]
      exact steady

theorem settle_steady (result : Except Failure Unit) (session : Session) :
    session.Steady (settle result session).2 := by
  simp only [settle]
  split
  · exact .refl session
  · exact .refl session
  · exact .report _ session

theorem executeOn_steady (server : Remote Store) (statement : String) (shell : Shell World Store) :
    shell.session.Steady (executeOn server statement shell).2.session := by
  have ran : shell.session.Steady (run server statement shell.session shell.store).2.1 := by
    simp only [run]
    split
    · exact .refl _
    · exact printPages_steady server shell.session _
  have settled := ran.trans (settle_steady (run server statement shell.session shell.store).1 _)
  simp only [executeOn]
  split
  · exact settled
  · exact settled.trans (.report _ _)

theorem Logs.executeOn {log : Store → List String} (logs : server.Logs log) (statement : String)
    (shell : Shell World Store) :
    log (executeOn server statement shell).2.store = log shell.store ++ [statement] := by
  have fetched {before after : Store} (fetches : ReflTransGen server.Fetch before after) :
      log after = log before := by
    induction fetches with
    | refl => rfl
    | tail _ page ih =>
        obtain ⟨count, rfl⟩ := page
        exact (logs.fetch count _).trans ih
  have sent := logs.execute statement shell.store
  rw [executeOn_store, logs.clean]
  simp only [run]
  split
  · rename_i refused
    rw [refused] at sent
    exact sent
  · rename_i started
    rw [started] at sent
    exact (fetched (printPages_fetched server shell.session _)).trans sent

end Remote

namespace Run

variable {host : Host World} {engine : Engine Store} {server : Remote Store}
  {shell final : Shell World Store}

/-- A command that is no query leaves the store alone and changes no more than the sinks and the log
of the session. -/
theorem dispatch_steady_of_not_query (platform : Platform World Store) {statement : String}
    (other : ¬reachesServer statement = true) (depth : Nat) (shell : Shell World Store) :
    Steady shell (dispatch platform statement depth shell).2 := by
  rw [reachesServer] at other
  simp only [dispatch]
  cases command : Command.ofStatement statement with
  | quit => exact .refl shell
  | source path =>
      have steady := loadSource_steady platform.host path depth shell
      rcases loaded : loadSource platform.host path depth shell with ⟨failure | text, after⟩
      · rw [loaded] at steady
        simp only [loaded]
        exact steady.trans (.report failure after)
      · rw [loaded] at steady
        simp only [loaded]
        exact steady
  | shell line => exact Escape.run_steady platform.host line shell
  | list kind values => exact Listing.run_steady kind values shell
  | query query => simp [command, Command.isQuery] at other

theorem dispatch_of_query (platform : Platform World Store) {statement : String}
    (asked : reachesServer statement = true) (depth : Nat) (shell : Shell World Store) :
    dispatch platform statement depth shell =
      finished (query platform (Text.trimmed statement) shell) := by
  rw [reachesServer] at asked
  simp only [dispatch]
  cases command : Command.ofStatement statement with
  | query forwarded => rw [Command.eq_of_query command]
  | quit | source | shell | list => simp [command, Command.isQuery] at asked

theorem dispatch_local_store (host : Host World) (engine : Engine Store) {statement : String}
    (neat : Text.trimmed statement = statement) (depth : Nat)
    (unsampled : shell.session.samples = false) :
    (dispatch ⟨host, .local engine⟩ statement depth shell).2.store =
      engine.serveAll ([statement].filter reachesEngine) shell.store := by
  by_cases query : reachesServer statement
  · have executed : Local.execute host engine statement shell =
        Local.runStatement host engine statement none shell := by
      simp [Local.execute, unsampled]
    rw [dispatch_of_query _ query, neat]
    simp only [finished, Run.query, executed]
    by_cases directed : Directive.ofStatement? statement = none
    · have reaches : reachesEngine statement = true := by
        simp [reachesEngine, query, directed]
      rw [List.filter_cons_of_pos reaches]
      exact Local.runStatement_store_of_query none directed shell
    · have claimed : ¬reachesEngine statement = true := by
        simp [reachesEngine, directed]
      rw [List.filter_cons_of_neg claimed]
      exact Local.runStatement_store_of_directive none directed shell
  · have unasked : ¬reachesEngine statement = true := by
      simp [reachesEngine, query]
    rw [List.filter_cons_of_neg unasked]
    exact (dispatch_steady_of_not_query _ query depth shell).store

theorem Linked.store_of_local {events : List (Event World Store)}
    (linked : Linked ⟨host, .local engine⟩ shell events final)
    (neat : ∀ event ∈ events, Text.trimmed event.statement = event.statement)
    (unsampled : ∀ event ∈ events, event.before.session.samples = false) :
    final.store =
      engine.serveAll ((events.map Event.statement).filter reachesEngine) shell.store := by
  induction linked with
  | nil => rfl
  | @cons events _ event asked _ ih =>
      obtain ⟨first_neat, neat⟩ := List.forall_mem_cons.mp neat
      obtain ⟨first_unsampled, unsampled⟩ := List.forall_mem_cons.mp unsampled
      have first := dispatch_local_store host engine first_neat event.depth first_unsampled
      rw [asked] at first
      rw [ih neat unsampled, first, ← Engine.serveAll_append, ← List.filter_append]
      rfl

theorem dispatch_remote_log (host : Host World) {log : Store → List String}
    (logs : server.Logs log) {statement : String} (neat : Text.trimmed statement = statement)
    (depth : Nat) (shell : Shell World Store) :
    log (dispatch ⟨host, .remote server⟩ statement depth shell).2.store =
      log shell.store ++ [statement].filter reachesServer := by
  by_cases query : reachesServer statement
  · rw [List.filter_cons_of_pos query]
    rw [dispatch_of_query _ query, neat]
    exact logs.executeOn statement shell
  · have steady := dispatch_steady_of_not_query ⟨host, .remote server⟩ query depth shell
    rw [steady.store, List.filter_cons_of_neg query]
    exact (List.append_nil _).symm

theorem Linked.log_of_remote {log : Store → List String} (logs : server.Logs log)
    {events : List (Event World Store)}
    (linked : Linked ⟨host, .remote server⟩ shell events final)
    (neat : ∀ event ∈ events, Text.trimmed event.statement = event.statement) :
    log final.store = log shell.store ++ (events.map Event.statement).filter reachesServer := by
  induction linked with
  | nil => exact (List.append_nil _).symm
  | @cons events _ event asked _ ih =>
      obtain ⟨first_neat, neat⟩ := List.forall_mem_cons.mp neat
      have first := dispatch_remote_log host logs first_neat event.depth event.before
      rw [asked] at first
      rw [ih neat, first, List.append_assoc, ← List.filter_append]
      rfl

theorem dispatch_remote_steady (host : Host World) (server : Remote Store) (statement : String)
    (depth : Nat) (shell : Shell World Store) :
    shell.session.Steady (dispatch ⟨host, .remote server⟩ statement depth shell).2.session := by
  by_cases query : reachesServer statement
  · rw [dispatch_of_query _ query]
    exact Remote.executeOn_steady server _ shell
  · exact (dispatch_steady_of_not_query _ query depth shell).session

theorem Linked.steady_of_remote {events : List (Event World Store)}
    (linked : Linked ⟨host, .remote server⟩ shell events final) :
    shell.session.Steady final.session := by
  induction linked with
  | nil => exact .refl _
  | cons event asked _ ih =>
      have first := dispatch_remote_steady host server event.statement event.depth event.before
      rw [asked] at first
      exact first.trans ih

theorem textTrace_neat (platform : Platform World Store) (text : String)
    (shell : Shell World Store) :
    ∀ event ∈ textTrace platform text shell,
      Text.trimmed event.statement = event.statement := by
  obtain ⟨stop, carried, -⟩ := textTrace_carried platform text shell
  exact carried.trimmed fun statement member => (Statement.neat_of_mem_split member).2

/-- A run carries out statements in order up to where it stops. Those of them that are queries reach
the backend, each once and as it was split from its text, except for directives in local mode. In
remote mode the session keeps all but its sinks and its log. -/
theorem queries_forwarded (host : Host World) (text : String) :
    (∀ (Store : Type) (platform : Platform World Store) (shell : Shell World Store),
      Linked platform shell (textTrace platform text shell) (Run.text platform text shell).2 ∧
      ∃ stop, Carried 1 (Statement.split text) (textTrace platform text shell) stop ∧
        Outcome.AtStop (Run.text platform text shell).1 stop) ∧
    (∀ shell : Shell World Scripted.EngineState,
      let platform : Platform World Scripted.EngineState := ⟨host, .local Scripted.engine⟩
      (∀ event ∈ textTrace platform text shell, event.before.session.samples = false) →
      (Run.text platform text shell).2.store.executed = shell.store.executed ++
        ((textTrace platform text shell).map Event.statement).filter reachesEngine) ∧
    (∀ shell : Shell World Scripted.RemoteState,
      let platform : Platform World Scripted.RemoteState := ⟨host, .remote Scripted.remote⟩
      (Run.text platform text shell).2.store.executed = shell.store.executed ++
        ((textTrace platform text shell).map Event.statement).filter reachesServer ∧
      shell.session.Steady (Run.text platform text shell).2.session) ∧
    ∀ statement, Directive.ofStatement? statement ≠ none → reachesServer statement = true := by
  refine ⟨?_, ?_, ?_, ?_⟩
  · intro Store platform shell
    exact ⟨textTrace_linked platform text shell, textTrace_carried platform text shell⟩
  · intro shell platform unsampled
    have linked := textTrace_linked platform text shell
    rw [linked.store_of_local (textTrace_neat platform text shell) unsampled]
    exact Scripted.engine_logs.serveAll _ shell.store
  · intro shell platform
    have linked := textTrace_linked platform text shell
    exact ⟨linked.log_of_remote Scripted.remote_logs (textTrace_neat platform text shell),
      linked.steady_of_remote⟩
  · intro statement directed
    exact Directive.reachesServer_of_directive directed

theorem queries_forwarded_around_reset :
    let platform : Platform Machine Scripted.EngineState := ⟨Machine.host, .local Scripted.engine⟩
    (∀ event ∈ textTrace platform "one; reset; two" ⟨{}, {}, {}⟩,
      event.before.session.samples = false) ∧
    (Run.text platform "one; reset; two" ⟨{}, {}, {}⟩).2.store.executed = ["one", "two"] := by
  intro platform
  let asked : Shell Machine Scripted.EngineState := ⟨{}, {}, { executed := ["one"], closed := 1 }⟩
  have first : advance platform [Frame.ofText "one; reset; two"] ⟨{}, {}, {}⟩ =
      (.running [{ unread := [" reset;".toList, " two".toList] }], asked) := rfl
  have second : advance platform [{ unread := [" reset;".toList, " two".toList] }] asked =
      (.running [{ unread := [" two".toList] }], asked) := rfl
  have third : advance platform [{ unread := [" two".toList] }] asked =
      (.running [{ unread := [] }],
        ⟨{}, {}, { executed := ["one", "two"], closed := 2 }⟩) := rfl
  have traced : textTrace platform "one; reset; two" ⟨{}, {}, {}⟩ =
      (event? platform [Frame.ofText "one; reset; two"] ⟨{}, {}, {}⟩).toList ++
        ((event? platform [{ unread := [" reset;".toList, " two".toList] }] asked).toList ++
          ((event? platform [{ unread := [" two".toList] }] asked).toList ++ [])) := by
    rw [textTrace, trace_of_running first, trace_of_running second, trace_of_running third,
      trace_of_ended rfl]
    rfl
  have unsampled : ∀ event ∈ textTrace platform "one; reset; two" ⟨{}, {}, {}⟩,
      event.before.session.samples = false := by
    rw [traced]
    simp only [List.forall_mem_append, Option.mem_toList]
    refine ⟨?_, ?_, ?_, ?_⟩
    · rintro event ⟨⟩
      decide
    · rintro event ⟨⟩
      decide
    · rintro event ⟨⟩
      decide
    · simp
  have statements : (textTrace platform "one; reset; two" ⟨{}, {}, {}⟩).map Event.statement =
      ["one", "reset", "two"] := by
    rw [traced]
    rfl
  have executed := (queries_forwarded Machine.host "one; reset; two").2.1 ⟨{}, {}, {}⟩ unsampled
  rw [statements] at executed
  exact ⟨unsampled, executed.trans (by decide +kernel)⟩

end Run

end QueryShell
