import QueryShell.Proofs.Backend.Served
import QueryShell.Proofs.Remote.Paging
import QueryShell.Proofs.Run.Trace
import QueryShell.Scripted.Engine
import QueryShell.Scripted.Remote

/-!
What runs ask of a backend. A local engine releases every execution that it starts before the next
one, and a server is told to clean up once after every statement, whatever either of them answers
and wherever a run stops.
-/

namespace QueryShell

variable {World Store : Type}

open Relation (ReflTransGen)
open Shell (Steady)

inductive Backend.Round : Backend Store → Store → Store → Prop
  | local (engine : Engine Store) (statement : String) (store : Store) :
      Round (.local engine) store
        (engine.close (engine.start statement store).1 (engine.start statement store).2)
  | remote (server : Remote Store) (statement : String) {store last : Store}
      (fetched : ReflTransGen server.Fetch (server.execute statement store).2 last) :
      Round (.remote server) store (server.clean last).2

abbrev Backend.Rounds (backend : Backend Store) : Store → Store → Prop :=
  ReflTransGen backend.Round

theorem Shell.Steady.rounds {backend : Backend Store} {before after : Shell World Store}
    (steady : Steady before after) : backend.Rounds before.store after.store := by
  rw [steady.store]

namespace Local

variable {host : Host World} {engine : Engine Store}

theorem runQuery_round (statement : String) (sideFile : Option String)
    (shell : Shell World Store) :
    (Backend.local engine).Round shell.store
      (runQuery host engine statement sideFile shell).2.store := by
  rw [runQuery_store]
  exact .local engine statement shell.store

theorem runStatement_rounds (host : Host World) (engine : Engine Store) (statement : String)
    (sideFile : Option String) (shell : Shell World Store) :
    (Backend.local engine).Rounds shell.store
      (runStatement host engine statement sideFile shell).2.store := by
  simp only [runStatement]
  split
  · rename_i directive arguments _
    rw [Directive.store_run]
    split
    · exact (Steady.echo _ shell).rounds
    · exact .refl
  · exact .single (runQuery_round statement sideFile shell)

theorem runDerived_rounds (host : Host World) (engine : Engine Store) (statement : String)
    (shell : Shell World Store) :
    (Backend.local engine).Rounds shell.store
      (runDerived host engine statement shell).2.store :=
  (Steady.echo statement shell).rounds.trans (runStatement_rounds host engine statement none _)

theorem buildSamples_rounds (sample : Sample) (lines : List String) (code : Int)
    (shell : Shell World Store) :
    (Backend.local engine).Rounds shell.store
      (buildSamples host engine sample lines code shell).2.store := by
  induction lines generalizing code shell with
  | nil => exact .refl
  | cons line rest ih =>
      simp only [buildSamples]
      split
      · exact .refl
      · rename_i drop create _
        have dropped := runDerived_rounds host engine drop shell
        have created := runDerived_rounds host engine create (runDerived host engine drop shell).2
        exact (dropped.trans created).trans (ih _ _)

theorem runSample_rounds (statement : String) (shell : Shell World Store) :
    (Backend.local engine).Rounds shell.store
      (runSample host engine statement shell).2.store := by
  simp only [runSample]
  split
  · exact .refl
  · rename_i sample _
    have summary := runStatement_rounds host engine sample.summaryQuery
      (some shell.session.keySummaryFile) shell
    generalize runStatement host engine sample.summaryQuery _ shell = result at summary ⊢
    split
    · exact summary
    · split
      · rename_i read
        exact summary.trans (Steady.of_withWorld read).rounds
      · rename_i read
        exact (summary.trans (Steady.of_withWorld read).rounds).trans
          (buildSamples_rounds sample _ 0 _)

theorem execute_rounds (statement : String) (shell : Shell World Store) :
    (Backend.local engine).Rounds shell.store (execute host engine statement shell).2.store := by
  simp only [execute]
  split
  · exact runSample_rounds statement shell
  · exact runStatement_rounds host engine statement none shell

end Local

namespace Remote

theorem executeOn_round (server : Remote Store) (statement : String)
    (shell : Shell World Store) :
    (Backend.remote server).Round shell.store (executeOn server statement shell).2.store := by
  have fetched : ReflTransGen server.Fetch (server.execute statement shell.store).2
      (run server statement shell.session shell.store).2.2 := by
    simp only [run]
    split
    · rename_i failed
      rw [failed]
    · rename_i started
      rw [started]
      exact printPages_fetched server shell.session _
  rw [executeOn_store]
  exact .remote server statement fetched

end Remote

namespace Run

variable {platform : Platform World Store}

theorem dispatch_rounds (platform : Platform World Store) (statement : String) (depth : Nat)
    (shell : Shell World Store) :
    platform.backend.Rounds shell.store (dispatch platform statement depth shell).2.store := by
  simp only [dispatch]
  cases Command.ofStatement statement with
  | quit => exact .refl
  | source path =>
      have steady := loadSource_steady platform.host path depth shell
      rcases loaded : loadSource platform.host path depth shell with ⟨failure | text, after⟩
      · rw [loaded] at steady
        simp only [loaded]
        exact steady.rounds
      · rw [loaded] at steady
        simp only [loaded]
        exact steady.rounds
  | shell line => exact (Escape.run_steady platform.host line shell).rounds
  | list kind values => exact (Listing.run_steady kind values shell).rounds
  | query statement =>
      simp only [finished, query]
      rcases platform.backend with engine | server
      · exact Local.execute_rounds statement shell
      · exact .single (Remote.executeOn_round server statement shell)

theorem Linked.rounds {events : List (Event World Store)} {shell final : Shell World Store}
    (linked : Linked platform shell events final) :
    platform.backend.Rounds shell.store final.store := by
  induction linked with
  | nil => exact .refl
  | cons event asked _ ih =>
      have round := dispatch_rounds platform event.statement event.depth event.before
      rw [asked] at round
      exact round.trans ih

def series (platform : Platform World Store) (texts : List String) (shell : Shell World Store) :
    Shell World Store :=
  texts.foldl (fun shell text => (Run.text platform text shell).2) shell

theorem series_rounds (platform : Platform World Store) (texts : List String)
    (shell : Shell World Store) :
    platform.backend.Rounds shell.store (series platform texts shell).store := by
  induction texts generalizing shell with
  | nil => exact .refl
  | cons text rest ih => exact (textTrace_linked platform text shell).rounds.trans (ih _)

end Run

namespace Scripted

inductive Handle.Yields : Handle → Results → Prop
  | done {handle after : Handle} (fetched : handle.fetch = (.ok none, after)) :
      Yields handle .done
  | broken {handle after : Handle} {failure : Failure}
      (fetched : handle.fetch = (.error failure, after)) : Yields handle (.broken failure)
  | batch {handle after : Handle} {rows : List String} {next : Results}
      (fetched : handle.fetch = (.ok (some rows), after)) (later : Yields after next) :
      Yields handle (.batch rows next)

/-- A handle that has handed out all rows yields the end of its results. -/
theorem Handle.yields_ending (script : EngineScript) :
    Yields ⟨script, script.available.length, script.failAfter.isNone⟩ script.ending := by
  cases failing : script.failAfter with
  | none =>
      rw [EngineScript.ending, failing]
      exact .done rfl
  | some limit =>
      obtain ⟨count, message⟩ := limit
      have available : script.available.length = min count script.rows.length := by
        rw [EngineScript.available, failing, List.length_take]
      by_cases reached : count ≤ script.rows.length
      · have broke : count ≤ script.available.length := by omega
        have fetched : Handle.fetch ⟨script, script.available.length, false⟩ =
            (.error (.query message), ⟨script, script.available.length, true⟩) := by
          simp [fetch, failing, broke]
        simp only [EngineScript.ending, failing, if_pos reached]
        exact .broken fetched
      · have goes : ¬count ≤ script.available.length := by omega
        have fetched : Handle.fetch ⟨script, script.available.length, false⟩ =
            (.ok none, ⟨script, script.available.length, false⟩) := by
          simp [fetch, failing, goes]
        simp only [EngineScript.ending, failing, if_neg reached]
        exact .done fetched

theorem Handle.fetch_first (script : EngineScript) (some_row : ¬script.available.isEmpty) :
    Handle.fetch ⟨script, 0, false⟩ = (.ok (some script.available),
      ⟨script, script.available.length, script.failAfter.isNone⟩) := by
  cases failing : script.failAfter with
  | none => simp [fetch, failing, some_row]
  | some limit =>
      obtain ⟨count, message⟩ := limit
      have positive : ¬count ≤ 0 := by
        intro zero
        obtain rfl := Nat.le_zero.mp zero
        simp [EngineScript.available, failing] at some_row
      simp only [fetch, failing, if_neg positive]
      simp [some_row]

/-- A handle hands out the results that the engine gives for its statement. -/
theorem Handle.yields_results (statement : String) (state : EngineState) :
    (start statement state).2.1.Yields (engine.start statement state).1.results := by
  simp only [start, engine]
  generalize state.scriptOf statement = script
  by_cases rejected : script.rejection.isSome
  · simp only [EngineScript.results, rejected, if_true]
    exact .done rfl
  · have ending := yields_ending script
    simp only [EngineScript.results, rejected, Bool.false_eq_true, if_false]
    by_cases nothing : script.available.isEmpty
    · rw [if_pos nothing]
      rw [List.isEmpty_iff.mp nothing] at ending
      cases failing : script.failAfter with
      | none =>
          rw [EngineScript.ending, failing]
          exact .done (by simp [fetch, failing, nothing]; rfl)
      | some limit =>
          rw [failing] at ending
          exact ending
    · rw [if_neg nothing]
      exact .batch (fetch_first script nothing) ending

def EngineState.Balanced (state : EngineState) : Prop := state.closed = state.executed.length

theorem balanced_of_rounds {before after : EngineState}
    (rounds : (Backend.local engine).Rounds before after) (balanced : before.Balanced) :
    after.Balanced := by
  induction rounds with
  | refl => exact balanced
  | @tail state _ _ round ih =>
      have balance : state.closed = state.executed.length := ih
      cases round with
      | «local» _ statement =>
          show state.closed + 1 = (state.executed ++ [statement]).length
          rw [balance, List.length_append, List.length_singleton]

def RemoteState.Balanced (state : RemoteState) : Prop := state.cleanCalls = state.executed.length

def RemoteState.Owes (before after : RemoteState) : Prop :=
  after.executed.length = before.executed.length + 1 ∧ after.cleanCalls = before.cleanCalls

theorem RemoteState.owes_execute (statement : String) (state : RemoteState) :
    state.Owes (state.execute statement).2 := by
  simp only [RemoteState.execute]
  split
  · exact ⟨by simp, rfl⟩
  · exact ⟨by simp, rfl⟩

theorem RemoteState.Owes.fetch {before after : RemoteState} (owes : before.Owes after)
    (count : Nat) : before.Owes (after.fetch count).2 := by
  simp only [RemoteState.fetch]
  split
  · exact owes
  · exact owes

theorem owes_of_fetched {before first last : RemoteState} (owes : before.Owes first)
    (fetched : ReflTransGen remote.Fetch first last) : before.Owes last := by
  induction fetched with
  | refl => exact owes
  | tail _ page ih =>
      obtain ⟨count, rfl⟩ := page
      exact ih.fetch count

theorem cleaned_of_rounds {before after : RemoteState}
    (rounds : (Backend.remote remote).Rounds before after) (balanced : before.Balanced) :
    after.Balanced := by
  induction rounds with
  | refl => exact balanced
  | @tail state _ _ round ih =>
      have balance : state.cleanCalls = state.executed.length := ih
      cases round with
      | @remote _ statement _ last fetched =>
          obtain ⟨executed, cleaned⟩ :=
            owes_of_fetched (RemoteState.owes_execute statement state) fetched
          show last.cleanCalls + 1 = last.executed.length
          rw [executed, cleaned, balance]

end Scripted

/-- After any texts the scripted engine has released as many executions as it has started, and the
scripted server was told to clean up as often as it was sent a statement. -/
theorem Run.releases_match_executions (host : Host World) (texts : List String)
    (session : Session) (world : World) :
    (∀ scripts : List (String × Scripted.EngineScript),
      let final := (series ⟨host, .local Scripted.engine⟩ texts ⟨session, world, { scripts }⟩).store
      final.closed = final.executed.length) ∧
    (∀ (scripts : List (String × Scripted.RemoteScript)) (failsClean : Bool),
      let final := (series ⟨host, .remote Scripted.remote⟩ texts
        ⟨session, world, { scripts, failsClean }⟩).store
      final.cleanCalls = final.executed.length) := by
  constructor
  · intro scripts
    let start : Shell World Scripted.EngineState := ⟨session, world, { scripts }⟩
    have balanced : start.store.Balanced := rfl
    exact Scripted.balanced_of_rounds
      (series_rounds ⟨host, .local Scripted.engine⟩ texts start) balanced
  · intro scripts failsClean
    let start : Shell World Scripted.RemoteState := ⟨session, world, { scripts, failsClean }⟩
    have balanced : start.store.Balanced := rfl
    exact Scripted.cleaned_of_rounds
      (series_rounds ⟨host, .remote Scripted.remote⟩ texts start) balanced

end QueryShell
