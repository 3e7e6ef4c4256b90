import QueryShell.Execution.Local
import QueryShell.Execution.Remote
import QueryShell.Proofs.Report.Log
import QueryShell.Scripted.Engine

/-!
What the statements of a backend report. A local statement that is not sampled is candid, but for
the code with which the engine releases it. A remote statement is candid up to the failure of its
cleanup, which is reported and leaves the code as it was.
-/

namespace QueryShell

variable {World Store : Type}

def Results.Graded : Results → Prop
  | .done => True
  | .broken failure => failure.code ≠ 0
  | .batch _ next => next.Graded

def Engine.Graded (engine : Engine Store) : Prop :=
  ∀ statement store, (engine.start statement store).1.results.Graded

namespace Local

theorem printRows_uncopied (host : Host World) (rows : List String) (copy : Copy)
    (shell : Shell World Store) (uncopied : copy.file = none) :
    (printRows host rows copy shell).2.1 = copy ∧
      (printRows host rows copy shell).2.2.session.reported = shell.session.reported := by
  induction rows generalizing shell with
  | nil => exact ⟨rfl, rfl⟩
  | cons row rest ih =>
      simp only [printRows]
      split
      · rename_i printed
        exact ⟨rfl, Shell.reported_of_printLine printed⟩
      · rename_i after printed
        simp only [copyRow, uncopied]
        obtain ⟨kept, reported⟩ := ih after
        exact ⟨kept, reported.trans (Shell.reported_of_printLine printed)⟩

theorem drain_uncopied (host : Host World) (results : Results) (graded : results.Graded)
    (copy : Copy) (shell : Shell World Store) (uncopied : copy.file = none) (zero : copy.code = 0) :
    (drain host results copy shell).1.file = none ∧
      Candid shell ((drain host results copy shell).1.code, (drain host results copy shell).2) := by
  induction results generalizing copy shell with
  | done =>
      refine ⟨uncopied, ?_⟩
      simp only [drain, zero]
      exact .of_silent rfl
  | broken failure => exact ⟨uncopied, .of_report graded rfl⟩
  | batch rows next ih =>
      obtain ⟨kept, reported⟩ := printRows_uncopied host rows copy shell uncopied
      simp only [drain]
      split
      · rename_i copied after printed
        rw [printed] at kept reported
        obtain rfl : copied = copy := kept
        obtain ⟨closed, candid⟩ := ih graded copied after uncopied zero
        exact ⟨closed, candid.of_same reported⟩
      · rename_i copied after printed
        rw [printed] at kept reported
        obtain rfl : copied = copy := kept
        refine ⟨uncopied, ?_⟩
        rw [zero]
        exact .of_silent reported

theorem reported_printHeader (execution : Execution) (shell : Shell World Store) :
    (printHeader execution shell).session.reported = shell.session.reported := by
  simp only [printHeader]
  split
  · exact Shell.reported_echo _
  · rfl

theorem reported_printElapsed (host : Host World) (start : Nat) (shell : Shell World Store) :
    (printElapsed host start shell).session.reported = shell.session.reported := by
  rcases asked : shell.withWorld host.clock with ⟨now, after⟩
  have same := Shell.reported_of_withWorld asked
  simp only [printElapsed, asked]
  split
  · rw [Shell.reported_printInfo, same]
  · exact same

structure Closed (execution : Execution) (before : Shell World Store)
    (result : Int × Shell World Store) : Prop where
  taken : execution.response.isOk = true
  code : result.1 = execution.closeCode
  silent : result.2.session.reported = before.session.reported

theorem finish_of_drain {host : Host World} {engine : Engine Store} {execution : Execution}
    {shell after : Shell World Store} {copy : Copy}
    (drained : drain host execution.results {} (printHeader execution shell) = (copy, after))
    (uncopied : copy.file = none) :
    finish host engine none execution shell =
      (if copy.code = 0 then execution.closeCode else copy.code, close engine execution after) := by
  simp only [finish, openCopy, drained, closeCopy, uncopied]

theorem finish_uncopied (host : Host World) (engine : Engine Store) (execution : Execution)
    (taken : execution.response.isOk = true) (graded : execution.results.Graded)
    (shell : Shell World Store) :
    Candid shell (finish host engine none execution shell) ∨
      Closed execution shell (finish host engine none execution shell) := by
  obtain ⟨uncopied, candid⟩ :=
    drain_uncopied host execution.results graded {} (printHeader execution shell) rfl rfl
  rcases drained : drain host execution.results {} (printHeader execution shell) with ⟨copy, after⟩
  rw [drained] at uncopied candid
  rw [finish_of_drain drained uncopied]
  obtain ⟨failures, reported, zero_iff⟩ := candid.of_same (reported_printHeader execution shell)
  by_cases zero : copy.code = 0
  · obtain rfl := zero_iff.mp zero
    right
    exact ⟨taken, by simp [zero], by simpa [close] using reported⟩
  · left
    exact ⟨failures, by simpa [close] using reported, by simpa [zero] using zero_iff⟩

theorem runQuery_started (host : Host World) (engine : Engine Store) (statement : String)
    (sideFile : Option String) (shell : Shell World Store) :
    ∃ start started, started.session.reported = shell.session.reported ∧
      runQuery host engine statement sideFile shell =
        let execution := (engine.start statement shell.store).1
        if execution.response.isOk then
          let result := finish host engine sideFile execution started
          (result.1, printElapsed host start result.2)
        else
          (execution.response.code,
            close engine execution
              (started.report (.query (execution.response.message.getD "")))) := by
  let begun : Shell World Store := { shell with world := (host.clock shell.world).2 }
  let echoed := if shell.session.verbose then begun.echo statement else begun
  refine ⟨(host.clock shell.world).1, (echoed.withStore (engine.start statement)).2, ?_, ?_⟩
  · cases verbose : shell.session.verbose with
    | false => simp [echoed, begun, verbose, Shell.withStore]
    | true => simp [echoed, begun, verbose, Shell.withStore]
  · cases verbose : shell.session.verbose with
    | false => simp [echoed, begun, verbose, runQuery, Shell.withStore, Shell.withWorld]
    | true =>
        simp [echoed, begun, verbose, runQuery, Shell.withStore, Shell.withWorld, Shell.echo,
          Shell.printLine]

theorem runQuery_uncopied (host : Host World) (engine : Engine Store) (graded : engine.Graded)
    (statement : String) (shell : Shell World Store) :
    Candid shell (runQuery host engine statement none shell) ∨
      Closed (engine.start statement shell.store).1 shell
        (runQuery host engine statement none shell) := by
  obtain ⟨start, started, same, result⟩ := runQuery_started host engine statement none shell
  rw [result]
  have graded_results := graded statement shell.store
  generalize (engine.start statement shell.store).1 = execution at graded_results ⊢
  dsimp only
  split
  · rename_i taken
    rcases finish_uncopied host engine execution taken graded_results started with candid | closed
    · left
      obtain ⟨failures, reported, zero_iff⟩ := candid.of_same same
      exact ⟨failures, (reported_printElapsed host start _).trans reported, zero_iff⟩
    · right
      obtain ⟨_, code, reported⟩ := closed
      exact ⟨taken, code, (reported_printElapsed host start _).trans (reported.trans same)⟩
  · rename_i rejected
    left
    exact .of_report (by simpa [Response.isOk] using rejected) same

/-- A statement that is not sampled either runs candidly or has the code of its release. -/
theorem execute_unsampled (host : Host World) (engine : Engine Store) (graded : engine.Graded)
    (statement : String) (shell : Shell World Store) (unsampled : shell.session.samples = false) :
    Candid shell (execute host engine statement shell) ∨
      Directive.ofStatement? statement = none ∧
        Closed (engine.start statement shell.store).1 shell
          (execute host engine statement shell) := by
  simp only [execute, unsampled, Bool.false_and, Bool.false_eq_true, if_false, runStatement]
  cases Directive.ofStatement? statement with
  | some called =>
      obtain ⟨directive, arguments⟩ := called
      left
      refine (Directive.run_candid host directive arguments _).of_same ?_
      split
      · exact Shell.reported_echo _
      · rfl
  | none =>
      rcases runQuery_uncopied host engine graded statement shell with candid | closed
      · exact .inl candid
      · exact .inr ⟨rfl, closed⟩

end Local

namespace Remote

theorem reported_printLines (lines : List String) (session : Session) :
    (printLines lines session).2.reported = session.reported := by
  induction lines generalizing session with
  | nil => rfl
  | cons line rest ih =>
      simp only [printLines]
      split
      · rename_i printed
        exact (ih _).trans (congrArg (fun result => result.2.reported) printed).symm
      · rename_i printed
        exact (congrArg (fun result => result.2.reported) printed).symm

/-- The recursion over the pages, without the evidence that it ends. -/
theorem printPages_eq (server : Remote Store) (session : Session) (store : Store) :
    printPages server session store =
      match server.fetch pageSize store with
      | (.error failure, store) => (.error failure, session, store)
      | (.ok lines, after) =>
          match printLines lines session with
          | (false, session) => (.ok (), session, after)
          | (true, session) =>
              if pageSize ≤ lines.length then printPages server session after
              else (.ok (), session, after) := by
  rw [printPages]
  split
  · rename_i fetched
    rw [fetched]
  · rename_i fetched
    rw [fetched]
    rfl

theorem reported_printPages (server : Remote Store) (session : Session) (store : Store) :
    (printPages server session store).2.1.reported = session.reported := by
  induction session, store using printPages.induct server with
  | case1 session store failure left fetched =>
      rw [printPages_eq, fetched]
  | case2 session store lines after fetched printed refused =>
      have same := reported_printLines lines session
      rw [refused] at same
      rw [printPages_eq, fetched]
      simpa [refused] using same
  | case3 session store lines after fetched printed accepted full ih =>
      have same := reported_printLines lines session
      rw [accepted] at same
      rw [printPages_eq, fetched]
      simpa [accepted, full] using ih.trans same
  | case4 session store lines after fetched printed accepted short =>
      have same := reported_printLines lines session
      rw [accepted] at same
      rw [printPages_eq, fetched]
      simpa [accepted, short] using same

theorem reported_run (server : Remote Store) (statement : String) (session : Session)
    (store : Store) : (run server statement session store).2.1.reported = session.reported := by
  simp only [run]
  split
  · rfl
  · exact reported_printPages server session _

theorem settle_reported (result : Except Failure Unit) (session : Session) :
    ∃ failures, (settle result session).2.reported = session.reported ++ failures ∧
      ((settle result session).1 = 0 ↔ failures = []) := by
  simp only [settle]
  split
  · exact ⟨[], by simp, by simp⟩
  · exact ⟨[], by simp, by simp⟩
  · rename_i failure marked
    have nonzero : failure.code ≠ 0 := by
      intro zero
      cases failure with
      | server code text => exact marked text (congrArg (Failure.server · text) zero)
      | transport text => simp [Failure.code, Failure.transportCode] at zero
      | _ => simp [Failure.code] at zero
    exact ⟨[failure], by simp, by simp [nonzero]⟩

def cleanFailures (server : Remote Store) (statement : String) (shell : Shell World Store) :
    List Failure :=
  match (server.clean (run server statement shell.session shell.store).2.2).1 with
  | .ok () => []
  | .error failure => [failure]

theorem executeOn_reported (server : Remote Store) (statement : String)
    (shell : Shell World Store) :
    ∃ failures,
      (executeOn server statement shell).2.session.reported =
        shell.session.reported ++ failures ++ cleanFailures server statement shell ∧
      ((executeOn server statement shell).1 = 0 ↔ failures = []) := by
  have same := reported_run server statement shell.session shell.store
  rcases ran : run server statement shell.session shell.store with ⟨result, session, store⟩
  obtain ⟨failures, reported, zero_iff⟩ := settle_reported result session
  rw [ran] at same
  rw [same] at reported
  simp only [executeOn, cleanFailures, ran]
  rcases server.clean store with ⟨failure | _, left⟩
  · exact ⟨failures, by simp [reported], zero_iff⟩
  · exact ⟨failures, by simp [reported], zero_iff⟩

end Remote

theorem Scripted.engine_graded : Scripted.engine.Graded := by
  intro statement store
  have ending (script : EngineScript) : script.ending.Graded := by
    simp only [EngineScript.ending]
    split
    · split
      · simp [Results.Graded, Failure.code]
      · trivial
    · trivial
  simp only [engine, EngineScript.results]
  split
  · trivial
  · split
    · exact ending _
    · exact ending _

end QueryShell
