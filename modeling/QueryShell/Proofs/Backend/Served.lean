import QueryShell.Proofs.Backend.Frame

/-!
What a local engine is asked for. A statement that the shell does not carry out itself is started
and released once, whatever comes of it in between.
-/

namespace QueryShell

variable {World Store : Type} {host : Host World} {engine : Engine Store}

open Shell (Steady)

def Engine.serve (engine : Engine Store) (statement : String) (store : Store) : Store :=
  engine.close (engine.start statement store).1 (engine.start statement store).2

def Engine.serveAll (engine : Engine Store) (statements : List String) (store : Store) : Store :=
  statements.foldl (fun store statement => engine.serve statement store) store

theorem Engine.serveAll_cons (statement : String) (rest : List String) (store : Store) :
    engine.serveAll (statement :: rest) store =
      engine.serveAll rest (engine.serve statement store) := rfl

theorem Engine.serveAll_append (first second : List String) (store : Store) :
    engine.serveAll (first ++ second) store =
      engine.serveAll second (engine.serveAll first store) :=
  List.foldl_append

/-- The first word of a directive is its own in any case of the letters. -/
theorem Directive.lower_of_ofWords? {first arguments : List Char} {directive : Directive}
    (claimed : ofWords? first arguments = some directive) :
    Text.lower first = directive.word.toList := by
  simp only [ofWords?] at claimed
  split at claimed
  · rename_i word
    cases claimed
    exact word
  · split at claimed
    · rename_i word
      cases claimed
      exact word
    · split at claimed
      · rename_i word
        cases claimed
        exact of_decide_eq_true (Bool.and_eq_true_iff.mp word).1
      · split at claimed
        · rename_i word
          cases claimed
          exact of_decide_eq_true (Bool.and_eq_true_iff.mp word).1
        · cases claimed

namespace Local

variable {shell : Shell World Store} {statement : String}

def begun (host : Host World) (statement : String) (shell : Shell World Store) :
    Shell World Store :=
  let shell := (shell.withWorld host.clock).2
  if shell.session.verbose then shell.echo statement else shell

def started (host : Host World) (engine : Engine Store) (statement : String)
    (shell : Shell World Store) : Shell World Store :=
  { begun host statement shell with store := (engine.start statement shell.store).2 }

theorem begun_steady (host : Host World) (statement : String) (shell : Shell World Store) :
    Steady shell (begun host statement shell) := by
  have clocked : Steady shell (shell.withWorld host.clock).2 := .of_withWorld rfl
  simp only [begun]
  split
  · exact clocked.trans (.echo statement _)
  · exact clocked

theorem withStore_begun (host : Host World) (engine : Engine Store) (statement : String)
    (shell : Shell World Store) :
    (begun host statement shell).withStore (engine.start statement) =
      ((engine.start statement shell.store).1, started host engine statement shell) := by
  simp only [Shell.withStore, (begun_steady host statement shell).store, started]

theorem runQuery_begun (host : Host World) (engine : Engine Store) (statement : String)
    (sideFile : Option String) (shell : Shell World Store) :
    runQuery host engine statement sideFile shell =
      let (execution, told) := (begun host statement shell).withStore (engine.start statement)
      if execution.response.isOk then
        let (code, last) := finish host engine sideFile execution told
        (code, printElapsed host (host.clock shell.world).1 last)
      else
        (execution.response.code, close engine execution
          (told.report (.query (execution.response.message.getD "")))) := rfl

theorem runQuery_of_ok (sideFile : Option String)
    (ok : (engine.start statement shell.store).1.response.isOk = true) :
    runQuery host engine statement sideFile shell =
      let (code, last) := finish host engine sideFile (engine.start statement shell.store).1
        (started host engine statement shell)
      (code, printElapsed host (host.clock shell.world).1 last) := by
  rw [runQuery_begun, withStore_begun]
  exact if_pos ok

theorem runQuery_of_refused (sideFile : Option String)
    (refused : ¬(engine.start statement shell.store).1.response.isOk = true) :
    runQuery host engine statement sideFile shell =
      let execution := (engine.start statement shell.store).1
      (execution.response.code, close engine execution
        ((started host engine statement shell).report
          (.query (execution.response.message.getD "")))) := by
  rw [runQuery_begun, withStore_begun]
  exact if_neg refused

/-- The release comes last, and only it touches the store. -/
theorem exists_finish_close (host : Host World) (engine : Engine Store) (sideFile : Option String)
    (execution : Execution) (shell : Shell World Store) :
    ∃ printed, Steady shell printed ∧
      (finish host engine sideFile execution shell).2 = close engine execution printed := by
  have header := printHeader_steady execution shell
  have opened := openCopy_steady host sideFile (printHeader execution shell)
  simp only [finish]
  generalize openCopy host sideFile (printHeader execution shell) = copying at opened ⊢
  have drained := drain_steady host execution.results copying.1 copying.2
  generalize drain host execution.results copying.1 copying.2 = drain at drained ⊢
  have closed := closeCopy_steady host drain.1 drain.2
  exact ⟨_, ((header.trans opened).trans drained).trans closed, rfl⟩

/-- A query changes no more of the session than its sinks and its log. Its statement is started and
released once. -/
theorem runQuery_serves (host : Host World) (engine : Engine Store) (statement : String)
    (sideFile : Option String) (shell : Shell World Store) :
    shell.session.Steady (runQuery host engine statement sideFile shell).2.session ∧
      (runQuery host engine statement sideFile shell).2.store =
        engine.serve statement shell.store := by
  have told : shell.session.Steady (started host engine statement shell).session :=
    (begun_steady host statement shell).session
  by_cases ok : (engine.start statement shell.store).1.response.isOk = true
  · obtain ⟨printed, steady, closed⟩ := exists_finish_close host engine sideFile
      (engine.start statement shell.store).1 (started host engine statement shell)
    have elapsed := printElapsed_steady host (host.clock shell.world).1
      (close engine (engine.start statement shell.store).1 printed)
    rw [runQuery_of_ok sideFile ok]
    dsimp only
    rw [closed]
    refine ⟨(told.trans steady.session).trans elapsed.session, ?_⟩
    rw [elapsed.store, close, steady.store]
    rfl
  · rw [runQuery_of_refused sideFile ok]
    exact ⟨told.trans (.report _ _), rfl⟩

theorem runQuery_store (statement : String) (sideFile : Option String)
    (shell : Shell World Store) :
    (runQuery host engine statement sideFile shell).2.store =
      engine.serve statement shell.store :=
  (runQuery_serves host engine statement sideFile shell).2

theorem runStatement_of_query (sideFile : Option String)
    (query : Directive.ofStatement? statement = none) (shell : Shell World Store) :
    runStatement host engine statement sideFile shell =
      runQuery host engine statement sideFile shell := by
  simp only [runStatement, query]

theorem runStatement_store_of_query (sideFile : Option String)
    (query : Directive.ofStatement? statement = none) (shell : Shell World Store) :
    (runStatement host engine statement sideFile shell).2.store =
      engine.serve statement shell.store := by
  rw [runStatement_of_query sideFile query]
  exact runQuery_store statement sideFile shell

theorem runStatement_store_of_directive (sideFile : Option String)
    (directed : Directive.ofStatement? statement ≠ none) (shell : Shell World Store) :
    (runStatement host engine statement sideFile shell).2.store = shell.store := by
  obtain ⟨⟨directive, arguments⟩, found⟩ := Option.ne_none_iff_exists'.mp directed
  simp only [runStatement, found]
  rw [Directive.store_run]
  split
  · exact (Steady.echo _ shell).store
  · rfl

end Local

end QueryShell
