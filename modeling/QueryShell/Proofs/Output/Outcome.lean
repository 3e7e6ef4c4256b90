import QueryShell.Proofs.Backend.Rounds
import QueryShell.Proofs.Output.Streaming

/-!
What a statement comes to whose results are scripted: the lines that it prints, its code and its
errors, read off the script.
-/

namespace QueryShell

namespace Scripted.EngineScript

structure Outcome where
  lines : List String
  code : Int
  errors : List String
deriving DecidableEq, Repr

/-- A statement that is rejected prints no more than itself. Otherwise the names of the columns and
the rows follow, and results that break off have the code of a query error. -/
def outcome (statement : String) (verbose header : Bool) (script : EngineScript) : Outcome :=
  let echo := if verbose then [statement] else []
  let columns :=
    if header && !script.schema.isEmpty then ["\t".intercalate script.schema] else []
  match script.rejection, script.failAfter with
  | some (code, message), _ => ⟨echo, code, [message]⟩
  | none, some (count, message) =>
      if count ≤ script.rows.length then ⟨echo ++ columns ++ script.rows.take count, 1, [message]⟩
      else ⟨echo ++ columns ++ script.rows, script.closeCode, []⟩
  | none, none => ⟨echo ++ columns ++ script.rows, script.closeCode, []⟩

variable {script : EngineScript}

theorem results_of_taken (taken : script.rejection = none) :
    script.results.rows = script.available ∧ script.results.failure? = script.ending.failure? := by
  have ended : script.ending.rows = [] := by
    rw [ending]
    split
    · split
      · rfl
      · rfl
    · rfl
  simp only [results, taken, Option.isSome_none, Bool.false_eq_true, if_false]
  by_cases nothing : script.available.isEmpty
  · rw [if_pos nothing, ended, List.isEmpty_iff.mp nothing]
    exact ⟨rfl, rfl⟩
  · rw [if_neg nothing, Results.rows, ended, List.append_nil]
    exact ⟨rfl, rfl⟩

end Scripted.EngineScript

namespace Local

open Remote (reportAll)
open Scripted

variable {World : Type} {host : Host World} {statement : String} {shell : Shell World EngineState}

def afterStatement (statement : String) (state : EngineState) : EngineState :=
  { state with executed := state.executed ++ [statement], closed := state.closed + 1 }

theorem start_eq (statement : String) (state : EngineState) :
    engine.start statement state =
      ({ response := (state.scriptOf statement).response
         schema := (state.scriptOf statement).schema
         results := (state.scriptOf statement).results
         closeCode := (state.scriptOf statement).closeCode },
        { state with executed := state.executed ++ [statement] }) := rfl

theorem runQuery_rejected {code : Int} {message : String}
    (rejected : (shell.store.scriptOf statement).rejection = some (code, message))
    (coded : code ≠ 0) (takes : shell.session.out.Open) :
    runQuery host engine statement none shell =
      (code,
        { session := (shell.session.withOutput (echoLines statement shell.session)).report
            (.query message)
          world := (host.clock shell.world).2
          store := afterStatement statement shell.store }) := by
  have response : (engine.start statement shell.store).1.response = .failed code message := by
    rw [start_eq, EngineScript.response, rejected]
  have refused : ¬(engine.start statement shell.store).1.response.isOk = true := by
    rw [response, Response.failed, Response.isOk, decide_eq_true_eq]
    exact coded
  have begun : begun host statement shell =
      { shell with
        session := shell.session.withOutput (echoLines statement shell.session)
        world := (host.clock shell.world).2 } := by
    rw [begun_eq, takes.writeLines]
    rfl
  rw [runQuery_of_refused none refused, started, begun]
  simp only [response]
  rfl

theorem runQuery_taken (taken : (shell.store.scriptOf statement).rejection = none)
    (takes : shell.session.out.Open) (silent : shell.session.silent = true) :
    let script := shell.store.scriptOf statement
    let failure? := script.ending.failure?
    let code := (failure?.map Failure.code).getD 0
    runQuery host engine statement none shell =
      (if code = 0 then script.closeCode else code,
        { session := reportAll failure?.toList (shell.session.withOutput
            (heading statement (engine.start statement shell.store).1 shell.session ++
              script.available))
          world := (host.clock (host.clock shell.world).2).2
          store := afterStatement statement shell.store }) := by
  intro script failure? code
  have response : (engine.start statement shell.store).1.response = {} := by
    rw [start_eq, EngineScript.response, taken]
  have ok : (engine.start statement shell.store).1.response.isOk = true := by
    rw [response]
    rfl
  obtain ⟨rows, ending⟩ := EngineScript.results_of_taken taken
  have results : (engine.start statement shell.store).1.results = script.results := rfl
  rw [runQuery_streamed_open none ok takes, results, rows, ending, printElapsed_silent]
  · rfl
  · rw [reportAll_eq]
    exact silent

theorem exists_runQuery_outcome (host : Host World) (takes : shell.session.out.Open)
    (silent : shell.session.silent = true)
    (coded : ∀ code message,
      (shell.store.scriptOf statement).rejection = some (code, message) → code ≠ 0) :
    let outcome := (shell.store.scriptOf statement).outcome statement shell.session.verbose
      shell.session.printsHeader
    ∃ world, runQuery host engine statement none shell =
      (outcome.code,
        { session := reportAll (outcome.errors.map .query) (shell.session.withOutput outcome.lines)
          world
          store := afterStatement statement shell.store }) := by
  cases rejected : (shell.store.scriptOf statement).rejection with
  | some refusal =>
      obtain ⟨code, message⟩ := refusal
      rw [runQuery_rejected rejected (coded code message rejected) takes]
      simp only [EngineScript.outcome, rejected]
      exact ⟨_, rfl⟩
  | none =>
      rw [runQuery_taken rejected takes silent]
      cases failing : (shell.store.scriptOf statement).failAfter with
      | none =>
          simp only [EngineScript.outcome, EngineScript.available, EngineScript.ending, rejected,
            failing]
          exact ⟨_, rfl⟩
      | some limit =>
          obtain ⟨count, message⟩ := limit
          by_cases reached : count ≤ (shell.store.scriptOf statement).rows.length
          · simp only [EngineScript.outcome, EngineScript.available, EngineScript.ending, rejected,
              failing, if_pos reached]
            exact ⟨_, rfl⟩
          · have all : (shell.store.scriptOf statement).rows.take count =
                (shell.store.scriptOf statement).rows := List.take_of_length_le (by omega)
            simp only [EngineScript.outcome, EngineScript.available, EngineScript.ending, rejected,
              failing, if_neg reached, all]
            exact ⟨_, rfl⟩

/-- The outcome of a scripted statement is read off its script, whatever batches its handle gives. -/
theorem runStatement_outcome (host : Host World) (statement : String)
    (shell : Shell World EngineState) (query : Directive.ofStatement? statement = none)
    (takes : shell.session.out.Open) (silent : shell.session.silent = true)
    (coded : ∀ code message,
      (shell.store.scriptOf statement).rejection = some (code, message) → code ≠ 0) :
    let outcome := (shell.store.scriptOf statement).outcome statement shell.session.verbose
      shell.session.printsHeader
    let ran := runStatement host engine statement none shell
    ran.1 = outcome.code ∧
      ran.2.session.out = shell.session.out.extend (Sink.bytesOf outcome.lines) ∧
      ran.2.session.reported = shell.session.reported ++ outcome.errors.map .query ∧
      (shell.session.err.Open → ran.2.session.err = shell.session.err.extend
        (Sink.bytesOf (outcome.errors.map fun message => "Query error: " ++ message))) ∧
      ran.2.store = afterStatement statement shell.store ∧
      (Handle.start statement shell.store).2.1.Yields
        (engine.start statement shell.store).1.results := by
  intro outcome ran
  obtain ⟨world, same⟩ := exists_runQuery_outcome host takes silent coded
  have result : ran = _ := (runStatement_of_query none query shell).trans same
  rw [result, reportAll_eq]
  refine ⟨rfl, rfl, rfl, fun errTakes => ?_, rfl, Handle.yields_results statement shell.store⟩
  rw [List.map_map]
  exact Sink.Open.writeLines errTakes _

theorem runStatement_outcome_of_broken_rows :
    let script : EngineScript :=
      { schema := ["k", "n"], rows := ["a\t1", "b\t2"], failAfter := some (1, "gone"), closeCode := 9 }
    let session : Session := Session.setVariable Variables.printHeader "true"
      { verbose := true, silent := true }
    let shell : Shell Machine EngineState := ⟨session, {}, { scripts := [("q", script)] }⟩
    let ran := runStatement Machine.host engine "q" none shell
    session.out.Open ∧ session.err.Open ∧ ran.1 = 1 ∧
      ran.2.session.out = session.out.extend (Sink.bytesOf ["q", "k\tn", "a\t1"]) ∧
      ran.2.session.err = session.err.extend (Sink.bytesOf ["Query error: gone"]) ∧
      ran.2.store.closed = 1 := by
  intro script session shell ran
  have takes : session.out.Open := fun _ _ => rfl
  have errTakes : session.err.Open := fun _ _ => rfl
  have query : Directive.ofStatement? "q" = none := by decide +kernel
  have scripted : shell.store.scriptOf "q" = script := by decide +kernel
  have outcome : script.outcome "q" session.verbose session.printsHeader =
      ⟨["q", "k\tn", "a\t1"], 1, ["gone"]⟩ := by decide +kernel
  obtain ⟨code, out, -, err, store, -⟩ := runStatement_outcome Machine.host "q" shell query takes rfl
    (by rw [scripted]; rintro _ _ ⟨⟩)
  rw [scripted, outcome] at code out err
  exact ⟨takes, errTakes, code, out, err errTakes, congrArg EngineState.closed store⟩

end Local

end QueryShell
