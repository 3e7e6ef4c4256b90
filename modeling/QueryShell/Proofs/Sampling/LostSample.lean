import QueryShell.Proofs.Sampling.Freshness

/-!
The code of a biased statement against the codes of the statements that build its sample tables. Each
code replaces the one before, so that the last table speaks for all of them: one that could not be
created goes unnoticed if the last one could.
-/

namespace QueryShell.Local

variable {World Store : Type} {host : Host World} {engine : Engine Store} {sample : Sample}

structure Build where
  line : String
  dropCode : Int
  createCode : Int
deriving DecidableEq, Repr

def builds (host : Host World) (engine : Engine Store) (sample : Sample) :
    List String → Shell World Store → List Build
  | [], _ => []
  | line :: rest, shell =>
      match sample.statements? line with
      | none => []
      | some (drop, create) =>
          let dropped := runDerived host engine drop shell
          let created := runDerived host engine create dropped.2
          ⟨line, dropped.1, created.1⟩ :: builds host engine sample rest created.2

theorem map_line_builds (lines : List String) (shell : Shell World Store) :
    (builds host engine sample lines shell).map Build.line = lines.takeWhile sample.accepts := by
  induction lines generalizing shell with
  | nil => rfl
  | cons line rest ih =>
      cases made : sample.statements? line with
      | none =>
          have refused : ¬sample.accepts line = true := by simp [Sample.accepts, made]
          simp only [builds, made, List.map_nil, List.takeWhile_cons_of_neg refused]
      | some pair =>
          have accepted : sample.accepts line = true := by simp [Sample.accepts, made]
          simp only [builds, made, List.map_cons, ih, List.takeWhile_cons_of_pos accepted]

/-- The code after all lines: that of the last table, or 1 for a line that gives no statements. -/
theorem buildSamples_code (lines : List String) (code : Int) (shell : Shell World Store) :
    (buildSamples host engine sample lines code shell).1 =
      if (sample.rejected? lines).isSome then 1
      else ((builds host engine sample lines shell).map Build.createCode).getLastD code := by
  induction lines generalizing code shell with
  | nil => rfl
  | cons line rest ih =>
      cases made : sample.statements? line with
      | none =>
          simp only [buildSamples, Sample.statementsFor_of_none made, Sample.rejected?_of_none made,
            Option.isSome_some, if_true]
          rfl
      | some pair =>
          simp only [buildSamples, Sample.statementsFor_of_some made, Sample.rejected?_of_some made,
            builds, made, List.map_cons, List.getLastD_cons, ih]

section Read

variable {statement path text : String} {shell carried read : Shell World Store}

theorem runSample_of_read (parsed : Sample.ofStatement statement = .ok sample)
    (ended : runStatement host engine sample.summaryQuery (some shell.session.keySummaryFile)
      shell = (0, carried))
    (asked : carried.withWorld (host.readText shell.session.keySummaryFile) = (.ok text, read)) :
    runSample host engine statement shell =
      buildSamples host engine sample (summaryLines text) 0 read := by
  simp only [runSample, parsed, ended, asked, ne_eq, not_true_eq_false, if_false]

theorem runSample_of_unread {reason : String} (parsed : Sample.ofStatement statement = .ok sample)
    (ended : runStatement host engine sample.summaryQuery (some shell.session.keySummaryFile)
      shell = (0, carried))
    (asked : carried.withWorld (host.readText shell.session.keySummaryFile) =
      (.error reason, read)) :
    runSample host engine statement shell =
      read.fail (.io (shell.session.keySummaryFile ++ ": " ++ reason)) := by
  simp only [runSample, parsed, ended, asked, ne_eq, not_true_eq_false, if_false]

end Read

theorem getLastD_createCode_eq_zero_iff (built : List Build) :
    (built.map Build.createCode).getLastD 0 = 0 ↔ ∀ last ∈ built.getLast?, last.createCode = 0 := by
  rw [List.getLastD_eq_getLast?, List.getLast?_map]
  cases built.getLast? with
  | none => simp
  | some last => simp

/-- A biased statement whose key summary was read back ends with code 0 exactly if every line gives
statements and the last sample table, if there is any, was created. Without lines to read, none is
created, and the code is that of the key summary or of the failure to read it. -/
theorem success_iff_last_created (host : Host World) (engine : Engine Store) (statement : String)
    (shell : Shell World Store) (enabled : shell.session.samples = true)
    (biased : Sample.isBiased statement = true) :
    let path := shell.session.keySummaryFile
    let ran := execute host engine statement shell
    (∀ failure, Sample.ofStatement statement = .error failure → ran = shell.fail failure) ∧
    ∀ sample code carried answer read, Sample.ofStatement statement = .ok sample →
      runStatement host engine sample.summaryQuery (some path) shell = (code, carried) →
      carried.withWorld (host.readText path) = (answer, read) →
      (code ≠ 0 → ran = (code, carried)) ∧
      (code = 0 → ∀ reason, answer = .error reason →
        ran = read.fail (.io (path ++ ": " ++ reason))) ∧
      (code = 0 → ∀ text, answer = .ok text →
        let lines := summaryLines text
        let built := builds host engine sample lines read
        built.map Build.line = lines.takeWhile sample.accepts ∧
        ran.2.store = engine.serveAll (sample.derivedAll lines) carried.store ∧
        ran.1 = (if (sample.rejected? lines).isSome then 1
          else (built.map Build.createCode).getLastD 0) ∧
        (ran.1 = 0 ↔
          sample.rejected? lines = none ∧ ∀ last ∈ built.getLast?, last.createCode = 0)) := by
  intro path ran
  have sampled : ran = runSample host engine statement shell := execute_of_biased enabled biased
  constructor
  · intro failure refused
    rw [sampled, runSample, refused]
  intro sample code carried answer read parsed ended asked
  refine ⟨?_, ?_, ?_⟩
  · intro failed
    exact sampled.trans (runSample_of_failure parsed ended failed)
  · rintro rfl reason rfl
    exact sampled.trans (runSample_of_unread parsed ended asked)
  · rintro rfl text rfl lines built
    have all_built : ran = buildSamples host engine sample lines 0 read :=
      sampled.trans (runSample_of_read parsed ended asked)
    have kept : read.store = carried.store := (Shell.Steady.of_withWorld asked).store
    have told : ran.1 = if (sample.rejected? lines).isSome then 1
        else (built.map Build.createCode).getLastD 0 := by
      rw [all_built, buildSamples_code]
    refine ⟨map_line_builds lines read, ?_, told, ?_⟩
    · rw [all_built, buildSamples_store, kept]
    · rw [told, ← getLastD_createCode_eq_zero_iff]
      cases sample.rejected? lines with
      | none => simp
      | some line => simp

theorem success_iff_last_created_up_to_lost_table :
    let summaryQuery := "select  city ,count(*) from logs  group by  city "
    let statement := "select * from logs bias on city limit=10"
    let create := "CREATE TABLE qsh_sample_logs_10_city_2 AS select * from logs  where city = 2"
    let shell : Shell Machine Scripted.EngineState :=
      ⟨Session.setVariable Variables.samplingEnabled "true" {}, {},
        { scripts := [(summaryQuery, { rows := ["2\t5"] }),
            (create, { rejection := some (12, "disk full") })] }⟩
    shell.session.samples = true ∧
      (execute Machine.host Scripted.engine statement shell).1 = 12 := by
  intro summaryQuery statement create shell
  let sample : Sample :=
    { command := "select * from logs bias on city ".toList
      base := "select * from logs ".toList
      columnsText := " city ".toList
      columns := ["city".toList]
      limit := .finite false 5629499534213120 (-49) }
  have enabled : shell.session.samples = true := by decide +kernel
  have found : Sample.ofChars? statement.toList = some sample := by decide +kernel
  have parsed : Sample.ofStatement statement = .ok sample := by rw [Sample.ofStatement, found]
  rcases ended : runStatement Machine.host Scripted.engine sample.summaryQuery
    (some shell.session.keySummaryFile) shell with ⟨code, carried⟩
  have zero : (runStatement Machine.host Scripted.engine sample.summaryQuery
      (some shell.session.keySummaryFile) shell).1 = 0 := by decide +kernel
  obtain rfl : code = 0 := (congrArg Prod.fst ended).symm.trans zero
  rcases asked : carried.withWorld (Machine.host.readText shell.session.keySummaryFile) with
    ⟨answer, read⟩
  have there := congrArg Prod.snd ended
  have found := congrArg Prod.fst asked
  have after := congrArg Prod.snd asked
  subst there
  have text : answer = .ok "2\t5\n" := found.symm.trans (by decide +kernel)
  subst after
  obtain ⟨-, -, told, -⟩ := ((success_iff_last_created Machine.host Scripted.engine statement shell
    enabled (Sample.isBiased_of_ofStatement parsed)).2 sample 0 _ answer _ parsed ended
    asked).2.2 rfl _ text
  exact ⟨enabled, told.trans (by decide +kernel)⟩

/-- The table of the first key is lost, and the code of the statement does not tell. -/
theorem lost_table_untold :
    let summaryQuery := "select  city ,count(*) from logs  group by  city "
    let statement := "select * from logs bias on city limit=10"
    let create := "CREATE TABLE qsh_sample_logs_10_city_1 AS " ++
      "select * from logs  where city = 1 samplewith 0.25"
    let shell : Shell Machine Scripted.EngineState :=
      ⟨Session.setVariable Variables.samplingEnabled "true" {}, {},
        { scripts := [(summaryQuery, { rows := ["1\t40", "2\t5"] }),
            (create, { rejection := some (12, "disk full") })] }⟩
    let ran := execute Machine.host Scripted.engine statement shell
    shell.session.samples = true ∧ Sample.isBiased statement = true ∧
      (∀ before : Shell Machine Scripted.EngineState, before.store.scripts = shell.store.scripts →
        (runDerived Machine.host Scripted.engine create before).1 = 12) ∧
      ran.2.store.executed =
        [summaryQuery, "DROP TABLE qsh_sample_logs_10_city_1", create,
          "DROP TABLE qsh_sample_logs_10_city_2",
          "CREATE TABLE qsh_sample_logs_10_city_2 AS select * from logs  where city = 2"] ∧
      ran.2.session.reported = [.query "disk full"] ∧ ran.1 = 0 := by
  intro summaryQuery statement create shell ran
  refine ⟨by decide +kernel, by decide +kernel, ?_, by decide +kernel⟩
  intro before scripted
  have query : Directive.ofStatement? create = none := by decide +kernel
  have script : before.store.scriptOf create = { rejection := some (12, "disk full") } := by
    rw [Scripted.EngineState.scriptOf, scripted]
    decide +kernel
  have response : (Scripted.engine.start create (before.echo create).store).1.response =
      .failed 12 "disk full" := by
    change (before.store.scriptOf create).response = _
    rw [script]
    rfl
  have refused :
      ¬(Scripted.engine.start create (before.echo create).store).1.response.isOk = true := by
    rw [response]
    decide
  rw [runDerived, runStatement_of_query none query, runQuery_of_refused none refused]
  exact congrArg Response.code response

end QueryShell.Local
