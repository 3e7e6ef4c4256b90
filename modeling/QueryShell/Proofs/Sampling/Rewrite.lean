import QueryShell.Proofs.Backend.Forwarding
import QueryShell.Proofs.Sampling.SideFile
import QueryShell.Proofs.Sampling.Statements

/-!
The run of a biased statement. The rows of the key summary go through the side file and come back as
lines, and each line has its statements echoed and run, up to the first line that is no row of keys
and a number.
-/

namespace QueryShell

variable {World Store : Type} {host : Host World} {engine : Engine Store} {sample : Sample}

theorem Shell.store_withWorld {Answer : Type} (shell : Shell World Store)
    (action : World → Answer × World) : (shell.withWorld action).2.store = shell.store := rfl

def Sample.derivedAll (sample : Sample) (rows : List String) : List String :=
  (rows.takeWhile sample.accepts).flatMap sample.derived

def Sample.rejected? (sample : Sample) (rows : List String) : Option String :=
  (rows.dropWhile sample.accepts).head?

def asRead (row : String) : String := String.ofList (Text.withoutReturn row.toList)

def Sample.malformed (row : String) : Failure :=
  .usage ("malformed key summary line: " ++ asRead row)

namespace Local

theorem toList_fileText (lines : List String) :
    (fileText lines).toList = (lines.map String.toList).flatMap fun line => line ++ ['\n'] := by
  induction lines with
  | nil => rfl
  | cons line rest ih =>
      rw [List.map_cons, List.flatMap_cons, ← ih]
      simp [fileText]

theorem isBlankText_asRead (row : String) : Text.isBlankText (asRead row) = Text.isBlankText row := by
  rw [Text.isBlankText, asRead, String.toList_ofList]
  exact Text.all_isBlank_withoutReturn row.toList

/-- The lines of a key summary are the rows that are not blank. -/
theorem summaryLines_fileText {rows : List String} (whole : ∀ row ∈ rows, '\n' ∉ row.toList) :
    summaryLines (fileText rows) =
      (rows.filter fun row => !Text.isBlankText row).map asRead := by
  have ended : ∀ line ∈ rows.map String.toList, '\n' ∉ line := by
    intro line member
    obtain ⟨row, among, rfl⟩ := List.mem_map.mp member
    exact whole row among
  have read : ((rows.map String.toList).map Text.withoutReturn).map String.ofList =
      rows.map asRead := by
    rw [List.map_map, List.map_map]
    rfl
  have same : (fun line => !Text.isBlankText line) ∘ asRead = fun row => !Text.isBlankText row := by
    funext row
    rw [Function.comp_apply, isBlankText_asRead]
  rw [summaryLines, toList_fileText, Text.lines_of_ended ended, read, List.filter_map, same]

end Local

namespace Sample

theorem statements?_asRead (sample : Sample) (row : String) :
    sample.statements? (asRead row) = sample.statements? row :=
  statements?_withoutReturn sample row

theorem derivedAll_of_none {row : String} {rest : List String}
    (rejected : sample.statements? row = none) : sample.derivedAll (row :: rest) = [] := by
  have refused : ¬sample.accepts row = true := by simp [accepts, rejected]
  rw [derivedAll, List.takeWhile_cons_of_neg refused]
  rfl

theorem derivedAll_of_some {row drop create : String} {rest : List String}
    (accepted : sample.statements? row = some (drop, create)) :
    sample.derivedAll (row :: rest) = [drop, create] ++ sample.derivedAll rest := by
  have taken : sample.accepts row = true := by simp [accepts, accepted]
  have own : sample.derived row = [drop, create] := by simp [derived, accepted]
  rw [derivedAll, List.takeWhile_cons_of_pos taken, List.flatMap_cons, own]
  rfl

theorem rejected?_of_none {row : String} {rest : List String}
    (rejected : sample.statements? row = none) : sample.rejected? (row :: rest) = some row := by
  have refused : ¬sample.accepts row = true := by simp [accepts, rejected]
  rw [rejected?, List.dropWhile_cons_of_neg refused]
  rfl

theorem rejected?_of_some {row : String} {rest : List String} {pair : String × String}
    (accepted : sample.statements? row = some pair) :
    sample.rejected? (row :: rest) = sample.rejected? rest := by
  have taken : sample.accepts row = true := by simp [accepts, accepted]
  rw [rejected?, List.dropWhile_cons_of_pos taken]
  rfl

theorem undirected_of_pair {row drop create : String}
    (accepted : sample.statements? row = some (drop, create)) :
    ∀ statement ∈ [drop, create], Directive.ofStatement? statement = none := by
  have own : sample.derived row = [drop, create] := by simp [derived, accepted]
  intro statement member
  rw [← own] at member
  exact undirected_of_derived member

theorem undirected_of_derivedAll {rows : List String} :
    ∀ statement ∈ sample.derivedAll rows, Directive.ofStatement? statement = none := by
  intro statement member
  obtain ⟨row, -, among⟩ := List.mem_flatMap.mp member
  exact undirected_of_derived among

end Sample

namespace Local

variable {shell : Shell World Store}

def derive (host : Host World) (engine : Engine Store) (statement : String)
    (shell : Shell World Store) : Int × Shell World Store :=
  runStatement host engine statement none
    { shell with session := shell.session.withOutput [statement] }

def deriveAll (host : Host World) (engine : Engine Store) :
    List String → Int → Shell World Store → Int × Shell World Store
  | [], code, shell => (code, shell)
  | statement :: rest, _, shell =>
      deriveAll host engine rest (derive host engine statement shell).1
        (derive host engine statement shell).2

theorem deriveAll_append (first second : List String) (code : Int) (shell : Shell World Store) :
    deriveAll host engine (first ++ second) code shell =
      deriveAll host engine second (deriveAll host engine first code shell).1
        (deriveAll host engine first code shell).2 := by
  induction first generalizing code shell with
  | nil => rw [List.nil_append, deriveAll]
  | cons statement rest ih => rw [List.cons_append, deriveAll, deriveAll, ih]

theorem runDerived_of_open (takes : shell.session.out.Open) (statement : String) :
    runDerived host engine statement shell = derive host engine statement shell := by
  rw [runDerived, echo_of_open takes, derive]

theorem derive_open {statement : String} (query : Directive.ofStatement? statement = none)
    (takes : shell.session.out.Open) :
    (derive host engine statement shell).2.session.out.Open := by
  have printed : (shell.session.withOutput [statement]).out.Open := takes.extend _
  rw [derive, runStatement_of_query none query]
  exact runQuery_open host engine statement none printed

theorem deriveAll_open {statements : List String}
    (undirected : ∀ statement ∈ statements, Directive.ofStatement? statement = none) (code : Int)
    (takes : shell.session.out.Open) :
    (deriveAll host engine statements code shell).2.session.out.Open := by
  induction statements generalizing code shell with
  | nil => exact takes
  | cons statement rest ih =>
      obtain ⟨query, undirected⟩ := List.forall_mem_cons.mp undirected
      rw [deriveAll]
      exact ih undirected _ (derive_open query takes)

theorem deriveAll_store {statements : List String}
    (undirected : ∀ statement ∈ statements, Directive.ofStatement? statement = none) (code : Int)
    (shell : Shell World Store) :
    (deriveAll host engine statements code shell).2.store =
      engine.serveAll statements shell.store := by
  induction statements generalizing code shell with
  | nil => rfl
  | cons statement rest ih =>
      obtain ⟨query, undirected⟩ := List.forall_mem_cons.mp undirected
      have first : (derive host engine statement shell).2.store =
          engine.serve statement shell.store :=
        runStatement_store_of_query none query _
      rw [deriveAll, ih undirected, first, Engine.serveAll_cons]

def deriveRows (host : Host World) (engine : Engine Store) (sample : Sample) (rows : List String)
    (code : Int) (shell : Shell World Store) : Int × Shell World Store :=
  let ran := deriveAll host engine (sample.derivedAll rows) code shell
  match sample.rejected? rows with
  | none => ran
  | some row => (1, ran.2.report (Sample.malformed row))

theorem deriveRows_store (sample : Sample) (rows : List String) (code : Int)
    (shell : Shell World Store) :
    (deriveRows host engine sample rows code shell).2.store =
      engine.serveAll (sample.derivedAll rows) shell.store := by
  have served : (deriveAll host engine (sample.derivedAll rows) code shell).2.store =
      engine.serveAll (sample.derivedAll rows) shell.store :=
    deriveAll_store Sample.undirected_of_derivedAll code shell
  simp only [deriveRows]
  split
  · exact served
  · exact served

theorem buildSamples_eq (rows : List String) (code : Int) (takes : shell.session.out.Open) :
    buildSamples host engine sample (rows.map asRead) code shell =
      deriveRows host engine sample rows code shell := by
  -- The sink stays open from one pair of statements to the next.
  induction rows generalizing code shell with
  | nil => rfl
  | cons row rest ih =>
      have read := sample.statements?_asRead row
      cases made : sample.statements? row with
      | none =>
          have nothing : sample.derivedAll (row :: rest) = [] := Sample.derivedAll_of_none made
          have first : sample.rejected? (row :: rest) = some row := Sample.rejected?_of_none made
          rw [made] at read
          simp only [List.map_cons, buildSamples, Sample.statementsFor_of_none read, deriveRows,
            nothing, first]
          rfl
      | some pair =>
          obtain ⟨drop, create⟩ := pair
          have all : sample.derivedAll (row :: rest) = [drop, create] ++ sample.derivedAll rest :=
            Sample.derivedAll_of_some made
          have same : sample.rejected? (row :: rest) = sample.rejected? rest :=
            Sample.rejected?_of_some made
          have undirected := Sample.undirected_of_pair made
          have dropped : (derive host engine drop shell).2.session.out.Open :=
            derive_open (undirected drop List.mem_cons_self) takes
          have created : (deriveAll host engine [drop, create] code shell).2.session.out.Open :=
            deriveAll_open undirected code takes
          rw [made] at read
          have pair : buildSamples host engine sample ((row :: rest).map asRead) code shell =
              buildSamples host engine sample (rest.map asRead)
                (deriveAll host engine [drop, create] code shell).1
                (deriveAll host engine [drop, create] code shell).2 := by
            simp only [List.map_cons, buildSamples, Sample.statementsFor_of_some read,
              runDerived_of_open takes, runDerived_of_open dropped, deriveAll]
          rw [pair, ih _ created, deriveRows, deriveRows, all, same, deriveAll_append]

section Summary

variable {statement : String} {rows : List String} {code : Int} {summarized : Shell World Store}

theorem execute_of_biased (enabled : shell.session.samples = true)
    (biased : Sample.isBiased statement = true) :
    execute host engine statement shell = runSample host engine statement shell := by
  simp only [execute, enabled, biased, Bool.and_true, if_true]

theorem runSample_of_failure (parsed : Sample.ofStatement statement = .ok sample)
    (ended : runStatement host engine sample.summaryQuery (some shell.session.keySummaryFile)
      shell = (code, summarized)) (failed : code ≠ 0) :
    runSample host engine statement shell = (code, summarized) := by
  simp only [runSample, parsed, ended]
  rw [if_pos failed]

/-- After a key summary that ended with code 0 its rows are read back, and the statements of those
that are not blank are run. -/
theorem runSample_of_success (file : host.SideFile shell.session.keySummaryFile)
    (parsed : Sample.ofStatement statement = .ok sample)
    (query : Directive.ofStatement? sample.summaryQuery = none)
    (ready : file.Writable shell.world) (takes : shell.session.out.Open)
    (given : (engine.start sample.summaryQuery shell.store).1.results.rows = rows)
    (whole : ∀ row ∈ rows, '\n' ∉ row.toList)
    (ended : runStatement host engine sample.summaryQuery (some shell.session.keySummaryFile)
      shell = (0, summarized)) :
    runSample host engine statement shell =
      deriveRows host engine sample (rows.filter fun row => !Text.isBlankText row) 0
        (summarized.withWorld (host.readText shell.session.keySummaryFile)).2 := by
  subst given
  have success := ended
  rw [runStatement_of_query _ query] at success
  have stored := runQuery_stored file takes ready (congrArg Prod.fst success)
  have still_open := runQuery_open host engine sample.summaryQuery
    (some shell.session.keySummaryFile) takes
  rw [success] at stored still_open
  generalize (engine.start sample.summaryQuery shell.store).1.results.rows = rows at *
  generalize reading : summarized.withWorld (host.readText shell.session.keySummaryFile) = answer
  have text : answer.1 = .ok (fileText rows) := by
    rw [← reading]
    exact file.read stored
  have takes_on : answer.2.session.out.Open := by
    rw [← reading]
    exact still_open
  obtain ⟨_, read⟩ := answer
  obtain rfl := text
  simp only [runSample, parsed, ended, reading, ne_eq, not_true_eq_false, if_false,
    summaryLines_fileText whole]
  exact buildSamples_eq _ 0 takes_on

theorem summarized_store (query : Directive.ofStatement? sample.summaryQuery = none)
    (ended : runStatement host engine sample.summaryQuery (some shell.session.keySummaryFile)
      shell = (code, summarized)) :
    summarized.store = engine.serve sample.summaryQuery shell.store := by
  have served : (runStatement host engine sample.summaryQuery (some shell.session.keySummaryFile)
      shell).2.store = engine.serve sample.summaryQuery shell.store :=
    runStatement_store_of_query _ query shell
  rwa [ended] at served

end Summary

/-- With sampling on, a biased statement is its key summary and, if that ends with code 0, the
statements of its rows, each printed before it runs. A row that gives none ends them with a report. A
statement that cannot be taken apart is only reported. -/
theorem biased_rewritten (host : Host World) (statement : String)
    (shell : Shell World Scripted.EngineState) (enabled : shell.session.samples = true) :
    let path := shell.session.keySummaryFile
    let ran := execute host Scripted.engine statement shell
    (∀ (sample : Sample) (file : host.SideFile path) (rows : List String) (code : Int)
      (summarized : Shell World Scripted.EngineState),
      Sample.ofStatement statement = .ok sample →
      Directive.ofStatement? sample.summaryQuery = none →
      file.Writable shell.world → shell.session.out.Open →
      (Scripted.engine.start sample.summaryQuery shell.store).1.results.rows = rows →
      (∀ row ∈ rows, '\n' ∉ row.toList) →
      runStatement host Scripted.engine sample.summaryQuery (some path) shell = (code, summarized) →
      let kept := rows.filter fun row => !Text.isBlankText row
      (code ≠ 0 → ran = (code, summarized) ∧
        ran.2.store.executed = shell.store.executed ++ [sample.summaryQuery]) ∧
      (code = 0 →
        ran = deriveRows host Scripted.engine sample kept 0
          (summarized.withWorld (host.readText path)).2 ∧
        ran.2.store.executed =
          shell.store.executed ++ sample.summaryQuery :: sample.derivedAll kept)) ∧
    (∀ (sample : Sample) (keys : List (List Char)) (number : List Char) (frequency : Binary64),
      keys.length = sample.columns.length →
      (∀ key ∈ keys, Text.trim key = key) → (∀ key ∈ keys, '\t' ∉ key) → '\t' ∉ number →
      Decimal.binary64OfText? (Text.trim number) = some frequency →
      ∃ table, sample.derived (String.ofList (['\t'].intercalate (keys ++ [number]))) =
        [String.ofList ("DROP TABLE ".toList ++ table),
          String.ofList ("CREATE TABLE ".toList ++ table ++ " AS ".toList ++
            (sample.base ++ " where ".toList ++
              (" AND ".toList).intercalate
                (sample.columns.zipWith (fun column key => column ++ " = ".toList ++ key) keys) ++
              sample.share frequency))]) ∧
    (∀ failure, Sample.isBiased statement = true → Sample.ofStatement statement = .error failure →
      ran = (1, shell.report Sample.usage)) := by
  intro path ran
  refine ⟨?_, ?_, ?_⟩
  · intro sample file rows code summarized parsed query ready takes given whole ended kept
    have biased : ran = runSample host Scripted.engine statement shell :=
      execute_of_biased enabled (Sample.isBiased_of_ofStatement parsed)
    have served := summarized_store query ended
    constructor
    · intro failed
      have same : ran = (code, summarized) := biased.trans (runSample_of_failure parsed ended failed)
      refine ⟨same, ?_⟩
      rw [same, served]
      rfl
    · rintro rfl
      have rewritten : ran = deriveRows host Scripted.engine sample kept 0
          (summarized.withWorld (host.readText path)).2 :=
        biased.trans (runSample_of_success file parsed query ready takes given whole ended)
      refine ⟨rewritten, ?_⟩
      rw [rewritten, deriveRows_store, Shell.store_withWorld, served, ← Engine.serveAll_cons]
      exact Scripted.engine_logs.serveAll _ shell.store
  · intro sample keys number frequency count neat free number_free numeric
    obtain ⟨table, given⟩ := sample.statementsFor_keys count neat free number_free numeric
    refine ⟨table, ?_⟩
    simp only [Sample.derived, Sample.statements?, given, Except.toOption]
  · intro failure biased rejected
    have usage := Sample.ofStatement_error rejected
    have alone : ran = runSample host Scripted.engine statement shell :=
      execute_of_biased enabled biased
    rw [alone, runSample, rejected, usage]
    rfl

theorem biased_rewritten_up_to_malformed_row :
    let statement := "select * from logs bias on city limit=10"
    let summaryQuery := "select  city ,count(*) from logs  group by  city "
    let shell : Shell Machine Scripted.EngineState :=
      ⟨Session.setVariable Variables.samplingEnabled "true" {}, {},
        { scripts := [(summaryQuery, { rows := ["1\t40", "many"] })] }⟩
    shell.session.samples = true ∧ shell.session.out.Open ∧
    (Machine.sideFile shell.session.keySummaryFile).Writable shell.world ∧
    (execute Machine.host Scripted.engine statement shell).2.store.executed =
      [summaryQuery, "DROP TABLE qsh_sample_logs_10_city_1",
        "CREATE TABLE qsh_sample_logs_10_city_1 AS " ++
          "select * from logs  where city = 1 samplewith 0.25"] := by
  intro statement summaryQuery shell
  let sample : Sample :=
    { command := "select * from logs bias on city ".toList
      base := "select * from logs ".toList
      columnsText := " city ".toList
      columns := ["city".toList]
      limit := .finite false 5629499534213120 (-49) }
  have enabled : shell.session.samples = true := by decide +kernel
  have found : Sample.ofChars? statement.toList = some sample := by decide +kernel
  have parsed : Sample.ofStatement statement = .ok sample := by rw [Sample.ofStatement, found]
  have query : Directive.ofStatement? sample.summaryQuery = none := by decide +kernel
  have ready : (Machine.sideFile shell.session.keySummaryFile).Writable shell.world :=
    Files.Tree.exists_write_of_missing ["home", "user", "_temp_key_summary.dat"]
      (by decide +kernel) (by decide +kernel) (by decide +kernel) .empty
  have takes : shell.session.out.Open := fun _ _ => rfl
  have given : (Scripted.engine.start sample.summaryQuery shell.store).1.results.rows =
      ["1\t40", "many"] := by decide +kernel
  have success : (runStatement Machine.host Scripted.engine sample.summaryQuery
      (some shell.session.keySummaryFile) shell).1 = 0 := by decide +kernel
  rcases ended : runStatement Machine.host Scripted.engine sample.summaryQuery
    (some shell.session.keySummaryFile) shell with ⟨code, summarized⟩
  rw [ended] at success
  obtain ⟨-, executed⟩ := ((biased_rewritten Machine.host statement shell enabled).1 sample
    (Machine.sideFile _) _ code summarized parsed query ready takes given (by decide) ended).2 success
  exact ⟨enabled, takes, ready, executed.trans (by decide +kernel)⟩

end Local

end QueryShell
