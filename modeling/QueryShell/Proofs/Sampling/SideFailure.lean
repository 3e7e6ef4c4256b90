import QueryShell.Proofs.Output.Outcome
import QueryShell.Proofs.Report.Backend
import QueryShell.Proofs.Sampling.Rewrite

/-!
A side file that may fail. Wherever the copy of the rows stops, the rows go on to the output sink, and
the statement ends with code 1. A copy that does not fail leaves in the file the rows that were
printed, and nothing else.
-/

namespace QueryShell

variable {World Store : Type}

structure Host.Keeps (host : Host World) (path : String) where
  Regular : World → Prop
  Pending : List String → World → Prop
  Stored : List String → World → Prop
  regular_clock : ∀ {world}, Regular world → Regular (host.clock world).2
  create : ∀ {world after}, Regular world → host.createFile path world = (.ok (), after) →
    Pending [] after
  append : ∀ {lines world after} (line : String), Pending lines world →
    host.appendLine path line world = (.ok (), after) → Pending (lines ++ [line]) after
  flush : ∀ {lines world after}, Pending lines world →
    host.flushFile path world = (.ok (), after) → Stored lines after
  stored_clock : ∀ {lines world}, Stored lines world → Stored lines (host.clock world).2
  read : ∀ {lines world}, Stored lines world → (host.readText path world).1 = .ok (fileText lines)

def Host.SideFile.keeps {host : Host World} {path : String} (file : host.SideFile path) :
    host.Keeps path where
  Regular := file.Writable
  Pending := file.Pending
  Stored := file.Stored
  regular_clock := file.writable_clock
  create := by
    intro world after writable created
    obtain ⟨there, made, pending⟩ := file.create writable
    obtain ⟨-, rfl⟩ := Prod.mk.inj (made.symm.trans created)
    exact pending
  append := by
    intro lines world after line pending appended
    obtain ⟨there, added, later⟩ := file.append line pending
    obtain ⟨-, rfl⟩ := Prod.mk.inj (added.symm.trans appended)
    exact later
  flush := by
    intro lines world after pending flushed
    obtain ⟨there, brought, stored⟩ := file.flush pending
    obtain ⟨-, rfl⟩ := Prod.mk.inj (brought.symm.trans flushed)
    exact stored
  stored_clock := file.stored_clock
  read := file.read

namespace Local

open Remote (reportAll)

variable {host : Host World} {path reason : String} {rows lines : List String}
  {failure? : Option Failure} {world after : World}

def sideCalls (host : Host World) (path : String) (rows : List String) :
    List (World → Except String Unit × World) :=
  writing host path rows ++ [host.flushFile path]

section Attempts

variable {call : World → Except String Unit × World}
  {first second rest : List (World → Except String Unit × World)}

theorem attempt_cons_ok (succeeded : attempt (call :: rest) world = (.ok (), after)) :
    ∃ between, call world = (.ok (), between) ∧ attempt rest between = (.ok (), after) := by
  rcases called : call world with ⟨refusal | _, between⟩
  · simp only [attempt, called] at succeeded
    cases (Prod.mk.inj succeeded).1
  · simp only [attempt, called] at succeeded
    exact ⟨between, rfl, succeeded⟩

theorem attempt_append_ok (succeeded : attempt (first ++ second) world = (.ok (), after)) :
    ∃ between, attempt first world = (.ok (), between) ∧
      attempt second between = (.ok (), after) := by
  rw [attempt_append] at succeeded
  rcases tried : attempt first world with ⟨refusal | _, between⟩
  · simp only [tried] at succeeded
    cases (Prod.mk.inj succeeded).1
  · simp only [tried] at succeeded
    exact ⟨between, rfl, succeeded⟩

theorem attempt_append_error (failed : attempt (first ++ second) world = (.error reason, after)) :
    attempt first world = (.error reason, after) ∨
      ∃ between, attempt first world = (.ok (), between) ∧
        attempt second between = (.error reason, after) := by
  rw [attempt_append] at failed
  rcases tried : attempt first world with ⟨refusal | _, between⟩
  · simp only [tried] at failed
    exact .inl failed
  · simp only [tried] at failed
    exact .inr ⟨between, rfl, failed⟩

theorem attempt_single (call : World → Except String Unit × World) (world : World) :
    attempt [call] world = call world := by
  rcases called : call world with ⟨refusal | _, after⟩
  · simp only [attempt, called]
  · simp only [attempt, called]

end Attempts

/-- The one call that fails is reported once, next to the failure that the rows end with. -/
theorem copied_of_failure (graded : ∀ failure ∈ failure?, failure.code = 1)
    (failed : attempt (sideCalls host path rows) world = (.error reason, after)) :
    ∃ reports, reports.Perm (sideFailure reason :: failure?.toList) ∧
      copied host (some path) rows failure? world = ⟨1, reports, after⟩ := by
  rcases attempt_append_error failed with unwritten | ⟨written, wrote, unflushed⟩
  · have code : (failure?.map Failure.code).getD 1 = 1 := by
      cases failure? with
      | none => rfl
      | some failure => exact graded failure rfl
    refine ⟨_, .refl _, ?_⟩
    simp only [copied, unwritten, code]
  · rw [attempt_single] at unflushed
    refine ⟨_, List.perm_append_singleton _ _, ?_⟩
    simp only [copied, wrote, unflushed]

theorem copied_of_success
    (succeeded : attempt (sideCalls host path rows) world = (.ok (), after)) :
    (copied host (some path) rows failure? world).world = after := by
  obtain ⟨written, wrote, flushed⟩ := attempt_append_ok succeeded
  rw [attempt_single] at flushed
  simp only [copied, wrote, flushed]

section Kept

variable (file : host.Keeps path)
include file

theorem pending_of_attempt (pending : file.Pending lines world)
    (succeeded : attempt (rows.map (host.appendLine path)) world = (.ok (), after)) :
    file.Pending (lines ++ rows) after := by
  induction rows generalizing lines world with
  | nil =>
      obtain ⟨-, rfl⟩ := Prod.mk.inj succeeded
      rwa [List.append_nil]
  | cons row rest ih =>
      obtain ⟨between, appended, later⟩ := attempt_cons_ok succeeded
      rw [List.append_cons]
      exact ih (file.append row pending appended) later

theorem stored_of_attempt (regular : file.Regular world)
    (succeeded : attempt (sideCalls host path rows) world = (.ok (), after)) :
    file.Stored rows after := by
  obtain ⟨written, wrote, flushed⟩ := attempt_append_ok succeeded
  obtain ⟨created, made, appended⟩ := attempt_cons_ok wrote
  rw [attempt_single] at flushed
  exact file.flush (pending_of_attempt file (file.create regular made) appended) flushed

end Kept

/-- Without its key summary a biased statement builds no sample tables. -/
theorem execute_of_unsummarized {engine : Engine Store} {biased : String} {sample : Sample}
    {shell : Shell World Store} (enabled : shell.session.samples = true)
    (parsed : Sample.ofStatement biased = .ok sample)
    (failed : (runStatement host engine sample.summaryQuery (some shell.session.keySummaryFile)
      shell).1 ≠ 0) :
    execute host engine biased shell =
      runStatement host engine sample.summaryQuery (some shell.session.keySummaryFile) shell := by
  rcases ended : runStatement host engine sample.summaryQuery (some shell.session.keySummaryFile)
    shell with ⟨code, summarized⟩
  rw [ended] at failed
  rw [execute_of_biased enabled (Sample.isBiased_of_ofStatement parsed)]
  exact runSample_of_failure parsed ended failed

section Statement

variable {engine : Engine Store} {statement : String} {shell : Shell World Store} {stopped : World}

theorem runQuery_of_copy_failure
    (taken : (engine.start statement shell.store).1.response.isOk = true)
    (graded : ∀ failure ∈ (engine.start statement shell.store).1.results.failure?, failure.code = 1)
    (takes : shell.session.out.Open)
    (failed : attempt (sideCalls host path (engine.start statement shell.store).1.results.rows)
      (host.clock shell.world).2 = (.error reason, stopped)) :
    let execution := (engine.start statement shell.store).1
    ∃ reports, reports.Perm (sideFailure reason :: execution.results.failure?.toList) ∧
      runQuery host engine statement (some path) shell =
        (1, printElapsed host (host.clock shell.world).1
          { session := reportAll reports (shell.session.withOutput
              (heading statement execution shell.session ++ execution.results.rows))
            world := stopped
            store := engine.serve statement shell.store }) := by
  obtain ⟨reports, once, outcome⟩ := copied_of_failure graded failed
  refine ⟨reports, once, ?_⟩
  rw [runQuery_streamed_open (some path) taken takes, outcome]
  rfl

theorem readText_of_copied (file : host.Keeps path)
    (taken : (engine.start statement shell.store).1.response.isOk = true)
    (regular : file.Regular shell.world) :
    let execution := (engine.start statement shell.store).1
    let printed := (execution.results.streamed (shell.session.out.writeLines
      (heading statement execution shell.session))).rows
    attempt (sideCalls host path printed) (host.clock shell.world).2 = (.ok (), stopped) →
      (host.readText path (runQuery host engine statement (some path) shell).2.world).1 =
        .ok (fileText printed) := by
  intro execution printed succeeded
  have stored := stored_of_attempt file (file.regular_clock regular) succeeded
  rw [runQuery_streamed (some path) taken, world_printElapsed]
  dsimp only
  rw [copied_of_success succeeded]
  exact file.read (file.stored_clock stored)

end Statement

/-- Wherever the calls for the side file stop, an open sink gets all rows, the stop is reported once
and is the last of the calls, the engine releases the statement once, and the code is 1, which ends a
biased statement after its key summary. If no call fails, the file holds the rows that were printed
and nothing else. -/
theorem stream_undisturbed_by_copy (host : Host World) (engine : Engine Store)
    (statement path : String) (shell : Shell World Store)
    (query : Directive.ofStatement? statement = none)
    (taken : (engine.start statement shell.store).1.response.isOk = true)
    (broken : ∀ failure ∈ (engine.start statement shell.store).1.results.failure?,
      ∃ message, failure = .query message) :
    let execution := (engine.start statement shell.store).1
    let headed := heading statement execution shell.session
    let rows := execution.results.rows
    let begun := (host.clock shell.world).2
    let ran := runStatement host engine statement (some path) shell
    (∀ reason stopped, shell.session.out.Open →
      attempt (sideCalls host path rows) begun = (.error reason, stopped) →
      ran.1 = 1 ∧ ran.2.session.out = shell.session.out.extend (Sink.bytesOf (headed ++ rows)) ∧
      (∃ reports, reports.Perm (sideFailure reason :: execution.results.failure?.toList) ∧
        ran.2.session.reported = shell.session.reported ++ reports ∧
        (shell.session.silent = true → shell.session.err.Open → ran.2.session.err =
          shell.session.err.extend (Sink.bytesOf (reports.map Failure.message)))) ∧
      ran.2.world = (host.clock stopped).2 ∧
      ran.2.store = engine.serve statement shell.store ∧
      ∀ biased sample, shell.session.samples = true → shell.session.keySummaryFile = path →
        Sample.ofStatement biased = .ok sample → sample.summaryQuery = statement →
        execute host engine biased shell = ran) ∧
    (∀ (file : host.Keeps path) stored, file.Regular shell.world →
      let printed := (execution.results.streamed (shell.session.out.writeLines headed)).rows
      attempt (sideCalls host path printed) begun = (.ok (), stored) →
      (host.readText path ran.2.world).1 = .ok (fileText printed) ∧
        (shell.session.out.Open → printed = rows)) := by
  intro execution headed rows begun ran
  have same : ran = runQuery host engine statement (some path) shell :=
    runStatement_of_query (some path) query shell
  constructor
  · intro reason stopped takes failed
    have graded : ∀ failure ∈ execution.results.failure?, failure.code = 1 := by
      intro failure met
      obtain ⟨message, rfl⟩ := broken failure met
      rfl
    obtain ⟨reports, once, result⟩ := runQuery_of_copy_failure taken graded takes failed
    rw [← same] at result
    have code : ran.1 = 1 := by rw [result]
    refine ⟨code, ?_, ⟨reports, once, ?_, ?_⟩, ?_, ?_, ?_⟩
    · rw [result, out_printElapsed, reportAll_eq]
      rfl
    · rw [result, reported_printElapsed, reportAll_eq]
      rfl
    · intro silent errTakes
      rw [result, printElapsed_silent, reportAll_eq]
      · exact Sink.Open.writeLines errTakes _
      · rw [reportAll_eq]
        exact silent
    · rw [result, world_printElapsed]
    · rw [result, (printElapsed_steady host _ _).store]
    · rintro biased sample enabled rfl parsed rfl
      refine execute_of_unsummarized enabled parsed ?_
      rw [code]
      decide
  · intro file stored regular printed succeeded
    refine ⟨?_, ?_⟩
    · rw [same]
      exact readText_of_copied file taken regular succeeded
    · intro takes
      have all := execution.results.streamed_of_open (takes.extend (Sink.bytesOf headed))
      rw [← takes.writeLines] at all
      exact congrArg Results.Streamed.rows all

/-- The device without room takes the row and fails when it is flushed. -/
theorem stream_undisturbed_by_full_device :
    let summaryQuery := "select  city ,count(*) from logs  group by  city "
    let biased := "select * from logs bias on city limit=10"
    let session : Session := Session.setVariable Variables.samplingEnabled "true"
      { keySummaryFile := "/dev/full", silent := true }
    let shell : Shell Machine Scripted.EngineState :=
      ⟨session, {}, { scripts := [(summaryQuery,
        { rows := ["1\t40"], failAfter := some (1, "gone"), closeCode := 3 })] }⟩
    let ran := execute Machine.host Scripted.engine biased shell
    let beside := runStatement Machine.host Scripted.engine summaryQuery (some "rows.dat") shell
    session.out.Open ∧ ran.1 = 1 ∧
      ran.2.session.out = session.out.extend (Sink.bytesOf ["1\t40"]) ∧
      ran.2.store.executed = [summaryQuery] ∧ ran.2.store.closed = 1 ∧
      (Machine.host.readText "rows.dat" beside.2.world).1 = .ok "1\t40\n" := by
  intro summaryQuery biased session shell ran beside
  have takes : session.out.Open := fun _ _ => rfl
  have enabled : session.samples = true := by decide +kernel
  have query : Directive.ofStatement? summaryQuery = none := by decide +kernel
  have scripted : shell.store.scriptOf summaryQuery =
      { rows := ["1\t40"], failAfter := some (1, "gone"), closeCode := 3 } := by decide +kernel
  have results : (Scripted.engine.start summaryQuery shell.store).1.results =
      .batch ["1\t40"] (.broken (.query "gone")) := by
    rw [start_eq, scripted]
    rfl
  have rows : (Scripted.engine.start summaryQuery shell.store).1.results.rows = ["1\t40"] := by
    rw [results]
    rfl
  have headed : heading summaryQuery (Scripted.engine.start summaryQuery shell.store).1 session =
      [] := by decide +kernel
  have taken : (Scripted.engine.start summaryQuery shell.store).1.response.isOk = true := by
    decide +kernel
  have broken : ∀ failure ∈ (Scripted.engine.start summaryQuery shell.store).1.results.failure?,
      ∃ message, failure = .query message := by
    rw [results]
    rintro _ ⟨⟩
    exact ⟨_, rfl⟩
  obtain ⟨sample, parsed, summary⟩ : ∃ sample, Sample.ofStatement biased = .ok sample ∧
      sample.summaryQuery = summaryQuery := by
    have found : ((Sample.ofChars? biased.toList).map Sample.summaryQuery) = some summaryQuery := by
      decide +kernel
    obtain ⟨sample, given, summary⟩ := Option.map_eq_some_iff.mp found
    exact ⟨sample, by rw [Sample.ofStatement, given], summary⟩
  rcases tried : attempt (sideCalls Machine.host "/dev/full" ["1\t40"])
    (Machine.host.clock shell.world).2 with ⟨answer, stopped⟩
  have full : answer = .error "No space left on device (os error 28)" :=
    (congrArg Prod.fst tried).symm.trans (by decide +kernel)
  rcases wrote : attempt (sideCalls Machine.host "rows.dat" ["1\t40"])
    (Machine.host.clock shell.world).2 with ⟨answer', stored⟩
  have room : answer' = .ok () := (congrArg Prod.fst wrote).symm.trans (by decide +kernel)
  subst full room
  have regular : (Machine.sideFile "rows.dat").keeps.Regular shell.world :=
    Files.Tree.exists_write_of_missing ["home", "user", "rows.dat"]
      (by decide +kernel) (by decide +kernel) (by decide +kernel) .empty
  have undisturbed := fun path => stream_undisturbed_by_copy Machine.host Scripted.engine
    summaryQuery path shell query taken broken
  obtain ⟨code, out, -, -, store, sampled⟩ := (undisturbed "/dev/full").1 _ _ takes
    (by rw [rows]; exact tried)
  have same : ran = runStatement Machine.host Scripted.engine summaryQuery (some "/dev/full") shell :=
    sampled biased sample enabled rfl parsed summary
  have printed : ((Scripted.engine.start summaryQuery shell.store).1.results.streamed
      (session.out.writeLines [])).rows = ["1\t40"] := by
    rw [results]
    decide +kernel
  have held := ((undisturbed "rows.dat").2 (Machine.sideFile "rows.dat").keeps _ regular
    (by rw [headed, printed]; exact wrote)).1
  have text : fileText ["1\t40"] = "1\t40\n" := by decide +kernel
  rw [headed, printed, text] at held
  rw [rows, headed] at out
  rw [same]
  exact ⟨takes, code, out, congrArg Scripted.EngineState.executed store,
    congrArg Scripted.EngineState.closed store, held⟩

end Local

end QueryShell
