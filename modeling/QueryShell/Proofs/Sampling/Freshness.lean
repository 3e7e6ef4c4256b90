import QueryShell.Proofs.Files.Agreement
import QueryShell.Proofs.Modes.Twin
import QueryShell.Proofs.Report.Backend
import QueryShell.Proofs.Sampling.Rewrite

/-!
Two runs of a biased statement on machines that differ in what is left in the side file of an earlier
one. A key summary that runs on the engine writes the file anew before anything is read from it, so
that the runs do not differ. One that the shell itself carries out does not write the file, and the
sample tables are those of the lines that were left.
-/

namespace QueryShell

structure Host.Renews {World : Type} (host : Host World) (path : String) where
  /-- Machines that differ at most in whether there is such a file and in what it holds. -/
  Alike : World → World → Prop
  Same : World → World → Prop
  alike_clock : ∀ {left right}, Alike left right → Matched Alike (host.clock left) (host.clock right)
  same_clock : ∀ {left right}, Same left right → Matched Same (host.clock left) (host.clock right)
  create : ∀ {left right}, Alike left right →
    Matched Same (host.createFile path left) (host.createFile path right) ∨
      ∃ reason, (host.createFile path left).1 = .error reason ∧
        Matched Alike (host.createFile path left) (host.createFile path right)
  append : ∀ (line : String) {left right}, Same left right →
    Matched Same (host.appendLine path line left) (host.appendLine path line right)
  flush : ∀ {left right}, Same left right →
    Matched Same (host.flushFile path left) (host.flushFile path right)
  read : ∀ {left right}, Same left right →
    Matched Same (host.readText path left) (host.readText path right)

namespace Machine

open Files (Tree FileError)

structure Beside (related : Tree → Tree → Prop) (left right : Machine) : Prop where
  tree : related left.tree right.tree
  overfull : left.overfull = right.overfull

variable {left right : Machine} {path : String}

theorem Beside.isFullDevice (same : Beside Tree.Same left right) (path : String) :
    left.isFullDevice path = right.isFullDevice path := by
  rw [Machine.isFullDevice, Machine.isFullDevice, same.tree.find]

theorem Beside.change {first second : Except FileError Tree}
    (same : Beside Tree.Same left right) (changed : Tree.SameChange first second) :
    Matched (Beside Tree.Same) (left.change first) (right.change second) := by
  cases changed with
  | done trees => exact ⟨rfl, trees, same.overfull⟩
  | failed error => exact ⟨rfl, same⟩

theorem Beside.create (alike : Beside (Tree.AlikeBut path) left right) :
    Matched (Beside Tree.Same) (host.createFile path left) (host.createFile path right) ∨
      ∃ reason, (host.createFile path left).1 = .error reason ∧
        Matched (Beside (Tree.AlikeBut path)) (host.createFile path left)
          (host.createFile path right) := by
  have written := alike.tree.write .empty
  simp only [host]
  generalize left.tree.write path .empty = first at written ⊢
  generalize right.tree.write path .empty = second at written ⊢
  cases written with
  | done trees => exact .inl ⟨rfl, trees, rfl⟩
  | failed error => exact .inr ⟨error.message, rfl, rfl, alike.tree, rfl⟩

def renews (path : String) : Machine.host.Renews path where
  Alike := Beside (Tree.AlikeBut path)
  Same := Beside Tree.Same
  alike_clock alike := ⟨rfl, alike⟩
  same_clock same := ⟨rfl, same⟩
  create := Beside.create
  append := by
    intro line left right same
    simp only [host, same.isFullDevice path]
    split
    · exact ⟨rfl, same.tree, rfl⟩
    · exact same.change (same.tree.append path _)
  flush := by
    intro left right same
    simp only [host, same.isFullDevice path, same.overfull]
    split
    · exact ⟨rfl, same.tree, rfl⟩
    · exact ⟨rfl, same⟩
  read := by
    intro left right same
    have read := congrArg explain (same.tree.readText path)
    exact ⟨read, same⟩

end Machine

variable {World Store : Type} {host : Host World} {engine : Engine Store} {path : String}
  {related : World → World → Prop} {left right : Shell World Store}

structure Shell.Alongside (related : World → World → Prop) (left right : Shell World Store) :
    Prop where
  session : left.session = right.session
  store : left.store = right.store
  world : related left.world right.world

open Shell (Alongside)

namespace Shell.Alongside

theorem withWorld {Answer : Type} {later : World → World → Prop}
    {ask ask' : World → Answer × World} (alongside : Alongside related left right)
    (answers : Matched later (ask left.world) (ask' right.world)) :
    Matched (Alongside later) (left.withWorld ask) (right.withWorld ask') :=
  ⟨answers.answer, alongside.session, alongside.store, answers.related⟩

theorem printLine (alongside : Alongside related left right) (line : String) :
    Matched (Alongside related) (left.printLine line) (right.printLine line) := by
  rw [Shell.printLine, Shell.printLine, alongside.session]
  exact ⟨rfl, rfl, alongside.store, alongside.world⟩

theorem echo (alongside : Alongside related left right) (line : String) :
    Alongside related (left.echo line) (right.echo line) :=
  (alongside.printLine line).related

theorem printInfo (alongside : Alongside related left right) (line : String) :
    Alongside related (left.printInfo line) (right.printInfo line) :=
  ⟨congrArg (Session.printInfo line) alongside.session, alongside.store, alongside.world⟩

theorem report (alongside : Alongside related left right) (failure : Failure) :
    Alongside related (left.report failure) (right.report failure) :=
  ⟨congrArg (Session.report failure) alongside.session, alongside.store, alongside.world⟩

theorem fail (alongside : Alongside related left right) (failure : Failure) :
    Matched (Alongside related) (left.fail failure) (right.fail failure) :=
  ⟨rfl, alongside.report failure⟩

end Shell.Alongside

namespace Directive

theorem world_printAll (lines : List String) (shell : Shell World Store) :
    (printAll lines shell).2.world = shell.world := by
  induction lines generalizing shell with
  | nil => rfl
  | cons line rest ih =>
      simp only [printAll, Shell.printLine]
      split
      · rename_i printed
        obtain ⟨-, rfl⟩ := Prod.mk.inj printed
        exact ih _
      · rename_i printed
        obtain ⟨-, rfl⟩ := Prod.mk.inj printed
        rfl

/-- Only `add` asks the machine for anything. -/
theorem world_run (host : Host World) {directive : Directive} (other : directive ≠ .add)
    (arguments : List Char) (shell : Shell World Store) :
    (directive.run host arguments shell).2.world = shell.world := by
  cases directive with
  | set =>
      simp only [run, runSet]
      split
      · exact world_printAll _ shell
      · split
        · split
          · rfl
          · rfl
        · split
          · exact world_printAll _ shell
          · exact world_printAll _ shell
  | reset => rfl
  | add => exact (other rfl).elim
  | delete =>
      simp only [run, runDelete]
      split
      · rfl
      · split
        · rfl
        · rfl

end Directive

namespace Local

structure Copy.Even (host : Host World) (related : World → World → Prop) (copy : Copy) : Prop where
  append : ∀ path ∈ copy.file, ∀ (line : String) {left right}, related left right →
    Matched related (host.appendLine path line left) (host.appendLine path line right)
  flush : ∀ path ∈ copy.file, ∀ {left right}, related left right →
    Matched related (host.flushFile path left) (host.flushFile path right)

theorem Copy.even_of_none {copy : Copy} (uncopied : copy.file = none) : copy.Even host related := by
  refine ⟨?_, ?_⟩
  · intro path file
    rw [uncopied] at file
    cases file
  · intro path file
    rw [uncopied] at file
    cases file

theorem Copy.even_of_renews (file : host.Renews path) :
    Copy.Even host file.Same { file := some path } := by
  refine ⟨?_, ?_⟩
  · rintro _ ⟨⟩
    exact file.append
  · rintro _ ⟨⟩
    exact file.flush

section Results

variable {copy : Copy}

theorem copyRow_alongside (even : copy.Even host related) (row : String)
    (alongside : Alongside related left right) :
    (copyRow host row copy left).1.Even host related ∧
      Matched (Alongside related) (copyRow host row copy left) (copyRow host row copy right) := by
  simp only [copyRow]
  cases file : copy.file with
  | none => exact ⟨even, rfl, alongside⟩
  | some path =>
      obtain ⟨answer, left, right, added, added', alongside⟩ :=
        (alongside.withWorld (even.append path file row alongside.world)).exists_answer
      simp only [added, added']
      cases answer with
      | ok => exact ⟨even, rfl, alongside⟩
      | error reason => exact ⟨Copy.even_of_none rfl, rfl, alongside.report _⟩

theorem printRows_alongside (even : copy.Even host related) (rows : List String)
    (alongside : Alongside related left right) :
    ∃ all after before later, printRows host rows copy left = (all, after, before) ∧
      printRows host rows copy right = (all, after, later) ∧ after.Even host related ∧
      Alongside related before later := by
  induction rows generalizing copy left right with
  | nil => exact ⟨true, copy, left, right, rfl, rfl, even, alongside⟩
  | cons row rest ih =>
      obtain ⟨answer, left, right, printed, printed', alongside⟩ :=
        (alongside.printLine row).exists_answer
      simp only [printRows, printed, printed']
      cases answer with
      | error reason => exact ⟨false, copy, left, right, rfl, rfl, even, alongside⟩
      | ok =>
          obtain ⟨even, matched⟩ := copyRow_alongside even row alongside
          obtain ⟨copy, left, right, copied, copied', alongside⟩ := matched.exists_answer
          rw [copied] at even
          simp only [copied, copied']
          exact ih even alongside

theorem drain_alongside (even : copy.Even host related) (results : Results)
    (alongside : Alongside related left right) :
    (drain host results copy left).1.Even host related ∧
      Matched (Alongside related) (drain host results copy left)
        (drain host results copy right) := by
  induction results generalizing copy left right with
  | done => exact ⟨even, rfl, alongside⟩
  | broken failure => exact ⟨⟨even.append, even.flush⟩, rfl, alongside.report failure⟩
  | batch rows next ih =>
      obtain ⟨all, copy, left, right, printed, printed', even, alongside⟩ :=
        printRows_alongside even rows alongside
      simp only [drain, printed, printed']
      cases all with
      | true => exact ih even alongside
      | false => exact ⟨even, rfl, alongside⟩

theorem closeCopy_alongside (even : copy.Even host related)
    (alongside : Alongside related left right) :
    Matched (Alongside related) (closeCopy host copy left) (closeCopy host copy right) := by
  simp only [closeCopy]
  cases file : copy.file with
  | none => exact ⟨rfl, alongside⟩
  | some path =>
      obtain ⟨answer, left, right, flushed, flushed', alongside⟩ :=
        (alongside.withWorld (even.flush path file alongside.world)).exists_answer
      simp only [flushed, flushed']
      cases answer with
      | ok => exact ⟨rfl, alongside⟩
      | error reason => exact ⟨rfl, alongside.report _⟩

theorem drain_failed (host : Host World) (results : Results) (graded : results.Graded)
    (uncopied : copy.file = none) (failed : copy.code ≠ 0) (shell : Shell World Store) :
    (drain host results copy shell).1.file = none ∧
      (drain host results copy shell).1.code ≠ 0 := by
  induction results generalizing copy shell with
  | done => exact ⟨uncopied, failed⟩
  | broken failure => exact ⟨uncopied, graded⟩
  | batch rows next ih =>
      have kept := (printRows_uncopied host rows copy shell uncopied).1
      simp only [drain]
      split
      · rename_i copied after printed
        rw [printed] at kept
        obtain rfl : copied = copy := kept
        exact ih graded uncopied failed after
      · rename_i copied after printed
        rw [printed] at kept
        obtain rfl : copied = copy := kept
        exact ⟨uncopied, failed⟩

end Results

section Finish

variable {execution : Execution}

def stream (host : Host World) (engine : Engine Store) (execution : Execution) (copy : Copy)
    (shell : Shell World Store) : Int × Shell World Store :=
  let (copy, shell) := drain host execution.results copy shell
  let (copy, shell) := closeCopy host copy shell
  (if copy.code = 0 then execution.closeCode else copy.code, close engine execution shell)

theorem finish_eq (host : Host World) (engine : Engine Store) (sideFile : Option String)
    (execution : Execution) (shell : Shell World Store) :
    finish host engine sideFile execution shell =
      stream host engine execution (openCopy host sideFile (printHeader execution shell)).1
        (openCopy host sideFile (printHeader execution shell)).2 := rfl

theorem stream_alongside {copy : Copy} (even : copy.Even host related)
    (alongside : Alongside related left right) :
    Matched (Alongside related) (stream host engine execution copy left)
      (stream host engine execution copy right) := by
  obtain ⟨even, drained⟩ := drain_alongside even execution.results alongside
  obtain ⟨copy, left, right, drained, drained', alongside⟩ := drained.exists_answer
  rw [drained] at even
  obtain ⟨copy, left, right, closed, closed', alongside⟩ :=
    (closeCopy_alongside even alongside).exists_answer
  simp only [stream, drained, drained', closed, closed']
  exact ⟨rfl, alongside.session, congrArg (engine.close execution) alongside.store,
    alongside.world⟩

theorem stream_failed (graded : execution.results.Graded) {copy : Copy}
    (uncopied : copy.file = none) (failed : copy.code ≠ 0) (shell : Shell World Store) :
    (stream host engine execution copy shell).1 ≠ 0 := by
  obtain ⟨none_copied, nonzero⟩ := drain_failed host execution.results graded uncopied failed shell
  simp only [stream, closeCopy, none_copied, if_neg nonzero]
  exact nonzero

theorem printHeader_alongside (execution : Execution) (alongside : Alongside related left right) :
    Alongside related (printHeader execution left) (printHeader execution right) := by
  simp only [printHeader, alongside.session]
  split
  · exact alongside.echo _
  · exact alongside

theorem finish_alongside (host : Host World) (engine : Engine Store) (execution : Execution)
    (alongside : Alongside related left right) :
    Matched (Alongside related) (finish host engine none execution left)
      (finish host engine none execution right) := by
  have header := printHeader_alongside execution alongside
  have uncopied : Copy.Even host related {} := Copy.even_of_none rfl
  exact stream_alongside uncopied header

def Renewed (file : host.Renews path) (left right : Int × Shell World Store) : Prop :=
  Matched (Alongside file.Same) left right ∨
    left.1 ≠ 0 ∧ Matched (Alongside file.Alike) left right

theorem finish_renewed (file : host.Renews path) (engine : Engine Store)
    (graded : execution.results.Graded) (alongside : Alongside file.Alike left right) :
    Renewed file (finish host engine (some path) execution left)
      (finish host engine (some path) execution right) := by
  have header := printHeader_alongside execution alongside
  rw [finish_eq, finish_eq]
  generalize printHeader execution left = left at header ⊢
  generalize printHeader execution right = right at header ⊢
  simp only [openCopy]
  -- Where the file cannot be made the machines may still differ, but then the code is not 0.
  rcases file.create header.world with renewed | ⟨reason, refused, kept⟩
  · obtain ⟨answer, before, after, created, created', alongside⟩ :=
      (header.withWorld renewed).exists_answer
    simp only [created, created']
    refine .inl ?_
    cases answer with
    | ok => exact stream_alongside (Copy.even_of_renews file) alongside
    | error reason => exact stream_alongside (Copy.even_of_none rfl) (alongside.report _)
  · obtain ⟨answer, before, after, created, created', alongside⟩ :=
      (header.withWorld kept).exists_answer
    obtain rfl : answer = .error reason := by
      have first := congrArg Prod.fst created
      exact first.symm.trans refused
    simp only [created, created']
    exact .inr ⟨stream_failed graded rfl Int.one_ne_zero _,
      stream_alongside (Copy.even_of_none rfl) (alongside.report _)⟩

end Finish

section Queries

variable {statement : String}
  (clocked : ∀ {left right}, related left right →
    Matched related (host.clock left) (host.clock right))

include clocked

theorem begun_alongside (statement : String) (alongside : Alongside related left right) :
    Alongside related (begun host statement left) (begun host statement right) := by
  have told := (alongside.withWorld (clocked alongside.world)).related
  simp only [begun, told.session]
  split
  · exact told.echo statement
  · exact told

theorem started_alongside (engine : Engine Store) (statement : String)
    (alongside : Alongside related left right) :
    Alongside related (started host engine statement left)
      (started host engine statement right) := by
  have told := begun_alongside clocked statement alongside
  refine ⟨told.session, ?_, told.world⟩
  rw [started, started, alongside.store]

theorem printElapsed_alongside (start : Nat) (alongside : Alongside related left right) :
    Alongside related (printElapsed host start left) (printElapsed host start right) := by
  obtain ⟨now, left, right, asked, asked', alongside⟩ :=
    (alongside.withWorld (clocked alongside.world)).exists_answer
  simp only [printElapsed, asked, asked']
  split
  · exact alongside.printInfo _
  · exact alongside

theorem runQuery_alongside_of_refused (sideFile : Option String)
    (alongside : Alongside related left right)
    (refused : ¬(engine.start statement left.store).1.response.isOk = true) :
    Matched (Alongside related) (runQuery host engine statement sideFile left)
      (runQuery host engine statement sideFile right) := by
  have told := started_alongside clocked engine statement alongside
  have refused' : ¬(engine.start statement right.store).1.response.isOk = true :=
    alongside.store ▸ refused
  rw [runQuery_of_refused sideFile refused, runQuery_of_refused sideFile refused', alongside.store]
  have reported := told.report
    (.query ((engine.start statement right.store).1.response.message.getD ""))
  exact ⟨rfl, reported.session, congrArg (engine.close _) reported.store, reported.world⟩

theorem runQuery_alongside (engine : Engine Store) (statement : String)
    (alongside : Alongside related left right) :
    Matched (Alongside related) (runQuery host engine statement none left)
      (runQuery host engine statement none right) := by
  by_cases ok : (engine.start statement left.store).1.response.isOk = true
  · have told := started_alongside clocked engine statement alongside
    have begin := (clocked alongside.world).answer
    have ok' : (engine.start statement right.store).1.response.isOk = true := alongside.store ▸ ok
    rw [runQuery_of_ok none ok, runQuery_of_ok none ok', alongside.store, begin]
    have finished := finish_alongside host engine (engine.start statement right.store).1 told
    exact ⟨finished.answer, printElapsed_alongside clocked _ finished.related⟩
  · exact runQuery_alongside_of_refused clocked none alongside ok

theorem runDerived_alongside (engine : Engine Store) {statement : String}
    (query : Directive.ofStatement? statement = none)
    (alongside : Alongside related left right) :
    Matched (Alongside related) (runDerived host engine statement left)
      (runDerived host engine statement right) := by
  simp only [runDerived, runStatement_of_query none query]
  exact runQuery_alongside clocked engine statement (alongside.echo statement)

theorem buildSamples_alongside (engine : Engine Store) (sample : Sample) (lines : List String)
    (code : Int) (alongside : Alongside related left right) :
    Matched (Alongside related) (buildSamples host engine sample lines code left)
      (buildSamples host engine sample lines code right) := by
  induction lines generalizing code left right with
  | nil => exact ⟨rfl, alongside⟩
  | cons line rest ih =>
      cases made : sample.statements? line with
      | none =>
          simp only [buildSamples, Sample.statementsFor_of_none made]
          exact alongside.fail _
      | some pair =>
          obtain ⟨drop, create⟩ := pair
          have undirected := Sample.undirected_of_pair made
          have dropping := undirected drop List.mem_cons_self
          have creating := undirected create (List.mem_cons_of_mem drop List.mem_cons_self)
          obtain ⟨_, left, right, dropped, dropped', alongside⟩ :=
            (runDerived_alongside clocked engine dropping alongside).exists_answer
          obtain ⟨code, left, right, created, created', alongside⟩ :=
            (runDerived_alongside clocked engine creating alongside).exists_answer
          simp only [buildSamples, Sample.statementsFor_of_some made, dropped, dropped', created,
            created']
          exact ih code alongside

end Queries

theorem runQuery_renewed (file : host.Renews path) (graded : engine.Graded) (statement : String)
    (alongside : Alongside file.Alike left right) :
    Renewed file (runQuery host engine statement (some path) left)
      (runQuery host engine statement (some path) right) := by
  by_cases ok : (engine.start statement left.store).1.response.isOk = true
  · have told := started_alongside file.alike_clock engine statement alongside
    have begin := (file.alike_clock alongside.world).answer
    have ok' : (engine.start statement right.store).1.response.isOk = true := alongside.store ▸ ok
    rw [runQuery_of_ok _ ok, runQuery_of_ok _ ok', alongside.store, begin]
    rcases finish_renewed file engine (graded statement right.store) told with
      renewed | ⟨failed, kept⟩
    · exact .inl ⟨renewed.answer, printElapsed_alongside file.same_clock _ renewed.related⟩
    · exact .inr ⟨failed, kept.answer, printElapsed_alongside file.alike_clock _ kept.related⟩
  · refine .inr ⟨?_, runQuery_alongside_of_refused file.alike_clock _ alongside ok⟩
    rw [runQuery_of_refused _ ok]
    exact fun zero => ok (decide_eq_true zero)

/-- Whatever is left in the side file, a biased statement comes to the same end if its key summary
runs on the engine. -/
theorem runSample_fresh (file : host.Renews path) (graded : engine.Graded) (statement : String)
    (asked : left.session.keySummaryFile = path) (alongside : Alongside file.Alike left right)
    (queried : ∀ sample, Sample.ofStatement statement = .ok sample →
      Directive.ofStatement? sample.summaryQuery = none) :
    Renewed file (runSample host engine statement left)
      (runSample host engine statement right) := by
  have asked' : right.session.keySummaryFile = path := alongside.session ▸ asked
  cases parsed : Sample.ofStatement statement with
  | error failure =>
      have usage := Sample.ofStatement_error parsed
      simp only [runSample, parsed]
      refine .inr ⟨?_, alongside.fail failure⟩
      rw [usage]
      exact Int.one_ne_zero
  | ok sample =>
      simp only [runSample, parsed, asked, asked', runStatement_of_query _ (queried sample parsed)]
      rcases runQuery_renewed file graded sample.summaryQuery alongside with
        renewed | ⟨failed, kept⟩
      · obtain ⟨code, left, right, ran, ran', alongside⟩ := renewed.exists_answer
        rw [ran, ran']
        dsimp only
        split
        · exact .inl ⟨rfl, alongside⟩
        · obtain ⟨answer, left, right, read, read', alongside⟩ :=
            (alongside.withWorld (file.read alongside.world)).exists_answer
          simp only [read, read']
          refine .inl ?_
          cases answer with
          | error reason => exact alongside.fail _
          | ok text => exact buildSamples_alongside file.same_clock engine sample _ 0 alongside
      · obtain ⟨code, left, right, ran, ran', alongside⟩ := kept.exists_answer
        rw [ran] at failed
        rw [ran, ran']
        dsimp only at failed ⊢
        rw [if_pos failed, if_pos failed]
        exact .inr ⟨failed, rfl, alongside⟩

section Directed

variable {shell : Shell World Store} {sample : Sample}

theorem runDerived_store {statement : String} (query : Directive.ofStatement? statement = none)
    (shell : Shell World Store) :
    (runDerived host engine statement shell).2.store = engine.serve statement shell.store :=
  runStatement_store_of_query none query (shell.echo statement)

theorem buildSamples_store (sample : Sample) (lines : List String) (code : Int)
    (shell : Shell World Store) :
    (buildSamples host engine sample lines code shell).2.store =
      engine.serveAll (sample.derivedAll lines) shell.store := by
  induction lines generalizing code shell with
  | nil => rfl
  | cons line rest ih =>
      cases made : sample.statements? line with
      | none =>
          simp only [buildSamples, Sample.statementsFor_of_none made,
            Sample.derivedAll_of_none made]
          rfl
      | some pair =>
          obtain ⟨drop, create⟩ := pair
          have undirected := Sample.undirected_of_pair made
          have dropping := undirected drop List.mem_cons_self
          have creating := undirected create (List.mem_cons_of_mem drop List.mem_cons_self)
          simp only [buildSamples, Sample.statementsFor_of_some made,
            Sample.derivedAll_of_some made, Engine.serveAll_append]
          rw [ih, runDerived_store creating, runDerived_store dropping]
          rfl

theorem runStatement_world_of_directive {statement : String} {directive : Directive}
    {arguments : List Char} (sideFile : Option String)
    (directed : Directive.ofStatement? statement = some (directive, arguments))
    (other : directive ≠ .add) (shell : Shell World Store) :
    (runStatement host engine statement sideFile shell).2.world = shell.world := by
  have echoed (line : String) : (shell.echo line).world = shell.world := rfl
  simp only [runStatement, directed]
  rw [Directive.world_run host other]
  split
  · exact echoed _
  · rfl

/-- A key summary that ends with code 0 is followed by the statements of the lines of the side file,
whether it wrote the file or not. -/
theorem runSample_store_of_read {statement text : String} {carried : Shell World Store}
    (parsed : Sample.ofStatement statement = .ok sample)
    (ended : runStatement host engine sample.summaryQuery (some shell.session.keySummaryFile)
      shell = (0, carried))
    (found : (host.readText shell.session.keySummaryFile carried.world).1 = .ok text) :
    (runSample host engine statement shell).2.store =
      engine.serveAll (sample.derivedAll (summaryLines text)) carried.store := by
  rcases reading : carried.withWorld (host.readText shell.session.keySummaryFile) with
    ⟨answer, read⟩
  obtain rfl : answer = .ok text := (congrArg Prod.fst reading).symm.trans found
  have kept : read.store = carried.store := (Shell.Steady.of_withWorld reading).store
  simp only [runSample, parsed, ended, reading, ne_eq, not_true_eq_false, if_false]
  rw [buildSamples_store, kept]

end Directed

/-- A biased statement whose key summary runs on the engine comes to the same end whatever was left
in the side file. A key summary that is a directive leaves the file as it is: with code 0, the
statements that are run are those of the lines found there. -/
theorem samples_fresh_unless_directed (host : Host World) (statement : String)
    (left right : Shell World Scripted.EngineState)
    (file : host.Renews left.session.keySummaryFile) (enabled : left.session.samples = true)
    (biased : Sample.isBiased statement = true) (alongside : Alongside file.Alike left right) :
    let ran := execute host Scripted.engine statement
    let path := left.session.keySummaryFile
    ((∀ sample, Sample.ofStatement statement = .ok sample →
        Directive.ofStatement? sample.summaryQuery = none) →
      (ran left).1 = (ran right).1 ∧ (ran left).2.session = (ran right).2.session ∧
        (ran left).2.store = (ran right).2.store) ∧
    (∀ (sample : Sample) (directive : Directive) (arguments : List Char) (code : Int)
        (carried : Shell World Scripted.EngineState),
      Sample.ofStatement statement = .ok sample →
      Directive.ofStatement? sample.summaryQuery = some (directive, arguments) →
      runStatement host Scripted.engine sample.summaryQuery (some path) left = (code, carried) →
      (directive ≠ .add → carried.world = left.world) ∧
      (code ≠ 0 → ran left = (code, carried) ∧
        (ran left).2.store.executed = left.store.executed) ∧
      (code = 0 → ∀ text, (host.readText path carried.world).1 = .ok text →
        (ran left).2.store.executed =
          left.store.executed ++ sample.derivedAll (summaryLines text))) := by
  intro ran path
  have enabled' : right.session.samples = true := alongside.session ▸ enabled
  have sampled : ran left = runSample host Scripted.engine statement left :=
    execute_of_biased enabled biased
  have sampled' : ran right = runSample host Scripted.engine statement right :=
    execute_of_biased enabled' biased
  constructor
  · intro queried
    have renewed := runSample_fresh file Scripted.engine_graded statement rfl alongside queried
    rw [sampled, sampled']
    rcases renewed with matched | ⟨-, matched⟩
    · exact ⟨matched.answer, matched.related.session, matched.related.store⟩
    · exact ⟨matched.answer, matched.related.session, matched.related.store⟩
  · intro sample directive arguments code carried parsed directed ended
    have world (other : directive ≠ .add) : (runStatement host Scripted.engine sample.summaryQuery
        (some path) left).2.world = left.world :=
      runStatement_world_of_directive (some path) directed other left
    have store : (runStatement host Scripted.engine sample.summaryQuery (some path) left).2.store =
        left.store :=
      runStatement_store_of_directive (some path)
        (Option.ne_none_iff_exists'.mpr ⟨(directive, arguments), directed⟩) left
    rw [ended] at world store
    refine ⟨world, ?_, ?_⟩
    · intro failed
      have same : ran left = (code, carried) :=
        sampled.trans (runSample_of_failure parsed ended failed)
      refine ⟨same, ?_⟩
      rw [same, store]
    · rintro rfl text found
      rw [sampled, runSample_store_of_read parsed ended found, store]
      exact Scripted.engine_logs.serveAll (sample.derivedAll (summaryLines text)) left.store

section Leftover

open Files (Tree)

/-- The default side file can be made on a fresh machine, and what was left in it there is all that
tells such a machine from a fresh one. -/
theorem alike_leftover (content : ByteArray) :
    (Machine.renews "_temp_key_summary.dat").Alike {}
      { tree := Tree.fresh.set ["home", "user", "_temp_key_summary.dat"] (.file content) } := by
  have offers : Tree.fresh.Offers "_temp_key_summary.dat"
      ["home", "user", "_temp_key_summary.dat"] := by
    refine ⟨by decide +kernel, by decide +kernel, ?_⟩
    have missing : Tree.fresh.entryAt? ["home", "user", "_temp_key_summary.dat"] = none :=
      Option.isNone_iff_eq_none.mp (by decide +kernel)
    rw [missing]
    rintro _ ⟨⟩
  exact ⟨offers.alikeBut_set content, rfl⟩

theorem samples_fresh_unless_directed_beside_leftover :
    let summaryQuery := "select  city ,count(*) from logs  group by  city "
    let statement := "select * from logs bias on city limit=10"
    let directed := "reset bias on city limit=10"
    let leftover : Machine :=
      { tree := Tree.fresh.set ["home", "user", "_temp_key_summary.dat"] (.file "7\t20\n".toUTF8) }
    let shell (machine : Machine) : Shell Machine Scripted.EngineState :=
      ⟨Session.setVariable Variables.samplingEnabled "true" {}, machine,
        { scripts := [(summaryQuery, { rows := ["1\t40"] })] }⟩
    let ran (statement : String) (machine : Machine) :=
      execute Machine.host Scripted.engine statement (shell machine)
    (ran statement {}).1 = (ran statement leftover).1 ∧
      (ran statement {}).2.session = (ran statement leftover).2.session ∧
      (ran statement leftover).2.store.executed =
        [summaryQuery, "DROP TABLE qsh_sample_logs_10_city_1",
          "CREATE TABLE qsh_sample_logs_10_city_1 AS " ++
            "select * from logs  where city = 1 samplewith 0.25"] ∧
      (ran directed leftover).2.store.executed =
        ["DROP TABLE qsh_sample_reset_10_city_7",
          "CREATE TABLE qsh_sample_reset_10_city_7 AS " ++
            "reset  where city = 7 samplewith 0.5"] := by
  intro summaryQuery statement directed leftover shell ran
  let sample : Sample :=
    { command := "select * from logs bias on city ".toList
      base := "select * from logs ".toList
      columnsText := " city ".toList
      columns := ["city".toList]
      limit := .finite false 5629499534213120 (-49) }
  let resetting : Sample :=
    { sample with command := "reset bias on city ".toList, base := "reset ".toList }
  have found : Sample.ofChars? statement.toList = some sample := by decide +kernel
  have found' : Sample.ofChars? directed.toList = some resetting := by decide +kernel
  have parsed : Sample.ofStatement statement = .ok sample := by rw [Sample.ofStatement, found]
  have parsed' : Sample.ofStatement directed = .ok resetting := by rw [Sample.ofStatement, found']
  have enabled : (shell {}).session.samples = true := by decide +kernel
  have alongside : Alongside (Machine.renews "_temp_key_summary.dat").Alike (shell {})
      (shell leftover) := ⟨rfl, rfl, alike_leftover _⟩
  have backward : Alongside (Machine.renews "_temp_key_summary.dat").Alike (shell leftover)
      (shell {}) := ⟨rfl, rfl, alongside.world.tree.symm, rfl⟩
  have queried : ∀ sample, Sample.ofStatement statement = .ok sample →
      Directive.ofStatement? sample.summaryQuery = none := by
    intro other same
    obtain rfl := Except.ok.inj (parsed.symm.trans same)
    decide +kernel
  obtain ⟨codes, sessions, stores⟩ := (samples_fresh_unless_directed Machine.host statement
    (shell {}) (shell leftover) (Machine.renews _) enabled (by decide +kernel) alongside).1 queried
  have reset : Directive.ofStatement? resetting.summaryQuery =
      some (.reset, "group by  city".toList) := by decide +kernel
  rcases ended : runStatement Machine.host Scripted.engine resetting.summaryQuery
    (some "_temp_key_summary.dat") (shell leftover) with ⟨code, carried⟩
  have zero : (runStatement Machine.host Scripted.engine resetting.summaryQuery
      (some "_temp_key_summary.dat") (shell leftover)).1 = 0 := by decide +kernel
  rw [ended] at zero
  obtain ⟨world, -, derived⟩ := (samples_fresh_unless_directed Machine.host directed
    (shell leftover) (shell {}) (Machine.renews _) enabled (by decide +kernel) backward).2 resetting
    .reset _ code carried parsed' reset ended
  have read : (Machine.host.readText "_temp_key_summary.dat" carried.world).1 = .ok "7\t20\n" := by
    rw [world (by decide)]
    decide +kernel
  refine ⟨codes, sessions, ?_, (derived zero _ read).trans (by decide +kernel)⟩
  rw [← stores]
  decide +kernel

/-- After a summary that resets the variables, what was left in the side file is what is sampled. -/
theorem samples_stale_on_reset :
    let statement := "reset bias on city limit=10"
    let leftover : Machine :=
      { tree := Tree.fresh.set ["home", "user", "_temp_key_summary.dat"] (.file "7\t20\n".toUTF8) }
    let shell (machine : Machine) : Shell Machine Scripted.EngineState :=
      ⟨Session.setVariable Variables.samplingEnabled "true" {}, machine, {}⟩
    let ran (machine : Machine) := execute Machine.host Scripted.engine statement (shell machine)
    (shell {}).session.samples = true ∧ Sample.isBiased statement = true ∧
      (shell {}).session.out.Open ∧ (shell {}).session.err.Open ∧
      Alongside (Machine.renews (shell {}).session.keySummaryFile).Alike (shell {})
        (shell leftover) ∧
      (ran {}).1 = 1 ∧ (ran leftover).1 = 0 ∧ (ran {}).2.store.executed = [] ∧
      (ran leftover).2.store.executed =
        ["DROP TABLE qsh_sample_reset_10_city_7",
          "CREATE TABLE qsh_sample_reset_10_city_7 AS reset  where city = 7 samplewith 0.5"] := by
  intro statement leftover shell ran
  have enabled : (shell {}).session.samples = true := by decide +kernel
  have biased : Sample.isBiased statement = true := by decide +kernel
  have outOpen : (shell {}).session.out.Open := fun _ _ => rfl
  have errOpen : (shell {}).session.err.Open := fun _ _ => rfl
  have alongside : Alongside (Machine.renews (shell {}).session.keySummaryFile).Alike (shell {})
      (shell leftover) := ⟨rfl, rfl, alike_leftover _⟩
  exact ⟨enabled, biased, outOpen, errOpen, alongside, by decide +kernel⟩

end Leftover

end Local

end QueryShell
