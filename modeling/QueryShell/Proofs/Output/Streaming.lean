import QueryShell.Proofs.Backend.Served
import QueryShell.Proofs.Remote.Answers

/-!
How a query streams. Its rows go to the output sink up to the first that the sink refuses, and those
that the sink took are copied to the side file up to the first call that fails. Neither the copy nor
what is reported on the way has an effect on the rows.
-/

namespace QueryShell

variable {World Store : Type}

namespace Sink

structure Taken where
  lines : List String
  sink : Sink
  refused : Bool

def take : List String → Sink → Taken
  | [], sink => ⟨[], sink, false⟩
  | line :: rest, sink =>
      match sink.writeLine line with
      | (.error _, after) => ⟨[], after, true⟩
      | (.ok (), after) =>
          let taken := after.take rest
          { taken with lines := line :: taken.lines }

def writeLines : List String → Sink → Sink
  | [], sink => sink
  | line :: rest, sink => (sink.writeLine line).2.writeLines rest

variable {sink : Sink}

theorem writeLines_append (first second : List String) (sink : Sink) :
    sink.writeLines (first ++ second) = (sink.writeLines first).writeLines second := by
  induction first generalizing sink with
  | nil => rfl
  | cons line rest ih => exact ih (sink.writeLine line).2

theorem extend_bytesOf_cons (line : String) (rest : List String) (sink : Sink) :
    (sink.extend (bytesOf [line])).extend (bytesOf rest) = sink.extend (bytesOf (line :: rest)) := by
  rw [extend_extend, ← bytesOf_append, List.singleton_append]

theorem Open.take (takes : sink.Open) (lines : List String) :
    sink.take lines = ⟨lines, sink.extend (bytesOf lines), false⟩ := by
  induction lines generalizing sink with
  | nil => simp only [Sink.take, bytesOf, extend_empty]
  | cons line rest ih =>
      simp only [Sink.take, takes.writeLine, ih (takes.extend _), extend_bytesOf_cons]

theorem Open.writeLines (takes : sink.Open) (lines : List String) :
    sink.writeLines lines = sink.extend (bytesOf lines) := by
  induction lines generalizing sink with
  | nil => simp only [Sink.writeLines, bytesOf, extend_empty]
  | cons line rest ih =>
      simp only [Sink.writeLines, takes.writeLine, ih (takes.extend _), extend_bytesOf_cons]

end Sink

namespace Results

structure Streamed where
  rows : List String
  failure? : Option Failure
  out : Sink

def streamed : Results → Sink → Streamed
  | .done, out => ⟨[], none, out⟩
  | .broken failure, out => ⟨[], some failure, out⟩
  | .batch rows next, out =>
      let taken := out.take rows
      if taken.refused then ⟨taken.lines, none, taken.sink⟩
      else
        let later := next.streamed taken.sink
        { later with rows := taken.lines ++ later.rows }

def rows : Results → List String
  | .done => []
  | .broken _ => []
  | .batch rows next => rows ++ next.rows

def failure? : Results → Option Failure
  | .done => none
  | .broken failure => some failure
  | .batch _ next => next.failure?

theorem streamed_of_open (results : Results) {out : Sink} (takes : out.Open) :
    results.streamed out =
      ⟨results.rows, results.failure?, out.extend (Sink.bytesOf results.rows)⟩ := by
  induction results generalizing out with
  | done => simp only [streamed, rows, failure?, Sink.bytesOf, Sink.extend_empty]
  | broken failure => simp only [streamed, rows, failure?, Sink.bytesOf, Sink.extend_empty]
  | batch first next ih =>
      simp only [streamed, takes.take, ih (takes.extend _), rows, failure?, Sink.extend_extend,
        Sink.bytesOf_append, Bool.false_eq_true, if_false]

end Results

def Shell.withOut (out : Sink) (shell : Shell World Store) : Shell World Store :=
  { shell with session := { shell.session with out } }

namespace Local

open Remote (reportAll)

variable {host : Host World} {engine : Engine Store} {copy : Copy} {path : String}

section Copying

def attempt : List (World → Except String Unit × World) → World → Except String Unit × World
  | [], world => (.ok (), world)
  | call :: rest, world =>
      match call world with
      | (.error reason, after) => (.error reason, after)
      | (.ok (), after) => attempt rest after

theorem attempt_append (first second : List (World → Except String Unit × World)) (world : World) :
    attempt (first ++ second) world =
      match attempt first world with
      | (.error reason, after) => (.error reason, after)
      | (.ok (), after) => attempt second after := by
  induction first generalizing world with
  | nil => rfl
  | cons call rest ih =>
      rcases called : call world with ⟨reason | done, after⟩
      · simp only [List.cons_append, attempt, called]
      · simp only [List.cons_append, attempt, called, ih]

def writing (host : Host World) (path : String) (rows : List String) :
    List (World → Except String Unit × World) :=
  host.createFile path :: rows.map (host.appendLine path)

theorem reportAll_eq (failures : List Failure) (session : Session) :
    reportAll failures session =
      { session with
        reported := session.reported ++ failures
        err := session.err.writeLines (failures.map Failure.message) } := by
  induction failures generalizing session with
  | nil =>
      rw [List.append_nil]
      rfl
  | cons failure rest ih =>
      rw [reportAll, List.foldl_cons, ← reportAll, ih (session.report failure), List.append_cons]
      rfl

theorem reportAll_concat (failures : List Failure) (failure : Failure) (session : Session) :
    reportAll (failures ++ [failure]) session = (reportAll failures session).report failure :=
  List.foldl_append

def tryCopy (call : World → Except String Unit × World) (copy : Copy) (shell : Shell World Store) :
    Copy × Shell World Store :=
  match call shell.world with
  | (.error reason, world) => abandon reason { shell with world }
  | (.ok (), world) => (copy, { shell with world })

theorem openCopy_eq (host : Host World) (path : String) (shell : Shell World Store) :
    openCopy host (some path) shell =
      tryCopy (host.createFile path) { file := some path } shell := by
  rcases called : host.createFile path shell.world with ⟨reason | done, after⟩
  · simp only [openCopy, Shell.withWorld, tryCopy, called]
  · simp only [openCopy, Shell.withWorld, tryCopy, called]

theorem copyRow_eq (copying : copy.file = some path) (row : String) (shell : Shell World Store) :
    copyRow host row copy shell = tryCopy (host.appendLine path row) copy shell := by
  rcases called : host.appendLine path row shell.world with ⟨reason | done, after⟩
  · simp only [copyRow, copying, Shell.withWorld, tryCopy, called]
  · simp only [copyRow, copying, Shell.withWorld, tryCopy, called]

def copyRows (host : Host World) : List String → Copy × Shell World Store → Copy × Shell World Store
  | [], copied => copied
  | row :: rest, copied => copyRows host rest (copyRow host row copied.1 copied.2)

theorem copyRows_append (first second : List String) (copied : Copy × Shell World Store) :
    copyRows host (first ++ second) copied = copyRows host second (copyRows host first copied) := by
  induction first generalizing copied with
  | nil => rfl
  | cons row rest ih => exact ih _

theorem copyRows_uncopied (rows : List String) (uncopied : copy.file = none)
    (shell : Shell World Store) : copyRows host rows (copy, shell) = (copy, shell) := by
  induction rows with
  | nil => rfl
  | cons row rest ih =>
      have unchanged : copyRow host row copy shell = (copy, shell) := by
        simp only [copyRow, uncopied]
      rw [copyRows, unchanged, ih]

theorem copyRows_tryCopy (call : World → Except String Unit × World) (rows : List String)
    (copying : copy.file = some path) (shell : Shell World Store) :
    copyRows host rows (tryCopy call copy shell) =
      tryCopy (attempt (call :: rows.map (host.appendLine path))) copy shell := by
  induction rows generalizing call shell with
  | nil =>
      rcases called : call shell.world with ⟨reason | done, after⟩
      · simp only [copyRows, tryCopy, attempt, called]
      · simp only [copyRows, tryCopy, List.map_nil, attempt, called]
  | cons row rest ih =>
      rcases called : call shell.world with ⟨reason | done, after⟩
      · -- No call is made for a copy that was given up, as none is after a failed attempt.
        have given_up : tryCopy call copy shell = abandon reason { shell with world := after } := by
          simp only [tryCopy, called]
        rw [given_up, abandon, copyRows_uncopied _ rfl]
        simp only [tryCopy, attempt, called, abandon]
      · have going : tryCopy call copy shell = (copy, { shell with world := after }) := by
          simp only [tryCopy, called]
        rw [going, copyRows, copyRow_eq copying, ih]
        simp only [tryCopy, List.map_cons, attempt, called]

structure Copied (World : Type) where
  code : Int
  reports : List Failure
  world : World

/-- A copy that fails while rows are written is reported before the failure that the rows end with,
and one that fails in the end is reported after it. -/
def copied (host : Host World) (sideFile : Option String) (rows : List String)
    (failure? : Option Failure) (world : World) : Copied World :=
  let code := failure?.map Failure.code
  match sideFile with
  | none => ⟨code.getD 0, failure?.toList, world⟩
  | some path =>
      match attempt (writing host path rows) world with
      | (.error reason, broken) => ⟨code.getD 1, sideFailure reason :: failure?.toList, broken⟩
      | (.ok (), written) =>
          match host.flushFile path written with
          | (.error reason, broken) => ⟨1, failure?.toList ++ [sideFailure reason], broken⟩
          | (.ok (), flushed) => ⟨code.getD 0, failure?.toList, flushed⟩

def settle (failure? : Option Failure) (copied : Copy × Shell World Store) :
    Copy × Shell World Store :=
  ({ copied.1 with code := (failure?.map Failure.code).getD copied.1.code },
    { copied.2 with session := reportAll failure?.toList copied.2.session })

theorem closeCopy_settle (host : Host World) (sideFile : Option String) (rows : List String)
    (failure? : Option Failure) (shell : Shell World Store) :
    let settled := settle failure? (copyRows host rows (openCopy host sideFile shell))
    let done := copied host sideFile rows failure? shell.world
    let closed := closeCopy host settled.1 settled.2
    (closed.1.code, closed.2) = (done.code, { shell with
      session := reportAll done.reports shell.session, world := done.world }) := by
  cases sideFile with
  | none =>
      have uncopied : copyRows host rows (openCopy host none shell) = ({}, shell) :=
        copyRows_uncopied rows rfl shell
      rw [uncopied]
      rfl
  | some path =>
      have written : copyRows host rows (openCopy host (some path) shell) =
          tryCopy (attempt (writing host path rows)) { file := some path } shell := by
        rw [openCopy_eq]
        exact copyRows_tryCopy (host.createFile path) rows rfl shell
      rw [written]
      rcases wrote : attempt (writing host path rows) shell.world with ⟨reason | done, after⟩
      · simp only [tryCopy, wrote, copied]
        rfl
      · rcases flushed : host.flushFile path after with ⟨reason | done, last⟩
        · have reported := reportAll_concat failure?.toList (sideFailure reason) shell.session
          simp only [tryCopy, wrote, settle, closeCopy, Shell.withWorld, flushed, copied, reported]
          rfl
        · simp only [tryCopy, wrote, settle, closeCopy, Shell.withWorld, flushed, copied]

end Copying

section Printing

variable {shell : Shell World Store}

theorem tryCopy_withOut (call : World → Except String Unit × World) (copy : Copy) (out : Sink)
    (shell : Shell World Store) :
    tryCopy call copy (shell.withOut out) =
      ((tryCopy call copy shell).1, (tryCopy call copy shell).2.withOut out) := by
  rcases called : call shell.world with ⟨reason | done, after⟩
  · simp only [tryCopy, Shell.withOut, called]
    rfl
  · simp only [tryCopy, Shell.withOut, called]

theorem out_tryCopy (call : World → Except String Unit × World) (copy : Copy)
    (shell : Shell World Store) :
    (tryCopy call copy shell).2.session.out = shell.session.out := by
  rcases called : call shell.world with ⟨reason | done, after⟩
  · simp only [tryCopy, called]
    rfl
  · simp only [tryCopy, called]

theorem out_openCopy (host : Host World) (sideFile : Option String) (shell : Shell World Store) :
    (openCopy host sideFile shell).2.session.out = shell.session.out := by
  cases sideFile with
  | none => rfl
  | some path => rw [openCopy_eq, out_tryCopy]

theorem openCopy_withOut (sideFile : Option String) (out : Sink) (shell : Shell World Store) :
    openCopy host sideFile (shell.withOut out) =
      ((openCopy host sideFile shell).1, (openCopy host sideFile shell).2.withOut out) := by
  cases sideFile with
  | none => rfl
  | some path => rw [openCopy_eq, openCopy_eq, tryCopy_withOut]

theorem copyRow_withOut (row : String) (copy : Copy) (out : Sink) (shell : Shell World Store) :
    copyRow host row copy (shell.withOut out) =
      ((copyRow host row copy shell).1, (copyRow host row copy shell).2.withOut out) := by
  cases copying : copy.file with
  | none => simp only [copyRow, copying]
  | some path => rw [copyRow_eq copying, copyRow_eq copying, tryCopy_withOut]

theorem copyRows_withOut (rows : List String) (out : Sink) (copied : Copy × Shell World Store) :
    copyRows host rows (copied.1, copied.2.withOut out) =
      ((copyRows host rows copied).1, (copyRows host rows copied).2.withOut out) := by
  induction rows generalizing copied with
  | nil => rfl
  | cons row rest ih =>
      rw [copyRows, copyRow_withOut, ih]
      rfl

theorem printRows_eq (host : Host World) (rows : List String) (copy : Copy)
    (shell : Shell World Store) :
    let taken := shell.session.out.take rows
    let copied := copyRows host taken.lines (copy, shell)
    printRows host rows copy shell = (!taken.refused, copied.1, copied.2.withOut taken.sink) := by
  induction rows generalizing copy shell with
  | nil => rfl
  | cons row rest ih =>
      rcases wrote : shell.session.out.writeLine row with ⟨reason | done, after⟩
      · simp only [printRows, Shell.printLine, Session.printLine, Sink.take, wrote]
        rfl
      · have printed : shell.printLine row = (.ok (), shell.withOut after) := by
          simp only [Shell.printLine, Session.printLine, wrote, Shell.withOut]
        have rest_printed := ih (copyRow host row copy shell).1
          ((copyRow host row copy shell).2.withOut after)
        simp only [copyRows_withOut] at rest_printed
        simp only [printRows, printed, copyRow_withOut, rest_printed, Sink.take, wrote]
        rfl

/-- The rows that the sink takes are those that are copied, and the failure comes after them. -/
theorem drain_eq (host : Host World) (results : Results) (copy : Copy) (shell : Shell World Store) :
    let streamed := results.streamed shell.session.out
    let copied := copyRows host streamed.rows (copy, shell)
    drain host results copy shell =
      settle streamed.failure? (copied.1, copied.2.withOut streamed.out) := by
  induction results generalizing copy shell with
  | done => rfl
  | broken failure => rfl
  | batch rows next ih =>
      have printed := printRows_eq host rows copy shell
      simp only [drain, printed, Results.streamed]
      cases refused : (shell.session.out.take rows).refused with
      | true => rfl
      | false =>
          simp only [Bool.not_false, Bool.false_eq_true, if_false, ih, copyRows_withOut,
            copyRows_append]
          rfl

def columnLines (execution : Execution) (session : Session) : List String :=
  if session.printsHeader && !execution.schema.isEmpty then
    ["\t".intercalate execution.schema]
  else []

theorem printHeader_eq (execution : Execution) (shell : Shell World Store) :
    printHeader execution shell =
      shell.withOut (shell.session.out.writeLines (columnLines execution shell.session)) := by
  simp only [printHeader, columnLines]
  split
  · rfl
  · rfl

def echoLines (statement : String) (session : Session) : List String :=
  if session.verbose then [statement] else []

theorem begun_eq (host : Host World) (statement : String) (shell : Shell World Store) :
    begun host statement shell =
      { shell.withOut (shell.session.out.writeLines (echoLines statement shell.session)) with
        world := (host.clock shell.world).2 } := by
  have same : (shell.withWorld host.clock).2.session = shell.session := rfl
  simp only [begun, echoLines, same]
  split
  · rfl
  · rfl

theorem finish_streamed (host : Host World) (engine : Engine Store) (sideFile : Option String)
    (execution : Execution) (shell : Shell World Store) :
    let headed := printHeader execution shell
    let streamed := execution.results.streamed headed.session.out
    let done := copied host sideFile streamed.rows streamed.failure? headed.world
    finish host engine sideFile execution shell =
      (if done.code = 0 then execution.closeCode else done.code,
        close engine execution { headed with
          session := reportAll done.reports { headed.session with out := streamed.out }
          world := done.world }) := by
  intro headed streamed done
  let opened := openCopy host sideFile headed
  have drained := drain_eq host execution.results opened.1 opened.2
  rw [out_openCopy] at drained
  -- No call for the copy looks at the sink, so that all rows may as well be printed before it.
  have moved : copyRows host streamed.rows (openCopy host sideFile (headed.withOut streamed.out)) =
      ((copyRows host streamed.rows opened).1,
        (copyRows host streamed.rows opened).2.withOut streamed.out) := by
    rw [openCopy_withOut, copyRows_withOut]
  have closed := closeCopy_settle host sideFile streamed.rows streamed.failure?
    (headed.withOut streamed.out)
  rw [moved, ← drained] at closed
  obtain ⟨code, shells⟩ := Prod.mk.inj closed
  simp only [finish]
  rw [code, shells]
  rfl

def heading (statement : String) (execution : Execution) (session : Session) : List String :=
  echoLines statement session ++ columnLines execution session

/-- A query that the engine takes, with what its sink takes of the rows and what becomes of the copy
of these. -/
theorem runQuery_streamed {statement : String} (sideFile : Option String)
    (ok : (engine.start statement shell.store).1.response.isOk = true) :
    let execution := (engine.start statement shell.store).1
    let streamed := execution.results.streamed
      (shell.session.out.writeLines (heading statement execution shell.session))
    let done := copied host sideFile streamed.rows streamed.failure? (host.clock shell.world).2
    runQuery host engine statement sideFile shell =
      (if done.code = 0 then execution.closeCode else done.code,
        printElapsed host (host.clock shell.world).1
          { session := reportAll done.reports { shell.session with out := streamed.out }
            world := done.world
            store := engine.serve statement shell.store }) := by
  intro execution streamed done
  have headed : printHeader execution (started host engine statement shell) =
      { session := { shell.session with
          out := shell.session.out.writeLines (heading statement execution shell.session) }
        world := (host.clock shell.world).2
        store := (engine.start statement shell.store).2 } := by
    rw [printHeader_eq, started, begun_eq, heading, Sink.writeLines_append]
    rfl
  rw [runQuery_of_ok sideFile ok, finish_streamed, headed]
  rfl

theorem printElapsed_silent (host : Host World) (start : Nat) (shell : Shell World Store)
    (silent : shell.session.silent = true) :
    printElapsed host start shell = { shell with world := (host.clock shell.world).2 } := by
  simp only [printElapsed, Shell.withWorld, Shell.printInfo, Session.printInfo, silent, if_true,
    ite_self]

/-- On an open sink every row is printed, whatever becomes of the copy. -/
theorem runQuery_streamed_open {statement : String} (sideFile : Option String)
    (ok : (engine.start statement shell.store).1.response.isOk = true)
    (takes : shell.session.out.Open) :
    let execution := (engine.start statement shell.store).1
    let done := copied host sideFile execution.results.rows execution.results.failure?
      (host.clock shell.world).2
    runQuery host engine statement sideFile shell =
      (if done.code = 0 then execution.closeCode else done.code,
        printElapsed host (host.clock shell.world).1
          { session := reportAll done.reports (shell.session.withOutput
              (heading statement execution shell.session ++ execution.results.rows))
            world := done.world
            store := engine.serve statement shell.store }) := by
  have streamed := Results.streamed_of_open (engine.start statement shell.store).1.results
    (takes.extend (Sink.bytesOf
      (heading statement (engine.start statement shell.store).1 shell.session)))
  rw [Sink.extend_extend, ← Sink.bytesOf_append, ← takes.writeLines] at streamed
  rw [runQuery_streamed sideFile ok, streamed]
  rfl

end Printing

end Local

end QueryShell
