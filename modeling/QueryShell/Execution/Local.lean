import QueryShell.Directive
import QueryShell.Number.Shortest
import QueryShell.Sample

/-!
Statements in local mode. Directives are carried out by the shell. Any other statement runs on the
engine, whose rows are printed as they come and copied to a side file when one is asked for. A
biased statement is rewritten into the statements that build its sample tables.
-/

namespace QueryShell.Local

variable {World Store : Type}

structure Copy where
  file : Option String := none
  code : Int := 0
deriving DecidableEq, Repr

def sideFailure (reason : String) : Failure := .io ("Cannot write key summary: " ++ reason)

def abandon (reason : String) (shell : Shell World Store) : Copy × Shell World Store :=
  ({ file := none, code := 1 }, shell.report (sideFailure reason))

def openCopy (host : Host World) (sideFile : Option String) (shell : Shell World Store) :
    Copy × Shell World Store :=
  match sideFile with
  | none => ({}, shell)
  | some path =>
      match shell.withWorld (host.createFile path) with
      | (.ok (), shell) => ({ file := some path }, shell)
      | (.error reason, shell) => abandon reason shell

def copyRow (host : Host World) (row : String) (copy : Copy) (shell : Shell World Store) :
    Copy × Shell World Store :=
  match copy.file with
  | none => (copy, shell)
  | some path =>
      match shell.withWorld (host.appendLine path row) with
      | (.ok (), shell) => (copy, shell)
      | (.error reason, shell) => abandon reason shell

def closeCopy (host : Host World) (copy : Copy) (shell : Shell World Store) :
    Copy × Shell World Store :=
  match copy.file with
  | none => (copy, shell)
  | some path =>
      match shell.withWorld (host.flushFile path) with
      | (.ok (), shell) => ({ copy with file := none }, shell)
      | (.error reason, shell) => abandon reason shell

def printRows (host : Host World) (rows : List String) (copy : Copy)
    (shell : Shell World Store) : Bool × Copy × Shell World Store :=
  match rows with
  | [] => (true, copy, shell)
  | row :: rest =>
      match shell.printLine row with
      | (.error _, shell) => (false, copy, shell)
      | (.ok (), shell) =>
          let (copy, shell) := copyRow host row copy shell
          printRows host rest copy shell

def drain (host : Host World) (results : Results) (copy : Copy) (shell : Shell World Store) :
    Copy × Shell World Store :=
  match results with
  | .done => (copy, shell)
  | .broken failure => ({ copy with code := failure.code }, shell.report failure)
  | .batch rows next =>
      match printRows host rows copy shell with
      | (true, copy, shell) => drain host next copy shell
      | (false, copy, shell) => (copy, shell)

def printHeader (execution : Execution) (shell : Shell World Store) : Shell World Store :=
  if shell.session.printsHeader && !execution.schema.isEmpty then
    shell.echo ("\t".intercalate execution.schema)
  else shell

def close (engine : Engine Store) (execution : Execution) (shell : Shell World Store) :
    Shell World Store :=
  { shell with store := engine.close execution shell.store }

/-- Prints what an execution that has started yields, and releases it. The code of the release
counts only if nothing failed before. -/
def finish (host : Host World) (engine : Engine Store) (sideFile : Option String)
    (execution : Execution) (shell : Shell World Store) : Int × Shell World Store :=
  let shell := printHeader execution shell
  let (copy, shell) := openCopy host sideFile shell
  let (copy, shell) := drain host execution.results copy shell
  let (copy, shell) := closeCopy host copy shell
  let shell := close engine execution shell
  (if copy.code = 0 then execution.closeCode else copy.code, shell)

def printElapsed (host : Host World) (start : Nat) (shell : Shell World Store) :
    Shell World Store :=
  let (now, shell) := shell.withWorld host.clock
  if start < now then
    shell.printInfo ("Time taken: " ++ Shortest.seconds (now - start) ++ " seconds")
  else shell

def runQuery (host : Host World) (engine : Engine Store) (statement : String)
    (sideFile : Option String) (shell : Shell World Store) : Int × Shell World Store :=
  let (start, shell) := shell.withWorld host.clock
  let shell := if shell.session.verbose then shell.echo statement else shell
  let (execution, shell) := shell.withStore (engine.start statement)
  if execution.response.isOk then
    let (code, shell) := finish host engine sideFile execution shell
    (code, printElapsed host start shell)
  else
    let shell := shell.report (.query (execution.response.message.getD ""))
    (execution.response.code, close engine execution shell)

def runStatement (host : Host World) (engine : Engine Store) (statement : String)
    (sideFile : Option String) (shell : Shell World Store) : Int × Shell World Store :=
  match Directive.ofStatement? statement with
  | some (directive, arguments) =>
      let word := (Text.firstWord statement.toList).1
      let shell :=
        if shell.session.verbose then
          shell.echo (String.ofList (word ++ [' '] ++ arguments))
        else shell
      directive.run host arguments shell
  | none => runQuery host engine statement sideFile shell

def runDerived (host : Host World) (engine : Engine Store) (statement : String)
    (shell : Shell World Store) : Int × Shell World Store :=
  runStatement host engine statement none (shell.echo statement)

/-- Builds the sample tables of the lines of a key summary. The code is that of the last statement;
a line without keys and frequency ends the run. -/
def buildSamples (host : Host World) (engine : Engine Store) (sample : Sample)
    (lines : List String) (code : Int) (shell : Shell World Store) : Int × Shell World Store :=
  match lines with
  | [] => (code, shell)
  | line :: rest =>
      match sample.statementsFor line with
      | .error failure => shell.fail failure
      | .ok (drop, create) =>
          let (_, shell) := runDerived host engine drop shell
          let (code, shell) := runDerived host engine create shell
          buildSamples host engine sample rest code shell

def summaryLines (summary : String) : List String :=
  ((Text.lines summary.toList).map String.ofList).filter fun line => !Text.isBlankText line

def runSample (host : Host World) (engine : Engine Store) (statement : String)
    (shell : Shell World Store) : Int × Shell World Store :=
  match Sample.ofStatement statement with
  | .error failure => shell.fail failure
  | .ok sample =>
      let path := shell.session.keySummaryFile
      let (code, shell) := runStatement host engine sample.summaryQuery (some path) shell
      if code ≠ 0 then (code, shell)
      else match shell.withWorld (host.readText path) with
        | (.error reason, shell) => shell.fail (.io (path ++ ": " ++ reason))
        | (.ok summary, shell) =>
            buildSamples host engine sample (summaryLines summary) 0 shell

def execute (host : Host World) (engine : Engine Store) (statement : String)
    (shell : Shell World Store) : Int × Shell World Store :=
  if shell.session.samples && Sample.isBiased statement then
    runSample host engine statement shell
  else runStatement host engine statement none shell

end QueryShell.Local
