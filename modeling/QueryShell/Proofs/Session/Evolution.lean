import Mathlib.Logic.Relation
import QueryShell.Proofs.Backend.Served
import QueryShell.Proofs.Output.Open
import QueryShell.Proofs.Remote.Paging
import QueryShell.Proofs.Resource.History
import QueryShell.Proofs.Run.Trace

/-!
What statements do to a session, piece by piece. Every statement goes through a few kinds of changes,
and none of them takes anything back that a sink accepted.
-/

namespace QueryShell

variable {World Store : Type} {host : Host World} {engine : Engine Store}

open Relation (ReflTransGen)

namespace Session

def sink (session : Session) : ChildStream → Sink
  | .out => session.out
  | .err => session.err

def withSink (stream : ChildStream) (sink : Sink) (session : Session) : Session :=
  match stream with
  | .out => { session with out := sink }
  | .err => { session with err := sink }

inductive Change : Session → Session → Prop
  | line (text : String) (session : Session) : Change session (session.printLine text).2
  | info (text : String) (session : Session) : Change session (session.printInfo text)
  | failure (failure : Failure) (session : Session) : Change session (session.report failure)
  | piece (stream : ChildStream) (bytes : ByteArray) (session : Session) :
      Change session (session.withSink stream ((session.sink stream).write bytes).2)
  | assigned (name value : String) (session : Session) :
      Change session (session.setVariable name value)
  | restored (session : Session) : Change session session.resetVariables
  | resources (change : Resource.Change) (session : Session) :
      Change session { session with resources := change.apply session.resources }

abbrev Evolves : Session → Session → Prop := ReflTransGen Change

end Session

open Session (Change)

namespace Shell

def Evolves (before after : Shell World Store) : Prop := before.session.Evolves after.session

namespace Evolves

variable {shell before middle after : Shell World Store}

theorem refl (shell : Shell World Store) : Evolves shell shell := ReflTransGen.refl

theorem trans (first : Evolves before middle) (second : Evolves middle after) :
    Evolves before after := ReflTransGen.trans first second

theorem of_change (change : Change before.session after.session) : Evolves before after :=
  .single change

theorem report (failure : Failure) (shell : Shell World Store) :
    Evolves shell (shell.report failure) := of_change (.failure failure shell.session)

theorem echo (line : String) (shell : Shell World Store) : Evolves shell (shell.echo line) :=
  of_change (.line line shell.session)

theorem of_printLine {line : String} {answer : Except String Unit}
    (printed : shell.printLine line = (answer, after)) : Evolves shell after := by
  obtain ⟨-, rfl⟩ := Prod.mk.inj printed
  exact of_change (.line line shell.session)

theorem of_withWorld {Answer : Type} {action : World → Answer × World} {answer : Answer}
    (asked : shell.withWorld action = (answer, after)) : Evolves shell after := by
  obtain ⟨-, rfl⟩ := Prod.mk.inj asked
  exact refl shell

end Evolves

end Shell

open Shell (Evolves)

theorem Listing.run_evolves (kind : Option String) (values : List String)
    (shell : Shell World Store) :
    Evolves shell (Listing.run kind values shell).2 := by
  simp only [Listing.run]
  cases kind.bind fun word => Resource.Kind.ofWord? word.toList with
  | none => exact .report usage shell
  | some kind =>
      dsimp only
      generalize "\n".intercalate _ = listed
      split
      · exact .refl _
      · split
        · rename_i printed
          exact .of_printLine printed
        · rename_i printed
          exact (Evolves.of_printLine printed).trans (.report _ _)

namespace Escape

theorem offer_evolves (stream : ChildStream) (pieces : List ByteArray) (session : Session) :
    session.Evolves (session.withSink stream (offer pieces (session.sink stream)).2) := by
  induction pieces generalizing session with
  | nil => cases stream with
    | out | err => exact .refl
  | cons piece rest ih =>
      have first := Change.piece stream piece session
      rw [offer]
      rcases written : (session.sink stream).write piece with ⟨reason | _, sink⟩
      · rw [written] at first
        exact .single first
      · have later := ih (session.withSink stream sink)
        rw [written] at first
        cases stream with
        | out | err => exact .head first later

theorem copy_evolves (copying : Copying) (chunks : List Chunk) (session : Session) :
    session.Evolves (copy copying chunks session) := by
  induction chunks generalizing copying session with
  | nil => exact .refl
  | cons chunk rest ih =>
      simp only [copy]
      split
      · split
        · exact (offer_evolves .out _ session).trans (ih _ _)
        · exact ih _ _
      · split
        · exact (offer_evolves .err _ session).trans (ih _ _)
        · exact ih _ _

theorem settle_evolves (status : Except String ExitStatus) (shell : Shell World Store) :
    Evolves shell (settle status shell).2 := by
  rcases status with reason | code | _
  · exact .report _ shell
  · by_cases success : code = 0
    · simp only [settle, success]
      exact .refl _
    · simp only [settle, success]
      exact .report _ shell
  · exact .report _ shell

theorem run_evolves (host : Host World) (line : String) (shell : Shell World Store) :
    Evolves shell (run host line shell).2 := by
  simp only [run]
  split
  · rename_i spawned
    exact (Evolves.of_withWorld spawned).trans (.report _ _)
  · rename_i child after spawned
    have copied : Evolves after
        { after with session := copy {} child.chunks after.session } :=
      copy_evolves {} child.chunks after.session
    exact ((Evolves.of_withWorld spawned).trans copied).trans (settle_evolves _ _)

end Escape

theorem Run.loadSource_evolves (host : Host World) (path : String) (depth : Nat)
    (shell : Shell World Store) :
    Evolves shell (loadSource host path depth shell).2 := by
  simp only [loadSource]
  split
  · exact .refl _
  · split
    · rename_i asked
      exact .of_withWorld asked
    · rename_i asked
      split
      · rename_i read
        exact (Evolves.of_withWorld asked).trans (.of_withWorld read)
      · rename_i read
        exact (Evolves.of_withWorld asked).trans (.of_withWorld read)

namespace Directive

theorem printAll_evolves (lines : List String) (shell : Shell World Store) :
    Evolves shell (printAll lines shell).2 := by
  induction lines generalizing shell with
  | nil => exact .refl _
  | cons line rest ih =>
      simp only [printAll]
      split
      · rename_i printed
        exact (Evolves.of_printLine printed).trans (ih _)
      · rename_i printed
        exact (Evolves.of_printLine printed).trans (.report _ _)

theorem addValues_evolves (host : Host World) (kind : Resource.Kind) (code : Int)
    (values : List String) (shell : Shell World Store) :
    Evolves shell (addValues host kind code values shell).2 := by
  induction values generalizing code shell with
  | nil => exact .refl _
  | cons value rest ih =>
      simp only [addValues]
      split
      · rename_i missing
        exact ((Evolves.of_withWorld missing).trans (.report _ _)).trans (ih _ _)
      · rename_i after found
        have held : Evolves shell { after with session := { after.session with
            resources := (after.session.resources.add kind value).2 } } :=
          (Evolves.of_withWorld found).trans (.of_change (.resources (.add kind value) after.session))
        split
        · exact (held.trans (.of_change (.info _ _))).trans (ih _ _)
        · exact held.trans (ih _ _)

theorem run_evolves (host : Host World) (directive : Directive) (arguments : List Char)
    (shell : Shell World Store) :
    Evolves shell (directive.run host arguments shell).2 := by
  cases directive with
  | set =>
      simp only [run, runSet]
      split
      · exact printAll_evolves _ shell
      · split
        · split
          · exact .report _ shell
          · exact .of_change (.assigned _ _ _)
        · split
          · exact printAll_evolves _ shell
          · exact printAll_evolves _ shell
  | reset => exact .of_change (.restored _)
  | add =>
      simp only [run, runAdd]
      split
      · split
        · exact addValues_evolves host _ 0 _ shell
        · exact .report _ shell
      · exact .report _ shell
  | delete =>
      simp only [run, runDelete]
      split
      · exact .report _ shell
      · split
        · exact .of_change (.resources (.remove _ _) _)
        · exact .report _ shell

end Directive

namespace Local

theorem openCopy_evolves (host : Host World) (sideFile : Option String)
    (shell : Shell World Store) :
    Evolves shell (openCopy host sideFile shell).2 := by
  simp only [openCopy]
  split
  · exact .refl _
  · split
    · rename_i created
      exact .of_withWorld created
    · rename_i created
      exact (Evolves.of_withWorld created).trans (.report _ _)

theorem copyRow_evolves (host : Host World) (row : String) (copy : Copy)
    (shell : Shell World Store) :
    Evolves shell (copyRow host row copy shell).2 := by
  simp only [copyRow]
  split
  · exact .refl _
  · split
    · rename_i appended
      exact .of_withWorld appended
    · rename_i appended
      exact (Evolves.of_withWorld appended).trans (.report _ _)

theorem closeCopy_evolves (host : Host World) (copy : Copy) (shell : Shell World Store) :
    Evolves shell (closeCopy host copy shell).2 := by
  simp only [closeCopy]
  split
  · exact .refl _
  · split
    · rename_i flushed
      exact .of_withWorld flushed
    · rename_i flushed
      exact (Evolves.of_withWorld flushed).trans (.report _ _)

theorem printRows_evolves (host : Host World) (rows : List String) (copy : Copy)
    (shell : Shell World Store) :
    Evolves shell (printRows host rows copy shell).2.2 := by
  induction rows generalizing copy shell with
  | nil => exact .refl _
  | cons row rest ih =>
      simp only [printRows]
      split
      · rename_i printed
        exact .of_printLine printed
      · rename_i after printed
        exact ((Evolves.of_printLine printed).trans (copyRow_evolves host row copy after)).trans
          (ih _ _)

theorem drain_evolves (host : Host World) (results : Results) (copy : Copy)
    (shell : Shell World Store) :
    Evolves shell (drain host results copy shell).2 := by
  induction results generalizing copy shell with
  | done => exact .refl _
  | broken failure => exact .report failure shell
  | batch rows next ih =>
      have printed := printRows_evolves host rows copy shell
      simp only [drain]
      split
      · rename_i copied after outcome
        rw [outcome] at printed
        exact printed.trans (ih copied after)
      · rename_i copied after outcome
        rw [outcome] at printed
        exact printed

theorem printHeader_evolves (execution : Execution) (shell : Shell World Store) :
    Evolves shell (printHeader execution shell) := by
  simp only [printHeader]
  split
  · exact .echo _ shell
  · exact .refl _

theorem finish_evolves (host : Host World) (engine : Engine Store) (sideFile : Option String)
    (execution : Execution) (shell : Shell World Store) :
    Evolves shell (finish host engine sideFile execution shell).2 := by
  have header := printHeader_evolves execution shell
  have opened := openCopy_evolves host sideFile (printHeader execution shell)
  simp only [finish]
  generalize openCopy host sideFile (printHeader execution shell) = copying at opened ⊢
  have drained := drain_evolves host execution.results copying.1 copying.2
  generalize drain host execution.results copying.1 copying.2 = drain at drained ⊢
  have closed := closeCopy_evolves host drain.1 drain.2
  exact ((header.trans opened).trans drained).trans closed

theorem printElapsed_evolves (host : Host World) (start : Nat) (shell : Shell World Store) :
    Evolves shell (printElapsed host start shell) := by
  rcases asked : shell.withWorld host.clock with ⟨now, after⟩
  have clocked := Evolves.of_withWorld asked
  simp only [printElapsed, asked]
  split
  · exact clocked.trans (.of_change (.info _ _))
  · exact clocked

theorem runQuery_evolves (host : Host World) (engine : Engine Store) (statement : String)
    (sideFile : Option String) (shell : Shell World Store) :
    Evolves shell (runQuery host engine statement sideFile shell).2 := by
  have told : Evolves shell (started host engine statement shell) := by
    simp only [started, begun]
    split
    · exact .echo statement _
    · exact .refl _
  by_cases ok : (engine.start statement shell.store).1.response.isOk = true
  · rw [runQuery_of_ok sideFile ok]
    exact (told.trans (finish_evolves _ _ _ _ _)).trans (printElapsed_evolves _ _ _)
  · rw [runQuery_of_refused sideFile ok]
    exact told.trans (.report _ _)

theorem runStatement_evolves (host : Host World) (engine : Engine Store) (statement : String)
    (sideFile : Option String) (shell : Shell World Store) :
    Evolves shell (runStatement host engine statement sideFile shell).2 := by
  simp only [runStatement]
  split
  · split
    · exact (Evolves.echo _ shell).trans (Directive.run_evolves host _ _ _)
    · exact Directive.run_evolves host _ _ shell
  · exact runQuery_evolves host engine statement sideFile shell

theorem runDerived_evolves (host : Host World) (engine : Engine Store) (statement : String)
    (shell : Shell World Store) :
    Evolves shell (runDerived host engine statement shell).2 :=
  (Evolves.echo statement shell).trans (runStatement_evolves host engine statement none _)

theorem buildSamples_evolves (sample : Sample) (lines : List String) (code : Int)
    (shell : Shell World Store) :
    Evolves shell (buildSamples host engine sample lines code shell).2 := by
  induction lines generalizing code shell with
  | nil => exact .refl _
  | cons line rest ih =>
      simp only [buildSamples]
      split
      · exact .report _ shell
      · rename_i drop create _
        have dropped := runDerived_evolves host engine drop shell
        have created := runDerived_evolves host engine create
          (runDerived host engine drop shell).2
        exact (dropped.trans created).trans (ih _ _)

theorem runSample_evolves (statement : String) (shell : Shell World Store) :
    Evolves shell (runSample host engine statement shell).2 := by
  simp only [runSample]
  split
  · exact .report _ shell
  · rename_i sample _
    have summary := runStatement_evolves host engine sample.summaryQuery
      (some shell.session.keySummaryFile) shell
    generalize runStatement host engine sample.summaryQuery _ shell = result at summary ⊢
    split
    · exact summary
    · split
      · rename_i read
        exact (summary.trans (.of_withWorld read)).trans (.report _ _)
      · rename_i read
        exact (summary.trans (.of_withWorld read)).trans (buildSamples_evolves sample _ 0 _)

theorem execute_evolves (host : Host World) (engine : Engine Store) (statement : String)
    (shell : Shell World Store) :
    Evolves shell (execute host engine statement shell).2 := by
  simp only [execute]
  split
  · exact runSample_evolves statement shell
  · exact runStatement_evolves host engine statement none shell

end Local

namespace Remote

variable {server : Remote Store}

theorem printLines_evolves (lines : List String) (session : Session) :
    session.Evolves (printLines lines session).2 := by
  induction lines generalizing session with
  | nil => exact .refl
  | cons line rest ih =>
      have printed := Change.line line session
      simp only [printLines]
      split
      · rename_i outcome
        rw [outcome] at printed
        exact .head printed (ih _)
      · rename_i outcome
        rw [outcome] at printed
        exact .single printed

theorem printPages_evolves (server : Remote Store) (session : Session) (store : Store) :
    session.Evolves (printPages server session store).2.1 := by
  induction session, store using printPages.induct server with
  | case1 session store failure left fetched =>
      rw [printPages_eq, fetched]
  | case2 session store lines after fetched printed refused =>
      have evolved := printLines_evolves lines session
      rw [refused] at evolved
      rw [printPages_eq, fetched]
      simp only [refused]
      exact evolved
  | case3 session store lines after fetched printed accepted full ih =>
      have evolved := printLines_evolves lines session
      rw [accepted] at evolved
      rw [printPages_eq, fetched]
      simp only [accepted, full, if_true]
      exact evolved.trans ih
  | case4 session store lines after fetched printed accepted short =>
      have evolved := printLines_evolves lines session
      rw [accepted] at evolved
      rw [printPages_eq, fetched]
      simp only [accepted, short, if_false]
      exact evolved

theorem executeOn_evolves (server : Remote Store) (statement : String) (shell : Shell World Store) :
    Evolves shell (executeOn server statement shell).2 := by
  have ran : shell.session.Evolves (run server statement shell.session shell.store).2.1 := by
    simp only [run]
    split
    · exact .refl
    · exact printPages_evolves server shell.session _
  have settled (result : Except Failure Unit) (session : Session) :
      session.Evolves (settle result session).2 := by
    simp only [settle]
    split
    · exact .refl
    · exact .refl
    · exact .single (.failure _ session)
  have coded := ran.trans (settled (run server statement shell.session shell.store).1 _)
  simp only [executeOn]
  split
  · exact coded
  · exact coded.tail (.failure _ _)

end Remote

namespace Run

variable {platform : Platform World Store} {shell final : Shell World Store}

theorem dispatch_evolves (platform : Platform World Store) (statement : String) (depth : Nat)
    (shell : Shell World Store) :
    Evolves shell (dispatch platform statement depth shell).2 := by
  simp only [dispatch]
  cases Command.ofStatement statement with
  | quit => exact .refl _
  | source path =>
      have evolved := loadSource_evolves platform.host path depth shell
      rcases loaded : loadSource platform.host path depth shell with ⟨failure | text, after⟩
      · rw [loaded] at evolved
        simp only [loaded]
        exact evolved.trans (.report failure after)
      · rw [loaded] at evolved
        simp only [loaded]
        exact evolved
  | shell line => exact Escape.run_evolves platform.host line shell
  | list kind values => exact Listing.run_evolves kind values shell
  | query query =>
      simp only [finished, Run.query]
      split
      · exact Local.execute_evolves platform.host _ query shell
      · exact Remote.executeOn_evolves _ query shell

theorem Linked.evolves {events : List (Event World Store)}
    (linked : Linked platform shell events final) : Evolves shell final := by
  induction linked with
  | nil => exact .refl _
  | cons event asked _ ih =>
      have first := dispatch_evolves platform event.statement event.depth event.before
      rw [asked] at first
      exact first.trans ih

end Run

end QueryShell
