import QueryShell.Directive
import QueryShell.Execution.Local
import QueryShell.Run.Step

/-!
What the commands of the shell leave alone. Besides the machine they change no more than the sinks
and the log of a session, and only the directives go further. None of them touches the store of the
backend.
-/

namespace QueryShell

namespace Session

def Steady (before after : Session) : Prop :=
  after = { before with out := after.out, err := after.err, reported := after.reported }

namespace Steady

variable {before middle after : Session}

theorem refl (session : Session) : Steady session session := rfl

theorem trans (first : Steady before middle) (second : Steady middle after) :
    Steady before after :=
  calc
    after = { middle with out := after.out, err := after.err, reported := after.reported } := second
    _ = { before with out := after.out, err := after.err, reported := after.reported } :=
        congrArg (fun session : Session =>
          { session with out := after.out, err := after.err, reported := after.reported }) first

theorem printLine (line : String) (session : Session) :
    Steady session (session.printLine line).2 := rfl

theorem report (failure : Failure) (session : Session) :
    Steady session (session.report failure) := rfl

theorem printInfo (line : String) (session : Session) :
    Steady session (session.printInfo line) := by
  simp only [Session.printInfo]
  split
  · exact refl session
  · rfl

end Steady

end Session

namespace Shell

variable {World Store : Type}

structure Steady (before after : Shell World Store) : Prop where
  session : before.session.Steady after.session
  store : after.store = before.store

namespace Steady

variable {before middle after shell : Shell World Store}

theorem refl (shell : Shell World Store) : Steady shell shell := ⟨.refl _, rfl⟩

theorem trans (first : Steady before middle) (second : Steady middle after) :
    Steady before after :=
  ⟨first.session.trans second.session, second.store.trans first.store⟩

theorem report (failure : Failure) (shell : Shell World Store) :
    Steady shell (shell.report failure) := ⟨.report failure _, rfl⟩

theorem printInfo (line : String) (shell : Shell World Store) :
    Steady shell (shell.printInfo line) := ⟨.printInfo line _, rfl⟩

theorem echo (line : String) (shell : Shell World Store) : Steady shell (shell.echo line) :=
  ⟨.printLine line _, rfl⟩

theorem of_printLine {line : String} {answer : Except String Unit}
    (printed : shell.printLine line = (answer, after)) : Steady shell after := by
  obtain ⟨-, rfl⟩ := Prod.mk.inj printed
  exact ⟨.printLine line _, rfl⟩

theorem of_withWorld {Answer : Type} {action : World → Answer × World} {answer : Answer}
    (asked : shell.withWorld action = (answer, after)) : Steady shell after := by
  obtain ⟨-, rfl⟩ := Prod.mk.inj asked
  exact ⟨.refl _, rfl⟩

end Steady

end Shell

open Shell (Steady)

variable {World Store : Type}

theorem Listing.run_steady (kind : Option String) (values : List String)
    (shell : Shell World Store) : Steady shell (Listing.run kind values shell).2 := by
  simp only [Listing.run]
  cases kind.bind fun word => Resource.Kind.ofWord? word.toList with
  | none => exact .report _ shell
  | some kind =>
      dsimp only
      generalize "\n".intercalate _ = listed
      split
      · exact .refl shell
      · split
        · rename_i printed
          exact .of_printLine printed
        · rename_i printed
          exact (Steady.of_printLine printed).trans (.report _ _)

namespace Escape

theorem copy_steady (copying : Copying) (chunks : List Chunk) (session : Session) :
    session.Steady (copy copying chunks session) := by
  induction chunks generalizing copying session with
  | nil => exact .refl session
  | cons chunk rest ih =>
      have out (sink : Sink) : session.Steady { session with out := sink } := rfl
      have err (sink : Sink) : session.Steady { session with err := sink } := rfl
      simp only [copy]
      split
      · split
        · exact (out _).trans (ih _ _)
        · exact ih _ _
      · split
        · exact (err _).trans (ih _ _)
        · exact ih _ _

theorem settle_steady (status : Except String ExitStatus) (shell : Shell World Store) :
    Steady shell (settle status shell).2 := by
  rcases status with reason | code | _
  · exact .report _ shell
  · by_cases success : code = 0
    · simp only [settle, success]
      exact .refl shell
    · simp only [settle, success]
      exact .report _ shell
  · exact .report _ shell

theorem run_steady (host : Host World) (line : String) (shell : Shell World Store) :
    Steady shell (run host line shell).2 := by
  simp only [run]
  split
  · rename_i spawned
    exact (Steady.of_withWorld spawned).trans (.report _ _)
  · rename_i child after spawned
    have copied : Steady after { after with session := copy {} child.chunks after.session } :=
      ⟨copy_steady {} child.chunks after.session, rfl⟩
    exact ((Steady.of_withWorld spawned).trans copied).trans (settle_steady _ _)

end Escape

theorem Run.loadSource_steady (host : Host World) (path : String) (depth : Nat)
    (shell : Shell World Store) : Steady shell (loadSource host path depth shell).2 := by
  simp only [loadSource]
  split
  · exact .refl shell
  · split
    · rename_i asked
      exact .of_withWorld asked
    · rename_i asked
      split
      · rename_i read
        exact (Steady.of_withWorld asked).trans (.of_withWorld read)
      · rename_i read
        exact (Steady.of_withWorld asked).trans (.of_withWorld read)

namespace Directive

theorem printAll_steady (lines : List String) (shell : Shell World Store) :
    Steady shell (printAll lines shell).2 := by
  induction lines generalizing shell with
  | nil => exact .refl shell
  | cons line rest ih =>
      simp only [printAll]
      split
      · rename_i printed
        exact (Steady.of_printLine printed).trans (ih _)
      · rename_i printed
        exact (Steady.of_printLine printed).trans (.report _ _)

theorem store_addValues (host : Host World) (kind : Resource.Kind) (code : Int)
    (values : List String) (shell : Shell World Store) :
    (addValues host kind code values shell).2.store = shell.store := by
  induction values generalizing code shell with
  | nil => rfl
  | cons value rest ih =>
      simp only [addValues]
      split
      · rename_i asked
        rw [ih]
        exact (Steady.of_withWorld asked).store
      · rename_i asked
        rw [ih]
        split
        · exact (Steady.of_withWorld asked).store
        · exact (Steady.of_withWorld asked).store

theorem store_run (host : Host World) (directive : Directive) (arguments : List Char)
    (shell : Shell World Store) : (directive.run host arguments shell).2.store = shell.store := by
  cases directive with
  | set =>
      simp only [run, runSet]
      split
      · exact (printAll_steady _ shell).store
      · split
        · split
          · rfl
          · rfl
        · split
          · exact (printAll_steady _ shell).store
          · exact (printAll_steady _ shell).store
  | reset => rfl
  | add =>
      simp only [run, runAdd]
      split
      · split
        · exact store_addValues host _ 0 _ shell
        · rfl
      · rfl
  | delete =>
      simp only [run, runDelete]
      split
      · rfl
      · split
        · rfl
        · rfl

end Directive

namespace Local

theorem openCopy_steady (host : Host World) (sideFile : Option String)
    (shell : Shell World Store) : Steady shell (openCopy host sideFile shell).2 := by
  simp only [openCopy]
  split
  · exact .refl shell
  · split
    · rename_i created
      exact .of_withWorld created
    · rename_i created
      exact (Steady.of_withWorld created).trans (.report _ _)

theorem copyRow_steady (host : Host World) (row : String) (copy : Copy)
    (shell : Shell World Store) : Steady shell (copyRow host row copy shell).2 := by
  simp only [copyRow]
  split
  · exact .refl shell
  · split
    · rename_i appended
      exact .of_withWorld appended
    · rename_i appended
      exact (Steady.of_withWorld appended).trans (.report _ _)

theorem closeCopy_steady (host : Host World) (copy : Copy) (shell : Shell World Store) :
    Steady shell (closeCopy host copy shell).2 := by
  simp only [closeCopy]
  split
  · exact .refl shell
  · split
    · rename_i flushed
      exact .of_withWorld flushed
    · rename_i flushed
      exact (Steady.of_withWorld flushed).trans (.report _ _)

theorem printRows_steady (host : Host World) (rows : List String) (copy : Copy)
    (shell : Shell World Store) : Steady shell (printRows host rows copy shell).2.2 := by
  induction rows generalizing copy shell with
  | nil => exact .refl shell
  | cons row rest ih =>
      simp only [printRows]
      split
      · rename_i printed
        exact .of_printLine printed
      · rename_i after printed
        exact ((Steady.of_printLine printed).trans (copyRow_steady host row copy after)).trans
          (ih _ _)

theorem drain_steady (host : Host World) (results : Results) (copy : Copy)
    (shell : Shell World Store) : Steady shell (drain host results copy shell).2 := by
  induction results generalizing copy shell with
  | done => exact .refl shell
  | broken failure => exact .report failure shell
  | batch rows next ih =>
      have printed := printRows_steady host rows copy shell
      simp only [drain]
      split
      · rename_i copied after outcome
        rw [outcome] at printed
        exact printed.trans (ih copied after)
      · rename_i copied after outcome
        rw [outcome] at printed
        exact printed

theorem printHeader_steady (execution : Execution) (shell : Shell World Store) :
    Steady shell (printHeader execution shell) := by
  simp only [printHeader]
  split
  · exact .echo _ shell
  · exact .refl shell

theorem printElapsed_steady (host : Host World) (start : Nat) (shell : Shell World Store) :
    Steady shell (printElapsed host start shell) := by
  rcases asked : shell.withWorld host.clock with ⟨now, after⟩
  have clocked := Steady.of_withWorld asked
  simp only [printElapsed, asked]
  split
  · exact clocked.trans (.printInfo _ after)
  · exact clocked

end Local

end QueryShell
