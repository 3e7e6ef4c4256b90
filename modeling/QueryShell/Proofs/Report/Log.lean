import QueryShell.Directive
import QueryShell.Escape
import QueryShell.Listing

/-!
What the parts of a shell report. Only a report adds to the log of failures, and each command that
the shell carries out itself reports something exactly when its code is not 0.
-/

namespace QueryShell

namespace Session

variable {session : Session}

@[simp] theorem reported_printLine (line : String) :
    (session.printLine line).2.reported = session.reported := rfl

@[simp] theorem reported_printInfo (line : String) :
    (session.printInfo line).reported = session.reported := by
  simp only [printInfo]
  split <;> rfl

@[simp] theorem reported_report (failure : Failure) :
    (session.report failure).reported = session.reported ++ [failure] := rfl

end Session

namespace Shell

variable {World Store : Type} {shell : Shell World Store}

@[simp] theorem reported_report (failure : Failure) :
    (shell.report failure).session.reported = shell.session.reported ++ [failure] := rfl

@[simp] theorem reported_printInfo (line : String) :
    (shell.printInfo line).session.reported = shell.session.reported :=
  Session.reported_printInfo line

@[simp] theorem reported_printLine (line : String) :
    (shell.printLine line).2.session.reported = shell.session.reported := rfl

@[simp] theorem reported_echo (line : String) :
    (shell.echo line).session.reported = shell.session.reported := rfl

theorem reported_of_printLine {line : String} {answer : Except String Unit}
    {after : Shell World Store} (printed : shell.printLine line = (answer, after)) :
    after.session.reported = shell.session.reported :=
  (congrArg (fun result => result.2.session.reported) printed).symm

theorem reported_of_withWorld {Answer : Type} {action : World → Answer × World} {answer : Answer}
    {after : Shell World Store} (asked : shell.withWorld action = (answer, after)) :
    after.session.reported = shell.session.reported :=
  (congrArg (fun result => result.2.session.reported) asked).symm

end Shell

variable {World Store : Type}

def Candid (before : Shell World Store) (result : Int × Shell World Store) : Prop :=
  ∃ failures, result.2.session.reported = before.session.reported ++ failures ∧
    (result.1 = 0 ↔ failures = [])

namespace Candid

variable {before shell : Shell World Store} {result : Int × Shell World Store}

theorem of_silent (same : shell.session.reported = before.session.reported) :
    Candid before (0, shell) :=
  ⟨[], by simpa using same, by simp⟩

theorem of_report {code : Int} {failure : Failure} (nonzero : code ≠ 0)
    (same : shell.session.reported = before.session.reported) :
    Candid before (code, shell.report failure) :=
  ⟨[failure], by simp [same], by simp [nonzero]⟩

theorem of_fail {failure : Failure} (nonzero : failure.code ≠ 0)
    (same : shell.session.reported = before.session.reported) :
    Candid before (shell.fail failure) :=
  of_report nonzero same

theorem of_same (candid : Candid shell result)
    (same : shell.session.reported = before.session.reported) : Candid before result := by
  obtain ⟨failures, reported, zero_iff⟩ := candid
  exact ⟨failures, by rw [reported, same], zero_iff⟩

end Candid

theorem Listing.run_candid (kind : Option String) (values : List String)
    (shell : Shell World Store) : Candid shell (Listing.run kind values shell) := by
  simp only [Listing.run]
  cases kind.bind fun word => Resource.Kind.ofWord? word.toList with
  | none => exact .of_fail (by simp [usage, Failure.code]) rfl
  | some kind =>
      dsimp only
      generalize "\n".intercalate _ = listed
      split
      · exact .of_silent rfl
      · split
        · rename_i printed
          exact .of_silent (Shell.reported_of_printLine printed)
        · rename_i printed
          exact .of_fail (by simp [Failure.code]) (Shell.reported_of_printLine printed)

namespace Escape

theorem reported_copy (copying : Copying) (chunks : List Chunk) (session : Session) :
    (copy copying chunks session).reported = session.reported := by
  induction chunks generalizing copying session with
  | nil => rfl
  | cons chunk rest ih =>
      simp only [copy]
      split
      · split
        · exact ih _ _
        · exact ih _ _
      · split
        · exact ih _ _
        · exact ih _ _

theorem settle_candid (status : Except String ExitStatus) (shell : Shell World Store) :
    Candid shell (settle status shell) := by
  rcases status with reason | code | _
  · exact .of_fail (by simp [Failure.code]) rfl
  · by_cases success : code = 0
    · simp only [settle, success]
      exact .of_silent rfl
    · simp only [settle, success]
      exact .of_report success rfl
  · exact .of_fail (by simp [Failure.code]) rfl

theorem run_candid (host : Host World) (line : String) (shell : Shell World Store) :
    Candid shell (run host line shell) := by
  simp only [run]
  split
  · rename_i spawned
    exact .of_fail (by simp [Failure.code]) (Shell.reported_of_withWorld spawned)
  · rename_i child after spawned
    have copied : (copy {} child.chunks after.session).reported = shell.session.reported := by
      rw [reported_copy, Shell.reported_of_withWorld spawned]
    exact (settle_candid child.status _).of_same copied

end Escape

namespace Directive

theorem printAll_candid (lines : List String) (shell : Shell World Store) :
    Candid shell (printAll lines shell) := by
  induction lines generalizing shell with
  | nil => exact .of_silent rfl
  | cons line rest ih =>
      simp only [printAll]
      split
      · rename_i after printed
        exact (ih after).of_same (Shell.reported_of_printLine printed)
      · rename_i printed
        exact .of_fail (by simp [Failure.code]) (Shell.reported_of_printLine printed)

theorem runSet_candid (arguments : List Char) (shell : Shell World Store) :
    Candid shell (runSet arguments shell) := by
  simp only [runSet]
  split
  · exact printAll_candid _ shell
  · split
    · split
      · exact .of_fail (by simp [Failure.code]) rfl
      · exact .of_silent rfl
    · split
      · exact printAll_candid _ shell
      · exact printAll_candid _ shell

theorem addValues_reported (host : Host World) (kind : Resource.Kind) (code : Int)
    (values : List String) (shell : Shell World Store) :
    ∃ failures,
      (addValues host kind code values shell).2.session.reported =
        shell.session.reported ++ failures ∧
      ((addValues host kind code values shell).1 = 0 ↔ code = 0 ∧ failures = []) := by
  induction values generalizing code shell with
  | nil => exact ⟨[], by simp [addValues], by simp [addValues]⟩
  | cons value rest ih =>
      simp only [addValues]
      split
      · rename_i after asked
        obtain ⟨failures, reported, zero_iff⟩ :=
          ih 1 (after.report (.io (value ++ " does not exist")))
        refine ⟨.io (value ++ " does not exist") :: failures, ?_, ?_⟩
        · rw [reported, Shell.reported_report, Shell.reported_of_withWorld asked]
          simp
        · rw [zero_iff]
          simp
      · rename_i after asked
        have same := Shell.reported_of_withWorld asked
        rcases after.session.resources.add kind value with ⟨isNew, resources⟩
        obtain ⟨failures, reported, zero_iff⟩ := ih code _
        refine ⟨failures, ?_, zero_iff⟩
        rw [reported]
        cases isNew with
        | false => simpa using same
        | true => simpa using same

theorem runAdd_candid (host : Host World) (arguments : List Char) (shell : Shell World Store) :
    Candid shell (runAdd host arguments shell) := by
  simp only [runAdd]
  split
  · split
    · obtain ⟨failures, reported, zero_iff⟩ := addValues_reported host _ 0 _ shell
      exact ⟨failures, reported, by simpa using zero_iff⟩
    · exact .of_fail (by simp [resourceUsage, Failure.code]) rfl
  · exact .of_fail (by simp [resourceUsage, Failure.code]) rfl

theorem runDelete_candid (arguments : List Char) (shell : Shell World Store) :
    Candid shell (runDelete arguments shell) := by
  simp only [runDelete]
  split
  · exact .of_fail (by simp [resourceUsage, Failure.code]) rfl
  · split
    · exact .of_silent rfl
    · exact .of_fail (by simp [resourceUsage, Failure.code]) rfl

theorem run_candid (host : Host World) (directive : Directive) (arguments : List Char)
    (shell : Shell World Store) : Candid shell (directive.run host arguments shell) := by
  cases directive with
  | set => exact runSet_candid arguments shell
  | reset => exact .of_silent rfl
  | add => exact runAdd_candid host arguments shell
  | delete => exact runDelete_candid arguments shell

end Directive

end QueryShell
