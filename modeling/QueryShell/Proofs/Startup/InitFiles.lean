import QueryShell.Machine
import QueryShell.Program
import QueryShell.Proofs.Run.Iteration
import QueryShell.Proofs.Startup.Settings
import QueryShell.Scripted.Engine
import QueryShell.Scripted.Server

/-!
The init files of a session. They are run silently and in order, up to the first that does not end
with code 0, and the input of the program is only reached when all of them do.
-/

namespace QueryShell

open Session (Keeps)
open Shell (Steady)

namespace Run

variable {World Store : Type} {platform : Platform World Store} {shell final : Shell World Store}

/-- What the run of one file comes to. A file that cannot be read is reported and counts as code 1. -/
def initFile (platform : Platform World Store) (path : String) (shell : Shell World Store) :
    Outcome × Shell World Store :=
  match shell.withWorld (platform.host.readText path) with
  | (.ok content, shell) => text platform content shell
  | (.error reason, shell) => (.code 1, shell.report (.io (path ++ ": " ++ reason)))

def initEvents (platform : Platform World Store) (path : String) (shell : Shell World Store) :
    List (Event World Store) :=
  match shell.withWorld (platform.host.readText path) with
  | (.ok content, shell) => textTrace platform content shell
  | (.error _, _) => []

structure InitRun (World Store : Type) where
  path : String
  before : Shell World Store
  own : Outcome
  after : Shell World Store

inductive InitRuns (platform : Platform World Store) :
    Shell World Store → List (InitRun World Store) → Shell World Store → Prop
  | nil (shell : Shell World Store) : InitRuns platform shell [] shell
  | cons {runs final} (run : InitRun World Store)
      (ran : initFile platform run.path run.before = (run.own, run.after))
      (later : InitRuns platform run.after runs final) :
      InitRuns platform run.before (run :: runs) final

/-- Either every file was run and ended with code 0, or the last that was run is the first that did
not, and its code ends the shell. -/
def Decided (runs : List (InitRun World Store)) (later : List String) (outcome : Outcome) : Prop :=
  (later = [] ∧ (∀ run ∈ runs, run.own = .code 0) ∧ outcome = .code 0) ∨
    ∃ earlier last, runs = earlier ++ [last] ∧ (∀ run ∈ earlier, run.own = .code 0) ∧
      last.own ≠ .code 0 ∧ outcome = .exit last.own.status

theorem initFile_keeps (platform : Platform World Store) (path : String)
    (shell : Shell World Store) :
    Keeps shell.session (initFile platform path shell).2.session ∧
      ∀ event ∈ initEvents platform path shell,
        Keeps shell.session event.before.session ∧ Keeps shell.session event.after.session := by
  simp only [initFile, initEvents]
  rcases read : shell.withWorld (platform.host.readText path) with ⟨reason | content, after⟩
  · have reported := (Steady.of_withWorld read).trans (.report (.io (path ++ ": " ++ reason)) after)
    exact ⟨.of_steady reported.session, by simp⟩
  · have same : Keeps shell.session after.session := .of_steady (Steady.of_withWorld read).session
    obtain ⟨kept, events⟩ := (textTrace_linked platform content after).keeps
    refine ⟨same.trans kept, fun event member => ?_⟩
    exact ⟨same.trans (events event member).1, same.trans (events event member).2⟩

structure InitRun.Silent (platform : Platform World Store) (run : InitRun World Store) : Prop where
  before : run.before.session.silent = true
  after : run.after.session.silent = true
  events : ∀ event ∈ initEvents platform run.path run.before,
    event.before.session.silent = true ∧ event.after.session.silent = true

theorem InitRuns.silent {runs : List (InitRun World Store)}
    (linked : InitRuns platform shell runs final) (silent : shell.session.silent = true) :
    ∀ run ∈ runs, run.Silent platform := by
  induction linked with
  | nil => simp
  | cons run ran _ ih =>
      obtain ⟨kept, events⟩ := initFile_keeps platform run.path run.before
      rw [ran] at kept
      have after : run.after.session.silent = true := kept.silent.trans silent
      refine List.forall_mem_cons.mpr ⟨⟨silent, after, fun event member => ?_⟩, ih after⟩
      obtain ⟨before, behind⟩ := events event member
      exact ⟨before.silent.trans silent, behind.silent.trans silent⟩

theorem Decided.cases {runs : List (InitRun World Store)} {later : List String}
    {outcome : Outcome} (decided : Decided runs later outcome) :
    outcome = .code 0 ∨ ∃ code, outcome = .exit code := by
  rcases decided with ⟨-, -, all⟩ | ⟨_, last, -, -, -, stopped⟩
  · exact .inl all
  · exact .inr ⟨last.own.status, stopped⟩

end Run

namespace AnyShell

variable {World Network Database Server : Type}

def printError (message : String) : AnyShell World Database Server → AnyShell World Database Server
  | .local shell => .local { shell with session := shell.session.printError message }
  | .remote shell => .remote { shell with session := shell.session.printError message }

variable {services : Services World Network Database Server}
  {shell : AnyShell World Database Server}

end AnyShell

namespace Program

variable {World Network Database Server : Type}
  {services : Services World Network Database Server} {input : ByteArray}
  {session : Opened World Network Database Server} {ready : AnyShell World Database Server}

section Runs

end Runs

end Program

end QueryShell
