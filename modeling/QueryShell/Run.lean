import QueryShell.Run.Weight

/-!
Runs of whole texts: a text, a script file, the batch input of a session and its init files.
-/

namespace QueryShell

namespace Run

variable {World Store : Type}

def frames (platform : Platform World Store) (stack : List Frame) (shell : Shell World Store) :
    Outcome × Shell World Store :=
  match _step : advance platform stack shell with
  | (.ended outcome, shell) => (outcome, shell)
  | (.running next, shell) => frames platform next shell
termination_by weight stack
decreasing_by exact advance_smaller _step

/-- Runs the statements of a text. Unless errors are ignored, the first that fails ends the run with
its code; otherwise the code is that of the last statement. -/
def text (platform : Platform World Store) (text : String) (shell : Shell World Store) :
    Outcome × Shell World Store :=
  frames platform [Frame.ofText text] shell

def file (platform : Platform World Store) (path : String) (shell : Shell World Store) :
    Except Failure Outcome × Shell World Store :=
  match shell.withWorld (platform.host.readText path) with
  | (.error reason, shell) => (.error (.io (path ++ ": " ++ reason)), shell)
  | (.ok content, shell) =>
      let (outcome, shell) := text platform content shell
      (.ok outcome, shell)

def unreadableStatus : Int := 3

def batch (platform : Platform World Store) (shell : Shell World Store) :
    Option Outcome × Shell World Store :=
  match shell.session.execString, shell.session.fileName with
  | some content, _ =>
      let (outcome, shell) := text platform content shell
      (some outcome, shell)
  | none, none => (none, shell)
  | none, some path =>
      match shell.withWorld (platform.host.readText path) with
      | (.ok content, shell) =>
          let (outcome, shell) := text platform content shell
          (some outcome, shell)
      | (.error reason, shell) =>
          let message := "Could not open input file for reading. (" ++ reason ++ ")"
          (some (.exit unreadableStatus),
            { shell with session := shell.session.printError message })

def initFilesFrom (platform : Platform World Store) (paths : List String)
    (shell : Shell World Store) : Outcome × Shell World Store :=
  match paths with
  | [] => (.code 0, shell)
  | path :: rest =>
      match file platform path shell with
      | (.error failure, shell) => (.exit failure.code, shell.report failure)
      | (.ok (.code 0), shell) => initFilesFrom platform rest shell
      | (.ok outcome, shell) => (.exit outcome.status, shell)

def existing (host : Host World) (paths : List String) (shell : Shell World Store) :
    List String × Shell World Store :=
  match paths with
  | [] => ([], shell)
  | path :: rest =>
      let (found, shell) := shell.withWorld (host.pathExists path)
      let (others, shell) := existing host rest shell
      (if found then path :: others else others, shell)

/-- Runs the init files silently: those of the session, or else those that exist among the
`defaults`. -/
def initFiles (platform : Platform World Store) (defaults : List String)
    (shell : Shell World Store) : Outcome × Shell World Store :=
  let (paths, shell) :=
    if shell.session.initFiles.isEmpty then existing platform.host defaults shell
    else (shell.session.initFiles, shell)
  let silent := shell.session.silent
  let (outcome, shell) := initFilesFrom platform paths
    { shell with session := { shell.session with silent := true } }
  (outcome, { shell with session := { shell.session with silent := silent } })

end Run

end QueryShell
