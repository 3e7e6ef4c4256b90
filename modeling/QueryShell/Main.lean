import QueryShell.Machine
import QueryShell.Program

/-!
The command line of the shell. The shell works on a tree in memory. A file is read into it when the
shell first asks for it, the step that asked is then done again, and after every step the files that
it changed are written.
-/

namespace QueryShell.CommandLine

structure Desk where
  machine : Machine
  asked : List String := []

namespace Desk

def ask {Answer : Type} (paths : List String) (action : Machine → Answer × Machine)
    (desk : Desk) : Answer × Desk :=
  let (answer, machine) := action desk.machine
  (answer, { machine, asked := desk.asked ++ paths })

def host : Host Desk where
  pathExists path := ask [path] (Machine.host.pathExists path)
  isFile path := ask [path] (Machine.host.isFile path)
  readText path := ask [path] (Machine.host.readText path)
  makeDirectories path := ask [path] (Machine.host.makeDirectories path)
  createFile path := ask [path] (Machine.host.createFile path)
  appendLine path line := ask [path] (Machine.host.appendLine path line)
  flushFile path := ask [path] (Machine.host.flushFile path)
  spawn line := ask ((Text.words line.toList).map String.ofList) (Machine.host.spawn line)
  clock := ask [] Machine.host.clock

def services : Services Desk Unit Unit Unit where
  host := host
  openDatabase path := ask [path] fun machine =>
    let (result, machine) := machine.openDatabase path
    (result.map fun _ => (), machine)
  engine := .absent
  dialer _ := { dial := fun network => (.error .absent, network), pause := fun _ network => network }
  wire := .absent

def tree (desk : Desk) : Files.Tree := desk.machine.tree

def withTree (tree : Files.Tree) (desk : Desk) : Desk :=
  { desk with machine := { desk.machine with tree } }

end Desk

def pathOf (location : Files.Location) : String := "/" ++ "/".intercalate location

def entryOnDisk (path : String) : IO (Option Files.Entry) := do
  try
    return some (.file (← IO.FS.readBinFile path))
  catch _ =>
    try
      return if ← (← IO.FS.realPath path).isDir then some .directory else none
    catch _ => return none

def load (location : Files.Location) (tree : Files.Tree) : IO Files.Tree := do
  let places := ((List.range location.length).map fun count => location.take (count + 1)).filter
    fun place => (tree.entryAt? place).isNone
  places.foldlM (fun tree place => do
    match ← entryOnDisk (pathOf place) with
    | some entry => return tree.set place entry
    | none => return tree) tree

def save (before after : Files.Tree) : IO Unit := do
  for (place, entry) in after.entries do
    match before.entryAt? place, entry with
    | some (.file old), .file content =>
        if old.data != content.data then IO.FS.writeBinFile (pathOf place) content
    | _, .file content => IO.FS.writeBinFile (pathOf place) content
    | some .directory, .directory => pure ()
    | _, .directory => IO.FS.createDirAll (pathOf place)
    | _, _ => pure ()
  for (place, entry) in before.entries do
    match entry, after.entryAt? place with
    | .file _, none => IO.FS.removeFile (pathOf place)
    | _, _ => pure ()

partial def settle {Answer : Type} (action : Desk → Answer × Desk) (known : List String)
    (desk : Desk) : IO (Answer × Desk) := do
  let (answer, after) := action { desk with asked := [] }
  let unknown := (after.asked.filter fun path => !known.contains path).eraseDups
  if unknown.isEmpty then
    save desk.tree after.tree
    return (answer, after)
  else
    let tree ← unknown.foldlM (fun tree path => load (tree.locationOf path) tree) desk.tree
    settle action (known ++ unknown) (desk.withTree tree)

def print (stream : IO.FS.Stream) (start : Nat) (sink : Sink) : IO Unit := do
  stream.write (sink.written.extract start sink.written.size)
  stream.flush

abbrev DeskShell := AnyShell Desk Unit Unit

def printSession (before after : Session) : IO Unit := do
  print (← IO.getStdout) before.out.written.size after.out
  print (← IO.getStderr) before.err.written.size after.err

def readLine (input : IO.FS.Stream) : IO (Option (Except String String)) := do
  try
    let line ← input.getLine
    return if line.isEmpty then none else some (Interactive.lineOfBytes line.toUTF8.toList)
  catch _ => return some (.error "stream did not contain valid UTF-8")

partial def converse (waiting : Program.Waiting Desk Unit Unit Unit) (buffer : LineBuffer)
    (last : Int) (entered : List String) : IO (DeskShell × Interactive.Ended) := do
  let input ← IO.getStdin
  if ← input.isTty then
    let prompt := waiting.prompt
    (← IO.getStdout).putStr (if buffer.isPending then prompt.continuation else prompt.primary)
    (← IO.getStdout).flush
  match ← readLine input with
  | none => return (waiting.shell, ⟨.ok (.code last), entered⟩)
  | some (.error reason) =>
      return (waiting.shell, ⟨.error (Interactive.editorFailure reason), entered⟩)
  | some (.ok line) =>
      let entered := entered ++ [line]
      let feed (desk : Desk) : (Option Outcome × LineBuffer × DeskShell) × Desk :=
        let ((outcome, buffer), shell) := (waiting.shell.withWorld desk).act Desk.services
          fun platform shell =>
            let (outcome, buffer, shell) := Interactive.feed platform line buffer shell
            ((outcome, buffer), shell)
        ((outcome, buffer, shell), shell.world)
      let ((outcome, buffer, shell), desk) ← settle feed [] waiting.shell.world
      printSession waiting.shell.session shell.session
      let waiting := { waiting with shell := shell.withWorld desk }
      match outcome with
      | some (.exit code) => return (waiting.shell, ⟨.ok (.exit code), entered⟩)
      | some (.code code) => converse waiting buffer code entered
      | none => converse waiting buffer last entered

def variableNames : List String :=
  ["HOME", "QSH_HOME", "QSH_LOG_FILE", "QSH_LOCAL_DB", "XDG_STATE_HOME", "XDG_CONFIG_HOME",
   "TMPDIR", "PGHOST", "PGPORT", "PGDATABASE", "PGUSER", "PGPASSWORD"]

def environment : IO Environment :=
  variableNames.filterMapM fun name => do return (← IO.getEnv name).map fun value => (name, value)

def emptyDesk : IO Desk := do
  let current := Files.Tree.names (← IO.currentDir).toString |>.filter fun name => !name.isEmpty
  let tree : Files.Tree := { Files.Tree.fresh with current }
  return { machine := { tree := (tree.makeDirectories current).toOption.getD tree } }

def run (arguments : List String) : IO UInt32 := do
  let invocation : Program.Invocation := { arguments, environment := ← environment }
  let start (desk : Desk) : Program.Begun Desk Unit Unit Unit × Desk :=
    match Program.start Desk.services invocation desk () with
    | .ended ended => (.ended ended, ended.world)
    | .waiting waiting => (.waiting waiting, waiting.shell.world)
  let (begun, _) ← settle start [] (← emptyDesk)
  match begun with
  | .ended ended =>
      print (← IO.getStdout) 0 ended.out
      print (← IO.getStderr) 0 ended.err
      return UInt32.ofNat ended.status
  | .waiting waiting =>
      printSession {} waiting.shell.session
      let (shell, lines) ← converse waiting {} 0 []
      let conclude (desk : Desk) : Program.Ended Desk Unit Unit × Desk :=
        let ended := Program.conclude Desk.services
          { waiting with shell := shell.withWorld desk } lines
        (ended, ended.world)
      let (ended, _) ← settle conclude [] shell.world
      print (← IO.getStdout) shell.session.out.written.size ended.out
      print (← IO.getStderr) shell.session.err.written.size ended.err
      return UInt32.ofNat ended.status

end QueryShell.CommandLine

def main (arguments : List String) : IO UInt32 := QueryShell.CommandLine.run arguments
