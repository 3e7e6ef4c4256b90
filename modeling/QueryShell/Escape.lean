import QueryShell.Shell

/-!
The escape `!` to the system's command interpreter. The output of the child process is copied to the
sinks of the session while it runs, and completely before its end is reported.
-/

namespace QueryShell.Escape

variable {World Store : Type}

def readSize : Nat := 8192

def reads (bytes : ByteArray) : List ByteArray :=
  (List.range ((bytes.size + readSize - 1) / readSize)).map fun index =>
    bytes.extract (index * readSize) ((index + 1) * readSize)

def offer (pieces : List ByteArray) (sink : Sink) : Bool × Sink :=
  match pieces with
  | [] => (true, sink)
  | piece :: rest =>
      match sink.write piece with
      | (.ok (), sink) => offer rest sink
      | (.error _, sink) => (false, sink)

structure Copying where
  out : Bool := true
  err : Bool := true

/-- Copies chunks to the sinks. A copy ends at the first refusal; the other one goes on. -/
def copy (copying : Copying) (chunks : List Chunk) (session : Session) : Session :=
  match chunks with
  | [] => session
  | chunk :: rest =>
      match chunk.stream with
      | .out =>
          if copying.out then
            let (accepted, sink) := offer (reads chunk.bytes) session.out
            copy { copying with out := accepted } rest { session with out := sink }
          else copy copying rest session
      | .err =>
          if copying.err then
            let (accepted, sink) := offer (reads chunk.bytes) session.err
            copy { copying with err := accepted } rest { session with err := sink }
          else copy copying rest session

def settle (status : Except String ExitStatus) (shell : Shell World Store) :
    Int × Shell World Store :=
  match status with
  | .error reason => shell.fail (.subprocess ("Failed to wait for child: " ++ reason))
  | .ok .signalled => shell.fail (.subprocess "Command terminated by signal")
  | .ok (.exited code) =>
      if code = 0 then (0, shell)
      else
        (code, shell.report
          (.subprocess ("Command failed with exit code = " ++ toString code)))

def run (host : Host World) (line : String) (shell : Shell World Store) : Int × Shell World Store :=
  match shell.withWorld (host.spawn line) with
  | (.error reason, shell) =>
      shell.fail (.subprocess ("Failed to run '" ++ line ++ "': " ++ reason))
  | (.ok child, shell) =>
      settle child.status { shell with session := copy {} child.chunks shell.session }

end QueryShell.Escape
