/-!
What the shell asks of the machine it runs on: files, child processes and the time. A host answers
from a state of its own, so that two equal questions may have different answers.
-/

namespace QueryShell

inductive ChildStream where
  | out
  | err
deriving DecidableEq, Repr

structure Chunk where
  stream : ChildStream
  bytes : ByteArray

inductive ExitStatus where
  | exited (code : Int)
  | signalled
deriving DecidableEq, Repr

/-- The run of a child process: what it wrote, in the order of arrival, before and after its end was
noticed, and how it ended, or why that could not be learned. -/
structure Child where
  beforeEnd : List Chunk := []
  status : Except String ExitStatus
  afterEnd : List Chunk := []

namespace Child

def chunks (child : Child) : List Chunk := child.beforeEnd ++ child.afterEnd

end Child

/-- The services of a machine with states of type `World`. Errors are given by their texts. -/
structure Host (World : Type) where
  pathExists : String → World → Bool × World
  isFile : String → World → Bool × World
  readText : String → World → Except String String × World
  makeDirectories : String → World → Except String Unit × World
  createFile : String → World → Except String Unit × World
  appendLine : String → String → World → Except String Unit × World
  flushFile : String → World → Except String Unit × World
  spawn : String → World → Except String Child × World
  clock : World → Nat × World

end QueryShell
