import QueryShell.Command
import QueryShell.Escape
import QueryShell.Execution.Local
import QueryShell.Execution.Remote
import QueryShell.Listing
import QueryShell.Statement

/-!
The steps of a run. The statements of a text run one after the other; a `source` statement puts the
text of its file on top of a stack of frames. A failing statement ends its frame and every frame
below, unless errors are ignored at that moment.
-/

namespace QueryShell

inductive Outcome where
  | code (code : Int)
  | exit (code : Int)
deriving DecidableEq, Repr

namespace Outcome

def status : Outcome → Int
  | .code value => value
  | .exit value => value

end Outcome

structure Frame where
  unread : List (List Char)
  last : Int := 0
deriving DecidableEq, Repr

namespace Frame

def ofText (text : String) : Frame := { unread := Statement.fragments text.toList }

end Frame

namespace Run

variable {World Store : Type}

def maxDepth : Nat := 64

inductive Step where
  | done (code : Int)
  | exit (code : Int)
  | enter (text : String)
deriving DecidableEq, Repr

def loadSource (host : Host World) (path : String) (depth : Nat) (shell : Shell World Store) :
    Except Failure String × Shell World Store :=
  if maxDepth ≤ depth then
    (.error (.usage ("source nested deeper than " ++ toString maxDepth ++ " files at " ++ path)),
      shell)
  else match shell.withWorld (host.isFile path) with
    | (false, shell) => (.error (.io ("File: " ++ path ++ " is not a file.")), shell)
    | (true, shell) =>
        match shell.withWorld (host.readText path) with
        | (.ok text, shell) => (.ok text, shell)
        | (.error reason, shell) =>
            (.error (.io ("Failed processing file " ++ path ++ " " ++ reason)), shell)

def query (platform : Platform World Store) (statement : String) (shell : Shell World Store) :
    Int × Shell World Store :=
  match platform.backend with
  | .local engine => Local.execute platform.host engine statement shell
  | .remote server => Remote.executeOn server statement shell

def finished (result : Int × Shell World Store) : Step × Shell World Store :=
  (.done result.1, result.2)

def dispatch (platform : Platform World Store) (statement : String) (depth : Nat)
    (shell : Shell World Store) : Step × Shell World Store :=
  match Command.ofStatement statement with
  | .quit => (.exit 0, shell)
  | .source path =>
      match loadSource platform.host path depth shell with
      | (.ok text, shell) => (.enter text, shell)
      | (.error failure, shell) => finished (shell.fail failure)
  | .shell line => finished (Escape.run platform.host line shell)
  | .list kind values => finished (Listing.run kind values shell)
  | .query statement => finished (query platform statement shell)

/-- Records a code as the latest of the innermost frame. A failing code gives the frame up unless
errors are ignored, and is then the code of the `source` statement below. No frame is left once the
outermost is given up. -/
def settle (code : Int) (ignoresErrors : Bool) : List Frame → List Frame
  | [] => []
  | frame :: outer =>
      if code = 0 || ignoresErrors then { frame with last := code } :: outer
      else settle code ignoresErrors outer

inductive Progress where
  | running (frames : List Frame)
  | ended (outcome : Outcome)
deriving DecidableEq, Repr

def settled (code : Int) (ignoresErrors : Bool) (frames : List Frame) : Progress :=
  match settle code ignoresErrors frames with
  | [] => .ended (.code code)
  | frames => .running frames

def advance (platform : Platform World Store) (frames : List Frame) (shell : Shell World Store) :
    Progress × Shell World Store :=
  match frames with
  | [] => (.ended (.code 0), shell)
  | frame :: outer =>
      match Statement.next? frame.unread with
      | none =>
          if outer.isEmpty then (.ended (.code frame.last), shell)
          else (settled frame.last shell.session.ignoresErrors outer, shell)
      | some (statement, unread) =>
          let frames := { frame with unread := unread } :: outer
          match dispatch platform (String.ofList statement) frames.length shell with
          | (.exit code, shell) => (.ended (.exit code), shell)
          | (.enter text, shell) => (.running (Frame.ofText text :: frames), shell)
          | (.done code, shell) => (settled code shell.session.ignoresErrors frames, shell)

end Run

end QueryShell
