import QueryShell.Host
import QueryShell.Text.Search

/-!
The lines that were entered interactively, oldest first. Lines that are empty or begin with white
space are left out, and so is a line that repeats the one before.
-/

namespace QueryShell.History

def isRemembered (line : String) : Bool :=
  match line.toList with
  | [] => false
  | first :: _ => !Text.isBlank first

def add (lines : List String) (line : String) : List String :=
  if isRemembered line && lines.getLast? ≠ some line then lines ++ [line] else lines

def capacity : Nat := 10000

variable {World : Type}

def appendAll (host : Host World) (path : String) (lines : List String) (world : World) : World :=
  lines.foldl (fun world line => (host.appendLine path line world).2) world

/-- Brings the lines entered to the history file, after those it has. Without a new line the file
stays as it is, and there is nowhere to report a failure. -/
def save (host : Host World) (path : String) (entered : List String) (world : World) : World :=
  let (old, world) := host.readText path world
  let before := match old with
    | .ok text => ((Text.lines text.toList).map String.ofList).filter isRemembered
    | .error _ => []
  let lines := entered.foldl add before
  if lines.length = before.length then world
  else match host.createFile path world with
    | (.error _, world) => world
    | (.ok (), world) =>
        let world := appendAll host path (lines.drop (lines.length - capacity)) world
        (host.flushFile path world).2

end QueryShell.History
