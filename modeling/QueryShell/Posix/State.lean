import QueryShell.Files.Tree
import QueryShell.Host
import QueryShell.Posix.Command
import QueryShell.Text.Utf8

/-!
The state of a command interpreter at work: files, variables, the output so far and where the
descriptors lead.
-/

namespace QueryShell.Posix

inductive Target where
  | stream (stream : ChildStream)
  | collector (level : Nat)
  | file (path : String)
  | nothing
deriving DecidableEq, Repr

abbrev Descriptors := List (Nat × Target)

def initialDescriptors : Descriptors := [(1, .stream .out), (2, .stream .err)]

structure State where
  tree : Files.Tree
  «variables» : List (String × String) := []
  status : Nat := 0
  output : List Chunk := []
  collected : List ByteArray := []
  input : ByteArray := .empty
  ended : Option ExitStatus := none

namespace State

def emitTo (target : Target) (bytes : ByteArray) (state : State) : State :=
  if bytes.isEmpty then state
  else match target with
    | .nothing => state
    | .stream stream =>
        match state.output with
        | chunk :: earlier =>
            if chunk.stream = stream then
              { state with output := { chunk with bytes := chunk.bytes ++ bytes } :: earlier }
            else { state with output := ⟨stream, bytes⟩ :: chunk :: earlier }
        | [] => { state with output := [⟨stream, bytes⟩] }
    | .collector level => { state with collected := state.collected.modify level (· ++ bytes) }
    | .file path =>
        match state.tree.append path bytes with
        | .ok tree => { state with tree := tree }
        | .error _ => { state with status := 1 }

def targetOf (descriptors : Descriptors) (number : Nat) : Target :=
  (descriptors.lookup number).getD .nothing

def emit (descriptors : Descriptors) (number : Nat) (bytes : ByteArray) (state : State) : State :=
  state.emitTo (targetOf descriptors number) bytes

def complain (descriptors : Descriptors) (message : String) (status : Nat) (state : State) :
    State :=
  let state := state.emit descriptors 2 ("sh: 1: " ++ message ++ "\n").toUTF8
  { state with status := status }

def withStatus (status : Nat) (state : State) : State := { state with status := status }

def finish (state : State) : State := { state with ended := some (.exited state.status) }

def valueOf (name : String) (state : State) : String :=
  if name = "?" then toString state.status
  else if name = "$" then "4242"
  else if name = "#" then "0"
  else if name = "0" then "sh"
  else if name = "PWD" then state.tree.currentPath
  else (state.variables.lookup name).getD ""

def isSet (name : String) (state : State) : Bool :=
  (state.variables.lookup name).isSome || !(state.valueOf name).isEmpty

def assign (name value : String) (state : State) : State :=
  { state with «variables» := (name, value) :: state.variables.filter fun (other, _) => other ≠ name }

end State

end QueryShell.Posix
