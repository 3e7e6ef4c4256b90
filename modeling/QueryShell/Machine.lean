import QueryShell.Backend
import QueryShell.Posix.Interpreter

/-!
A machine in memory: its files are a tree, its command interpreter works on that tree, and its clock
stands still.
-/

namespace QueryShell

structure Machine where
  tree : Files.Tree := .fresh
  overfull : Bool := false

namespace Machine

open Files

def explain {Answer : Type} : Except FileError Answer → Except String Answer
  | .ok answer => .ok answer
  | .error error => .error error.message

def change (result : Except FileError Tree) (machine : Machine) : Except String Unit × Machine :=
  match result with
  | .ok tree => (.ok (), { machine with tree := tree })
  | .error error => (.error error.message, machine)

def isFullDevice (path : String) (machine : Machine) : Bool :=
  match machine.tree.find path with
  | .ok .fullDevice => true
  | _ => false

def host : Host Machine where
  pathExists path machine := (machine.tree.pathExists path, machine)
  isFile path machine := (machine.tree.isFile path, machine)
  readText path machine := (explain (machine.tree.readText path), machine)
  makeDirectories path machine :=
    machine.change (machine.tree.makeDirectories (machine.tree.locationOf path))
  createFile path machine :=
    machine.change (machine.tree.write path .empty) |> fun (result, machine) =>
      (result, { machine with overfull := false })
  appendLine path line machine :=
    if machine.isFullDevice path then (.ok (), { machine with overfull := true })
    else machine.change (machine.tree.append path (line ++ "\n").toUTF8)
  flushFile path machine :=
    if machine.isFullDevice path && machine.overfull then
      (.error FileError.noSpace.message, { machine with overfull := false })
    else (.ok (), machine)
  spawn line machine :=
    let (child, tree) := Posix.Interpreter.child line machine.tree
    (.ok child, { machine with tree := tree })
  clock machine := (0, machine)

def unopenedDatabase : String :=
  "error returned from database: (code: 14) unable to open database file"

def openDatabase (path : String) (machine : Machine) : Except String Unit × Machine :=
  if path.isEmpty || path = memoryDatabase then (.ok (), machine)
  else if machine.tree.pathExists path && !machine.tree.isDirectory path then (.ok (), machine)
  else match machine.change (machine.tree.write path .empty) with
    | (.ok (), machine) => (.ok (), machine)
    | (.error _, machine) => (.error unopenedDatabase, machine)

end Machine

end QueryShell
