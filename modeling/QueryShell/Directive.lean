import QueryShell.Shell

/-!
Directives: the statements `set`, `reset`, `add` and `delete`, which the shell itself carries out in
local mode in place of the query engine.
-/

namespace QueryShell

inductive Directive where
  | set
  | reset
  | add
  | delete
deriving DecidableEq, Repr

namespace Directive

open Text

def word : Directive → String
  | set => "set"
  | reset => "reset"
  | add => "add"
  | delete => "delete"

def namesResource (arguments : List Char) : Bool :=
  match words arguments with
  | [] => true
  | first :: _ => (Resource.Kind.ofWord? first).isSome

/-- The directive that a first word and the text after it call. `add` and `delete` are claimed only
when a resource kind or nothing follows, so that other statements with these words reach the
engine. -/
def ofWords? (first arguments : List Char) : Option Directive :=
  let name := lower first
  if name = "set".toList then some set
  else if name = "reset".toList then some reset
  else if name = "add".toList && namesResource arguments then some add
  else if name = "delete".toList && namesResource arguments then some delete
  else none

def ofStatement? (statement : String) : Option (Directive × List Char) :=
  let (first, arguments) := firstWord statement.toList
  (ofWords? first arguments).map fun directive => (directive, arguments)

def resourceUsage (directive : Directive) : Failure :=
  .usage (directive.word ++ " [" ++ Resource.Kind.alternatives ++ "] <value> [<value>]*")

variable {World Store : Type}

def printAll (lines : List String) (shell : Shell World Store) : Int × Shell World Store :=
  match lines with
  | [] => (0, shell)
  | line :: rest =>
      match shell.printLine line with
      | (.ok (), shell) => printAll rest shell
      | (.error reason, shell) => shell.fail (.io reason)

def runSet (arguments : List Char) (shell : Shell World Store) : Int × Shell World Store :=
  let arguments := trim arguments
  if arguments.isEmpty then
    printAll (shell.session.variables.toList.map fun (name, value) => name ++ "=" ++ value) shell
  else if '=' ∈ arguments then
    let name := trim (arguments.takeWhile (· ≠ '='))
    let value := trim ((arguments.dropWhile (· ≠ '=')).drop 1)
    if name.isEmpty then shell.fail (.usage "set [<key>[=<value>]]")
    else
      (0, { shell with
        session := shell.session.setVariable (String.ofList name) (String.ofList value) })
  else
    let name := String.ofList arguments
    match shell.session.variables[name]? with
    | some value => printAll [name ++ "=" ++ value] shell
    | none => printAll [name ++ " is undefined"] shell

def addValues (host : Host World) (kind : Resource.Kind) (code : Int) (values : List String)
    (shell : Shell World Store) : Int × Shell World Store :=
  match values with
  | [] => (code, shell)
  | value :: rest =>
      match shell.withWorld (host.pathExists value) with
      | (false, shell) =>
          addValues host kind 1 rest (shell.report (.io (value ++ " does not exist")))
      | (true, shell) =>
          let (isNew, resources) := shell.session.resources.add kind value
          let shell := { shell with session := { shell.session with resources := resources } }
          addValues host kind code rest
            (if isNew then shell.printInfo ("Added resource: " ++ value) else shell)

def runAdd (host : Host World) (arguments : List Char) (shell : Shell World Store) :
    Int × Shell World Store :=
  match words arguments with
  | first :: value :: values =>
      match Resource.Kind.ofWord? first with
      | some kind => addValues host kind 0 ((value :: values).map String.ofList) shell
      | none => shell.fail (resourceUsage add)
  | _ => shell.fail (resourceUsage add)

def runDelete (arguments : List Char) (shell : Shell World Store) : Int × Shell World Store :=
  match words arguments with
  | [] => shell.fail (resourceUsage delete)
  | first :: values =>
      match Resource.Kind.ofWord? first with
      | some kind =>
          (0, { shell with session := { shell.session with
            resources := shell.session.resources.remove kind (values.map String.ofList) } })
      | none => shell.fail (resourceUsage delete)

def run (host : Host World) (directive : Directive) (arguments : List Char)
    (shell : Shell World Store) : Int × Shell World Store :=
  match directive with
  | set => runSet arguments shell
  | reset => (0, { shell with session := shell.session.resetVariables })
  | add => runAdd host arguments shell
  | delete => runDelete arguments shell

end Directive

end QueryShell
