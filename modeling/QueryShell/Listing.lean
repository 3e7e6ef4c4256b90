import QueryShell.Shell

/-!
The `list` command.
-/

namespace QueryShell.Listing

variable {World Store : Type}

def usage : Failure := .usage ("list [" ++ Resource.Kind.alternatives ++ "] [<value> [<value>]*]")

def run (kind : Option String) (values : List String) (shell : Shell World Store) :
    Int × Shell World Store :=
  match kind.bind fun word => Resource.Kind.ofWord? word.toList with
  | none => shell.fail usage
  | some kind =>
      let filter := if values.isEmpty then none else some values
      let listed := "\n".intercalate (shell.session.resources.list kind filter)
      if listed.isEmpty then (0, shell)
      else match shell.printLine listed with
        | (.ok (), shell) => (0, shell)
        | (.error reason, shell) => shell.fail (.io reason)

end QueryShell.Listing
