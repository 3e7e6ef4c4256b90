import QueryShell.Text.Blank
import QueryShell.Text.Case

/-!
The command that a statement stands for, told by its first word. What is no built-in command is a
query for the backend.
-/

namespace QueryShell

inductive Command where
  | quit
  | source (path : String)
  | shell (line : String)
  | list (kind : Option String) (values : List String)
  | query (statement : String)
deriving DecidableEq, Repr

namespace Command

open Text

def quitWords : List (List Char) := ["quit".toList, "exit".toList]

def ofTrimmed (text : List Char) : Command :=
  let (word, rest) := firstWord text
  if lower text ∈ quitWords then quit
  else if lower word = "source".toList then source (String.ofList rest)
  else match text with
    | '!' :: line => shell (String.ofList line)
    | _ =>
        if lower word = "list".toList then
          let arguments := (words rest).map String.ofList
          list arguments.head? arguments.tail
        else query (String.ofList text)

def ofStatement (statement : String) : Command := ofTrimmed (trim statement.toList)

end Command

end QueryShell
