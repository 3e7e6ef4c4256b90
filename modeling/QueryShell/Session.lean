import QueryShell.Failure
import QueryShell.Resource
import QueryShell.Sink
import QueryShell.Text.Blank
import Std.Data.TreeMap

/-!
The state of one shell session: its sinks, its variables, the references it holds and the choices
made when it was started.
-/

namespace QueryShell

inductive Mode where
  | local
  | remote (host : String) (port : Nat)
deriving DecidableEq, Repr

abbrev Variables := Std.TreeMap String String

namespace Variables

def printHeader : String := "cli.print.header"

def ignoreErrors : String := "cli.ignore.errors"

def samplingEnabled : String := "sampling.enabled"

def flag (name : String) (values : Variables) : Bool :=
  match values[name]? with
  | none => false
  | some value => (Text.trim value.toList).map Char.toLower = "true".toList

end Variables

structure Session where
  mode : Mode := .local
  out : Sink := {}
  err : Sink := {}
  verbose : Bool := false
  silent : Bool := false
  initFiles : List String := []
  execString : Option String := none
  fileName : Option String := none
  keySummaryFile : String := "_temp_key_summary.dat"
  resources : Resource.Holdings := {}
  «variables» : Variables := ∅
  initialVariables : Variables := ∅
  reported : List Failure := []

namespace Session

def withVariables (initial : Variables) (session : Session) : Session :=
  { session with «variables» := initial, initialVariables := initial }

def printLine (line : String) (session : Session) : Except String Unit × Session :=
  let (result, out) := session.out.writeLine line
  (result, { session with out := out })

def printError (line : String) (session : Session) : Session :=
  { session with err := (session.err.writeLine line).2 }

def printInfo (line : String) (session : Session) : Session :=
  if session.silent then session else session.printError line

def report (failure : Failure) (session : Session) : Session :=
  { session with reported := session.reported ++ [failure] }.printError failure.message

def setVariable (name value : String) (session : Session) : Session :=
  { session with «variables» := session.variables.insert name value }

def resetVariables (session : Session) : Session :=
  { session with «variables» := session.initialVariables }

def flag (name : String) (session : Session) : Bool := Variables.flag name session.variables

def printsHeader (session : Session) : Bool := session.flag Variables.printHeader

def ignoresErrors (session : Session) : Bool := session.flag Variables.ignoreErrors

def samples (session : Session) : Bool := session.flag Variables.samplingEnabled

end Session

end QueryShell
