/-!
The failures a shell reports. Each belongs to a category, and the category decides the first words
of its message and the response code of the statement that met it.
-/

namespace QueryShell

inductive Failure where
  | usage (text : String)
  | query (text : String)
  | io (text : String)
  | server (code : Int) (text : String)
  | transport (text : String)
  | subprocess (text : String)
  | config (text : String)
  | internal (text : String)
deriving DecidableEq, Repr

namespace Failure

def transportCode : Int := -10002

def message : Failure → String
  | usage text => "Usage: " ++ text
  | query text => "Query error: " ++ text
  | io text => "I/O error: " ++ text
  | server _ text => "Server error: " ++ text
  | transport text => "Transport error: " ++ text
  | subprocess text => "Shell command error: " ++ text
  | config text => "Configuration error: " ++ text
  | internal text => "Internal error: " ++ text

def category : Failure → String
  | usage _ => "Usage Error"
  | query _ => "Query Error"
  | io _ => "I/O Error"
  | server .. => "Server Error"
  | transport _ => "Transport Error"
  | subprocess _ => "Shell Command Error"
  | config _ => "Configuration Error"
  | internal _ => "Internal Error"

def code : Failure → Int
  | server code _ => code
  | transport _ => transportCode
  | config _ => 2
  | _ => 1

end Failure

end QueryShell
